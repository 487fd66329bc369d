import TemplateCompiler.Proofs.Code.Nodes
import TemplateCompiler.Scope.Binding

/-!
How binding goes through an expression. It takes the parts one after the other; some it leaves alone, each
other one it binds with the names that are local there. Only a name is not bound through its parts.
-/

namespace TemplateCompiler.Scope

open TemplateCompiler.Code

/-- An argument that a call leaves alone. -/
def isKeptArgument (locals : List String) : Expr → Bool
  | .keyword _ value => isKeptName locals value
  | e => isKeptName locals e

/-- The parts of an expression, each with the names that are local there, or with none if binding leaves
it alone. -/
def boundParts (locals : List String) : Expr → List (Expr × Option (List String))
  | .call callee args keywords =>
    (callee, if isKeptName locals callee then none else some locals) ::
      (args ++ keywords).map fun x => (x, if isKeptArgument locals x then none else some locals)
  | .lambda params keywordDefaults defaults body =>
    (keywordDefaults ++ defaults ++ [body]).map (·, some (locals ++ params.names))
  | .comprehension _ element clauses => (element :: clauses).map (·, some (locals ++ clauseNames clauses))
  | .dictComprehension key value clauses =>
    (key :: value :: clauses).map (·, some (locals ++ clauseNames clauses))
  | .clause _ target iterable conditions =>
    (target, none) :: (iterable :: conditions).map (·, some locals)
  | e => e.parts.map (·, some locals)

def bindPart (scope : Nat) (b : Expr × Option (List String)) (us : List Usage) : Expr × List Usage :=
  b.2.elim (b.1, us) fun locals => bind scope locals b.1 us

def bindThrough (scope : Nat) : List (Expr × Option (List String)) → List Usage → List Expr × List Usage
  | [], us => ([], us)
  | b :: rest, us =>
    let first := bindPart scope b us
    let later := bindThrough scope rest first.2
    (first.1 :: later.1, later.2)

section

variable {scope : Nat} {locals : List String}

theorem map_fst_boundParts (locals : List String) (e : Expr) : (boundParts locals e).map Prod.fst = e.parts := by
  cases e <;> simp [boundParts, Expr.parts, Function.comp_def]

theorem mem_parts_of_bound {e : Expr} {b : Expr × Option (List String)} (h : b ∈ boundParts locals e) :
    b.1 ∈ e.parts := map_fst_boundParts locals e ▸ List.mem_map_of_mem h

theorem mem_bindThrough {bs : List (Expr × Option (List String))} {us : List Usage} {x : Expr}
    (h : x ∈ (bindThrough scope bs us).1) : ∃ b ∈ bs, ∃ us', x = (bindPart scope b us').1 := by
  induction bs generalizing us with
  | nil => cases h
  | cons b bs ih =>
    rcases List.mem_cons.mp h with rfl | h
    · exact ⟨b, List.mem_cons_self, us, rfl⟩
    · obtain ⟨c, hc, rest⟩ := ih h
      exact ⟨c, List.mem_cons_of_mem b hc, rest⟩

theorem length_bindThrough (bs : List (Expr × Option (List String))) (us : List Usage) :
    (bindThrough scope bs us).1.length = bs.length := by
  induction bs generalizing us with
  | nil => rfl
  | cons b bs ih => simp [bindThrough, ih]

theorem length_boundParts (e : Expr) (us : List Usage) :
    (bindThrough scope (boundParts locals e) us).1.length = e.parts.length := by
  rw [length_bindThrough, ← map_fst_boundParts locals e, List.length_map]

theorem bindThrough_append (bs cs : List (Expr × Option (List String))) (us : List Usage) :
    bindThrough scope (bs ++ cs) us =
      let first := bindThrough scope bs us
      let later := bindThrough scope cs first.2
      (first.1 ++ later.1, later.2) := by
  induction bs generalizing us with
  | nil => rfl
  | cons b bs ih => simp only [List.cons_append, bindThrough, ih]

theorem bindAll_cons (e : Expr) (es : List Expr) (us : List Usage) :
    bindAll scope locals (e :: es) us =
      let first := bind scope locals e us
      let rest := bindAll scope locals es first.2
      (first.1 :: rest.1, rest.2) := rfl

theorem bindAll_eq (es : List Expr) (us : List Usage) :
    bindAll scope locals es us = bindThrough scope (es.map (·, some locals)) us := by
  induction es generalizing us with
  | nil => rfl
  | cons e es ih => exact congrArg (fun rest => (_ :: rest.1, rest.2)) (ih _)

theorem bindArguments_cons (e : Expr) (es : List Expr) (us : List Usage) :
    bindArguments scope locals (e :: es) us =
      let first := if isKeptArgument locals e then (e, us) else bind scope locals e us
      let rest := bindArguments scope locals es first.2
      (first.1 :: rest.1, rest.2) := by
  cases e with
  | keyword param value =>
    by_cases h : isKeptName locals value <;> simp only [bindArguments, isKeptArgument, h] <;> rfl
  | name id =>
    by_cases h : isKeptName locals (.name id) <;> simp only [bindArguments, isKeptArgument, h] <;> rfl
  | _ => rfl

theorem bindArguments_eq (es : List Expr) (us : List Usage) : bindArguments scope locals es us =
    bindThrough scope (es.map fun x => (x, if isKeptArgument locals x then none else some locals)) us := by
  induction es generalizing us with
  | nil => rfl
  | cons e es ih =>
    rw [bindArguments_cons, List.map_cons, bindThrough]
    by_cases h : isKeptArgument locals e <;> simp only [h, ih] <;> rfl

theorem bind_call (callee : Expr) (args keywords : List Expr) (us : List Usage) :
    bind scope locals (.call callee args keywords) us =
      let first := if isKeptName locals callee then (callee, us) else bind scope locals callee us
      let second := bindArguments scope locals args first.2
      let third := bindArguments scope locals keywords second.2
      (.call first.1 second.1 third.1, third.2) := by
  rw [bind]
  split <;> rfl

theorem bind_eq_fill {e : Expr} (other : ∀ id, e ≠ .name id) (us : List Usage) :
    bind scope locals e us = (e.fill (bindThrough scope (boundParts locals e) us).1,
      (bindThrough scope (boundParts locals e) us).2) := by
  cases e with
  | name id => exact absurd rfl (other id)
  | call callee args keywords =>
    rw [bind_call, boundParts, bindThrough, List.map_append, bindThrough_append]
    by_cases h : isKeptName locals callee <;>
      simp [h, bindPart, bindArguments_eq, Expr.fill, length_bindThrough]
  | logical op items | tuple items | list items | set items | joined items =>
    rw [boundParts, Expr.parts, ← bindAll_eq]
    all_goals first | rfl | simp
  | compare first ops rest | comprehension form element clauses | clause isAsync target iterable conditions
  | dictComprehension key value clauses =>
    simp only [boundParts, Expr.parts, List.map_cons, bindThrough, ← bindAll_eq]
    rfl
  | dict keys values =>
    have both : bind scope locals (.dict keys values) us =
        let ks := bindAll scope locals keys us
        let vs := bindAll scope locals values ks.2
        (.dict ks.1 vs.1, vs.2) := rfl
    simp [both, boundParts, Expr.parts, bindThrough_append, bindAll_eq, Expr.fill, length_bindThrough]
  | lambda params keywordDefaults defaults body =>
    have all : bind scope locals (.lambda params keywordDefaults defaults body) us =
        let ks := bindAll scope (locals ++ params.names) keywordDefaults us
        let ds := bindAll scope (locals ++ params.names) defaults ks.2
        let b := bind scope (locals ++ params.names) body ds.2
        (.lambda params ks.1 ds.1 b.1, b.2) := rfl
    simp [all, boundParts, bindThrough_append, bindThrough, bindPart, bindAll_eq, Expr.fill, length_bindThrough]
  | _ => rfl

end

end TemplateCompiler.Scope
