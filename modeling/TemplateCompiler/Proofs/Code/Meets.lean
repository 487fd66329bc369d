import TemplateCompiler.Proofs.Code.Calls
import TemplateCompiler.Proofs.Scope.Recording

/-!
What a run of an expression can meet. Running an expression looks up the names and reads in it, but those
inside anonymous functions, comprehensions and other parts that cannot be run are never reached. In an
expression of the template, the names that are met are loop names and built-in names; all others became
recorded reads.
-/

namespace TemplateCompiler.Code

open TemplateCompiler.Scope

namespace Expr

/-- What the expression is, if it is a name or a read. -/
def atom? : Expr → Option Atom
  | name id => some (.name id)
  | own id => some (.own id)
  | placeholder read => some (.hole read)
  | member (own id) attr => if id = componentName then some (.read attr) else Option.none
  | _ => Option.none

/-- Whether the parts of an expression are run with it. -/
def isRun : Expr → Bool
  | constant _ | member .. | subscript .. | call .. | keyword .. | starred _ | unary .. | binary ..
  | logical .. | compare .. | conditional .. | tuple _ | list _ | dict .. => true
  | _ => false

/-- All names and reads that a run can meet are as told. -/
inductive Meets (ok : Atom → Prop) : Expr → Prop
  | atom {e : Expr} {a : Atom} (is : e.atom? = some a) (h : ok a) : Meets ok e
  | parts {e : Expr} (no : e.atom? = Option.none) (each : e.isRun → ∀ x ∈ e.parts, Meets ok x) :
      Meets ok e

section

variable {ok other : Atom → Prop} {e : Expr}

theorem Meets.of_atom {a : Atom} (h : e.Meets ok) (is : e.atom? = some a) : ok a := by
  cases h with
  | atom is' h =>
    rw [is] at is'
    exact Option.some.inj is' ▸ h
  | parts no each => simp [is] at no

theorem Meets.part (h : e.Meets ok) (no : e.atom? = Option.none) (run : e.isRun) {x : Expr}
    (hx : x ∈ e.parts) : x.Meets ok := by
  cases h with
  | atom is h => simp [no] at is
  | parts no each => exact each run x hx

theorem Meets.of_parts (own : ∀ a, e.atom? = some a → ok a)
    (each : e.isRun → ∀ x ∈ e.parts, x.Meets ok) : e.Meets ok := by
  cases he : e.atom? with
  | some a => exact .atom he (own a he)
  | none => exact .parts he each

theorem Meets.mono (h : e.Meets ok) (weaker : ∀ a, ok a → other a) : e.Meets other := by
  induction h with
  | atom is h => exact .atom is (weaker _ h)
  | parts no each ih => exact .parts no ih

theorem Meets.and (h : e.Meets ok) (h' : e.Meets other) : e.Meets fun a => ok a ∧ other a := by
  induction h with
  | atom is h => exact .atom is ⟨h, h'.of_atom is⟩
  | parts no each ih => exact .parts no fun run x hx => ih run x hx (h'.part no run hx)

theorem meets_of_occurrences (h : ∀ o ∈ e.occurrences, ok o.atom) : e.Meets ok := by
  induction e using inductDeep with
  | step e deep =>
    cases he : e.atom? with
    | some a =>
      refine .atom he ?_
      cases e with
      | name id | own id | placeholder read =>
        cases he
        exact h _ (by simp [occurrences]; rfl)
      | member base attr =>
        cases base with
        | own id =>
          by_cases is : id = componentName
          · simp only [atom?, if_pos is, Option.some.injEq] at he
            subst he
            exact h _ (by simp [occurrences, is]; rfl)
          · simp [atom?, is] at he
        | _ => cases he
      | _ => cases he
    | none =>
      refine .parts he fun run x hx => (deep x hx).1 fun o ho => h o ?_
      cases e with
      | name id | own id | placeholder read => cases he
      | constant value => cases hx
      | member base attr =>
        obtain rfl := List.mem_singleton.mp hx
        cases x with
        | own id =>
          by_cases is : id = componentName
          · simp [atom?, is] at he
          · simpa [occurrences, is] using ho
        | absent | constant value => cases ho
        | _ => simpa [occurrences] using ho
      | subscript | call | keyword | starred | unary | binary | logical | compare | conditional
      | tuple | list | dict =>
        simp only [parts, List.mem_cons, List.mem_append, List.not_mem_nil, or_false] at hx
        simp only [occurrences, occurrencesAll_eq_flatMap, List.mem_append, List.mem_flatMap]
        grind
      | _ => exact absurd run Bool.false_ne_true

theorem Meets.substitute {f : Placeholder → Expr} (hf : Decides f) (h : e.Meets ok)
    (keeps : ∀ a, (∀ site, a ≠ .hole site) → ok a → other a)
    (decided : ∀ site, ok (.hole site) → (f site).Meets other) : (e.substitute f).Meets other := by
  induction h with
  | @atom e a is h =>
    cases e with
    | placeholder read =>
      cases is
      exact decided read h
    | name id | own id =>
      cases is
      exact .atom rfl (keeps _ (by simp) h)
    | member base attr =>
      cases base with
      | own id =>
        by_cases component : id = componentName
        · simp only [atom?, if_pos component, Option.some.injEq] at is
          subst is component
          exact .atom rfl (keeps _ (by simp) h)
        · simp [atom?, component] at is
      | _ => cases is
    | _ => cases is
  | @parts e no each ih =>
    have noHole : ∀ site, e ≠ placeholder site := by
      rintro site rfl
      cases no
    refine .parts ?_ ?_
    · cases e with
      | name id | own id | placeholder read => cases no
      | member base attr =>
        cases base with
        | own id => exact no
        | placeholder read =>
          rcases hf read with is | ⟨n, is⟩ | ⟨id, other, is⟩ <;>
            simp [Expr.substitute, atom?, componentMember, *]
        | _ => rfl
      | _ => rfl
    · rw [parts_substitute noHole]
      intro run x hx
      obtain ⟨y, hy, rfl⟩ := List.mem_map.mp hx
      refine ih ?_ y hy
      cases e with
      | placeholder read => exact absurd rfl (noHole read)
      | _ => exact run

end

end Expr

end TemplateCompiler.Code

namespace TemplateCompiler.Scope

open TemplateCompiler.Code

/-- The plain names that a run of a bound expression can meet. -/
def plainly (locals : List String) : Atom → Prop
  | .name id => id ∈ locals ∨ id ∈ builtinNames
  | _ => True

section

variable {scope : Nat} {locals : List String}

theorem meets_kept {e : Expr} (h : isKeptName locals e) : e.Meets (plainly locals) := by
  cases e with
  | name id =>
    simp only [isKeptName, Bool.and_eq_true, List.contains_iff_mem] at h
    exact .atom rfl (.inr h.1)
  | _ => cases h

theorem meets_keptArgument {e : Expr} (h : isKeptArgument locals e) : e.Meets (plainly locals) := by
  cases e with
  | keyword param value =>
    refine .parts rfl fun _ x hx => ?_
    obtain rfl := List.mem_singleton.mp hx
    exact meets_kept h
  | name id => exact meets_kept h
  | _ => cases h

/-- Parts that are run are bound with the same local names, but for what a call leaves alone. -/
theorem bound_of_run {e : Expr} (run : e.isRun) {b : Expr × Option (List String)}
    (h : b ∈ boundParts locals e) :
    b.2 = some locals ∨ b.2 = none ∧ b.1.Meets (plainly locals) := by
  cases e with
  | call callee args keywords =>
    rcases List.mem_cons.mp h with rfl | h
    · by_cases kept : isKeptName locals callee
      · exact .inr ⟨if_pos kept, meets_kept kept⟩
      · exact .inl (if_neg kept)
    · obtain ⟨x, -, rfl⟩ := List.mem_map.mp h
      by_cases kept : isKeptArgument locals x
      · exact .inr ⟨if_pos kept, meets_keptArgument kept⟩
      · exact .inl (if_neg kept)
  | lambda | comprehension | dictComprehension | clause => cases run
  | _ =>
    obtain ⟨x, -, rfl⟩ := List.mem_map.mp h
    exact .inl rfl

theorem meets_bind (scope : Nat) (locals : List String) (e : Expr) (us : List Usage) :
    (bind scope locals e us).1.Meets (plainly locals) := by
  induction e using Expr.induct generalizing us with
  | step e ih =>
    by_cases named : ∃ id, e = .name id
    · obtain ⟨id, rfl⟩ := named
      by_cases h : locals.contains id
      · rw [bind, if_pos h]
        exact .atom rfl (.inl (List.contains_iff_mem.mp h))
      · rw [bind, if_neg h]
        exact .atom rfl trivial
    · rw [bind_eq_fill fun id h => named ⟨id, h⟩]
      refine .of_parts (fun a is => ?_) fun run x hx => ?_
      · cases a with
        | name id =>
          cases e with
          | name id => exact absurd ⟨id, rfl⟩ named
          | member base attr =>
            unfold Expr.fill Expr.atom? at is
            split at is <;> simp_all
          | _ => cases is
        | _ => trivial
      · rw [Expr.parts_fill (length_boundParts e us)] at hx
        obtain ⟨b, hb, us', rfl⟩ := mem_bindThrough hx
        have isRun : e.isRun := by cases e <;> exact run
        have inside := ih b.1 (mem_parts_of_bound hb)
        rcases bound_of_run isRun hb with h | ⟨h, kept⟩
        · simpa [bindPart, h] using inside us'
        · simpa [bindPart, h] using kept

end

end TemplateCompiler.Scope
