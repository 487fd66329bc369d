import TemplateCompiler.Code.Levels
import TemplateCompiler.Scope.Usage

/-!
The occurrences in an expression: the names and undecided reads in it, from left to right, each with the
scopes inside the expression that it stands in. Anonymous functions and comprehensions are such scopes;
the defaults of parameters and the first iterable of a comprehension stand outside. A read of a component
property that generated code makes is one occurrence. Substitution replaces the undecided reads and
keeps all other occurrences.
-/

namespace TemplateCompiler.Code

open TemplateCompiler.Scope

inductive Atom where
  | name (id : String)
  | own (id : String)
  /-- A direct read of a component property. -/
  | read (property : String)
  | hole (site : Placeholder)
  /-- The target of an assignment expression. -/
  | store (id : String)
  deriving DecidableEq, Repr

/-- A scope inside an expression, with the names that it binds. -/
structure Inner where
  isFunction : Bool
  names : List String
  deriving DecidableEq, Repr

structure Occurrence where
  atom : Atom
  /-- The scopes around it, the innermost first. -/
  within : List Inner
  deriving DecidableEq, Repr

namespace Occurrence

def free (a : Atom) : Occurrence := ⟨a, []⟩

def under (scopes : List Inner) (o : Occurrence) : Occurrence := ⟨o.atom, o.within ++ scopes⟩

def hole? (o : Occurrence) : Option Placeholder :=
  match o.atom with
  | .hole site => some site
  | _ => none

/-- The name, for what a template is written with. -/
def name? (o : Occurrence) : Option String :=
  match o.atom with
  | .name id => some id
  | _ => none

/-- The name that an assignment expression binds in the function around the whole expression. -/
def stored? (o : Occurrence) : Option String :=
  match o.atom with
  | .store id => if o.within.any Inner.isFunction then none else some id
  | _ => none

@[simp] theorem under_nil (o : Occurrence) : o.under [] = o := by simp [under]

@[simp] theorem under_under (v w : List Inner) (o : Occurrence) :
    (o.under v).under w = o.under (v ++ w) := by simp [under]

@[simp] theorem atom_under (w : List Inner) (o : Occurrence) : (o.under w).atom = o.atom := rfl

@[simp] theorem hole?_under (w : List Inner) (o : Occurrence) : (o.under w).hole? = o.hole? := rfl

@[simp] theorem name?_under (w : List Inner) (o : Occurrence) : (o.under w).name? = o.name? := rfl

end Occurrence

/-- The names that assignment expressions bind in the function around. -/
def stored (os : List Occurrence) : List String := os.filterMap Occurrence.stored?

def holes (os : List Occurrence) : List Placeholder := os.filterMap Occurrence.hole?

@[simp] theorem holes_nil : holes [] = [] := rfl

@[simp] theorem holes_append (os ps : List Occurrence) : holes (os ++ ps) = holes os ++ holes ps :=
  List.filterMap_append

@[simp] theorem holes_map_under (w : List Inner) (os : List Occurrence) :
    holes (os.map (Occurrence.under w)) = holes os := by
  simp [holes, List.filterMap_map, Function.comp_def]

namespace Expr

/-- The expressions that a node is made of, from left to right. -/
def parts : Expr → List Expr
  | absent | name _ | own _ | placeholder _ | constant _ => []
  | member base _ => [base]
  | subscript base index => [base, index]
  | slice lower upper step => [lower, upper, step]
  | call callee args keywords => callee :: (args ++ keywords)
  | keyword _ value => [value]
  | starred value => [value]
  | unary _ operand => [operand]
  | binary _ left right => [left, right]
  | logical _ operands => operands
  | compare first _ rest => first :: rest
  | conditional test body orelse => [test, body, orelse]
  | lambda _ keywordDefaults defaults body => keywordDefaults ++ defaults ++ [body]
  | tuple items => items
  | list items => items
  | set items => items
  | dict keys values => keys ++ values
  | comprehension _ element clauses => element :: clauses
  | dictComprehension key value clauses => key :: value :: clauses
  | clause _ target iterable conditions => target :: iterable :: conditions
  | named _ value => [value]
  | await value => [value]
  | yield value => [value]
  | yieldFrom value => [value]
  | joined parts => parts
  | field value _ spec => [value, spec]

theorem induct {P : Expr → Prop} (step : ∀ e : Expr, (∀ x ∈ e.parts, P x) → P e) (e : Expr) :
    P e := by
  apply @Expr.rec P (fun es => ∀ x ∈ es, P x)
  case nil => simp
  case cons =>
    intro e es he hes x hx
    rcases List.mem_cons.mp hx with rfl | hx
    · exact he
    · exact hes x hx
  case absent | name | own | placeholder | constant =>
    intros
    exact step _ (by simp [parts])
  all_goals
    intros
    apply step
    intro x hx
    simp only [parts, List.mem_cons, List.mem_append, List.not_mem_nil, or_false] at hx
    grind

theorem inductDeep {P : Expr → Prop}
    (step : ∀ e : Expr, (∀ x ∈ e.parts, P x ∧ ∀ y ∈ x.parts, P y) → P e) (e : Expr) : P e := by
  have both : P e ∧ ∀ x ∈ e.parts, P x := by
    induction e using induct with
    | step e ih => exact ⟨step e ih, fun x hx => (ih x hx).1⟩
  exact both.1

mutual

def occurrences : Expr → List Occurrence
  | name id => [.free (.name id)]
  | own id => [.free (.own id)]
  | placeholder read => [.free (.hole read)]
  | absent | constant _ => []
  | member (own id) attr =>
    if id = componentName then [.free (.read attr)] else [.free (.own id)]
  | member base _ => base.occurrences
  | subscript base index => base.occurrences ++ index.occurrences
  | slice lower upper step => lower.occurrences ++ upper.occurrences ++ step.occurrences
  | call callee args keywords =>
    callee.occurrences ++ occurrencesAll args ++ occurrencesAll keywords
  | keyword _ value => value.occurrences
  | starred value => value.occurrences
  | unary _ operand => operand.occurrences
  | binary _ left right => left.occurrences ++ right.occurrences
  | logical _ operands => occurrencesAll operands
  | compare first _ rest => first.occurrences ++ occurrencesAll rest
  | conditional test body orelse => test.occurrences ++ body.occurrences ++ orelse.occurrences
  | lambda params keywordDefaults defaults body =>
    occurrencesAll keywordDefaults ++ occurrencesAll defaults ++
      body.occurrences.map (.under [⟨true, params.names ++ stored body.occurrences⟩])
  | tuple items => occurrencesAll items
  | list items => occurrencesAll items
  | set items => occurrencesAll items
  | dict keys values => occurrencesAll keys ++ occurrencesAll values
  | comprehension _ element clauses =>
    element.occurrences.map (.under [⟨false, clauseBinders clauses⟩]) ++
      clauseOccurrences [⟨false, clauseBinders clauses⟩] clauses
  | dictComprehension key value clauses =>
    key.occurrences.map (.under [⟨false, clauseBinders clauses⟩]) ++
      value.occurrences.map (.under [⟨false, clauseBinders clauses⟩]) ++
      clauseOccurrences [⟨false, clauseBinders clauses⟩] clauses
  | clause _ target iterable conditions =>
    target.occurrences ++ iterable.occurrences ++ occurrencesAll conditions
  | named target value => .free (.store target) :: value.occurrences
  | await value => value.occurrences
  | yield value => value.occurrences
  | yieldFrom value => value.occurrences
  | joined parts => occurrencesAll parts
  | field value _ spec => value.occurrences ++ spec.occurrences

def occurrencesAll : List Expr → List Occurrence
  | [] => []
  | e :: es => e.occurrences ++ occurrencesAll es

def clauseBinders : List Expr → List String
  | [] => []
  | clause _ target _ _ :: rest =>
    target.occurrences.filterMap Occurrence.name? ++ clauseBinders rest
  | _ :: rest => clauseBinders rest

def clauseOccurrences (scope : List Inner) : List Expr → List Occurrence
  | [] => []
  | clause _ target iterable conditions :: rest =>
    target.occurrences.map (.under scope) ++ iterable.occurrences ++
      (occurrencesAll conditions).map (.under scope) ++ (occurrencesAll rest).map (.under scope)
  | e :: rest => e.occurrences.map (.under scope) ++ (occurrencesAll rest).map (.under scope)

end

section

-- the equations of these functions are derived here, once for all lemmas below
attribute [local simp] parts substitute asWritten occurrences occurrencesAll clauseBinders
  clauseOccurrences

@[simp] theorem occurrencesAll_eq_flatMap (es : List Expr) :
    occurrencesAll es = es.flatMap occurrences := by
  induction es with
  | nil => simp
  | cons e es ih => simp [ih]

theorem occurrences_member {base : Expr} (attr : String) (h : ∀ id, base ≠ own id) :
    (member base attr).occurrences = base.occurrences := by
  rw [occurrences]
  exact h

end

/-- Neither a clause nor anything that could become one. -/
def IsNoClause (e : Expr) : Prop :=
  ∀ isAsync target iterable conditions, e ≠ clause isAsync target iterable conditions

theorem isNoClause_or (c : Expr) : c.IsNoClause ∨
    ∃ isAsync target iterable conditions, c = clause isAsync target iterable conditions := by
  cases c with
  | clause isAsync target iterable conditions => exact .inr ⟨_, _, _, _, rfl⟩
  | _ => exact .inl (by simp [IsNoClause])

theorem clauseBinders_cons {c : Expr} (h : c.IsNoClause) (cs : List Expr) :
    clauseBinders (c :: cs) = clauseBinders cs := by
  cases c with
  | clause isAsync target iterable conditions => exact absurd rfl (h _ _ _ _)
  | _ => rfl

theorem clauseOccurrences_cons {c : Expr} (h : c.IsNoClause) (scope : List Inner)
    (cs : List Expr) : clauseOccurrences scope (c :: cs) =
      c.occurrences.map (.under scope) ++ (occurrencesAll cs).map (.under scope) := by
  cases c with
  | clause isAsync target iterable conditions => exact absurd rfl (h _ _ _ _)
  | _ => rfl

end Expr

def Occurrence.replace (f : Placeholder → Expr) (o : Occurrence) : List Occurrence :=
  match o.atom with
  | .hole site => (f site).occurrences.map (.under o.within)
  | _ => [o]

theorem Occurrence.replace_of_hole?_none {f : Placeholder → Expr} {o : Occurrence}
    (h : o.hole? = none) : o.replace f = [o] := by
  obtain ⟨a, w⟩ := o
  cases a <;> simp_all [replace, hole?]

theorem Occurrence.replace_of_hole?_some {f : Placeholder → Expr} {o : Occurrence}
    {site : Placeholder} (h : o.hole? = some site) :
    o.replace f = (f site).occurrences.map (.under o.within) := by
  obtain ⟨a, w⟩ := o
  cases a <;> simp_all [replace, hole?]

theorem Occurrence.replace_under (f : Placeholder → Expr) (w : List Inner) (o : Occurrence) :
    (o.under w).replace f = (o.replace f).map (.under w) := by
  obtain ⟨a, v⟩ := o
  cases a <;> simp [replace, under, Function.comp_def]

namespace Expr

/-- Decisions are reads on the component or names of generated code, or leave things undecided. -/
def Decides (f : Placeholder → Expr) : Prop :=
  ∀ p, f p = placeholder p ∨ (∃ n, f p = componentMember n) ∨ ∃ id, id ≠ componentName ∧ f p = own id

section

variable {f : Placeholder → Expr}

theorem Decides.name? (hf : Decides f) (o : Occurrence) :
    (o.replace f).filterMap Occurrence.name? = o.name?.toList := by
  obtain ⟨a, w⟩ := o
  cases a with
  | hole site =>
    rcases hf site with h | ⟨n, h⟩ | ⟨id, -, h⟩ <;>
      simp [h, Occurrence.replace, occurrences, componentMember, Occurrence.free, Occurrence.under,
        Occurrence.name?]
  | _ => simp [Occurrence.replace, Occurrence.name?]

theorem Decides.member (hf : Decides f) (p : Placeholder) (attr : String) :
    (member (f p) attr).occurrences = (f p).occurrences := by
  rcases hf p with h | ⟨n, h⟩ | ⟨id, hid, h⟩ <;> simp [h, occurrences, componentMember]
  simp [hid]

theorem Decides.filterMap_name? (hf : Decides f) (os : List Occurrence) :
    (os.flatMap (Occurrence.replace f)).filterMap Occurrence.name? =
      os.filterMap Occurrence.name? := by
  induction os with
  | nil => rfl
  | cons o os ih =>
    rw [List.flatMap_cons, List.filterMap_append, hf.name?, ih]
    cases h : o.name? <;> simp [h]

theorem Decides.stored? (hf : Decides f) (o : Occurrence) :
    (o.replace f).filterMap Occurrence.stored? = o.stored?.toList := by
  obtain ⟨a, w⟩ := o
  cases a with
  | hole site =>
    rcases hf site with h | ⟨n, h⟩ | ⟨id, -, h⟩ <;>
      simp [h, Occurrence.replace, occurrences, componentMember, Occurrence.free, Occurrence.under,
        Occurrence.stored?]
  | _ => cases h : Occurrence.stored? _ <;> simp [Occurrence.replace, h]

theorem Decides.stored (hf : Decides f) (os : List Occurrence) :
    stored (os.flatMap (Occurrence.replace f)) = stored os := by
  induction os with
  | nil => rfl
  | cons o os ih =>
    unfold Code.stored at ih ⊢
    rw [List.flatMap_cons, List.filterMap_append, hf.stored?, ih]
    cases h : o.stored? <;> simp [h]

theorem flatMap_occurrences_substitute {es : List Expr}
    (h : ∀ e ∈ es, (e.substitute f).occurrences = e.occurrences.flatMap (Occurrence.replace f)) :
    (es.map (substitute f)).flatMap occurrences =
      (es.flatMap occurrences).flatMap (Occurrence.replace f) := by
  induction es with
  | nil => rfl
  | cons e es ih =>
    rw [List.map_cons, List.flatMap_cons, List.flatMap_cons, List.flatMap_append,
      h e List.mem_cons_self, ih fun x hx => h x (List.mem_cons_of_mem e hx)]

theorem flatMap_replace_under (w : List Inner) (os : List Occurrence) :
    (os.map (Occurrence.under w)).flatMap (Occurrence.replace f) =
      (os.flatMap (Occurrence.replace f)).map (Occurrence.under w) := by
  induction os with
  | nil => rfl
  | cons o os ih =>
    rw [List.map_cons, List.flatMap_cons, List.flatMap_cons, List.map_append, ih,
      Occurrence.replace_under]

def Follows (f : Placeholder → Expr) (e : Expr) : Prop :=
  (e.substitute f).occurrences = e.occurrences.flatMap (Occurrence.replace f)

theorem isNoClause_substitute (hf : Decides f) {c : Expr} (h : c.IsNoClause) :
    (c.substitute f).IsNoClause := by
  cases c with
  | clause isAsync target iterable conditions => exact absurd rfl (h _ _ _ _)
  | placeholder read =>
    intro a t i cs
    rcases hf read with e | ⟨n, e⟩ | ⟨id, -, e⟩ <;> simp [substitute, e, componentMember]
  | _ => simp [IsNoClause, substitute]

theorem clauseBinders_substitute (hf : Decides f) {cs : List Expr}
    (h : ∀ c ∈ cs, ∀ x ∈ c.parts, Follows f x) :
    clauseBinders (cs.map (substitute f)) = clauseBinders cs := by
  induction cs with
  | nil => rfl
  | cons c cs ih =>
    have rest := ih fun x hx => h x (List.mem_cons_of_mem c hx)
    rcases c.isNoClause_or with hc | ⟨isAsync, target, iterable, conditions, rfl⟩
    · rw [List.map_cons, clauseBinders_cons (isNoClause_substitute hf hc), clauseBinders_cons hc, rest]
    · have ht : Follows f target := h _ List.mem_cons_self target (by simp [parts])
      simp only [List.map_cons, substitute, clauseBinders, rest]
      rw [ht, hf.filterMap_name?]

theorem clauseOccurrences_substitute (hf : Decides f) (scope : List Inner) {cs : List Expr}
    (h : ∀ c ∈ cs, Follows f c ∧ ∀ x ∈ c.parts, Follows f x) :
    clauseOccurrences scope (cs.map (substitute f)) =
      (clauseOccurrences scope cs).flatMap (Occurrence.replace f) := by
  cases cs with
  | nil => rfl
  | cons c cs =>
    have rest := flatMap_occurrences_substitute fun x hx => (h x (List.mem_cons_of_mem c hx)).1
    rcases c.isNoClause_or with hc | ⟨isAsync, target, iterable, conditions, rfl⟩
    · have first : Follows f c := (h c List.mem_cons_self).1
      rw [List.map_cons, clauseOccurrences_cons (isNoClause_substitute hf hc),
        clauseOccurrences_cons hc, first]
      simp only [occurrencesAll_eq_flatMap, rest, List.flatMap_append, flatMap_replace_under]
    · have part := (h _ List.mem_cons_self).2
      have ht : Follows f target := part target (by simp [parts])
      have hi : Follows f iterable := part iterable (by simp [parts])
      have hcs : ∀ x ∈ conditions, Follows f x := fun x hx => part x (by simp [parts, hx])
      simp only [List.map_cons, substitute, clauseOccurrences, occurrencesAll_eq_flatMap,
        substituteAll_eq_map, List.flatMap_append, flatMap_replace_under, rest,
        flatMap_occurrences_substitute hcs]
      rw [ht, hi]

theorem occurrences_substitute (hf : Decides f) (e : Expr) : Follows f e := by
  induction e using inductDeep with
  | step e deep =>
    have ih : ∀ x ∈ e.parts, Follows f x := fun x hx => (deep x hx).1
    have all {es : List Expr} (h : es ⊆ e.parts) := flatMap_occurrences_substitute
      fun x hx => ih x (h hx)
    unfold Follows
    cases e with
    | member base attr =>
      have hb := ih base (by simp [parts])
      unfold Follows at hb
      cases base with
      | own id =>
        by_cases h : id = componentName <;>
          simp [substitute, occurrences, h, Occurrence.replace, Occurrence.free]
      | placeholder read =>
        rw [occurrences_member attr (by simp), ← hb]
        exact hf.member read attr
      | absent | constant value => rfl
      | _ => simpa [substitute, occurrences] using hb
    | name id | own id => simp [substitute, occurrences, Occurrence.replace, Occurrence.free]
    | placeholder read =>
      have same : (f read).occurrences.map (Occurrence.under []) = (f read).occurrences := by
        rw [List.map_congr_left fun o _ => Occurrence.under_nil o, List.map_id']
      simp [substitute, occurrences, Occurrence.replace, Occurrence.free, same]
    | absent | constant value => rfl
    | named target value =>
      have hv : Follows f value := ih value (by simp [parts])
      simp only [substitute, occurrences, List.flatMap_cons, Occurrence.replace, Occurrence.free]
      rw [hv]
      rfl
    | lambda params keywordDefaults defaults body =>
      have hb : Follows f body := ih body (by simp [parts])
      simp only [substitute, occurrences, occurrencesAll_eq_flatMap, substituteAll_eq_map,
        List.flatMap_append, flatMap_replace_under,
        all (show keywordDefaults ⊆ _ by simp [parts]), all (show defaults ⊆ _ by simp [parts])]
      rw [hb, hf.stored]
    | comprehension form element clauses =>
      have he : Follows f element := ih element (by simp [parts])
      have hcs : ∀ c ∈ clauses, Follows f c ∧ ∀ x ∈ c.parts, Follows f x :=
        fun c hc => deep c (by simp [parts, hc])
      simp only [substitute, occurrences, substituteAll_eq_map, List.flatMap_append,
        flatMap_replace_under, clauseBinders_substitute hf fun c hc => (hcs c hc).2,
        clauseOccurrences_substitute hf _ hcs]
      rw [he]
    | dictComprehension key value clauses =>
      have hk : Follows f key := ih key (by simp [parts])
      have hv : Follows f value := ih value (by simp [parts])
      have hcs : ∀ c ∈ clauses, Follows f c ∧ ∀ x ∈ c.parts, Follows f x :=
        fun c hc => deep c (by simp [parts, hc])
      simp only [substitute, occurrences, substituteAll_eq_map, List.flatMap_append,
        flatMap_replace_under, clauseBinders_substitute hf fun c hc => (hcs c hc).2,
        clauseOccurrences_substitute hf _ hcs]
      rw [hk, hv]
    | _ =>
      clear deep all
      simp only [parts, List.mem_cons, List.mem_append, List.not_mem_nil, or_false, Follows] at ih
      simp only [substitute, occurrences, occurrencesAll_eq_flatMap, substituteAll_eq_map,
        List.flatMap_append]
      grind [flatMap_occurrences_substitute]

end

/-- An expression as a template writes it, of plain names. -/
def Written (e : Expr) : Prop := e.asWritten = e

theorem written_asWritten (e : Expr) : e.asWritten.Written := by
  induction e using induct with
  | step e ih =>
    cases e with
    | absent | name id | own id | placeholder read | constant value => rfl
    | _ =>
      simp only [parts, List.mem_cons, List.mem_append, List.not_mem_nil, or_false, Written] at ih
      simp only [Written, asWritten, asWrittenAll_eq_map, List.map_map]
      grind [List.map_congr_left]

theorem Written.part {e x : Expr} (h : e.Written) (hx : x ∈ e.parts) : x.Written := by
  have all {es : List Expr} (h : es.map asWritten = es) : ∀ x ∈ es, x.asWritten = x :=
    List.map_inj_left.mp (h.trans (List.map_id es).symm)
  cases e <;> simp only [Written, asWritten, asWrittenAll_eq_map, parts] at h hx ⊢ <;> grind

theorem mem_clauseOccurrences {scope : List Inner} {cs : List Expr} {o : Occurrence}
    (h : o ∈ clauseOccurrences scope cs) : ∃ c ∈ cs, ∃ o' ∈ c.occurrences, o'.atom = o.atom := by
  cases cs with
  | nil => cases h
  | cons c cs =>
    have rest {os : List Occurrence} (h : o ∈ os.map (.under scope)) : ∃ o' ∈ os, o'.atom = o.atom := by
      obtain ⟨o', ho, rfl⟩ := List.mem_map.mp h
      exact ⟨o', ho, rfl⟩
    rcases c.isNoClause_or with hc | ⟨isAsync, target, iterable, conditions, rfl⟩
    · rw [clauseOccurrences_cons hc, List.mem_append] at h
      rcases h with h | h
      · exact ⟨c, List.mem_cons_self, rest h⟩
      · obtain ⟨o', ho, ha⟩ := rest h
        rw [occurrencesAll_eq_flatMap] at ho
        obtain ⟨d, hd, ho⟩ := List.mem_flatMap.mp ho
        exact ⟨d, List.mem_cons_of_mem c hd, o', ho, ha⟩
    · simp only [clauseOccurrences, List.mem_append, or_assoc] at h
      have here {o' : Occurrence} (ho : o' ∈ target.occurrences ∨ o' ∈ iterable.occurrences ∨
          o' ∈ occurrencesAll conditions) (ha : o'.atom = o.atom) :
          ∃ c ∈ clause isAsync target iterable conditions :: cs, ∃ o' ∈ c.occurrences,
            o'.atom = o.atom :=
        ⟨_, List.mem_cons_self, o', by simpa [occurrences] using ho, ha⟩
      rcases h with h | h | h | h
      · obtain ⟨o', ho, ha⟩ := rest h
        exact here (.inl ho) ha
      · exact here (.inr (.inl h)) rfl
      · obtain ⟨o', ho, ha⟩ := rest h
        exact here (.inr (.inr ho)) ha
      · obtain ⟨o', ho, ha⟩ := rest h
        rw [occurrencesAll_eq_flatMap] at ho
        obtain ⟨d, hd, ho⟩ := List.mem_flatMap.mp ho
        exact ⟨d, List.mem_cons_of_mem _ hd, o', ho, ha⟩

/-- Every occurrence in what a template writes is a plain name or the target of an assignment. -/
theorem Written.name {e : Expr} (h : e.Written) :
    ∀ o ∈ e.occurrences, ∃ id, o.atom = .name id ∨ o.atom = .store id := by
  induction e using induct with
  | step e ih =>
    have part : ∀ x ∈ e.parts, ∀ o ∈ x.occurrences, ∃ id, o.atom = .name id ∨ o.atom = .store id :=
      fun x hx => ih x hx (h.part hx)
    have moved {x : Expr} {w : List Inner} (hx : x ∈ e.parts) :
        ∀ o ∈ x.occurrences.map (Occurrence.under w),
          ∃ id, o.atom = .name id ∨ o.atom = .store id := by
      intro o ho
      obtain ⟨o', ho', rfl⟩ := List.mem_map.mp ho
      exact part x hx o' ho'
    have clauses {w : List Inner} {cs : List Expr} (hcs : cs ⊆ e.parts) :
        ∀ o ∈ clauseOccurrences w cs, ∃ id, o.atom = .name id ∨ o.atom = .store id := by
      intro o ho
      obtain ⟨c, hc, o', ho, ha⟩ := mem_clauseOccurrences ho
      exact ha ▸ part c (hcs hc) o' ho
    cases e with
    | name id => simp [occurrences, Occurrence.free]
    | own id => cases h
    | placeholder read => cases h
    | absent | constant value => simp [occurrences]
    | named target value =>
      intro o ho
      rcases List.mem_cons.mp ho with rfl | ho
      · exact ⟨target, .inr rfl⟩
      · exact part value (by simp [parts]) o ho
    | member base attr =>
      rw [occurrences_member attr]
      · exact part base (by simp [parts])
      · rintro id rfl
        cases h
    | lambda params keywordDefaults defaults body =>
      have hb := moved (w := [⟨true, params.names ++ stored body.occurrences⟩]) (show body ∈ _ by simp [parts])
      clear moved clauses
      simp only [parts, List.mem_append, List.mem_singleton] at part
      simp only [occurrences, occurrencesAll_eq_flatMap, List.mem_append, List.mem_flatMap]
      grind
    | comprehension form element cs =>
      have he := moved (w := [⟨false, clauseBinders cs⟩]) (show element ∈ _ by simp [parts])
      have hc := clauses (w := [⟨false, clauseBinders cs⟩]) (show cs ⊆ _ by simp [parts])
      simp only [occurrences, List.mem_append]
      grind
    | dictComprehension key value cs =>
      have hk := moved (w := [⟨false, clauseBinders cs⟩]) (show key ∈ _ by simp [parts])
      have hv := moved (w := [⟨false, clauseBinders cs⟩]) (show value ∈ _ by simp [parts])
      have hc := clauses (w := [⟨false, clauseBinders cs⟩]) (show cs ⊆ _ by simp [parts])
      simp only [occurrences, List.mem_append]
      grind
    | _ =>
      clear moved clauses
      simp only [parts, List.mem_cons, List.mem_append, List.not_mem_nil, or_false] at part
      simp only [occurrences, occurrencesAll_eq_flatMap, List.mem_append, List.mem_flatMap]
      grind

end Expr

end TemplateCompiler.Code
