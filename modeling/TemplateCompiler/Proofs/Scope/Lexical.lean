import TemplateCompiler.Proofs.Scope.Recording

/-!
Binding and the scoping rules of the language. In an expression a name is bound by the parameters of an
anonymous function in its body, by the targets of a comprehension in all of it but its first iterable, and
by assignment expressions in the function around them. Binding looks only at the parameters and targets
that are listed around a name, and takes them for bound wherever they are listed: in the defaults of the
parameters too, in the first iterable, and in what a target reads itself. Where both agree, a name becomes
a property read exactly if it is free, not local and not a built-in name that a call takes directly.
-/

namespace TemplateCompiler.Code

open TemplateCompiler.Scope

/-- A place where an expression reads a name. -/
structure Use where
  id : String
  /-- Whether the name has become a recorded read. -/
  isRead : Bool
  /-- Whether a call has it as its callee or directly as an argument. -/
  isDirect : Bool
  /-- The names that are bound where it stands. -/
  bound : List String
  /-- The names in the parameters and targets of all functions and comprehensions around it. -/
  listed : List String
  deriving DecidableEq, Repr

namespace Use

def of (id : String) (isRead : Bool) : Use := ⟨id, isRead, false, [], []⟩

/-- The place inside of what binds and lists further names. -/
def inside (bound listed : List String) (u : Use) : Use :=
  { u with bound := u.bound ++ bound, listed := u.listed ++ listed }

def direct (u : Use) : Use := { u with isDirect := true }

end Use

namespace Expr

mutual

def targetNames : Expr → List String
  | name id => [id]
  | starred e => e.targetNames
  | tuple items => targetNamesAll items
  | list items => targetNamesAll items
  | _ => []

def targetNamesAll : List Expr → List String
  | [] => []
  | e :: es => e.targetNames ++ targetNamesAll es

end

def clauseTargets : List Expr → List String
  | [] => []
  | clause _ target _ _ :: rest => target.targetNames ++ clauseTargets rest
  | _ :: rest => clauseTargets rest

def isBare : Expr → Bool
  | name _ | placeholder _ => true
  | _ => false

def isBareArgument : Expr → Bool
  | keyword _ value => value.isBare
  | e => e.isBare

/-- The names that assignment expressions bind in the function around an expression. -/
def assigned (e : Expr) : List String := stored e.occurrences

mutual

/-- The places where an expression reads names, from left to right. -/
def uses : Expr → List Use
  | name id => [.of id false]
  | placeholder read => [.of read.property true]
  | absent | own _ | constant _ => []
  | member base _ => base.uses
  | subscript base index => base.uses ++ index.uses
  | slice lower upper step => lower.uses ++ upper.uses ++ step.uses
  | call callee args keywords =>
    (if callee.isBare then callee.uses.map .direct else callee.uses) ++
      argumentUses args ++ argumentUses keywords
  | keyword _ value => value.uses
  | starred value => value.uses
  | unary _ operand => operand.uses
  | binary _ left right => left.uses ++ right.uses
  | logical _ operands => usesAll operands
  | compare first _ rest => first.uses ++ usesAll rest
  | conditional test body orelse => test.uses ++ body.uses ++ orelse.uses
  | lambda params keywordDefaults defaults body =>
    (usesAll keywordDefaults).map (.inside [] params.names) ++
      (usesAll defaults).map (.inside [] params.names) ++
      body.uses.map (.inside (params.names ++ body.assigned) params.names)
  | tuple items => usesAll items
  | list items => usesAll items
  | set items => usesAll items
  | dict keys values => usesAll keys ++ usesAll values
  | comprehension _ element clauses =>
    element.uses.map (.inside (clauseTargets clauses) (clauseNames clauses)) ++
      clauseUses (clauseTargets clauses) (clauseNames clauses) clauses
  | dictComprehension key value clauses =>
    key.uses.map (.inside (clauseTargets clauses) (clauseNames clauses)) ++
      value.uses.map (.inside (clauseTargets clauses) (clauseNames clauses)) ++
      clauseUses (clauseTargets clauses) (clauseNames clauses) clauses
  | clause _ target iterable conditions =>
    (targetUses target).map (.inside [] target.names) ++ iterable.uses ++ usesAll conditions
  | named _ value => value.uses
  | await value => value.uses
  | yield value => value.uses
  | yieldFrom value => value.uses
  | joined parts => usesAll parts
  | field value _ spec => value.uses ++ spec.uses

def usesAll : List Expr → List Use
  | [] => []
  | e :: es => e.uses ++ usesAll es

def argumentUses : List Expr → List Use
  | [] => []
  | e :: es => (if e.isBareArgument then e.uses.map .direct else e.uses) ++ argumentUses es

/-- The names that a target reads: what it assigns to an attribute or an item of. -/
def targetUses : Expr → List Use
  | starred e => e.targetUses
  | tuple items => targetUsesAll items
  | list items => targetUsesAll items
  | member base _ => base.uses
  | subscript base index => base.uses ++ index.uses
  | _ => []

def targetUsesAll : List Expr → List Use
  | [] => []
  | e :: es => e.targetUses ++ targetUsesAll es

/-- The places in the clauses of a comprehension. Its first iterable stands outside of it. -/
def clauseUses (bound listed : List String) : List Expr → List Use
  | [] => []
  | clause _ target iterable conditions :: rest =>
    ((targetUses target).map (.inside [] target.names)).map (.inside bound listed) ++
      iterable.uses.map (.inside [] listed) ++ (usesAll conditions).map (.inside bound listed) ++
      (usesAll rest).map (.inside bound listed)
  | e :: rest => e.uses.map (.inside bound listed) ++ (usesAll rest).map (.inside bound listed)

end

/-- The places where an expression that stands alone reads names. -/
def reads (e : Expr) : List Use := e.uses.map (.inside e.assigned [])

section

-- the equations of these functions are derived here, once for all lemmas below
attribute [local simp] uses usesAll argumentUses targetUses targetUsesAll clauseUses targetNames
  targetNamesAll

@[simp] theorem usesAll_eq_flatMap (es : List Expr) : usesAll es = es.flatMap uses := by
  induction es with
  | nil => simp
  | cons e es ih => simp [ih]

@[simp] theorem targetUsesAll_eq_flatMap (es : List Expr) :
    targetUsesAll es = es.flatMap targetUses := by
  induction es with
  | nil => simp
  | cons e es ih => simp [ih]

def argumentUse (e : Expr) : List Use := if e.isBareArgument then e.uses.map .direct else e.uses

@[simp] theorem argumentUses_eq_flatMap (es : List Expr) :
    argumentUses es = es.flatMap argumentUse := by
  induction es with
  | nil => simp
  | cons e es ih => simp [ih, argumentUse]

theorem clauseUses_cons {c : Expr} (h : c.IsNoClause) (bound listed : List String) (cs : List Expr) :
    clauseUses bound listed (c :: cs) =
      c.uses.map (.inside bound listed) ++ (usesAll cs).map (.inside bound listed) := by
  cases c with
  | clause isAsync target iterable conditions => exact absurd rfl (h _ _ _ _)
  | _ =>
    rw [clauseUses]
    exact h

/-- What is read in a place of an expression, whether as part of it or of its targets. -/
def Reads (e : Expr) (id : String) (isRead : Bool) : Prop :=
  ∃ u, (u ∈ e.uses ∨ u ∈ e.targetUses) ∧ u.id = id ∧ u.isRead = isRead

theorem reads_clause {bound listed : List String} {cs : List Expr} {u : Use}
    (h : u ∈ clauseUses bound listed cs) : ∃ c ∈ cs, c.Reads u.id u.isRead := by
  have moved {us : List Use} {bound listed : List String} (h : u ∈ us.map (.inside bound listed)) :
      ∃ u' ∈ us, u'.id = u.id ∧ u'.isRead = u.isRead := by
    obtain ⟨u', hu, rfl⟩ := List.mem_map.mp h
    exact ⟨u', hu, rfl, rfl⟩
  have later {c : Expr} {cs : List Expr} (h : u ∈ (usesAll cs).map (.inside bound listed)) :
      ∃ d ∈ c :: cs, d.Reads u.id u.isRead := by
    obtain ⟨u', hu, same⟩ := moved h
    rw [usesAll_eq_flatMap] at hu
    obtain ⟨d, hd, hu⟩ := List.mem_flatMap.mp hu
    exact ⟨d, List.mem_cons_of_mem c hd, u', .inl hu, same⟩
  cases cs with
  | nil => simp at h
  | cons c cs =>
    rcases c.isNoClause_or with hc | ⟨isAsync, target, iterable, conditions, rfl⟩
    · rw [clauseUses_cons hc, List.mem_append] at h
      rcases h with h | h
      · obtain ⟨u', hu, same⟩ := moved h
        exact ⟨c, List.mem_cons_self, u', .inl hu, same⟩
      · exact later h
    · rw [clauseUses, List.mem_append, List.mem_append, List.mem_append] at h
      have here {u' : Use} (hu : u' ∈ (clause isAsync target iterable conditions).uses)
          (same : u'.id = u.id ∧ u'.isRead = u.isRead) : ∃ d ∈ clause isAsync target iterable conditions :: cs, d.Reads u.id u.isRead :=
        ⟨_, List.mem_cons_self, u', .inl hu, same⟩
      rcases h with ((h | h) | h) | h
      · obtain ⟨u', hu, same⟩ := moved h
        exact here (by rw [uses]; simp only [List.mem_append]; exact .inl (.inl hu)) same
      · obtain ⟨u', hu, same⟩ := moved h
        exact here (by rw [uses]; simp only [List.mem_append]; exact .inl (.inr hu)) same
      · obtain ⟨u', hu, same⟩ := moved h
        exact here (by rw [uses]; simp only [List.mem_append]; exact .inr hu) same
      · exact later h

theorem Reads.cases {e : Expr} {id : String} {isRead : Bool} (h : e.Reads id isRead) :
    (e = name id ∧ isRead = false) ∨ (∃ read, e = placeholder read) ∨ ∃ x ∈ e.parts, x.Reads id isRead := by
  obtain ⟨u, hu, rfl, rfl⟩ := h
  have all {es : List Expr} (h : u ∈ es.flatMap uses) : ∃ x ∈ es, x.Reads u.id u.isRead := by
    obtain ⟨x, hx, hu⟩ := List.mem_flatMap.mp h
    exact ⟨x, hx, u, .inl hu, rfl, rfl⟩
  cases e with
  | name id => simp_all [Use.of]
  | placeholder read => exact .inr (.inl ⟨read, rfl⟩)
  | absent | own id | constant value => simp at hu
  | comprehension form element clauses =>
    right; right
    simp only [uses, targetUses, List.mem_append, List.mem_map, List.not_mem_nil, or_false] at hu
    rcases hu with ⟨u', hu, rfl⟩ | hu
    · exact ⟨element, by simp [parts], u', .inl hu, rfl, rfl⟩
    · obtain ⟨c, hc, reads⟩ := reads_clause hu
      exact ⟨c, by simp [parts, hc], reads⟩
  | dictComprehension key value clauses =>
    right; right
    simp only [uses, targetUses, List.mem_append, List.mem_map, List.not_mem_nil, or_false] at hu
    rcases hu with (⟨u', hu, rfl⟩ | ⟨u', hu, rfl⟩) | hu
    · exact ⟨key, by simp [parts], u', .inl hu, rfl, rfl⟩
    · exact ⟨value, by simp [parts], u', .inl hu, rfl, rfl⟩
    · obtain ⟨c, hc, reads⟩ := reads_clause hu
      exact ⟨c, by simp [parts, hc], reads⟩
  | call callee args keywords =>
    right; right
    have directly {x : Expr} {bare : Bool} (h : u ∈ if bare then x.uses.map .direct else x.uses) :
        x.Reads u.id u.isRead := by
      split at h
      · obtain ⟨u', hu', rfl⟩ := List.mem_map.mp h
        exact ⟨u', .inl hu', rfl, rfl⟩
      · exact ⟨u, .inl h, rfl, rfl⟩
    simp only [uses, targetUses, argumentUses_eq_flatMap, List.mem_append, List.mem_flatMap,
      List.not_mem_nil, or_false] at hu
    rcases hu with (hu | ⟨x, hx, hu⟩) | ⟨x, hx, hu⟩
    · exact ⟨callee, by simp [parts], directly hu⟩
    · exact ⟨x, by simp [parts, hx], directly hu⟩
    · exact ⟨x, by simp [parts, hx], directly hu⟩
  | lambda params keywordDefaults defaults body =>
    right; right
    simp only [uses, targetUses, usesAll_eq_flatMap, List.mem_append, List.mem_map, List.mem_flatMap,
      List.not_mem_nil, or_false] at hu
    rcases hu with (⟨u', ⟨x, hx, hu⟩, rfl⟩ | ⟨u', ⟨x, hx, hu⟩, rfl⟩) | ⟨u', hu, rfl⟩
    · exact ⟨x, by simp [parts, hx], u', .inl hu, rfl, rfl⟩
    · exact ⟨x, by simp [parts, hx], u', .inl hu, rfl, rfl⟩
    · exact ⟨body, by simp [parts], u', .inl hu, rfl, rfl⟩
  | clause isAsync target iterable conditions =>
    right; right
    simp only [uses, targetUses, usesAll_eq_flatMap, List.mem_append, List.mem_map, List.mem_flatMap,
      List.not_mem_nil, or_false] at hu
    rcases hu with (⟨u', hu, rfl⟩ | hu) | ⟨x, hx, hu⟩
    · exact ⟨target, by simp [parts], u', .inr hu, rfl, rfl⟩
    · exact ⟨iterable, by simp [parts], u, .inl hu, rfl, rfl⟩
    · exact ⟨x, by simp [parts, hx], u, .inl hu, rfl, rfl⟩
  | _ =>
    simp only [uses, targetUses, usesAll_eq_flatMap, targetUsesAll_eq_flatMap, List.mem_append,
      List.mem_flatMap, List.not_mem_nil, or_false, or_self] at hu
    simp only [reduceCtorEq, exists_false, false_or, parts, List.mem_cons, List.mem_append,
      List.not_mem_nil, or_false]
    grind [Reads]

theorem names_part {e x : Expr} (hx : x ∈ e.parts) : x.names ⊆ e.names := by
  cases e <;> simp only [parts, List.mem_cons, List.mem_append, List.not_mem_nil, or_false] at hx <;>
    simp only [names, namesAll_eq_flatMap] <;> grind

/-- What an expression of a template reads is one of its names, and no recorded read yet. -/
theorem Reads.of_written {e : Expr} {id : String} {isRead : Bool} (he : e.Written)
    (h : e.Reads id isRead) : id ∈ e.names ∧ isRead = false := by
  induction e using induct with
  | step e ih =>
    rcases h.cases with ⟨rfl, rfl⟩ | ⟨read, rfl⟩ | ⟨x, hx, h⟩
    · simp [names]
    · cases he
    · exact (ih x hx (he.part hx) h).imp_left (names_part hx ·)

end

end Expr

end TemplateCompiler.Code

namespace TemplateCompiler.Scope

open TemplateCompiler.Code

/-- A name stays as it is if it is local, listed around it or a built-in name that a call takes
directly. -/
def Stays (locals : List String) (u : Use) : Prop :=
  u.id ∈ locals ∨ u.id ∈ u.listed ∨ u.isDirect ∧ u.id ∈ builtinNames

instance (locals : List String) (u : Use) : Decidable (Stays locals u) :=
  inferInstanceAs (Decidable (_ ∨ _))

def settle (locals : List String) (u : Use) : Use :=
  if Stays locals u then u else { u with isRead := true }

theorem stays_inside {locals bound listed : List String} {u : Use} :
    Stays locals (u.inside bound listed) ↔ Stays (locals ++ listed) u := by
  simp only [Stays, Use.inside, List.mem_append]
  tauto

theorem settle_inside (locals bound listed : List String) (u : Use) :
    settle locals (u.inside bound listed) = (settle (locals ++ listed) u).inside bound listed := by
  unfold settle
  by_cases h : Stays (locals ++ listed) u
  · rw [if_pos h, if_pos (stays_inside.mpr h)]
  · rw [if_neg h, if_neg (mt stays_inside.mp h)]
    rfl

theorem map_settle_inside (locals bound listed : List String) (us : List Use) :
    (us.map (.inside bound listed)).map (settle locals) =
      (us.map (settle (locals ++ listed))).map (.inside bound listed) := by
  rw [List.map_map, List.map_map]
  exact List.map_congr_left fun u _ => settle_inside locals bound listed u

theorem map_settle_listed {us : List Use} {names : List String} (h : ∀ u ∈ us, u.id ∈ names)
    (locals : List String) : (us.map (.inside [] names)).map (settle locals) = us.map (.inside [] names) := by
  rw [List.map_map]
  refine List.map_congr_left fun u hu => ?_
  have listed : u.id ∈ (u.inside [] names).listed := List.mem_append_right _ (h u hu)
  exact if_pos (.inr (.inl listed))

theorem targetUses_listed {target : Expr} (h : target.Written) :
    ∀ u ∈ target.targetUses, u.id ∈ target.names := fun u hu =>
  (Expr.Reads.of_written h ⟨u, .inr hu, rfl, rfl⟩).1

section

variable {scope : Nat} {locals : List String}

def Settles (scope : Nat) (locals : List String) (e : Expr) : Prop :=
  ∀ us, (bind scope locals e us).1.uses = e.uses.map (settle locals)

theorem uses_bindAll {es : List Expr} (h : ∀ e ∈ es, Settles scope locals e) (us : List Usage) :
    Expr.usesAll (bindAll scope locals es us).1 = (Expr.usesAll es).map (settle locals) := by
  induction es generalizing us with
  | nil => rfl
  | cons e es ih =>
    rw [bindAll_cons, Expr.usesAll, Expr.usesAll, List.map_append, h e List.mem_cons_self us,
      ih (fun x hx => h x (List.mem_cons_of_mem e hx))]

theorem isBare_bind (e : Expr) (us : List Usage) : (bind scope locals e us).1.isBare = e.isBare := by
  cases e with
  | name id =>
    rw [bind]
    split <;> rfl
  | _ =>
    rw [bind_eq_fill (by simp)]
    rfl

theorem isBareArgument_bind (e : Expr) (us : List Usage) :
    (bind scope locals e us).1.isBareArgument = e.isBareArgument := by
  cases e with
  | keyword param value => exact isBare_bind value us
  | name id =>
    rw [bind]
    split <;> rfl
  | _ =>
    rw [bind_eq_fill (by simp)]
    rfl

/-- What is directly in a call is settled like the rest, unless it is a built-in name. -/
theorem settle_direct {u : Use} (h : u.id ∈ builtinNames → Stays locals u) :
    settle locals u.direct = (settle locals u).direct := by
  have same : Stays locals u.direct ↔ Stays locals u := by
    refine ⟨fun stays => ?_, fun stays => ?_⟩
    · rcases stays with isLocal | listed | ⟨-, builtin⟩
      · exact .inl isLocal
      · exact .inr (.inl listed)
      · exact h builtin
    · rcases stays with isLocal | listed | ⟨-, builtin⟩
      · exact .inl isLocal
      · exact .inr (.inl listed)
      · exact .inr (.inr ⟨rfl, builtin⟩)
  unfold settle
  by_cases hs : Stays locals u
  · rw [if_pos hs, if_pos (same.mpr hs)]
  · rw [if_neg hs, if_neg (mt same.mp hs)]
    rfl

structure KeptIfBuiltin (locals : List String) (e : Expr) (kept : Bool) (id : String) : Prop where
  uses : e.uses = [.of id false]
  kept : kept = (builtinNames.contains id && !locals.contains id)

theorem uses_callPart {e : Expr} {bare kept : Bool} (h : Settles scope locals e)
    (named : bare → ∃ id, KeptIfBuiltin locals e kept id) (hk : kept → bare) (us : List Usage) :
    (if bare then (if kept then (e, us) else bind scope locals e us).1.uses.map .direct
      else (if kept then (e, us) else bind scope locals e us).1.uses) =
    (if bare then e.uses.map .direct else e.uses).map (settle locals) := by
  cases bare with
  | false =>
    obtain rfl : kept = false := Bool.eq_false_iff.mpr fun is => nomatch hk is
    exact h us
  | true =>
    obtain ⟨id, hu, keeps⟩ := named rfl
    cases kept with
    | true =>
      have builtin : id ∈ builtinNames := by
        have both := Bool.and_eq_true_iff.mp keeps.symm
        exact List.contains_iff_mem.mp both.1
      have stays : settle locals (Use.of id false).direct = (Use.of id false).direct :=
        if_pos (.inr (.inr ⟨rfl, builtin⟩))
      simp only [if_true, hu, List.map_singleton, stays]
    | false =>
      have isLocal (builtin : id ∈ builtinNames) : Stays locals (Use.of id false) := by
        refine .inl ?_
        have listed := List.contains_iff_mem.mpr builtin
        rw [listed, Bool.true_and, eq_comm, Bool.not_eq_false'] at keeps
        exact List.contains_iff_mem.mp keeps
      have settled : settle locals (Use.of id false).direct = (settle locals (Use.of id false)).direct :=
        settle_direct isLocal
      simp only [if_true, Bool.false_eq_true, if_false, h us, hu, List.map_singleton, settled]

theorem keptIfBuiltin {e : Expr} (he : e.Written) (bare : e.isBare) :
    ∃ id, KeptIfBuiltin locals e (isKeptName locals e) id := by
  cases e with
  | name id => exact ⟨id, by simp [Expr.uses], rfl⟩
  | placeholder read => cases he
  | _ => cases bare

theorem keptArgumentIfBuiltin {e : Expr} (he : e.Written) (bare : e.isBareArgument) :
    ∃ id, KeptIfBuiltin locals e (isKeptArgument locals e) id := by
  cases e with
  | keyword param value =>
    obtain ⟨id, kept⟩ : ∃ id, KeptIfBuiltin locals value (isKeptName locals value) id :=
      keptIfBuiltin (he.part (List.mem_singleton_self value)) bare
    exact ⟨id, by rw [Expr.uses, kept.uses], kept.kept⟩
  | _ => exact keptIfBuiltin he bare

theorem isBare_of_kept {e : Expr} (h : isKeptName locals e) : e.isBare := by
  cases e with
  | name id => rfl
  | _ => cases h

theorem isBareArgument_of_kept {e : Expr} (h : isKeptArgument locals e) : e.isBareArgument := by
  cases e with
  | keyword param value => exact isBare_of_kept (show isKeptName locals value from h)
  | name id => rfl
  | _ => cases h

theorem uses_bindArguments {es : List Expr} (hw : ∀ e ∈ es, e.Written)
    (h : ∀ e ∈ es, Settles scope locals e) (us : List Usage) :
    Expr.argumentUses (bindArguments scope locals es us).1 =
      (Expr.argumentUses es).map (settle locals) := by
  induction es generalizing us with
  | nil => rfl
  | cons e es ih =>
    have bareness : (if isKeptArgument locals e then (e, us) else bind scope locals e us).1.isBareArgument =
        e.isBareArgument := by
      split
      · rfl
      · exact isBareArgument_bind e us
    rw [bindArguments_cons, Expr.argumentUses, Expr.argumentUses, List.map_append,
      ih (fun x hx => hw x (List.mem_cons_of_mem e hx)) fun x hx => h x (List.mem_cons_of_mem e hx),
      bareness, uses_callPart (h e List.mem_cons_self) (keptArgumentIfBuiltin (hw e List.mem_cons_self))
        isBareArgument_of_kept us]

theorem clauseNames_cons {c : Expr} (h : c.IsNoClause) (cs : List Expr) :
    clauseNames (c :: cs) = clauseNames cs := by
  cases c with
  | clause isAsync target iterable conditions => exact absurd rfl (h _ _ _ _)
  | _ => rfl

theorem clauseTargets_cons {c : Expr} (h : c.IsNoClause) (cs : List Expr) :
    Expr.clauseTargets (c :: cs) = Expr.clauseTargets cs := by
  cases c with
  | clause isAsync target iterable conditions => exact absurd rfl (h _ _ _ _)
  | _ => rfl

theorem targets_bindAll (scope : Nat) (locals : List String) (cs : List Expr) (us : List Usage) :
    clauseNames (bindAll scope locals cs us).1 = clauseNames cs ∧
      Expr.clauseTargets (bindAll scope locals cs us).1 = Expr.clauseTargets cs := by
  induction cs generalizing us with
  | nil => exact ⟨rfl, rfl⟩
  | cons c cs ih =>
    rw [bindAll_cons]
    rcases c.isNoClause_or with hc | ⟨isAsync, target, iterable, conditions, rfl⟩
    · have hc' : (bind scope locals c us).1.IsNoClause := isNoClause_bind hc us
      rw [clauseNames_cons hc', clauseTargets_cons hc', clauseNames_cons hc, clauseTargets_cons hc]
      exact ih _
    · exact ⟨congrArg (_ ++ ·) (ih _).1, congrArg (_ ++ ·) (ih _).2⟩

theorem uses_clauses {cs : List Expr} (bound listed : List String) (hw : ∀ c ∈ cs, c.Written)
    (h : ∀ c ∈ cs, Settles scope (locals ++ listed) c ∧ ∀ x ∈ c.parts, Settles scope (locals ++ listed) x)
    (us : List Usage) :
    Expr.clauseUses bound listed (bindAll scope (locals ++ listed) cs us).1 =
      (Expr.clauseUses bound listed cs).map (settle locals) := by
  cases cs with
  | nil => rfl
  | cons c cs =>
    have rest (us : List Usage) : Expr.usesAll (bindAll scope (locals ++ listed) cs us).1 =
        (Expr.usesAll cs).map (settle (locals ++ listed)) :=
      uses_bindAll (fun x hx => (h x (List.mem_cons_of_mem c hx)).1) us
    rcases c.isNoClause_or with hc | ⟨isAsync, target, iterable, conditions, rfl⟩
    · rw [bindAll_cons, Expr.clauseUses_cons (isNoClause_bind hc us), Expr.clauseUses_cons hc,
        (h c List.mem_cons_self).1 us, rest, List.map_append, map_settle_inside, map_settle_inside]
    · have part := (h _ List.mem_cons_self).2
      have first := part iterable (by simp [Expr.parts])
      have inner : ∀ x ∈ conditions, Settles scope (locals ++ listed) x := fun x hx =>
        part x (by simp [Expr.parts, hx])
      have conds := uses_bindAll inner
      have ht : target.Written := (hw _ List.mem_cons_self).part (by simp [Expr.parts])
      have fixed := map_settle_listed (targetUses_listed ht) (locals ++ listed)
      have hb : (bindAll scope (locals ++ listed) (.clause isAsync target iterable conditions :: cs) us).1 =
          .clause isAsync target (bind scope (locals ++ listed) iterable us).1
            (bindAll scope (locals ++ listed) conditions (bind scope (locals ++ listed) iterable us).2).1 ::
          (bindAll scope (locals ++ listed) cs (bindAll scope (locals ++ listed) conditions
            (bind scope (locals ++ listed) iterable us).2).2).1 := rfl
      rw [hb, Expr.clauseUses, Expr.clauseUses, first, conds, rest]
      simp only [List.map_append, map_settle_inside, fixed]

end

theorem settles (scope : Nat) (locals : List String) {e : Expr} (he : e.Written) :
    Settles scope locals e := by
  induction e using Expr.inductDeep generalizing locals with
  | step e ih =>
    have part : ∀ {x} (locals : List String), x ∈ e.parts → Settles scope locals x :=
      fun locals hx => (ih _ hx).1 locals (he.part hx)
    have all : ∀ {xs} (locals : List String), xs ⊆ e.parts → ∀ us,
        Expr.usesAll (bindAll scope locals xs us).1 = (Expr.usesAll xs).map (settle locals) :=
      fun locals hxs => uses_bindAll fun x hx => part locals (hxs hx)
    have clauses : ∀ {cs} (locals bound listed : List String), cs ⊆ e.parts → ∀ us,
        Expr.clauseUses bound listed (bindAll scope (locals ++ listed) cs us).1 =
          (Expr.clauseUses bound listed cs).map (settle locals) :=
      fun locals bound listed hcs => uses_clauses bound listed (fun c hc => he.part (hcs hc)) fun c hc =>
        ⟨part _ (hcs hc), fun x hx => (ih c (hcs hc)).2 x hx _ ((he.part (hcs hc)).part hx)⟩
    cases e with
    | name id =>
      intro us
      by_cases h : locals.contains id
      · have hb : bind scope locals (.name id) us = (.name id, us) := by
          rw [bind, if_pos h]
          rfl
        have stays : settle locals (Use.of id false) = Use.of id false :=
          if_pos (.inl (List.contains_iff_mem.mp h))
        simp [hb, Expr.uses, stays]
      · have hb : bind scope locals (.name id) us =
            (.placeholder (recordRead scope id us).1, (recordRead scope id us).2) := by
          rw [bind, if_neg h]
          rfl
        have property : (recordRead scope id us).1.property = id := by
          unfold recordRead
          cases us.find? (·.property = id) <;> rfl
        have changes : settle locals (Use.of id false) = Use.of id true := by
          refine if_neg ?_
          rintro (isLocal | listed | ⟨direct, -⟩)
          · exact h (List.contains_iff_mem.mpr isLocal)
          · cases listed
          · cases direct
        simp [hb, Expr.uses, property, changes]
    | absent | own id | constant value => exact fun us => rfl
    | placeholder read => cases he
    | call callee args keywords =>
      intro us
      have arguments (es : List Expr) (h : es ⊆ args ++ keywords) (us : List Usage) :
          Expr.argumentUses (bindArguments scope locals es us).1 =
            (Expr.argumentUses es).map (settle locals) :=
        uses_bindArguments (fun x hx => he.part (List.mem_cons_of_mem callee (h hx)))
          (fun x hx => part locals (List.mem_cons_of_mem callee (h hx))) us
      have first := uses_callPart (part locals List.mem_cons_self)
        (keptIfBuiltin (he.part List.mem_cons_self)) isBare_of_kept us
      have bareness : (if isKeptName locals callee then (callee, us) else bind scope locals callee us).1.isBare =
          callee.isBare := by
        split
        · rfl
        · exact isBare_bind callee us
      rw [bind_call, Expr.uses, Expr.uses, List.map_append, List.map_append,
        arguments args (by simp), arguments keywords (by simp), bareness, first]
    | subscript base index | binary op base index | field base conversion index =>
      intro us
      have first := part locals (by simp [Expr.parts] : base ∈ _)
      have second := part locals (by simp [Expr.parts] : index ∈ _)
      rw [bind, Expr.uses, List.map_append, ← first us, ← second]
      rfl
    | member value attr | keyword param value | starred value | unary op value | await value | yield value
    | yieldFrom value | named target value =>
      intro us
      exact part locals (List.mem_singleton_self value) us
    | logical op items | tuple items | list items | set items | joined items =>
      exact all locals (List.Subset.refl _)
    | slice first second third | conditional first second third =>
      intro us
      have hfirst := part locals (by simp [Expr.parts] : first ∈ _)
      have hsecond := part locals (by simp [Expr.parts] : second ∈ _)
      have hthird := part locals (by simp [Expr.parts] : third ∈ _)
      rw [Expr.uses, List.map_append, List.map_append, ← hfirst us, ← hsecond, ← hthird]
      rfl
    | compare first ops rest =>
      intro us
      rw [Expr.uses, List.map_append, ← part locals (by simp [Expr.parts]) us,
        ← all locals (by simp [Expr.parts])]
      rfl
    | dict keys values =>
      intro us
      rw [Expr.uses, List.map_append, ← all locals (by simp [Expr.parts]) us,
        ← all locals (by simp [Expr.parts])]
      rfl
    | clause isAsync target iterable conditions =>
      intro us
      have ht : target.Written := he.part (by simp [Expr.parts])
      have fixed := map_settle_listed (targetUses_listed ht) locals
      rw [Expr.uses, List.map_append, List.map_append, fixed, ← part locals (by simp [Expr.parts]) us,
        ← all locals (by simp [Expr.parts])]
      rfl
    | lambda params keywordDefaults defaults body =>
      intro us
      have hb : body.Written := he.part (by simp [Expr.parts])
      have stored us : (bind scope (locals ++ params.names) body us).1.assigned = body.assigned :=
        (bindsExpr scope (locals ++ params.names) hb us).stored
      have keywords := all (locals ++ params.names) (by simp [Expr.parts] : keywordDefaults ⊆ _)
      have positional := all (locals ++ params.names) (by simp [Expr.parts] : defaults ⊆ _)
      have inner := part (locals ++ params.names) (by simp [Expr.parts] : body ∈ _)
      rw [Expr.uses, List.map_append, List.map_append, map_settle_inside, map_settle_inside,
        map_settle_inside, ← keywords us, ← positional, ← inner, ← stored]
      rfl
    | comprehension form element cs =>
      intro us
      have inner := part (locals ++ clauseNames cs) (by simp [Expr.parts] : element ∈ _)
      have outer := clauses locals (Expr.clauseTargets cs) (clauseNames cs)
        (by simp [Expr.parts] : cs ⊆ _)
      have same := targets_bindAll scope (locals ++ clauseNames cs) cs
        (bind scope (locals ++ clauseNames cs) element us).2
      have hb : (bind scope locals (.comprehension form element cs) us).1 =
          .comprehension form (bind scope (locals ++ clauseNames cs) element us).1
            (bindAll scope (locals ++ clauseNames cs) cs
              (bind scope (locals ++ clauseNames cs) element us).2).1 := rfl
      rw [hb, Expr.uses, Expr.uses, same.1, same.2, inner, outer, List.map_append, map_settle_inside]
    | dictComprehension key value cs =>
      intro us
      have first := part (locals ++ clauseNames cs) (by simp [Expr.parts] : key ∈ _)
      have second := part (locals ++ clauseNames cs) (by simp [Expr.parts] : value ∈ _)
      have outer := clauses locals (Expr.clauseTargets cs) (clauseNames cs)
        (by simp [Expr.parts] : cs ⊆ _)
      have hb : (bind scope locals (.dictComprehension key value cs) us).1 =
          .dictComprehension (bind scope (locals ++ clauseNames cs) key us).1
            (bind scope (locals ++ clauseNames cs) value
              (bind scope (locals ++ clauseNames cs) key us).2).1
            (bindAll scope (locals ++ clauseNames cs) cs
              (bind scope (locals ++ clauseNames cs) value
                (bind scope (locals ++ clauseNames cs) key us).2).2).1 := rfl
      have same us := targets_bindAll scope (locals ++ clauseNames cs) cs us
      rw [hb, Expr.uses, Expr.uses, (same _).1, (same _).2, first, second, outer, List.map_append,
        List.map_append, map_settle_inside, map_settle_inside]

/-- A name that is free where it stands, not local and no built-in name that a call takes directly. -/
def IsProperty (locals : List String) (u : Use) : Prop :=
  u.id ∉ u.bound ∧ u.id ∉ locals ∧ ¬(u.isDirect ∧ u.id ∈ builtinNames)

instance (locals : List String) (u : Use) : Decidable (IsProperty locals u) :=
  inferInstanceAs (Decidable (_ ∧ _))

theorem isRead_settle {locals : List String} {u : Use} (h : u.isRead = false) :
    (settle locals u).isRead ↔ ¬Stays locals u := by
  unfold settle
  by_cases hs : Stays locals u <;> simp [hs, h]

theorem reads_bind (scope : Nat) (locals : List String) {e : Expr} (he : e.Written) (us : List Usage) :
    (bind scope locals e us).1.reads = e.reads.map (settle locals) := by
  have stored : (bind scope locals e us).1.assigned = e.assigned := (bindsExpr scope locals he us).stored
  rw [Expr.reads, Expr.reads, map_settle_inside, List.append_nil, settles scope locals he us, stored]

theorem isRead_of_written {e : Expr} (he : e.Written) {u : Use} (hu : u ∈ e.reads) : u.isRead = false := by
  obtain ⟨v, hv, rfl⟩ := List.mem_map.mp hu
  exact (Expr.Reads.of_written he ⟨v, .inl hv, rfl, rfl⟩).2

/-- Binding settles every place of an expression: a name becomes a read exactly if it is not local, not
listed around it and no built-in name that a call takes directly. That are the free ones exactly where a
name is bound if it is listed, unless it is local or built in anyway. -/
theorem names_become_reads (scope : Nat) (locals : List String) (e : Expr) (us : List Usage) :
    (bind scope locals e.asWritten us).1.reads = e.asWritten.reads.map (settle locals) ∧
      ∀ u ∈ e.asWritten.reads, u.isRead = false ∧
        ((settle locals u).isRead ↔
          u.id ∉ locals ∧ u.id ∉ u.listed ∧ ¬(u.isDirect ∧ u.id ∈ builtinNames)) ∧
        (((settle locals u).isRead ↔ IsProperty locals u) ↔
          (u.id ∈ u.bound ↔ u.id ∈ u.listed) ∨ u.id ∈ locals ∨ u.isDirect ∧ u.id ∈ builtinNames) := by
  have he := e.written_asWritten
  refine ⟨reads_bind scope locals he us, fun u hu => ?_⟩
  have unread := isRead_of_written he hu
  have changes : (settle locals u).isRead ↔ ¬Stays locals u := isRead_settle unread
  refine ⟨unread, ?_, ?_⟩
  · rw [changes, Stays, not_or, not_or]
  · rw [changes, Stays, IsProperty]
    tauto

/-- The anonymous function `lambda x=x: x`, whose default is the property `x`. -/
def echoDefault : Expr :=
  .lambda { positionalOnly := [], positional := ["x"], rest := none, keywordOnly := [], keywordRest := none } []
    [.name "x"] (.name "x")

/-- The name in the default is free, but no read is made of it. -/
theorem echoDefault_not_read :
    ∃ u ∈ (bind 0 [] echoDefault.asWritten []).1.reads, IsProperty [] u ∧ u.isRead = false := by
  decide

end TemplateCompiler.Scope
