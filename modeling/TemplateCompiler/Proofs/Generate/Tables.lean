import TemplateCompiler.Proofs.Generate.Captures

/-!
What the tables of the emitter hold. Starting from an empty emitter, a table has an entry exactly if an
event demands it, every entry is there once, and handlers are memoized under consecutive numbers.
-/

namespace TemplateCompiler

variable {α : Type} {t : Table α} {key : String} {value : α}

theorem Table.nodup_keys_insert (h : t.keys.Nodup) : (t.insert key value).keys.Nodup := by
  rw [Table.keys_insert]
  split
  · exact h
  · next new =>
    refine h.append (List.nodup_singleton key) ?_
    rwa [List.disjoint_singleton]

theorem Table.get?_eq_some_iff (h : t.keys.Nodup) : t.get? key = some value ↔ (key, value) ∈ t.entries := by
  refine ⟨Generate.mem_of_get?, fun hm => ?_⟩
  obtain ⟨es⟩ := t
  unfold Table.get?
  induction es with
  | nil => cases hm
  | cons e es ih =>
    rw [Table.keys, List.map_cons, List.nodup_cons] at h
    rw [List.lookup_cons]
    rcases List.mem_cons.mp hm with rfl | hm
    · simp
    · have other : key ≠ e.1 := fun is => h.1 (is ▸ List.mem_map_of_mem hm)
      rw [beq_false_of_ne other]
      exact ih h.2 hm

end TemplateCompiler

namespace TemplateCompiler.Generate

open TemplateCompiler.Code TemplateCompiler.Scope TemplateCompiler.Template

section Lists

variable {α : Type} [BEq α] [LawfulBEq α]

theorem mem_addNew_iff {xs : List α} {x y : α} : y ∈ Emit.addNew xs x ↔ y ∈ xs ∨ y = x := by
  unfold Emit.addNew
  split
  · next has =>
    refine ⟨.inl, fun h => h.elim id ?_⟩
    rintro rfl
    exact List.contains_iff_mem.mp has
  · simp

theorem nodup_addNew {xs : List α} (h : xs.Nodup) (x : α) : (Emit.addNew xs x).Nodup := by
  unfold Emit.addNew
  split
  · exact h
  · next new =>
    refine h.append (List.nodup_singleton x) ?_
    rw [List.disjoint_singleton]
    exact fun hm => new (List.contains_iff_mem.mpr hm)

end Lists

section Runs

variable {E F : Emitter} {es : List Event}

theorem Issues.holds_iff {P : Emitter → Prop} {D : Event → Prop}
    (step : ∀ {E e F}, Event.Enters E e F → (P F ↔ P E ∨ D e)) (h : Issues E es F) :
    P F ↔ P E ∨ ∃ e ∈ es, D e := by
  induction h with
  | nil E => simp
  | cons first rest ih =>
    rw [ih, step first]
    simp [or_assoc]

theorem Issues.keeps {P : Emitter → Prop} (step : ∀ {E e F}, Event.Enters E e F → P E → P F)
    (h : Issues E es F) (start : P E) : P F := by
  induction h with
  | nil E => exact start
  | cons first rest ih => exact ih (step first start)

end Runs

theorem slotName_eq (name : String) (E : Emitter) :
    (Emit.slotName name E).2 = { E with slots := (Emit.slotName name E).2.slots } := by
  unfold Emit.slotName
  split <;> rfl

theorem component_eq (reference : String) (E : Emitter) :
    (Emit.component reference E).2 =
      { E with components := (Emit.component reference E).2.components } := by
  unfold Emit.component
  split <;> rfl

namespace Event

def memo? : Event → Option Nat
  | handler _ _ memo => memo
  | _ => none

def Spelled : Event → Prop
  | slot _ id => ∃ k, id = slotLocalName k
  | component _ reference id => id = componentIdentifier reference
  | conditional helper | loop helper _ => IsHelperName helper
  | _ => True

variable {E F : Emitter} {e : Event}

theorem Enters.formed (h : Enters E e F) (formed : E.Formed) : F.Formed := by
  cases h with
  | call slot component => exact ⟨formed.1, formed.2, formed.3⟩
  | slot name =>
    have grown := (grows_slotName (C := fun _ => True) name E).formed formed
    exact ⟨grown.1, grown.2, grown.3⟩
  | component tag reference =>
    have grows : E.Grows (fun _ => True) (Emit.component reference E).2 := grows_component trivial E
    have grown := grows.formed formed
    exact ⟨grown.1, grown.2, grown.3⟩
  | sanitizer =>
    refine ⟨formed.1, formed.2, fun name hn => ?_⟩
    rcases mem_addNew_iff.mp hn with hn | rfl
    · exact formed.3 hn
    · exact List.mem_singleton_self _
  | bound h => exact ⟨formed.1, formed.2, formed.3⟩
  | memoized h => exact ⟨formed.1, formed.2, formed.3⟩
  | conditional h => exact formed
  | loop h l => cases l <;> exact ⟨formed.1, formed.2, formed.3⟩

theorem Enters.spelled (h : Enters E e F) (formed : E.Formed) : e.Spelled := by
  cases h with
  | slot name =>
    have noted := slotName_noted name E
    have listed : (Emit.slotName name E).1 ∈ (Emit.slotName name E).2.slots.values :=
      List.mem_map_of_mem (mem_of_get? noted)
    rw [((grows_slotName (C := fun _ => True) name E).formed formed).slots] at listed
    obtain ⟨k, -, is⟩ := List.mem_map.mp listed
    exact ⟨k, is.symm⟩
  | component tag reference =>
    have noted := component_noted reference E
    have grows : E.Grows (fun _ => True) (Emit.component reference E).2 := grows_component trivial E
    exact (grows.formed formed).components _ (mem_of_get? noted)
  | conditional h => exact h
  | loop h l => exact h
  | _ => trivial

theorem Enters.memo (h : Enters E e F) :
    (e.memo? = none ∧ F.memoCount = E.memoCount) ∨
      (e.memo? = some E.memoCount ∧ F.memoCount = E.memoCount + 1) := by
  cases h with
  | memoized h => exact .inr ⟨rfl, rfl⟩
  | slot name =>
    rw [slotName_eq]
    exact .inl ⟨rfl, rfl⟩
  | component tag reference =>
    rw [component_eq]
    exact .inl ⟨rfl, rfl⟩
  | loop h l => cases l <;> exact .inl ⟨rfl, rfl⟩
  | _ => exact .inl ⟨rfl, rfl⟩

def called? : Event → Option String
  | call p => some p.localName
  | slot .. => some Primitive.slot.localName
  | component .. => some Primitive.customElement.localName
  | sanitizer => some sanitizerName
  | handler .. => some Primitive.bind.localName
  | conditional helper => some helper
  | loop _ (.of _) => some namespaceTypeName
  | loop _ (.each _) => none

theorem count_call (e : Event) (id : String) :
    e.demands.count (.call id) = if e.called? = some id then 1 else 0 := by
  cases e with
  | handler locals value memo =>
    cases memo <;> simp [demands, called?, List.count_cons]
  | loop helper l =>
    cases l with
    | each f => simp [demands, loopDemands, called?]
    | of f => simp [demands, loopDemands_of, called?, List.count_cons, iteratorParts]
  | _ => simp [demands, called?, List.count_cons]

theorem call_mem_demands {id : String} : .call id ∈ e.demands ↔ e.called? = some id := by
  rw [← List.count_pos_iff, count_call]
  split <;> simp [*]

theorem slot_mem_demands {name : Constant} {id : String} :
    .slot name id ∈ e.demands ↔ ∃ text, e = .slot text id ∧ name = .str text := by
  cases e with
  | handler locals value memo => cases memo <;> simp [demands]
  | loop helper l =>
    cases l with
    | each f => simp [demands, loopDemands]
    | of f => simp [demands, loopDemands_of]
  | slot text own =>
    simp only [demands, List.mem_cons, Demand.slot.injEq, reduceCtorEq, List.not_mem_nil, or_false,
      slot.injEq]
    constructor
    · rintro ⟨rfl, rfl⟩
      exact ⟨text, ⟨rfl, rfl⟩, rfl⟩
    · rintro ⟨_, ⟨rfl, rfl⟩, rfl⟩
      exact ⟨rfl, rfl⟩
  | _ => simp [demands]

theorem component_mem_demands {tag : Constant} {id : String} : .component tag id ∈ e.demands ↔
    ∃ text reference, e = .component text reference id ∧ tag = .str text := by
  cases e with
  | handler locals value memo => cases memo <;> simp [demands]
  | loop helper l =>
    cases l with
    | each f => simp [demands, loopDemands]
    | of f => simp [demands, loopDemands_of]
  | component text reference own =>
    simp only [demands, List.mem_cons, Demand.component.injEq, reduceCtorEq, List.not_mem_nil, or_false,
      component.injEq]
    constructor
    · rintro ⟨rfl, rfl⟩
      exact ⟨text, reference, ⟨rfl, rfl, rfl⟩, rfl⟩
    · rintro ⟨_, _, ⟨rfl, rfl, rfl⟩, rfl⟩
      exact ⟨rfl, rfl⟩
  | _ => simp [demands]

theorem Enters.primitives (h : Enters E e F) (p : Primitive) :
    p ∈ F.primitives ↔ p ∈ E.primitives ∨ .call p.localName ∈ e.demands := by
  have same (q : Primitive) : some q.localName = some p.localName ↔ p = q := by
    rw [Option.some_inj]
    exact ⟨fun is => Primitive.localName_injective is.symm, fun is => congrArg _ is.symm⟩
  rw [call_mem_demands]
  cases h with
  | call slot component => rw [called?, same, mem_addNew_iff]
  | slot name => rw [called?, same, mem_addNew_iff, slotName_eq]
  | component tag reference => rw [called?, same, mem_addNew_iff, component_eq]
  | sanitizer =>
    have other : some sanitizerName ≠ some p.localName := by cases p <;> decide
    exact (or_iff_left other).symm
  | bound h => rw [called?, same, mem_addNew_iff]
  | memoized h => rw [called?, same, mem_addNew_iff]
  | @conditional helper h =>
    have other : some helper ≠ some p.localName := fun is =>
      h.not_plain (Option.some.inj is ▸ isPlainName_primitive p)
    exact (or_iff_left other).symm
  | loop h l =>
    have other : some namespaceTypeName ≠ some p.localName := by cases p <;> decide
    cases l with
    | each f => exact (or_iff_left nofun).symm
    | of f => exact (or_iff_left other).symm

theorem Enters.nodup_primitives (h : Enters E e F) (nodup : E.primitives.Nodup) :
    F.primitives.Nodup := by
  cases h with
  | call slot component => exact nodup_addNew nodup _
  | slot name =>
    rw [slotName_eq]
    exact nodup_addNew nodup _
  | component tag reference =>
    rw [component_eq]
    exact nodup_addNew nodup _
  | bound h => exact nodup_addNew nodup _
  | memoized h => exact nodup_addNew nodup _
  | loop h l => cases l <;> exact nodup
  | _ => exact nodup

theorem Enters.slots (h : Enters E e F) (name id : String) : F.slots.get? name = some id ↔
    E.slots.get? name = some id ∨ .slot (.str name) id ∈ e.demands := by
  rw [slot_mem_demands]
  cases h with
  | slot entered =>
    change (Emit.slotName entered E).2.slots.get? name = _ ↔ _
    simp only [slot.injEq, Constant.str_injective]
    unfold Emit.slotName
    cases found : E.slots.get? entered with
    | some old =>
      refine ⟨.inl, fun h => h.elim (fun is => is) ?_⟩
      rintro ⟨_, ⟨rfl, rfl⟩, rfl⟩
      exact found
    | none =>
      by_cases same : name = entered
      · subst same
        simp [found]
      · simp [same]
  | component tag reference =>
    rw [component_eq]
    exact (or_iff_left (by simp)).symm
  | loop h l => cases l <;> exact (or_iff_left (by simp)).symm
  | _ => exact (or_iff_left (by simp)).symm

theorem Enters.nodup_slots (h : Enters E e F) (nodup : E.slots.keys.Nodup) : F.slots.keys.Nodup := by
  cases h with
  | slot name =>
    change (Emit.slotName name E).2.slots.keys.Nodup
    unfold Emit.slotName
    split
    · exact nodup
    · exact Table.nodup_keys_insert nodup
  | component tag reference =>
    rw [component_eq]
    exact nodup
  | loop h l => cases l <;> exact nodup
  | _ => exact nodup

theorem Enters.components (h : Enters E e F) (reference : String) : reference ∈ F.components.keys ↔
    reference ∈ E.components.keys ∨ ∃ tag, e.request? = some (.component tag reference) := by
  cases h with
  | component tag entered =>
    change reference ∈ (Emit.component entered E).2.components.keys ↔ _
    have asked : (∃ tag', (Event.component tag entered (Emit.component entered E).1).request? =
        some (.component tag' reference)) ↔ reference = entered := by
      simp [request?, eq_comm]
    rw [asked]
    unfold Emit.component
    cases found : E.components.get? entered with
    | some old =>
      refine ⟨.inl, fun h => h.elim (fun is => is) ?_⟩
      rintro rfl
      exact List.mem_map_of_mem (mem_of_get? found)
    | none =>
      change reference ∈ (E.components.insert entered _).keys ↔ _
      rw [Table.keys_insert, if_neg (Table.get?_eq_none_iff.mp found), List.mem_append,
        List.mem_singleton]
  | slot name =>
    rw [slotName_eq]
    exact (or_iff_left (by simp [request?])).symm
  | loop h l => cases l <;> exact (or_iff_left (by simp [request?])).symm
  | _ => exact (or_iff_left (by simp [request?])).symm

theorem Enters.nodup_components (h : Enters E e F) (nodup : E.components.keys.Nodup) :
    F.components.keys.Nodup := by
  cases h with
  | component tag reference =>
    change (Emit.component reference E).2.components.keys.Nodup
    unfold Emit.component
    split
    · exact nodup
    · exact Table.nodup_keys_insert nodup
  | slot name =>
    rw [slotName_eq]
    exact nodup
  | loop h l => cases l <;> exact nodup
  | _ => exact nodup

theorem Enters.sanitizes (h : Enters E e F) : sanitizerName ∈ F.runtimeHelpers ↔
    sanitizerName ∈ E.runtimeHelpers ∨ .call sanitizerName ∈ e.demands := by
  have primitive (p : Primitive) : some p.localName ≠ some sanitizerName := by cases p <;> decide
  rw [call_mem_demands]
  cases h with
  | sanitizer => simp [called?, Emit.runtimeHelper, mem_addNew_iff]
  | slot name =>
    rw [slotName_eq]
    exact (or_iff_left (primitive _)).symm
  | component tag reference =>
    rw [component_eq]
    exact (or_iff_left (primitive _)).symm
  | @conditional helper h =>
    have other : some helper ≠ some sanitizerName := fun is =>
      h.not_plain (Option.some.inj is ▸ .inl (by decide))
    exact (or_iff_left other).symm
  | loop h l =>
    have other : some namespaceTypeName ≠ some sanitizerName := by decide
    cases l with
    | each f => exact (or_iff_left nofun).symm
    | of f => exact (or_iff_left other).symm
  | _ => exact (or_iff_left (primitive _)).symm

theorem Enters.nodup_runtimeHelpers (h : Enters E e F) (nodup : E.runtimeHelpers.Nodup) :
    F.runtimeHelpers.Nodup := by
  cases h with
  | sanitizer => exact nodup_addNew nodup _
  | slot name =>
    rw [slotName_eq]
    exact nodup
  | component tag reference =>
    rw [component_eq]
    exact nodup
  | loop h l => cases l <;> exact nodup
  | _ => exact nodup

theorem Enters.usesNamespace (h : Enters E e F) :
    F.usesNamespace ↔ E.usesNamespace ∨ .call namespaceTypeName ∈ e.demands := by
  have primitive (p : Primitive) : some p.localName ≠ some namespaceTypeName := by cases p <;> decide
  rw [call_mem_demands]
  cases h with
  | loop h l =>
    cases l with
    | each f => exact (or_iff_left nofun).symm
    | of f => exact ⟨fun _ => .inr rfl, fun _ => rfl⟩
  | slot name =>
    rw [slotName_eq]
    exact (or_iff_left (primitive _)).symm
  | component tag reference =>
    rw [component_eq]
    exact (or_iff_left (primitive _)).symm
  | @conditional helper h =>
    have other : some helper ≠ some namespaceTypeName := fun is =>
      h.not_plain (Option.some.inj is ▸ .inl (by decide))
    exact (or_iff_left other).symm
  | sanitizer =>
    have other : some sanitizerName ≠ some namespaceTypeName := by decide
    exact (or_iff_left other).symm
  | _ => exact (or_iff_left (primitive _)).symm

theorem memoName_injective {j k : Nat} (h : memoName j = memoName k) : j = k := by
  have lists := congrArg String.toList h
  simp only [toList_memoName, List.cons.injEq, true_and] at lists
  exact number_injective lists

theorem ne_memoName {name : String} (h : endsInDigit name = false) (k : Nat) : name ≠ memoName k := by
  rintro rfl
  rw [memoName, endsInDigit_number] at h
  cases h

theorem count_memoName {k : Nat} (spelled : e.Spelled)
    (references : ∀ tag reference, e.request? = some (.component tag reference) →
      isComponentReference reference) :
    e.demands.count (.name (memoName k)) = if e.memo? = some k then 1 else 0 := by
  have primitive (p : Primitive) : p.localName ≠ memoName k := ne_memoName (by cases p <;> decide) k
  have helperName {helper : String} (h : IsHelperName helper) : helper ≠ memoName k := by
    rintro rfl
    exact h.not_plain (isPlainName_memo k)
  cases e with
  | call p => simp [demands, memo?, primitive]
  | slot name id =>
    obtain ⟨j, rfl⟩ := spelled
    have other : slotLocalName j ≠ memoName k := by
      intro is
      have lists := congrArg String.toList is
      rw [toList_slotLocalName, toList_memoName] at lists
      simp at lists
    simp [demands, memo?, primitive, other]
  | component tag reference id =>
    obtain rfl : id = componentIdentifier reference := spelled
    have other : componentIdentifier reference ≠ memoName k := fun is =>
      (jointed_component (references tag reference rfl)).not_numbered (u := ['m']) (by decide)
        (is ▸ toList_memoName k)
    simp [demands, memo?, primitive, other]
  | sanitizer =>
    have other : sanitizerName ≠ memoName k := ne_memoName (by decide) k
    simp [demands, memo?, other]
  | handler locals value memo =>
    have context : contextName ≠ memoName k := ne_memoName (by decide) k
    cases memo with
    | none => simp [demands, memo?, primitive]
    | some j =>
      have same : memoName j = memoName k ↔ j = k := ⟨memoName_injective, congrArg memoName⟩
      simp [demands, memo?, primitive, context, List.count_cons, same]
  | conditional helper =>
    have test : testName ≠ memoName k := ne_memoName (by decide) k
    simp [demands, memo?, helperName spelled, test]
  | loop helper l =>
    cases l with
    | each f => simp [demands, memo?, loopDemands, helperName spelled]
    | of f =>
      have type : namespaceTypeName ≠ memoName k := ne_memoName (by decide) k
      have parts : ∀ part ∈ iteratorParts, partName f.iterator part ≠ memoName k := by
        intro part hp
        refine ne_memoName ?_ k
        simp only [iteratorParts, List.mem_cons, List.not_mem_nil, or_false] at hp
        rw [partName]
        rcases hp with rfl | rfl | rfl | rfl <;> rw [endsInDigit_append _ (by decide)] <;> decide
      rw [List.count_eq_zero.mpr]
      · simp [memo?]
      · simp only [demands, loopDemands_of, List.mem_cons, List.mem_map, Demand.name.injEq,
          reduceCtorEq, false_or, not_or, not_exists, not_and]
        exact ⟨fun is => helperName spelled is.symm, fun is => type is.symm, fun part hp => parts part hp⟩

theorem count_handler (e : Event) (k : Nat) :
    e.demands.count (.handler (memoName k) (.str (memoName k))) = if e.memo? = some k then 1 else 0 := by
  cases e with
  | handler locals value memo =>
    cases memo with
    | none => simp [demands, memo?]
    | some j =>
      have same : memoName j = memoName k ↔ j = k := ⟨memoName_injective, congrArg memoName⟩
      simp [demands, memo?, List.count_cons, same]
  | loop helper l =>
    cases l with
    | each f => simp [demands, memo?, loopDemands]
    | of f => simp [demands, memo?, loopDemands_of, iteratorParts]
  | _ => simp [demands, memo?]

end Event

namespace Issues

variable {E F : Emitter} {es : List Event}

theorem spelled (h : Issues E es F) (formed : E.Formed) : ∀ e ∈ es, e.Spelled := by
  induction h with
  | nil E => simp
  | cons first rest ih =>
    intro e he
    rcases List.mem_cons.mp he with rfl | he
    · exact first.spelled formed
    · exact ih (first.formed formed) e he

theorem primitives (h : Issues .empty es F) (p : Primitive) :
    p ∈ F.primitives ↔ .call p.localName ∈ es.flatMap Event.demands := by
  rw [h.holds_iff (P := fun E => p ∈ E.primitives) fun step => step.primitives p]
  simp [Emitter.empty]

theorem slots (h : Issues .empty es F) (name id : String) :
    (name, id) ∈ F.slots.entries ↔ .slot (.str name) id ∈ es.flatMap Event.demands := by
  have nodup : F.slots.keys.Nodup :=
    h.keeps (P := fun E => E.slots.keys.Nodup) (fun step => step.nodup_slots) List.nodup_nil
  rw [← Table.get?_eq_some_iff nodup,
    h.holds_iff (P := fun E => E.slots.get? name = some id) fun step => step.slots name id]
  simp [Emitter.empty]

theorem components (h : Issues .empty es F) (reference : String) : reference ∈ F.components.keys ↔
    ∃ tag, .component tag reference ∈ es.filterMap Event.request? := by
  rw [h.holds_iff (P := fun E => reference ∈ E.components.keys) fun step => step.components reference]
  simp only [Emitter.empty, Table.keys_empty, List.not_mem_nil, false_or, List.mem_filterMap]
  constructor
  · rintro ⟨e, he, tag, is⟩
    exact ⟨tag, e, he, is⟩
  · rintro ⟨tag, e, he, is⟩
    exact ⟨e, he, tag, is⟩

theorem sanitizes (h : Issues .empty es F) :
    sanitizerName ∈ F.runtimeHelpers ↔ .call sanitizerName ∈ es.flatMap Event.demands := by
  rw [h.holds_iff (P := fun E => sanitizerName ∈ E.runtimeHelpers) fun step => step.sanitizes]
  simp [Emitter.empty]

theorem usesNamespace (h : Issues .empty es F) :
    F.usesNamespace ↔ .call namespaceTypeName ∈ es.flatMap Event.demands := by
  rw [h.holds_iff (P := fun E => E.usesNamespace) fun step => step.usesNamespace]
  simp [Emitter.empty]

theorem memos (h : Issues E es F) : ∃ n, F.memoCount = E.memoCount + n ∧
    es.filterMap Event.memo? = List.range' E.memoCount n := by
  induction h with
  | nil E => exact ⟨0, rfl, rfl⟩
  | @cons E F G e es first rest ih =>
    obtain ⟨n, count, numbers⟩ := ih
    rcases first.memo with ⟨none, same⟩ | ⟨some, next⟩
    · exact ⟨n, by rw [count, same], by rw [List.filterMap_cons_none none, numbers, same]⟩
    · refine ⟨n + 1, by omega, ?_⟩
      rw [List.filterMap_cons_some some, numbers, next, List.range'_succ]

/-- What only the event that memoizes a handler under a number demands is demanded once for each number. -/
theorem count_memo (h : Issues .empty es F) {x : Demand} {k : Nat}
    (own : ∀ e ∈ es, e.demands.count x = if e.memo? = some k then 1 else 0) :
    (es.flatMap Event.demands).count x = if k < F.memoCount then 1 else 0 := by
  obtain ⟨n, count, numbers⟩ := h.memos
  have total : (es.flatMap Event.demands).count x = (es.filterMap Event.memo?).count k := by
    clear numbers h
    induction es with
    | nil => rfl
    | cons e es ih =>
      have rest := ih fun a ha => own a (List.mem_cons_of_mem e ha)
      rw [List.flatMap_cons, List.count_append, own e List.mem_cons_self, rest]
      cases memo : e.memo? with
      | none => simp [memo]
      | some j =>
        rw [List.filterMap_cons_some memo, List.count_cons]
        simp only [Option.some.injEq, beq_iff_eq]
        omega
  have nodup : (List.range' Emitter.empty.memoCount n).Nodup := List.nodup_range'
  rw [total, numbers, nodup.count]
  simp [count, Emitter.empty]

end Issues

section Calls

theorem countP_flatMap_le_count {α β : Type} [BEq β] {q : β → Bool} {c : β} {f : α → List β} {xs : List α}
    (h : ∀ x ∈ xs, (f x).countP q ≤ (f x).count c) : (xs.flatMap f).countP q ≤ (xs.flatMap f).count c := by
  induction xs with
  | nil => simp
  | cons x xs ih =>
    have first := h x List.mem_cons_self
    have rest := ih fun y hy => h y (List.mem_cons_of_mem x hy)
    rw [List.flatMap_cons, List.countP_append, List.count_append]
    omega

theorem countP_caller_le (p : Primitive) (e : Expr) :
    (demands e).countP (·.caller? = some p) ≤ (demands e).count (.call p.localName) := by
  refine countP_flatMap_le_count fun n _ => ?_
  cases n with
  | own id => simp [nodeDemands, Demand.caller?]
  | call callee args keywords =>
    cases callee with
    | own id =>
      obtain ⟨short, asked⟩ := argumentDemands_spec id args
      have few := List.countP_le_length (p := (·.caller? = some p)) (l := argumentDemands id args)
      change (Demand.call id :: argumentDemands id args).countP _ ≤
        (Demand.call id :: argumentDemands id args).count _
      rw [List.countP_cons_of_neg (by simp [Demand.caller?]), List.count_cons]
      by_cases is : id = p.localName
      · rw [if_pos (by simp [is])]
        omega
      · have none : (argumentDemands id args).countP (·.caller? = some p) = 0 := by
          refine List.countP_eq_zero.mpr fun x hx found => ?_
          obtain ⟨q, caller, named⟩ := asked x hx
          obtain rfl : q = p := Option.some.inj (caller.symm.trans (of_decide_eq_true found))
          exact is named
        omega
    | _ => simp [nodeDemands, callDemands]
  | logical op operands =>
    change (logicalDemands op operands).countP _ ≤ _
    rw [List.countP_eq_zero.mpr]
    · exact Nat.zero_le _
    · intro x hx
      obtain ⟨id, key, rfl⟩ := mem_logicalDemands hx
      simp [Demand.caller?]
  | _ => simp [nodeDemands]

theorem Event.Enters.count_caller {E F : Emitter} {e : Event} (h : e.Enters E F) {p : Primitive}
    (asks : p = .slot ∨ p = .customElement) :
    e.demands.countP (·.caller? = some p) = e.demands.count (.call p.localName) := by
  have same (q : Primitive) : some q.localName = some p.localName ↔ q = p := by
    rw [Option.some_inj]
    exact ⟨Primitive.localName_injective, congrArg _⟩
  rw [Event.count_call]
  cases h with
  | @call q slot component =>
    have other : q ≠ p := by rcases asks with rfl | rfl <;> assumption
    simp [Event.demands, Event.called?, Demand.caller?, same, other]
  | slot name => rcases asks with rfl | rfl <;> rfl
  | component tag reference => rcases asks with rfl | rfl <;> rfl
  | sanitizer =>
    have other : some sanitizerName ≠ some p.localName := by cases p <;> decide
    simp [Event.demands, Event.called?, Demand.caller?, other]
  | bound h =>
    have other : Primitive.bind ≠ p := by rcases asks with rfl | rfl <;> decide
    simp [Event.demands, Event.called?, Demand.caller?, same, other]
  | memoized h =>
    have other : Primitive.bind ≠ p := by rcases asks with rfl | rfl <;> decide
    simp [Event.demands, Event.called?, Demand.caller?, same, other]
  | @conditional helper h =>
    have other : some helper ≠ some p.localName := fun is =>
      h.not_plain (Option.some.inj is ▸ isPlainName_primitive p)
    simp [Event.demands, Event.called?, Demand.caller?, other]
  | loop h l =>
    have other : some namespaceTypeName ≠ some p.localName := by cases p <;> decide
    cases l with
    | each f => simp [Event.demands, Event.called?, Event.loopDemands, Demand.caller?]
    | of f =>
      simp [Event.demands, Event.called?, Event.loopDemands_of, Demand.caller?, other, iteratorParts]

/-- Demands that come with a call are the same in two lists if the calls are as many and the second list
has all that the first has. -/
theorem perm_caller {p : Primitive} {xs ys : List Demand}
    (exact : xs.countP (·.caller? = some p) = xs.count (.call p.localName))
    (bound : ys.countP (·.caller? = some p) ≤ ys.count (.call p.localName))
    (calls : ys.count (.call p.localName) = xs.count (.call p.localName))
    (same : ∀ x ∈ xs, x.caller? = some p → ys.count x = xs.count x) :
    (ys.filter (·.caller? = some p)).Perm (xs.filter (·.caller? = some p)) := by
  refine (List.Subperm.perm_of_length_le (List.subperm_ext_iff.mpr fun x hx => ?_) ?_).symm
  · obtain ⟨mem, caller⟩ := List.mem_filter.mp hx
    have kept (zs : List Demand) : (zs.filter (·.caller? = some p)).count x = zs.count x :=
      List.count_filter caller
    rw [kept, kept]
    exact Nat.le_of_eq (same x mem (of_decide_eq_true caller)).symm
  · rw [← List.countP_eq_length_filter, ← List.countP_eq_length_filter]
    omega

end Calls

end TemplateCompiler.Generate
