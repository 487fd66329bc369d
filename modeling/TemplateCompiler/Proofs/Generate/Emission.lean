import TemplateCompiler.Proofs.Code.Occurrences
import TemplateCompiler.Generate.DataBag
import Mathlib.Data.List.Perm.Basic
import Mathlib.Data.List.Nodup

/-!
What the emitter adds to code. Every step of the emitter keeps what was noted before, and the names that
it puts into an expression are names that it has noted: `Emits C step os` says that the result of the step
has the occurrences `os` and besides them only such names, and that the references to components that the
step notes keep to `C`.
-/

namespace TemplateCompiler

theorem Table.entries_insert {α : Type} {t : Table α} {key : String} (value : α)
    (h : t.get? key = none) : (t.insert key value).entries = t.entries ++ [(key, value)] := by
  obtain ⟨es⟩ := t
  unfold Table.get? at h
  unfold Table.insert
  induction es with
  | nil => rfl
  | cons e es ih =>
    obtain ⟨k, v⟩ := e
    rw [List.lookup_cons] at h
    by_cases hk : key == k
    · rw [hk] at h
      cases h
    · have hk' : (key == k) = false := by simpa using hk
      rw [hk'] at h
      simp only [Table.insertEntry, hk', List.cons_append]
      exact congrArg (_ :: ·) (ih h)

end TemplateCompiler

namespace TemplateCompiler.Generate

open TemplateCompiler.Code TemplateCompiler.Template

namespace Emitter

structure Formed (E : Emitter) : Prop where
  slots : E.slots.values = (List.range E.slots.size).map slotLocalName
  components : ∀ c ∈ E.components.entries, c.2 = componentIdentifier c.1
  runtimeHelpers : E.runtimeHelpers ⊆ [sanitizerName]

theorem formed_empty : empty.Formed := ⟨rfl, by simp [empty, Table.empty], by simp [empty]⟩

/-- Nothing that was noted is lost, and all new references to components keep to `C`. -/
structure Grows (C : String → Prop) (E F : Emitter) : Prop where
  primitives : E.primitives ⊆ F.primitives
  slots : ∀ name id, E.slots.get? name = some id → F.slots.get? name = some id
  memoCount : E.memoCount ≤ F.memoCount
  components : ∀ reference id, E.components.get? reference = some id →
    F.components.get? reference = some id
  runtimeHelpers : E.runtimeHelpers ⊆ F.runtimeHelpers
  usesNamespace : E.usesNamespace → F.usesNamespace
  references : (∀ c ∈ E.components.keys, C c) → ∀ c ∈ F.components.keys, C c
  formed : E.Formed → F.Formed

theorem Grows.refl {C : String → Prop} (E : Emitter) : Grows C E E :=
  ⟨List.Subset.refl _, fun _ _ => id, Nat.le_refl _, fun _ _ => id, List.Subset.refl _, id, id, id⟩

theorem Grows.trans {C : String → Prop} {E F G : Emitter} (h : Grows C E F) (h' : Grows C F G) :
    Grows C E G where
  primitives := List.Subset.trans h.primitives h'.primitives
  slots name id hs := h'.slots name id (h.slots name id hs)
  memoCount := Nat.le_trans h.memoCount h'.memoCount
  components reference id hc := h'.components reference id (h.components reference id hc)
  runtimeHelpers := List.Subset.trans h.runtimeHelpers h'.runtimeHelpers
  usesNamespace := h'.usesNamespace ∘ h.usesNamespace
  references := h'.references ∘ h.references
  formed := h'.formed ∘ h.formed

/-- A name that generated code may use because the emitter has noted it. -/
inductive Notes (E : Emitter) : String → Prop
  | primitive {p : Primitive} (h : p ∈ E.primitives) : Notes E p.localName
  | slot {name id : String} (h : E.slots.get? name = some id) : Notes E id
  | memo {n : Nat} (h : n < E.memoCount) : Notes E (memoName n)
  | component {reference id : String} (h : E.components.get? reference = some id) : Notes E id
  | runtime {name : String} (h : name ∈ E.runtimeHelpers) : Notes E name
  | context : Notes E contextName

theorem Notes.mono {C : String → Prop} {E F : Emitter} (h : Grows C E F) {id : String}
    (hn : E.Notes id) : F.Notes id := by
  cases hn with
  | primitive hp => exact .primitive (h.primitives hp)
  | slot hs => exact .slot (h.slots _ _ hs)
  | memo hm => exact .memo (Nat.lt_of_lt_of_le hm h.memoCount)
  | component hc => exact .component (h.components _ _ hc)
  | runtime hr => exact .runtime (h.runtimeHelpers hr)
  | context => exact .context

def NotesAll (E : Emitter) (os : List Occurrence) : Prop :=
  ∀ o ∈ os, ∃ id, o = .free (.own id) ∧ E.Notes id

end Emitter

/-- The step gives the occurrences `os` and besides only names that it has noted. -/
structure Emits (C : String → Prop) (step : EmitM Expr) (os : List Occurrence) : Prop where
  grows : ∀ E : Emitter, E.Grows C (step E).2
  content : ∀ E : Emitter, ∃ new, (step E).1.occurrences.Perm (os ++ new) ∧ (step E).2.NotesAll new

theorem mem_addNew {α : Type} [BEq α] [LawfulBEq α] (xs : List α) (x : α) :
    x ∈ Emit.addNew xs x := by
  unfold Emit.addNew
  split
  · exact List.contains_iff_mem.mp ‹_›
  · exact List.mem_append_right xs List.mem_cons_self

theorem subset_addNew {α : Type} [BEq α] (xs : List α) (x : α) : xs ⊆ Emit.addNew xs x := by
  unfold Emit.addNew
  split
  · exact List.Subset.refl xs
  · exact List.subset_append_left xs [x]

variable {C : String → Prop}

theorem grows_call (p : Primitive) (args : List Expr) (E : Emitter) :
    E.Grows C (Emit.call p args E).2 :=
  { Emitter.Grows.refl E with primitives := subset_addNew _ _, formed := fun h => ⟨h.1, h.2, h.3⟩ }

theorem grows_component {reference : String} (hc : C reference) (E : Emitter) :
    E.Grows C (Emit.component reference E).2 := by
  unfold Emit.component
  cases h : E.components.get? reference with
  | some name => exact Emitter.Grows.refl E
  | none =>
    refine { (.refl E : E.Grows C E) with components := ?_, references := ?_, formed := ?_ }
    · intro r id hr
      have hne : r ≠ reference := by
        rintro rfl
        rw [h] at hr
        cases hr
      simpa [hne] using hr
    · intro keep c hm
      simp only [Table.keys, Table.entries_insert _ h, List.map_append, List.mem_append] at hm
      rcases hm with hm | hm
      · exact keep c hm
      · rwa [List.mem_singleton.mp hm]
    · intro hf
      refine ⟨hf.slots, ?_, hf.runtimeHelpers⟩
      rw [Table.entries_insert _ h]
      intro c hc
      rcases List.mem_append.mp hc with hc | hc
      · exact hf.components c hc
      · rw [List.mem_singleton.mp hc]

theorem component_noted (reference : String) (E : Emitter) :
    (Emit.component reference E).2.components.get? reference =
      some (Emit.component reference E).1 := by
  unfold Emit.component
  cases h : E.components.get? reference with
  | some name => exact h
  | none => simp

theorem grows_slotName (name : String) (E : Emitter) : E.Grows C (Emit.slotName name E).2 := by
  unfold Emit.slotName
  cases h : E.slots.get? name with
  | some id => exact Emitter.Grows.refl E
  | none =>
    refine { Emitter.Grows.refl E with slots := ?_, formed := ?_ }
    · intro n id hn
      have hne : n ≠ name := by
        rintro rfl
        rw [h] at hn
        cases hn
      simpa [hne] using hn
    · intro hf
      refine ⟨?_, hf.components, hf.runtimeHelpers⟩
      have hs := hf.slots
      simp only [Table.values, Table.size, Table.entries_insert _ h] at hs ⊢
      simp [hs, List.range_succ]

theorem slotName_noted (name : String) (E : Emitter) :
    (Emit.slotName name E).2.slots.get? name = some (Emit.slotName name E).1 := by
  unfold Emit.slotName
  cases h : E.slots.get? name with
  | some id => exact h
  | none => simp

namespace Emits

theorem pure (e : Expr) : Emits C (Pure.pure e) e.occurrences :=
  ⟨Emitter.Grows.refl, fun E => ⟨[], by rw [List.append_nil]; rfl, by simp [Emitter.NotesAll]⟩⟩

theorem bind {m : EmitM Expr} {f : Expr → EmitM Expr} {os : List Occurrence}
    (ps : List Occurrence)
    (hm : Emits C m os) (hf : ∀ e, Emits C (f e) (ps ++ e.occurrences)) :
    Emits C (m >>= f) (ps ++ os) := by
  have run : ∀ E, (m >>= f) E = f (m E).1 (m E).2 := fun E => rfl
  refine ⟨fun E => ?_, fun E => ?_⟩
  · rw [run]
    exact (hm.grows E).trans ((hf _).grows _)
  · obtain ⟨new, hp, hn⟩ := hm.content E
    obtain ⟨new', hp', hn'⟩ := (hf (m E).1).content (m E).2
    refine ⟨new ++ new', ?_, ?_⟩
    · rw [run]
      refine hp'.trans ?_
      simpa [List.append_assoc] using (hp.append_left ps).append_right new'
    · rw [run]
      intro a ha
      rcases List.mem_append.mp ha with ha | ha
      · obtain ⟨id, rfl, hid⟩ := hn a ha
        exact ⟨id, rfl, hid.mono ((hf _).grows _)⟩
      · exact hn' a ha

theorem call (p : Primitive) (args : List Expr) :
    Emits C (Emit.call p args) (Expr.occurrencesAll args) := by
  refine ⟨grows_call p args, fun E => ⟨[.free (.own p.localName)], ?_, ?_⟩⟩
  · have h : (Emit.call p args E).1.occurrences = [.free (.own p.localName)] ++ Expr.occurrencesAll args := by
      simp [Emit.call, Expr.apply, Expr.occurrences]
    rw [h]
    exact List.perm_append_comm
  · intro a ha
    rw [List.mem_singleton.mp ha]
    exact ⟨p.localName, rfl, .primitive (mem_addNew E.primitives p)⟩

theorem perm {step : EmitM Expr} {os ps : List Occurrence} (h : Emits C step os) (p : os.Perm ps) :
    Emits C step ps := by
  refine ⟨h.grows, fun E => ?_⟩
  obtain ⟨new, hp, hn⟩ := h.content E
  exact ⟨new, hp.trans (p.append_right new), hn⟩

theorem named (step : EmitM String) {f : String → EmitM Expr} {os : List Occurrence}
    (grows : ∀ E : Emitter, E.Grows C (step E).2) (noted : ∀ E, (step E).2.Notes (step E).1)
    (hf : ∀ id, Emits C (f id) (.free (.own id) :: os)) : Emits C (step >>= f) os := by
  have run : ∀ E, (step >>= f) E = f (step E).1 (step E).2 := fun E => rfl
  refine ⟨fun E => ?_, fun E => ?_⟩
  · rw [run]
    exact (grows E).trans ((hf _).grows _)
  · obtain ⟨new, hp, hn⟩ := (hf (step E).1).content (step E).2
    refine ⟨.free (.own (step E).1) :: new, ?_, ?_⟩
    · rw [run]
      exact hp.trans List.perm_middle.symm
    · rw [run]
      intro a ha
      rcases List.mem_cons.mp ha with rfl | ha
      · exact ⟨_, rfl, (noted E).mono ((hf _).grows _)⟩
      · exact hn a ha

theorem customElement (tag : String) {reference : String} (data children : Expr) (hc : C reference) :
    Emits C (Emit.customElement tag reference data children)
      (data.occurrences ++ children.occurrences) := by
  refine named (Emit.component reference) (grows_component hc)
    (fun E => .component (component_noted reference E)) ?_
  intro id
  simpa [Expr.str, Expr.occurrences] using
    call .customElement [.str tag, .own id, data, children]

theorem slot (name : String) (data children : Expr) :
    Emits C (Emit.slot name data children) (data.occurrences ++ children.occurrences) := by
  refine named (Emit.slotName name) (grows_slotName name) (fun E => .slot (slotName_noted name E)) ?_
  intro id
  have h : Emits C _ _ := call .slot [.str name, data, children, .own id]
  simp only [Expr.occurrencesAll_eq_flatMap, List.flatMap_cons, Expr.str, Expr.occurrences, List.nil_append,
    List.flatMap_nil, List.append_nil] at h
  rw [← List.append_assoc] at h
  exact h.perm List.perm_append_comm

theorem sanitizeAttribute (tag namespaceName name : String) (value : Expr) :
    Emits C (Emit.sanitizeAttribute tag namespaceName name value) value.occurrences := by
  refine named (Emit.runtimeHelper sanitizerName) ?_ ?_ ?_
  · intro E
    refine { Emitter.Grows.refl E with runtimeHelpers := subset_addNew _ _, formed := ?_ }
    intro hf
    refine ⟨hf.slots, hf.components, ?_⟩
    intro x hx
    have hx : x ∈ Emit.addNew E.runtimeHelpers sanitizerName := hx
    unfold Emit.addNew at hx
    split at hx
    · exact hf.runtimeHelpers hx
    · rcases List.mem_append.mp hx with hx | hx
      · exact hf.runtimeHelpers hx
      · exact hx
  · intro E
    exact .runtime (mem_addNew E.runtimeHelpers sanitizerName)
  · intro id
    simpa [Expr.apply, Expr.str, Expr.occurrences] using
      pure (.apply (.own id) [.str tag, .str namespaceName, .str name, value])

theorem memoizedHandler (handler : Expr) :
    Emits C (Emit.memoizedHandler handler) handler.occurrences := by
  refine named Emit.memoize ?_ ?_ ?_
  · intro E
    exact { Emitter.Grows.refl E with
      memoCount := Nat.le_succ _, formed := fun h => ⟨h.1, h.2, h.3⟩ }
  · intro E
    exact .memo (Nat.lt_succ_self E.memoCount)
  · intro id
    have bound : Emits C (Emit.bind handler) handler.occurrences := by
      simpa [Emit.bind] using call .bind [handler]
    refine bound.bind [.free (.own id)] fun e => ?_
    have h : (Expr.logical .or [.own id, .apply (.member (.own contextName) "setdefault")
        [.str id, e]]).occurrences = [.free (.own id), .free (.own contextName)] ++ e.occurrences := by
      simp [Expr.apply, Expr.str, Expr.occurrences, contextName, Scope.componentName]
    refine ⟨Emitter.Grows.refl, fun E => ⟨[.free (.own contextName)], ?_, ?_⟩⟩
    · refine (List.Perm.of_eq h).trans ?_
      exact List.Perm.cons _ List.perm_append_comm
    · intro a ha
      exact ⟨contextName, List.mem_singleton.mp ha, .context⟩

end Emits

end TemplateCompiler.Generate
