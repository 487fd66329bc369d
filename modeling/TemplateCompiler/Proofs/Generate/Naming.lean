import TemplateCompiler.Proofs.Generate.Emission
import TemplateCompiler.Proofs.Scope.Names
import TemplateCompiler.Generate.Program
import TemplateCompiler.Template.Validity

/-!
The names of generated code. Local names of properties and names of helpers are unlike all other names
that generated code makes, but for the local names of components: those are spelled by the template.

Loop variables may have none of these names, except for those of helpers. The parameters that take what
an iterator tells are spelled after a loop variable and are unlike all of them too.
-/

namespace TemplateCompiler.Generate

open TemplateCompiler.Code TemplateCompiler.Scope TemplateCompiler.Template

def IsLocalName (name : String) : Prop := ∃ scope k, name = localName scope k

def helperKinds : List ScopeKind := [.conditional, .forEach, .forOf]

def IsHelperName (name : String) : Prop :=
  ∃ kind ∈ helperKinds, ∃ id k, name = Context.helperName kind id k

def Emitter.IsComponent (E : Emitter) (name : String) : Prop :=
  ∃ reference ∈ E.components.keys, name = componentIdentifier reference

/-- A name that does not end in a number, or the local name of a slot or of a memoized handler. -/
def IsPlainName (name : String) : Prop :=
  endsInDigit name = false ∨
    ∃ c rest, name.toList = '_' :: c :: rest ∧ (c = 's' ∨ c = 'm')

theorem isDigit_label {kind : ScopeKind} (h : kind ∈ helperKinds) :
    ∀ c ∈ kind.label.toList, c.isDigit = false := by
  simp only [helperKinds, List.mem_cons, List.not_mem_nil, or_false] at h
  rcases h with rfl | rfl | rfl <;> simp [ScopeKind.label, Char.isDigit]

theorem head_helperName {name : String} (h : IsHelperName name) :
    ∃ c rest, name.toList = c :: rest ∧ c ≠ '_' := by
  obtain ⟨kind, hk, id, k, rfl⟩ := h
  rw [Context.toList_helperName]
  simp only [helperKinds, List.mem_cons, List.not_mem_nil, or_false] at hk
  rcases hk with rfl | rfl | rfl
  · exact ⟨'i', _, rfl, by decide⟩
  · exact ⟨'f', _, rfl, by decide⟩
  · exact ⟨'f', _, rfl, by decide⟩

theorem IsLocalName.not_plain {name : String} (h : IsLocalName name) : ¬ IsPlainName name := by
  obtain ⟨scope, k, rfl⟩ := h
  rintro (digit | ⟨c, rest, hl, hc⟩)
  · rw [endsInDigit_localName] at digit
    cases digit
  · rw [toList_localName] at hl
    obtain ⟨-, tail⟩ := List.cons.inj hl
    obtain ⟨rfl, -⟩ := List.cons.inj tail
    revert hc
    decide

theorem IsHelperName.not_plain {name : String} (h : IsHelperName name) : ¬ IsPlainName name := by
  obtain ⟨c, rest, hl, hc⟩ := head_helperName h
  obtain ⟨kind, hk, id, k, rfl⟩ := h
  rintro (digit | ⟨_, _, hl', -⟩)
  · rw [Context.endsInDigit_helperName] at digit
    cases digit
  · rw [hl] at hl'
    exact hc (List.cons.inj hl').1

theorem IsLocalName.not_helper {name : String} (h : IsLocalName name) : ¬ IsHelperName name := by
  intro h'
  obtain ⟨c, rest, hl, hc⟩ := head_helperName h'
  obtain ⟨scope, k, rfl⟩ := h
  rw [toList_localName] at hl
  exact hc (List.cons.inj hl).1.symm

theorem isPlainName_primitive (p : Primitive) : IsPlainName p.localName := by
  refine .inl ?_
  cases p <;> decide

theorem Primitive.localName_injective {p q : Primitive} (h : p.localName = q.localName) : p = q :=
  List.inj_on_of_nodup_map (by decide : (Primitive.all.map Primitive.localName).Nodup) p.mem_all q.mem_all h

theorem isPlainName_slot (k : Nat) : IsPlainName (slotLocalName k) := by
  refine .inr ⟨'s', ['l', 'o', 't'] ++ (toString k).toList, ?_, .inl rfl⟩
  rw [slotLocalName, String.toList_append]
  rfl

theorem isPlainName_memo (k : Nat) : IsPlainName (memoName k) := by
  refine .inr ⟨'m', (toString k).toList, ?_, .inr rfl⟩
  rw [memoName, String.toList_append]
  rfl

theorem endsInDigit_append (s : String) {t : String} (h : t.toList ≠ []) :
    endsInDigit (s ++ t) = endsInDigit t := by
  rw [endsInDigit, endsInDigit, String.toList_append, List.getLast?_append_of_ne_nil _ h]

theorem isPlainName_part {iterator part : String} (h : part ∈ iteratorParts) :
    IsPlainName (partName iterator part) := by
  refine .inl ?_
  simp only [iteratorParts, List.mem_cons, List.not_mem_nil, or_false] at h
  rw [partName]
  rcases h with rfl | rfl | rfl | rfl <;> rw [endsInDigit_append _ (by decide)] <;> decide

theorem mem_of_get? {α : Type} {t : Table α} {key : String} {value : α} (h : t.get? key = some value) :
    (key, value) ∈ t.entries := by
  obtain ⟨es⟩ := t
  unfold Table.get? at h
  induction es with
  | nil => cases h
  | cons e es ih =>
    rw [List.lookup_cons] at h
    split at h
    · next he =>
      obtain rfl := Option.some.inj h
      rw [beq_iff_eq.mp he]
      exact List.mem_cons_self
    · exact List.mem_cons_of_mem e (ih h)

theorem Emitter.Notes.plain_or_component {E : Emitter} (formed : E.Formed) {name : String}
    (h : E.Notes name) : IsPlainName name ∨ E.IsComponent name := by
  cases h with
  | primitive hp => exact .inl (isPlainName_primitive _)
  | @slot slot id hs =>
    have hv : name ∈ E.slots.values := List.mem_map_of_mem (mem_of_get? hs)
    rw [formed.slots] at hv
    obtain ⟨k, -, rfl⟩ := List.mem_map.mp hv
    exact .inl (isPlainName_slot k)
  | memo hm => exact .inl (isPlainName_memo _)
  | @component reference id hc =>
    have entry := mem_of_get? hc
    exact .inr ⟨reference, List.mem_map_of_mem entry, formed.components _ entry⟩
  | runtime hr =>
    rw [List.mem_singleton.mp (formed.runtimeHelpers hr)]
    exact .inl (.inl (by decide))
  | context => exact .inl (.inl (by decide))

/-- The names that loop variables must not have: they start as generated names do, or are reserved. -/
def Guarded (name : String) : Prop :=
  ['_'] <+: name.toList ∨ ['a', 'p', 'i', '_'] <+: name.toList ∨ name ∈ reservedNames

theorem not_guarded {name : String} (h : loopNameFault? name = none) : ¬ Guarded name := by
  unfold loopNameFault? at h
  split at h
  · cases h
  · split at h
    · cases h
    · next free =>
      rintro (start | start | reserved)
      · exact free (by simp [String.startsWith_string_iff, start])
      · exact free (by simp [String.startsWith_string_iff, start])
      · exact free (by simp [reserved])

theorem ne_nil_of_allowed {name : String} (h : loopNameFault? name = none) : name.toList ≠ [] := by
  intro empty
  simp [loopNameFault?, Text.isIdentifier, Text.isIdentifierChars, empty] at h

theorem toList_partName (iterator part : String) :
    (partName iterator part).toList = iterator.toList ++ '_' :: part.toList := by
  simp [partName]

theorem partName_not_guarded {iterator part : String} (h : loopNameFault? iterator = none)
    (hp : part ∈ iteratorParts) : ¬ Guarded (partName iterator part) := by
  have free := not_guarded h
  obtain ⟨a, rest, hl⟩ := List.exists_cons_of_ne_nil (ne_nil_of_allowed h)
  rintro (start | start | reserved)
  · rw [toList_partName, hl, List.cons_append, List.singleton_prefix_cons_iff] at start
    exact free (.inl (by rw [hl, start]; exact List.prefix_append [a] rest))
  · -- the underscore stands after the iterator, so only `api` itself could be completed by it
    rw [toList_partName, hl] at start
    match rest with
    | [] => simp at start
    | [b] => simp at start
    | [b, c] =>
      simp only [List.cons_append, List.nil_append, List.cons_prefix_cons] at start
      obtain ⟨rfl, rfl, rfl, -⟩ := start
      have is : iterator = "api" := String.toList_inj.mp hl
      exact free (.inr (.inr (by simp [is, reservedNames])))
    | b :: c :: e :: rest =>
      simp only [List.cons_append, List.cons_prefix_cons] at start
      obtain ⟨rfl, rfl, rfl, rfl, -⟩ := start
      exact free (.inr (.inl (by simp [hl])))
  · have ends : ∀ r ∈ reservedNames, ∀ part ∈ iteratorParts, ¬ ('_' :: part.toList) <:+ r.toList := by
      decide
    exact ends _ reserved part hp (toList_partName iterator part ▸ List.suffix_append _ _)

theorem guarded_underscore {name : String} {rest : List Char} (h : name.toList = '_' :: rest) :
    Guarded name := .inl (by simp [h])

theorem guarded_localName (scope k : Nat) : Guarded (localName scope k) :=
  guarded_underscore (toList_localName scope k)

theorem toList_slotLocalName (k : Nat) :
    (slotLocalName k).toList = '_' :: (['s', 'l', 'o', 't'] ++ Nat.toDigits 10 k) := by
  simp [slotLocalName]

theorem toList_memoName (k : Nat) : (memoName k).toList = '_' :: 'm' :: Nat.toDigits 10 k := by
  simp [memoName]

theorem toList_componentIdentifier (reference : String) : (componentIdentifier reference).toList =
    '_' :: reference.toList.map fun c => if Text.isWordChar c then c else '_' := by
  simp [componentIdentifier]

theorem guarded_primitive (p : Primitive) : Guarded p.localName := by
  refine .inr (.inl ?_)
  cases p <;> decide

/-- Behind its first character, the name has an underscore before something that is no digit. -/
def Jointed (name : String) : Prop :=
  ∃ u c v, name.toList = '_' :: (u ++ '_' :: c :: v) ∧ c.isDigit = false

theorem startsReference_spec {c : Char} (h : startsReference c) :
    Text.isWordChar c ∧ c.isDigit = false := by
  rw [startsReference, Bool.or_eq_true] at h
  rcases h with letter | under
  · have alpha : (c.isUpper || c.isLower) = true := letter
    delta Char.isUpper Char.isLower at alpha
    simp only [Bool.or_eq_true, Bool.and_eq_true, decide_eq_true_eq, ge_iff_le,
      UInt32.le_iff_toNat_le] at alpha
    change 65 ≤ c.val.toNat ∧ c.val.toNat ≤ 90 ∨ 97 ≤ c.val.toNat ∧ c.val.toNat ≤ 122 at alpha
    have ascii : c.toNat < 128 := by
      unfold Char.toNat
      omega
    refine ⟨by simp [Text.isWordChar, ascii, Char.isAlphanum, letter], ?_⟩
    simp only [Char.isDigit, Bool.and_eq_false_iff, decide_eq_false_iff_not, ge_iff_le,
      UInt32.le_iff_toNat_le]
    change ¬ 48 ≤ c.val.toNat ∨ ¬ c.val.toNat ≤ 57
    omega
  · rw [beq_iff_eq.mp under]
    decide

theorem jointed_component {reference : String} (h : isComponentReference reference) :
    Jointed (componentIdentifier reference) := by
  unfold isComponentReference at h
  split at h
  · next first rest hl =>
    rw [Bool.and_eq_true] at h
    split at h
    · next name after =>
      obtain ⟨c, tail, rfl, start⟩ : ∃ c tail, name = c :: tail ∧ startsReference c := by
        cases name with
        | nil => simp [isReferenceName] at h
        | cons c tail =>
          have parts := h.2
          rw [isReferenceName, Bool.and_eq_true] at parts
          exact ⟨c, tail, rfl, parts.1⟩
      obtain ⟨before, split⟩ : ∃ before, rest = before ++ ':' :: c :: tail :=
        ⟨_, after ▸ List.takeWhile_append_dropWhile.symm⟩
      obtain ⟨word, digit⟩ := startsReference_spec start
      have colon : Text.isWordChar ':' = false := by decide
      let spell := fun d => if Text.isWordChar d then d else '_'
      refine ⟨spell first :: before.map spell, c, tail.map spell, ?_, digit⟩
      rw [toList_componentIdentifier, hl, split]
      simp [spell, colon, word]
    · simp at h
  · simp at h

theorem Jointed.not_numbered {name : String} {u : List Char} {n : Nat} (h : Jointed name)
    (hu : '_' ∉ u) : name.toList ≠ '_' :: (u ++ Nat.toDigits 10 n) := by
  obtain ⟨v, c, w, hl, -⟩ := h
  intro e
  rw [hl, List.cons.injEq] at e
  have joint : '_' ∈ u ++ Nat.toDigits 10 n := by
    rw [← e.2]
    simp
  rcases List.mem_append.mp joint with hm | hm
  · exact hu hm
  · exact absurd (isDigit_of_mem_number hm) (by decide)

theorem Jointed.not_local {name : String} (h : Jointed name) : ¬ IsLocalName name := by
  obtain ⟨v, c, w, hl, digit⟩ := h
  rintro ⟨scope, k, rfl⟩
  rw [toList_localName, List.cons.injEq] at hl
  have first : '_' ∉ 'c' :: 'v' :: Nat.toDigits 10 scope := by
    simp only [List.mem_cons, not_or]
    exact ⟨by decide, by decide, fun hm => absurd (isDigit_of_mem_number hm) (by decide)⟩
  have second : '_' ∉ Nat.toDigits 10 k := fun hm =>
    absurd (isDigit_of_mem_number hm) (by decide)
  have split := (List.append_cons_inj_of_notMem first second).mp hl.2
  have mem : c ∈ Nat.toDigits 10 k := by
    rw [split.2.2]
    exact List.mem_cons_self
  rw [isDigit_of_mem_number mem] at digit
  cases digit

end TemplateCompiler.Generate
