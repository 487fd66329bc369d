import Mathlib.Data.List.TakeWhile
import TemplateCompiler.Proofs.Generate.Draft

/-!
The references of components. An accepted reference has two halves with a colon between them: a module,
of word characters and dots, and a class, of word characters and perhaps a line end. That is neither less
nor more than names divided by dots, a colon and a name: the import of an accepted reference is a statement
of the language exactly if it has that form.
-/

namespace TemplateCompiler.Text

theorem isIdentifierContinue_of_start {c : Char} (h : isIdentifierStart c) : isIdentifierContinue c := by
  unfold isIdentifierStart at h
  unfold isIdentifierContinue
  split at h
  · next ascii =>
    rw [if_pos ascii]
    rw [Char.isAlphanum, Bool.or_assoc, Bool.or_eq_true] 
    rcases Bool.or_eq_true_iff.mp h with letter | under
    · exact .inl letter
    · exact .inr (Bool.or_eq_true_iff.mpr (.inr under))
  · next other =>
    rw [if_neg other, h, Bool.true_or]

def isName (s : String) : Bool := isIdentifier s && !isKeyword s

def isDottedName (s : String) : Bool := (s.toList.splitOn '.').all fun part => isName (.ofList part)

theorem isIdentifierContinue_of_name {s : String} (h : isName s) {c : Char} (hc : c ∈ s.toList) :
    isIdentifierContinue c := by
  have identifier : isIdentifierChars s.toList := (Bool.and_eq_true_iff.mp h).1
  cases hl : s.toList with
  | nil =>
    rw [hl] at hc
    cases hc
  | cons d ds =>
    rw [hl, isIdentifierChars_cons, Bool.and_eq_true] at identifier
    rw [hl] at hc
    rcases List.mem_cons.mp hc with rfl | hc
    · exact isIdentifierContinue_of_start identifier.1
    · exact List.all_eq_true.mp identifier.2 c hc

theorem mem_of_mem_intercalate {α : Type} {sep x : α} {parts : List (List α)}
    (h : x ∈ [sep].intercalate parts) : x = sep ∨ ∃ part ∈ parts, x ∈ part := by
  induction parts with
  | nil => cases h
  | cons part parts ih =>
    cases parts with
    | nil =>
      rw [List.intercalate_singleton] at h
      exact .inr ⟨part, List.mem_cons_self, h⟩
    | cons next rest =>
      rw [List.intercalate_cons_cons, List.mem_append, List.mem_append, List.mem_singleton] at h
      rcases h with (here | isSep) | later
      · exact .inr ⟨part, List.mem_cons_self, here⟩
      · exact .inl isSep
      · exact (ih later).imp_right fun ⟨p, hp, hx⟩ => ⟨p, List.mem_cons_of_mem part hp, hx⟩

theorem isIdentifierContinue_of_dottedName {s : String} (h : isDottedName s) {c : Char}
    (hc : c ∈ s.toList) : c = '.' ∨ isIdentifierContinue c := by
  have whole : ['.'].intercalate (s.toList.splitOn '.') = s.toList := List.intercalate_splitOn '.'
  rw [← whole] at hc
  rcases mem_of_mem_intercalate hc with dot | ⟨part, hp, hx⟩
  · exact .inl dot
  · have name := List.all_eq_true.mp h part hp
    exact .inr (isIdentifierContinue_of_name name (by rwa [String.toList_ofList]))

end TemplateCompiler.Text

namespace TemplateCompiler.Template

open TemplateCompiler.Code TemplateCompiler.Generate TemplateCompiler.Text

/-- The module of an accepted reference: word characters and dots. -/
def IsLooseModule (m : String) : Prop :=
  ∃ c cs, m.toList = c :: cs ∧ startsReference c ∧ ∀ d ∈ cs, isWordChar d ∨ d = '.'

/-- The class of an accepted reference: word characters, perhaps with one line end after them. -/
def IsLooseClass (a : String) : Prop :=
  ∃ c cs ending, a.toList = c :: (cs ++ ending) ∧ startsReference c ∧ (∀ d ∈ cs, isWordChar d) ∧
    (ending = [] ∨ ending = ['\n'])

/-- Two halves of some forms with a colon between them. -/
def IsReferenceOf (moduleForm classForm : String → Prop) (reference : String) : Prop :=
  ∃ m a, reference = m ++ ":" ++ a ∧ moduleForm m ∧ classForm a

theorem toList_halves (m a : String) : (m ++ ":" ++ a).toList = m.toList ++ ':' :: a.toList := by
  simp

theorem isReferenceName_iff {cs : List Char} : isReferenceName cs ↔ IsLooseClass (.ofList cs) := by
  unfold IsLooseClass
  rw [String.toList_ofList]
  constructor
  · intro h
    cases cs with
    | nil => cases h
    | cons c cs =>
      rw [isReferenceName, Bool.and_eq_true, Bool.or_eq_true, List.isEmpty_iff, beq_iff_eq] at h
      exact ⟨c, cs.takeWhile isWordChar, cs.dropWhile isWordChar, by rw [List.takeWhile_append_dropWhile],
        h.1, fun d hd => List.mem_takeWhile_imp hd, h.2⟩
  · rintro ⟨c, word, ending, rfl, start, words, ends⟩
    have rest : (word ++ ending).dropWhile isWordChar = ending := by
      rw [List.dropWhile_append_of_pos words]
      rcases ends with rfl | rfl <;> decide
    rw [isReferenceName, Bool.and_eq_true, Bool.or_eq_true, List.isEmpty_iff, beq_iff_eq, rest]
    exact ⟨start, ends⟩

theorem isComponentReference_iff {reference : String} :
    isComponentReference reference ↔ IsReferenceOf IsLooseModule IsLooseClass reference := by
  constructor
  · intro h
    unfold isComponentReference at h
    split at h
    · next c rest hl =>
      rw [Bool.and_eq_true] at h
      obtain ⟨start, h⟩ := h
      split at h
      · next name after =>
        have split : rest = rest.takeWhile (fun d => isWordChar d || d == '.') ++ ':' :: name :=
          after ▸ List.takeWhile_append_dropWhile.symm
        refine ⟨.ofList (c :: rest.takeWhile fun d => isWordChar d || d == '.'), .ofList name, ?_,
          ⟨c, _, String.toList_ofList, start, fun d hd => ?_⟩, isReferenceName_iff.mp h⟩
        · rw [← String.toList_inj, toList_halves, String.toList_ofList, String.toList_ofList, hl,
            List.cons_append, ← split]
        · have passed := List.mem_takeWhile_imp hd
          rwa [Bool.or_eq_true, beq_iff_eq] at passed
      · cases h
    · cases h
  · rintro ⟨m, a, rfl, ⟨c, cs, hm, start, words⟩, loose⟩
    have after : (cs ++ ':' :: a.toList).dropWhile (fun d => isWordChar d || d == '.') = ':' :: a.toList := by
      rw [List.dropWhile_append_of_pos fun d hd => by simpa using words d hd,
        List.dropWhile_cons_of_neg (by decide)]
    unfold isComponentReference
    rw [toList_halves, hm, List.cons_append]
    simp only [after, Bool.and_eq_true]
    exact ⟨start, isReferenceName_iff.mpr (by rwa [String.ofList_toList])⟩

theorem colon_notMem_looseModule {m : String} (h : IsLooseModule m) : ':' ∉ m.toList := by
  obtain ⟨c, cs, hm, start, words⟩ := h
  rw [hm, List.mem_cons]
  rintro (rfl | hc)
  · exact absurd start (by decide)
  · exact absurd (words ':' hc) (by decide)

theorem colon_notMem_dottedName {m : String} (h : isDottedName m) : ':' ∉ m.toList := fun hc =>
  absurd (isIdentifierContinue_of_dottedName h hc) (by decide)

theorem splitReference_halves {m : String} (h : ':' ∉ m.toList) (a : String) :
    splitReference (m ++ ":" ++ a) = (m, a) := by
  have plain : ∀ c ∈ m.toList, c != ':' := fun c hc => bne_iff_ne.mpr fun is => h (is ▸ hc)
  rw [splitReference, toList_halves]
  simp only [List.takeWhile_append_of_pos plain, List.dropWhile_append_of_pos plain]
  simp

def Element.refer (e : Element) (reference : String) : Element := { e with kind := .component reference }

/-- A component is accepted if it is accepted as an element, and its reference has its form. -/
theorem fault?_refer (e : Element) (reference : String) :
    (e.refer reference).fault? = none ↔
      ({ e with kind := .plain } : Element).fault? = none ∧ isComponentReference reference := by
  simp only [Element.fault?, Element.refer, Option.orElse_eq_orElse, Option.orElse_eq_or,
    Option.or_eq_none_iff]
  have last : (if isComponentReference reference then none else some (Cause.badComponentReference reference)) =
      none ↔ isComponentReference reference := by
    split <;> simp [*]
  rw [last]
  tauto

/-- An import that is a statement of the language: from names divided by dots it takes names, under names. -/
def isProperImport : Stmt → Bool
  | .importFrom moduleName names =>
    isDottedName moduleName && !names.isEmpty && names.all fun n => isName n.1 && n.2.all isName
  | _ => false

/-- The form that an import needs: names divided by dots, a colon and a name. -/
abbrev IsProperReference : String → Prop := IsReferenceOf (isDottedName ·) (isName ·)

theorem isName_componentIdentifier {reference : String} (h : IsProperReference reference) :
    isName (componentIdentifier reference) := by
  have headed : ∀ k ∈ keywords, k.toList.head? ≠ some '_' := by decide +kernel
  have spelled {c : Char} (hc : c ∈ reference.toList) :
      isIdentifierContinue (if isWordChar c then c else '_') := by
    split
    · next word =>
      obtain ⟨m, a, rfl, dotted, name⟩ := h
      rw [toList_halves, List.mem_append, List.mem_cons] at hc
      rcases hc with hc | rfl | hc
      · rcases isIdentifierContinue_of_dottedName dotted hc with rfl | continues
        · exact absurd word (by decide)
        · exact continues
      · exact absurd word (by decide)
      · exact isIdentifierContinue_of_name name hc
    · decide
  rw [isName, Bool.and_eq_true, Bool.not_eq_true']
  constructor
  · rw [isIdentifier, toList_componentIdentifier, isIdentifierChars_cons, Bool.and_eq_true, List.all_map,
      List.all_eq_true]
    exact ⟨by decide, fun c hc => spelled hc⟩
  · refine Bool.eq_false_iff.mpr fun keyword => ?_
    rw [isKeyword, List.contains_iff_mem] at keyword
    exact headed _ keyword (by rw [toList_componentIdentifier]; rfl)

/-- The import of an accepted reference is a statement of the language exactly if the reference is proper. -/
theorem isProperImport_iff {reference : String} (h : isComponentReference reference) :
    isProperImport (componentImport reference (componentIdentifier reference)) ↔
      IsProperReference reference := by
  have parts : isProperImport (componentImport reference (componentIdentifier reference)) =
      (isDottedName (splitReference reference).1 && (isName (splitReference reference).2 &&
        isName (componentIdentifier reference))) := by
    simp [isProperImport, componentImport]
  rw [parts, Bool.and_eq_true, Bool.and_eq_true]
  constructor
  · rintro ⟨dotted, name, -⟩
    obtain ⟨m, a, rfl, loose, -⟩ := isComponentReference_iff.mp h
    rw [splitReference_halves (colon_notMem_looseModule loose)] at dotted name
    exact ⟨m, a, rfl, dotted, name⟩
  · intro proper
    have identifier := isName_componentIdentifier proper
    obtain ⟨m, a, rfl, dotted, name⟩ := proper
    rw [splitReference_halves (colon_notMem_dottedName dotted)]
    exact ⟨dotted, name, identifier⟩

theorem isComponentReference_halves {m a : String} (dotted : isDottedName m) :
    isComponentReference (m ++ ":" ++ a) ↔ IsLooseModule m ∧ IsLooseClass a := by
  rw [isComponentReference_iff]
  refine ⟨?_, fun ⟨loose, looseClass⟩ => ⟨m, a, rfl, loose, looseClass⟩⟩
  rintro ⟨m', a', same, loose, looseClass⟩
  have split := congrArg splitReference same
  rw [splitReference_halves (colon_notMem_dottedName dotted),
    splitReference_halves (colon_notMem_looseModule loose), Prod.mk.injEq] at split
  obtain ⟨rfl, rfl⟩ := split
  exact ⟨loose, looseClass⟩

/-- Which references are accepted, and what becomes of them: a component is accepted exactly if the halves
of its reference are loose, which the halves of a proper reference need not be; and the import of an
accepted reference is a statement of the language exactly if the reference is proper. -/
theorem references_accepted_exactly (e : Element) (reference : String) :
    ((e.refer reference).fault? = none ↔ ({ e with kind := .plain } : Element).fault? = none ∧
      IsReferenceOf IsLooseModule IsLooseClass reference) ∧
    (∀ m a, isDottedName m → isName a →
      (isComponentReference (m ++ ":" ++ a) ↔ IsLooseModule m ∧ IsLooseClass a)) ∧
    (isComponentReference reference →
      (isProperImport (componentImport reference (componentIdentifier reference)) ↔
        IsProperReference reference)) := by
  refine ⟨?_, fun m a dotted _ => isComponentReference_halves dotted, isProperImport_iff⟩
  rw [fault?_refer, isComponentReference_iff]

/-- A reference with two dots after each other is accepted, but no import can be made of it. -/
theorem emptyPart_accepted : ((Element.ofTag "x-a").refer "a..b:C").fault? = none ∧
    ¬ IsProperReference "a..b:C" ∧
    isProperImport (componentImport "a..b:C" (componentIdentifier "a..b:C")) = false := by
  refine ⟨by decide, ?_, by decide +kernel⟩
  rintro ⟨m, a, same, dotted, -⟩
  have split := congrArg splitReference same
  rw [splitReference_halves (colon_notMem_dottedName dotted)] at split
  have first : splitReference "a..b:C" = ("a..b", "C") := by decide
  rw [first, Prod.mk.injEq] at split
  rw [← split.1] at dotted
  exact absurd dotted (by decide)

end TemplateCompiler.Template
