import Mathlib.Data.List.TakeWhile
import TemplateCompiler.Proofs.Generate.Prelude

/-!
The classes of custom elements. Every custom element is made with the local name of its own reference.
References that differ only in dots, colons and underscores have one local name, which is taken from the
module of the last of them: a custom element gets the class of its own reference exactly if no such
reference is first used after it.
-/

namespace TemplateCompiler.Template

/-- The characters of a reference that its local name spells as underscores. -/
def referenceJoints : List Char := ['.', ':', '_', '\n']

/-- Two references that differ only in their joints. -/
def Alike (r r' : String) : Prop :=
  r.length = r'.length ∧ ∀ p ∈ r.toList.zip r'.toList,
    p.1 = p.2 ∨ p.1 ∈ referenceJoints ∧ p.2 ∈ referenceJoints

instance (r r' : String) : Decidable (Alike r r') := inferInstanceAs (Decidable (_ ∧ _))

end TemplateCompiler.Template

namespace TemplateCompiler.Generate

open TemplateCompiler.Code TemplateCompiler.Scope TemplateCompiler.Template TemplateCompiler.Text

section Spelling

theorem map_eq_map_iff_zip {α β : Type} (f : α → β) : ∀ xs ys : List α,
    xs.map f = ys.map f ↔ xs.length = ys.length ∧ ∀ p ∈ xs.zip ys, f p.1 = f p.2
  | [], [] => by simp
  | [], _ :: _ => by simp
  | _ :: _, [] => by simp
  | x :: xs, y :: ys => by
    rw [List.map_cons, List.map_cons, List.cons.injEq, map_eq_map_iff_zip f xs ys, List.zip_cons_cons,
      List.forall_mem_cons]
    simp only [List.length_cons, Nat.add_right_cancel_iff]
    exact ⟨fun ⟨first, size, rest⟩ => ⟨size, first, rest⟩, fun ⟨size, first, rest⟩ => ⟨first, size, rest⟩⟩

theorem char_of_reference {reference : String} (h : isComponentReference reference) {c : Char}
    (hc : c ∈ reference.toList) : isWordChar c ∨ c ∈ referenceJoints := by
  have word {d : Char} (hd : startsReference d) : isWordChar d ∨ d ∈ referenceJoints :=
    .inl (startsReference_spec hd).1
  unfold isComponentReference at h
  split at h
  · next first rest hl =>
    rw [Bool.and_eq_true] at h
    obtain ⟨start, h⟩ := h
    rw [hl] at hc
    rcases List.mem_cons.mp hc with rfl | hc
    · exact word start
    · split at h
      · next name after =>
        have split : rest = rest.takeWhile (fun d => isWordChar d || d == '.') ++ ':' :: name :=
          after ▸ List.takeWhile_append_dropWhile.symm
        rw [split] at hc
        rcases List.mem_append.mp hc with hc | hc
        · have passed := List.mem_takeWhile_imp hc
          rw [Bool.or_eq_true] at passed
          rcases passed with passed | dot
          · exact .inl passed
          · exact .inr (beq_iff_eq.mp dot ▸ by decide)
        · rcases List.mem_cons.mp hc with rfl | hc
          · exact .inr (by decide)
          · cases name with
            | nil => cases hc
            | cons d tail =>
              rw [isReferenceName, Bool.and_eq_true] at h
              obtain ⟨begin, ends⟩ := h
              rcases List.mem_cons.mp hc with rfl | hc
              · exact word begin
              · have split : tail = tail.takeWhile isWordChar ++ tail.dropWhile isWordChar :=
                  List.takeWhile_append_dropWhile.symm
                rw [split] at hc
                rcases List.mem_append.mp hc with hc | hc
                · exact .inl (List.mem_takeWhile_imp hc)
                · rw [Bool.or_eq_true] at ends
                  rcases ends with none | line
                  · rw [List.isEmpty_iff.mp none] at hc
                    cases hc
                  · rw [beq_iff_eq.mp line, List.mem_singleton] at hc
                    exact .inr (hc ▸ by decide)
      · cases h
  · cases h

theorem componentIdentifier_eq_iff {r r' : String} (hr : isComponentReference r)
    (hr' : isComponentReference r') : componentIdentifier r = componentIdentifier r' ↔ Alike r r' := by
  let spell (c : Char) : Char := if isWordChar c then c else '_'
  have joint {c : Char} (h : c ∈ referenceJoints) : spell c = '_' := by
    simp only [referenceJoints, List.mem_cons, List.not_mem_nil, or_false] at h
    rcases h with rfl | rfl | rfl | rfl <;> decide
  have same {c d : Char} (hc : isWordChar c ∨ c ∈ referenceJoints) (hd : isWordChar d ∨ d ∈ referenceJoints) :
      spell c = spell d ↔ c = d ∨ c ∈ referenceJoints ∧ d ∈ referenceJoints := by
    constructor
    · intro h
      rcases hc with wc | jc <;> rcases hd with wd | jd
      · exact .inl (by simpa [spell, wc, wd] using h)
      · rw [joint jd] at h
        have under : c = '_' := by simpa [spell, wc] using h
        exact .inr ⟨under ▸ by decide, jd⟩
      · rw [joint jc] at h
        have under : d = '_' := by simpa [spell, wd] using h.symm
        exact .inr ⟨jc, under ▸ by decide⟩
      · exact .inr ⟨jc, jd⟩
    · rintro (rfl | ⟨jc, jd⟩)
      · rfl
      · rw [joint jc, joint jd]
  have lists : componentIdentifier r = componentIdentifier r' ↔
      r.toList.map spell = r'.toList.map spell := by
    rw [← String.toList_inj, toList_componentIdentifier, toList_componentIdentifier, List.cons.injEq]
    exact and_iff_right rfl
  rw [lists, map_eq_map_iff_zip, Alike, String.length_toList, String.length_toList]
  refine and_congr_right fun _ => forall₂_congr fun p hp => ?_
  obtain ⟨first, second⟩ := List.of_mem_zip hp
  exact same (char_of_reference hr first) (char_of_reference hr' second)

end Spelling

def Request.reference? : Request → Option String
  | .component _ reference => some reference
  | _ => none

theorem Issues.keys_components {E F : Emitter} {es : List Event} (h : Issues E es F) :
    F.components.keys =
      ((es.filterMap Event.request?).filterMap Request.reference?).foldl Emit.addNew E.components.keys := by
  have step {E F : Emitter} {e : Event} (h : e.Enters E F) : F.components.keys =
      (e.request?.bind Request.reference?).toList.foldl Emit.addNew E.components.keys := by
    cases h with
    | component tag reference =>
      change (Emit.component reference E).2.components.keys = Emit.addNew E.components.keys reference
      unfold Emit.component
      cases found : E.components.get? reference with
      | some name =>
        have known : E.components.keys.contains reference :=
          List.contains_iff_mem.mpr (List.mem_map_of_mem (mem_of_get? found))
        rw [Emit.addNew, if_pos known]
      | none =>
        have new := Table.get?_eq_none_iff.mp found
        change (E.components.insert reference _).keys = _
        rw [Table.keys_insert, if_neg new, Emit.addNew, if_neg (by simpa using new)]
    | slot name =>
      rw [slotName_eq]
      rfl
    | loop h l => cases l <;> rfl
    | _ => rfl
  induction h with
  | nil E => rfl
  | @cons E F G e es first rest ih =>
    rw [ih, step first, List.filterMap_filterMap, List.filterMap_filterMap, ← List.foldl_append,
      List.filterMap_eq_flatMap_toList, List.filterMap_eq_flatMap_toList, List.flatMap_cons]

def finalSource (stmts : List Stmt) (name : String) : Option Source :=
  ((programSources stmts).filter (·.1 = name)).getLast?.map Prod.snd

section Binding

variable {config : Config} {E : Emitter} {render : Stmt} {stmts : List Stmt}

theorem filter_programSources (isRender : isRenderFunction render) (formed : E.Formed)
    (h : programStmts config E render = .ok stmts) {p : String → Bool}
    (headed : ∀ name, p name → name.toList.head? = some '_') :
    (programSources stmts).filter (p ·.1) = (E.components.keys.filter (p <| componentIdentifier ·)).map
      fun r => (componentIdentifier r, componentSource config.format r) := by
  obtain ⟨before, after, others, sources, perm, registers, -⟩ := programSources_eq isRender h
  have other {s : String × Source} (hs : s ∈ before ++ after) : s.1.toList.head? ≠ some '_' := by
    have listed := perm.subset hs
    rw [List.mem_append, List.mem_append] at listed
    rcases listed with (hs | hs) | hs
    · rw [registers s hs]
      decide
    · split at hs
      · rw [List.mem_singleton.mp hs]
        decide
      · cases hs
    · obtain ⟨name, hn, rfl⟩ := List.mem_map.mp hs
      rw [List.mem_singleton.mp (formed.runtimeHelpers hn)]
      exact (by decide : sanitizerName.toList.head? ≠ some '_')
  have outside {xs : List (String × Source)} (sub : xs ⊆ before ++ after) : xs.filter (p ·.1) = [] :=
    List.filter_eq_nil_iff.mpr fun s hs is => other (sub hs) (headed s.1 is)
  have entries : componentSources config.format E = E.components.keys.map fun r =>
      (componentIdentifier r, componentSource config.format r) := by
    rw [Table.keys, List.map_map]
    exact List.map_congr_left fun c hc => by rw [formed.components c hc]; rfl
  rw [sources, List.filter_append, List.filter_append,
    outside (List.subset_append_left before after), outside (List.subset_append_right before after),
    List.nil_append, List.append_nil, entries, List.filter_map]
  rfl

/-- The local name of a component is taken from the module of the last reference that has it. -/
theorem finalSource_component (isRender : isRenderFunction render) (formed : E.Formed)
    (h : programStmts config E render = .ok stmts) (reference : String) :
    finalSource stmts (componentIdentifier reference) =
      (E.components.keys.filter (componentIdentifier · = componentIdentifier reference)).getLast?.map
        (componentSource config.format) := by
  have inside := filter_programSources isRender formed h
    (p := fun name => name = componentIdentifier reference)
    fun name is => of_decide_eq_true is ▸ head_componentIdentifier reference
  rw [finalSource, inside, List.getLast?_map, Option.map_map]
  rfl

end Binding

/-- Which classes the custom elements of a program get. -/
structure ClassesResolve (config : Config) (requests : List Request) (dependencies : List String)
    (stmts : List Stmt) (render : Stmt) : Prop where
  /-- The dependencies are the references of the template, in the order of their first use. -/
  order : dependencies = (requests.filterMap Request.reference?).foldl Emit.addNew []
  /-- Every custom element is made with the local name of its own reference. -/
  elements : ((allDemands render).filter (·.caller? = some .customElement)).Perm
    (requests.filterMap Request.element?)
  /-- Two references have one local name exactly if they are alike. -/
  names : ∀ r ∈ dependencies, ∀ r' ∈ dependencies,
    componentIdentifier r = componentIdentifier r' ↔ Alike r r'
  /-- The local name stands for the class of the last reference that is alike. -/
  last : ∀ r ∈ dependencies, finalSource stmts (componentIdentifier r) =
    (dependencies.filter (Alike r)).getLast?.map (componentSource config.format)
  /-- It stands for the class of its own reference exactly if no later reference is alike. -/
  own : ∀ before r after, dependencies = before ++ r :: after →
    (finalSource stmts (componentIdentifier r) = some (componentSource config.format r) ↔
      ∀ r' ∈ after, ¬ Alike r r')

theorem getLast?_filter_eq_some {α : Type} {p : α → Bool} {before after : List α} {x : α} (hx : p x)
    (nodup : (before ++ x :: after).Nodup) :
    ((before ++ x :: after).filter p).getLast? = some x ↔ ∀ y ∈ after, ¬ p y := by
  have fresh : x ∉ after := (List.nodup_cons.mp nodup.of_append_right).1
  rw [List.filter_append, List.filter_cons_of_pos hx, ← List.filter_eq_nil_iff]
  cases kept : after.filter p with
  | nil => simp
  | cons y ys =>
    rw [List.getLast?_append_cons, List.getLast?_cons_cons, ← kept]
    refine ⟨fun last => absurd (List.mem_of_mem_filter (List.mem_of_getLast? last)) fresh, fun none => ?_⟩
    rw [none] at kept
    cases kept

theorem dependencies_of_generate {config : Config} {root : Node} {program : Program} {d : Draft}
    (h : (generate config root).1 = .ok program) (hd : draft? config root = some d) :
    program.dependencies = d.emitter.components.keys := by
  obtain ⟨x, t, run, print, -⟩ := runs_of_generate h
  obtain ⟨d', hd', rfl, emitter, -⟩ := runs_render run
  obtain rfl : d' = d := Option.some.inj (hd'.symm.trans hd)
  rw [← emitter]
  exact (stmts_of_printed print).2

/-- Custom elements are made with the local names of their references, and a local name stands for the
class of the last reference that is spelled alike. -/
theorem custom_elements_resolve {config : Config} {root : Node} {compiled : Compiled}
    (h : (compile config root).1 = .ok compiled) :
    ∃ render, renderOf compiled.program.stmts = some render ∧
      ClassesResolve config (Node.requestsAll [] root.content) compiled.program.dependencies
        compiled.program.stmts render := by
  obtain ⟨d, es, hd, hr, program, made, issued⟩ := issued_of_compile h
  have dependencies := dependencies_of_generate (generate_of_compile h) hd
  have isRender : isRenderFunction d.finished := by
    simp [Draft.finished, Draft.stmt, Stmt.substitute, isRenderFunction]
  have issues := issued.issues
  have order := issues.keys_components
  rw [issued.requests] at order
  have names : ∀ r ∈ d.emitter.components.keys, ∀ r' ∈ d.emitter.components.keys,
      componentIdentifier r = componentIdentifier r' ↔ Alike r r' := fun r hr r' hr' =>
    componentIdentifier_eq_iff (made.references r hr) (made.references r' hr')
  have last : ∀ r ∈ d.emitter.components.keys, finalSource compiled.program.stmts (componentIdentifier r) =
      (d.emitter.components.keys.filter (Alike r)).getLast?.map (componentSource config.format) := by
    intro r hr
    rw [finalSource_component isRender made.formed program]
    congr 2
    refine List.filter_congr fun r' hr' => ?_
    rw [decide_eq_decide, ← names r hr r' hr', eq_comm]
  rw [dependencies]
  refine ⟨d.finished, hr, order, ?_, names, last, ?_⟩
  · refine (issued.perm_caller made (.inr rfl)).trans ?_
    rw [filter_customElement (issues.spelled Emitter.formed_empty), issued.requests]
  · intro before r after split
    have keys : d.emitter.components.keys.Nodup :=
      issues.keeps (P := fun E => E.components.keys.Nodup) (fun step => step.nodup_components) List.nodup_nil
    have hr : r ∈ d.emitter.components.keys := by
      rw [split]
      simp
    have self : Alike r r := (names r hr r hr).mp rfl
    rw [last r hr, split]
    rw [split] at keys
    have same : ((before ++ r :: after).filter (Alike r)).getLast?.map (componentSource config.format) =
        some (componentSource config.format r) ↔ ((before ++ r :: after).filter (Alike r)).getLast? = some r := by
      constructor
      · intro found
        obtain ⟨r', hr', source⟩ := Option.map_eq_some_iff.mp found
        obtain ⟨mem, alike⟩ := List.mem_filter.mp (List.mem_of_getLast? hr')
        have name := (names r hr r' (split ▸ mem)).mpr (of_decide_eq_true alike)
        rwa [componentSource_injective name.symm source] at hr'
      · intro found
        rw [found, Option.map_some]
    rw [same, getLast?_filter_eq_some (p := fun r' => decide (Alike r r')) (decide_eq_true self) keys]
    simp only [decide_eq_true_eq]

/-- Two components whose references differ in a dot. -/
def twinComponents : Node :=
  .root [.element { Element.ofTag "x-one" with kind := .component "a.b:C" } [],
    .element { Element.ofTag "x-two" with kind := .component "a_b:C" } []]

theorem twinComponents_resolve : ∃ compiled, (compile .default twinComponents).1 = .ok compiled ∧
    ∃ render, renderOf compiled.program.stmts = some render ∧
      ClassesResolve .default (Node.requestsAll [] twinComponents.content) compiled.program.dependencies
        compiled.program.stmts render := by
  have ok : (compile .default twinComponents).1.isOk := by decide +kernel
  obtain ⟨compiled, h⟩ := exists_of_isOk ok
  exact ⟨compiled, h, custom_elements_resolve h⟩

/-- The two references have one local name, which stands for the class of the second. -/
theorem twinComponents_share_class :
    ∃ compiled, (compile { Config.default with format := .function } twinComponents).1 = .ok compiled ∧
      compiled.program.dependencies = ["a.b:C", "a_b:C"] ∧
      componentIdentifier "a.b:C" = componentIdentifier "a_b:C" ∧
      finalSource compiled.program.stmts (componentIdentifier "a.b:C") =
        some (componentSource .function "a_b:C") := by
  have found : ((compile { Config.default with format := .function } twinComponents).1.toOption.map
      fun c => (c.program.dependencies, finalSource c.program.stmts (componentIdentifier "a.b:C"))) =
      some (["a.b:C", "a_b:C"], some (componentSource .function "a_b:C")) := by
    decide +kernel
  obtain ⟨compiled, ok, facts⟩ := Option.map_eq_some_iff.mp found
  obtain ⟨dependencies, source⟩ := Prod.mk.inj facts
  have h : (compile { Config.default with format := .function } twinComponents).1 = .ok compiled := by
    cases hc : (compile { Config.default with format := .function } twinComponents).1 with
    | error fault =>
      rw [hc] at ok
      cases ok
    | ok c =>
      rw [hc] at ok
      cases ok
      rfl
  exact ⟨compiled, h, dependencies, by decide +kernel, source⟩

end TemplateCompiler.Generate
