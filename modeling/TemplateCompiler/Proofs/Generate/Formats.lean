import TemplateCompiler.Load.Registry
import TemplateCompiler.Proofs.Generate.Components
import TemplateCompiler.Proofs.Template.References

/-!
The two formats of a program agree. The importable module and the factory have the same render function
and the same dependencies, and take the same components under the same names. A reference is split in one
way, and its class is found in one step from its module, whether it is imported or looked up.
-/

namespace TemplateCompiler.Code

def Stmt.Printable (s : Stmt) : Prop := s.lines.isOk

theorem Stmt.printable_importFrom (moduleName : String) (names : List (String × Option String)) :
    (Stmt.importFrom moduleName names).Printable := rfl

theorem Stmt.linesAll_isOk {ss : List Stmt} : (Stmt.linesAll ss).isOk ↔ ∀ s ∈ ss, s.Printable := by
  induction ss with
  | nil => simp [Stmt.linesAll, Except.isOk, Except.toBool]
  | cons s ss ih =>
    rw [List.forall_mem_cons, ← ih, Stmt.Printable, Stmt.linesAll]
    cases s.lines with
    | error fault => simp [bind, Except.bind, Except.isOk, Except.toBool]
    | ok lines =>
      cases Stmt.linesAll ss with
      | error fault => simp [bind, Except.bind, Except.isOk, Except.toBool]
      | ok others => simp [bind, Except.bind, pure, Except.pure, Except.isOk, Except.toBool]

theorem Stmt.printable_function {name : String} {signature : Signature} {body : List Stmt} :
    (Stmt.function name signature body).Printable ↔ ∀ s ∈ body, s.Printable := by
  rw [← Stmt.linesAll_isOk, Stmt.Printable, Stmt.lines]
  cases Stmt.linesAll body <;> rfl

theorem Stmt.text_isOk {ss : List Stmt} : (Stmt.text ss).isOk ↔ ∀ s ∈ ss, s.Printable := by
  rw [← Stmt.linesAll_isOk, Stmt.text]
  cases Stmt.linesAll ss with
  | error fault => rfl
  | ok lines =>
    simp only [bind, Except.bind]
    split <;> rfl

end TemplateCompiler.Code

namespace TemplateCompiler.Generate

open TemplateCompiler.Code TemplateCompiler.Scope TemplateCompiler.Template

section Lowering

variable (config : Config) (format : OutputFormat)

theorem attributeValue_format : attributeValue { config with format := format } = attributeValue config := rfl

theorem dataBag_format : dataBag { config with format := format } = dataBag config := by
  funext e locals
  rw [dataBag, dataBag, attributeValue_format]

theorem makeElement_format : makeElement { config with format := format } = makeElement config := by
  funext e children locals
  rw [makeElement, makeElement, dataBag_format]

theorem makeConditional_format :
    makeConditional { config with format := format } = makeConditional config := by
  funext e children locals
  rw [makeConditional, makeConditional, makeElement_format]
  rfl

theorem lowerElement_format : lowerElement { config with format := format } = lowerElement config := by
  funext e conditional children locals
  have make (c : Prop) [Decidable c] :
      (if c then makeConditional else makeElement) { config with format := format } =
        (if c then makeConditional else makeElement) config := by
    split
    · exact makeConditional_format config format
    · exact makeElement_format config format
  simp only [lowerElement, make]

theorem lowerFragment_format (e : Element) (children : Siblings) :
    lowerFragment { config with format := format } e children = lowerFragment config e children := rfl

theorem lowerBranch_format : lowerBranch { config with format := format } = lowerBranch config := by
  funext e children locals
  rw [lowerBranch, lowerBranch, lowerElement_format]

theorem applyIf_format : applyIf { config with format := format } = applyIf config := rfl

mutual

theorem lower_format : ∀ b : Block, lower { config with format := format } b = lower config b
  | .text _ | .dynamicText _ | .comment _ | .bare _ => by
    funext locals
    simp only [lower]
  | .element e children => by
    funext locals
    simp only [lower, lowerAll_format children, lowerElement_format, lowerFragment_format]
  | .chain members => by
    funext locals
    simp only [lower, lowerChain_format members]
  | .stray [] => by
    funext locals
    simp only [lower]
  | .stray (b :: bs) => by
    funext locals
    cases b <;> simp only [lower]

theorem lowerAll_format : ∀ bs : List Block,
    lowerAll { config with format := format } bs = lowerAll config bs
  | [] => by
    funext locals
    simp only [lowerAll]
  | b :: bs => by
    funext locals
    simp only [lowerAll, lower_format b, lowerAll_format bs]

theorem lowerChain_format : ∀ members : List Block,
    lowerChain { config with format := format } members = lowerChain config members
  | .element e children :: rest => by
    funext locals
    simp only [lowerChain, lowerBranch_format, lowerAll_format children, lowerChain_format rest,
      applyIf_format]
  | [] | .text _ :: _ | .dynamicText _ :: _ | .comment _ :: _ | .bare _ :: _ | .chain _ :: _
  | .stray _ :: _ => by
    funext locals
    simp only [lowerChain]

end

theorem lowerRoot_format (children : List Node) :
    lowerRoot { config with format := format } children = lowerRoot config children := by
  rw [lowerRoot, lowerRoot, lowerAll_format]

theorem render_format (root : Node) :
    render { config with format := format } root = render config root := by
  cases root with
  | element e children => simp only [render, lowerRoot_format]
  | _ => rfl

end Lowering

section Acceptance

variable {config : Config} {E : Emitter} {x : Stmt}

theorem printable_moduleLookup (name key : String) : (moduleLookup name key).Printable := rfl

theorem printable_stylesheetsStmt : stylesheetsStmt.Printable := rfl

theorem printable_namespaceImport {s : Stmt} (h : s ∈ namespaceImport E) : s.Printable := by
  unfold namespaceImport at h
  split at h
  · rw [List.mem_singleton.mp h]
    rfl
  · cases h

theorem codeOf_isOk {ss : List Stmt} : (codeOf ss).isOk ↔ ∀ s ∈ ss, s.Printable := by
  rw [← Stmt.text_isOk, codeOf]
  cases Stmt.text ss <;> rfl

theorem printable_moduleStmts {runtimeModule : String} :
    (∀ s ∈ moduleStmts runtimeModule E x, s.Printable) ↔ x.Printable := by
  have register : (Stmt.assign (.own "template")
      (.apply (.own "register_template") [.own renderName])).Printable := rfl
  refine ⟨fun all => all x (by simp [moduleStmts]), fun printable s hs => ?_⟩
  simp only [moduleStmts, List.mem_append, List.mem_cons, List.mem_map, List.not_mem_nil, or_false] at hs
  rcases hs with ((hs | rfl) | ⟨c, -, rfl⟩) | rfl | rfl | rfl
  · exact printable_namespaceImport hs
  · exact Stmt.printable_importFrom _ _
  · exact Stmt.printable_importFrom _ _
  · exact printable
  · exact printable_stylesheetsStmt
  · exact register

theorem printable_factoryStmt {runtimeModule : Data} :
    (factoryStmt runtimeModule E x).Printable ↔ x.Printable := by
  have result : (Stmt.ret (.own renderName)).Printable := rfl
  rw [factoryStmt, Stmt.printable_function]
  refine ⟨fun all => all x (by simp), fun printable s hs => ?_⟩
  simp only [List.mem_append, List.mem_cons, List.mem_map, List.not_mem_nil, or_false] at hs
  rcases hs with ((hs | ⟨c, -, rfl⟩) | ⟨h, -, rfl⟩) | rfl | rfl | rfl
  · exact printable_namespaceImport hs
  · exact printable_moduleLookup _ _
  · exact printable_moduleLookup _ _
  · exact printable
  · exact printable_stylesheetsStmt
  · exact result

/-- A factory needs only a render function that has a text, a module also a runtime module to import. -/
theorem printed_isOk : (printed config E x).isOk ↔
    (config.format = .module → config.runtimeModule.text?.isSome) ∧ x.Printable := by
  have stmts {ss : List Stmt} (h : programStmts config E x = .ok ss) :
      (printed config E x).isOk ↔ ∀ s ∈ ss, s.Printable := by
    rw [← codeOf_isOk, printed, h]
    cases hc : codeOf ss <;>
      simp [hc, Bind.bind, Except.bind, pure, Except.pure, Except.isOk, Except.toBool]
  cases hf : config.format with
  | function =>
    have h : programStmts config E x = .ok [factoryStmt config.runtimeModule E x] := by
      rw [programStmts, hf]
    rw [stmts h, List.forall_mem_singleton, printable_factoryStmt]
    simp
  | module =>
    cases hm : config.runtimeModule with
    | text runtimeModule =>
      have h : programStmts config E x = .ok (moduleStmts runtimeModule E x) := by
        rw [programStmts, hf, hm]
      rw [stmts h, printable_moduleStmts]
      simp [Data.text?]
    | _ =>
      have h : programStmts config E x = .error .moduleNotText := by
        rw [programStmts, hf, hm]
      simp [printed, h, Bind.bind, Except.bind, Except.isOk, Except.toBool, Data.text?]

theorem generate_isOk {root : Node} : (generate config root).1.isOk ↔
    ∃ x t, Runs (render config root) .initial x t ∧ (printed config t.emitter x).isOk := by
  constructor
  · intro ok
    obtain ⟨program, h⟩ := exists_of_isOk ok
    obtain ⟨x, t, run, print, -⟩ := runs_of_generate h
    exact ⟨x, t, run, by rw [print]; rfl⟩
  · rintro ⟨x, t, run, ok⟩
    obtain ⟨program, print⟩ := exists_of_isOk ok
    have result : (generate config root).1 = .ok program := congrArg Prod.fst (runs_program.mpr ⟨x, run, print⟩)
    rw [result]
    rfl

theorem compile_isOk {root : Node} : (compile config root).1.isOk ↔
    root.validate config.name = .ok () ∧ (generate config root).1.isOk := by
  unfold compile
  split
  · next e invalid => simp [invalid, Except.isOk, Except.toBool]
  · next valid =>
    rw [valid]
    split
    · next e log hg => simp [hg, Except.isOk, Except.toBool]
    · next program log hg => simp [hg, Except.isOk, Except.toBool]

/-- A template that is accepted for a module is accepted for a factory, and the other way around if there
is a runtime module to import. -/
theorem compile_format_isOk (config : Config) (root : Node) :
    (compile { config with format := .module } root).1.isOk ↔
      (compile { config with format := .function } root).1.isOk ∧ config.runtimeModule.text?.isSome := by
  simp only [compile_isOk, generate_isOk, render_format, printed_isOk, forall_const, reduceCtorEq,
    false_implies, true_and]
  tauto

end Acceptance

/-- What a program takes from modules for its components, in the order of its statements. -/
def componentBindings (program : Program) : List (String × Source) :=
  (programSources program.stmts).filter (·.1 ∈ program.dependencies.map componentIdentifier)

structure FormatsAgree (importable factory : Program) : Prop where
  render : ∃ render, renderOf importable.stmts = some render ∧ renderOf factory.stmts = some render
  dependencies : importable.dependencies = factory.dependencies
  /-- One takes each component from its module, the other from the table, in one order and under one
  name. -/
  imports : componentBindings importable = importable.dependencies.map fun r =>
    (componentIdentifier r, .imported (splitReference r).1 (splitReference r).2)
  lookups : componentBindings factory = importable.dependencies.map fun r =>
    (componentIdentifier r, .found (.str r))

theorem componentBindings_of_compile {config : Config} {root : Node} {compiled : Compiled}
    (h : (compile config root).1 = .ok compiled) :
    componentBindings compiled.program = compiled.program.dependencies.map fun r =>
      (componentIdentifier r, componentSource config.format r) := by
  obtain ⟨d, es, hd, hr, program, made, issued⟩ := issued_of_compile h
  have isRender : isRenderFunction d.finished := by
    simp [Draft.finished, Draft.stmt, Stmt.substitute, isRenderFunction]
  have headed (name : String) (h : decide (name ∈ d.emitter.components.keys.map componentIdentifier)) :
      name.toList.head? = some '_' := by
    obtain ⟨r, -, rfl⟩ := List.mem_map.mp (of_decide_eq_true h)
    exact head_componentIdentifier r
  rw [componentBindings, dependencies_of_generate (generate_of_compile h) hd,
    filter_programSources isRender made.formed program headed]
  congr 1
  exact List.filter_eq_self.mpr fun r hr => decide_eq_true (List.mem_map_of_mem hr)

theorem formatsAgree {config : Config} {root : Node} {importable factory : Compiled}
    (hm : (compile { config with format := .module } root).1 = .ok importable)
    (hf : (compile { config with format := .function } root).1 = .ok factory) :
    FormatsAgree importable.program factory.program := by
  have drafts (format : OutputFormat) : draft? { config with format := format } root = draft? config root := by
    cases root with
    | element e children => simp only [draft?, lowerRoot_format]
    | _ => rfl
  obtain ⟨d, hd, render, -⟩ := draft_of_generate (generate_of_compile hm)
  obtain ⟨d', hd', render', -⟩ := draft_of_generate (generate_of_compile hf)
  have dependencies := dependencies_of_generate (generate_of_compile hm) hd
  have dependencies' := dependencies_of_generate (generate_of_compile hf) hd'
  rw [drafts] at hd hd'
  obtain rfl : d = d' := Option.some.inj (hd.symm.trans hd')
  have same := dependencies.trans dependencies'.symm
  refine ⟨⟨d.finished, render, render'⟩, same, componentBindings_of_compile hm, ?_⟩
  rw [same]
  exact componentBindings_of_compile hf

end TemplateCompiler.Generate

namespace TemplateCompiler.Load

open TemplateCompiler.Template TemplateCompiler.Text TemplateCompiler.Generate

def Library.attributeOf (lib : Library) (moduleName attr : String) : Except ImportFault Entity := do
  let imported ← lib.importModule moduleName
  match imported.get? attr with
  | some e => .ok e
  | none => .error (.missingInModule moduleName attr)

theorem Library.dottedParts_singleton {s : String} (h : '.' ∉ s.toList) : Library.dottedParts s = [s] := by
  have whole : (['.'].intercalate [s.toList]).splitOn '.' = [s.toList] :=
    List.splitOn_intercalate '.' (by simpa using h) (by simp)
  rw [List.intercalate_singleton] at whole
  rw [Library.dottedParts, whole, List.map_singleton, String.ofList_toList]

/-- What importing a reference gives, if its first half is a module and its second half a name. -/
theorem Library.importReference_halves (lib : Library) {m a : String} (hm : m ≠ "") (ha : a ≠ "")
    (colon : ':' ∉ m.toList) (dot : '.' ∉ a.toList) :
    lib.importReference (m ++ ":" ++ a) = lib.attributeOf m a := by
  have divided : (m ++ ":" ++ a).toList.contains ':' := by
    rw [toList_halves]
    simp
  unfold importReference attributeOf
  rw [splitReference_halves colon]
  simp only [divided, hm, ha, dottedParts_singleton dot, Bool.not_true, decide_false,
    Bool.or_self, Bool.false_eq_true, if_false]
  rfl

/-- A reference is split in one way, and leads to its class in one step. -/
structure ResolvesInOneStep (reference : String) (moduleName attr : String) : Prop where
  split : splitReference reference = (moduleName, attr)
  whole : reference = moduleName ++ ":" ++ attr
  hasModule : moduleName ≠ ""
  hasAttr : attr ≠ ""
  imported : ∀ lib : Library, lib.importReference reference = lib.attributeOf moduleName attr
  found : ∀ (lib : Library) (r : Registry), r.contains reference = false →
    (r.lookup lib reference).1 = lib.attributeOf moduleName attr

theorem lookup_missing {r : Registry} {reference : String} (h : r.contains reference = false)
    (lib : Library) : (r.lookup lib reference).1 = lib.importReference reference := by
  have missing : r.entries.get? reference = none :=
    Option.isNone_iff_eq_none.mp (Option.isSome_eq_false_iff.mp h)
  rw [Registry.lookup, Registry.lookupBy, missing]
  cases lib.importReference reference <;> simp

theorem resolvesInOneStep {reference : String} (h : isComponentReference reference) :
    ∃ moduleName attr, ResolvesInOneStep reference moduleName attr := by
  obtain ⟨m, a, rfl, loose, looseClass⟩ := isComponentReference_iff.mp h
  have colon := colon_notMem_looseModule loose
  have hm : m ≠ "" := by
    rintro rfl
    obtain ⟨c, cs, empty, -⟩ := loose
    cases empty
  have ha : a ≠ "" := by
    rintro rfl
    obtain ⟨c, cs, ending, empty, -⟩ := looseClass
    cases empty
  have dot : '.' ∉ a.toList := by
    obtain ⟨c, cs, ending, whole, start, words, ends⟩ := looseClass
    rw [whole, List.mem_cons, List.mem_append]
    rintro (rfl | hc | hc)
    · exact absurd start (by decide)
    · exact absurd (words '.' hc) (by decide)
    · rcases ends with rfl | rfl
      · cases hc
      · exact absurd hc (by decide)
  have imported (lib : Library) := lib.importReference_halves hm ha colon dot
  exact ⟨m, a, splitReference_halves colon a, rfl, hm, ha, imported, fun lib r missing =>
    (lookup_missing missing lib).trans (imported lib)⟩

end TemplateCompiler.Load

namespace TemplateCompiler.Generate

open TemplateCompiler.Template TemplateCompiler.Load

/-- A template is accepted for a factory whenever it is for a module. Both programs have the same render
function and dependencies and take the same components under the same names, and every accepted reference
leads to the same attribute of the same module. -/
theorem formats_agree (config : Config) (root : Node) :
    ((compile { config with format := .module } root).1.isOk ↔
      (compile { config with format := .function } root).1.isOk ∧ config.runtimeModule.text?.isSome) ∧
    (∀ importable factory, (compile { config with format := .module } root).1 = .ok importable →
      (compile { config with format := .function } root).1 = .ok factory →
        FormatsAgree importable.program factory.program) ∧
    ∀ reference, isComponentReference reference →
      ∃ moduleName attr, ResolvesInOneStep reference moduleName attr :=
  ⟨compile_format_isOk config root, fun _ _ => formatsAgree, fun _ => resolvesInOneStep⟩

theorem twinComponents_agree : ∃ importable factory,
    (compile { Config.default with format := .module } twinComponents).1 = .ok importable ∧
    (compile { Config.default with format := .function } twinComponents).1 = .ok factory ∧
    FormatsAgree importable.program factory.program ∧
    ∃ moduleName attr, ResolvesInOneStep "a.b:C" moduleName attr := by
  have module : (compile { Config.default with format := .module } twinComponents).1.isOk := by
    decide +kernel
  obtain ⟨accepted, agree, resolve⟩ := formats_agree .default twinComponents
  obtain ⟨importable, hm⟩ := exists_of_isOk module
  obtain ⟨factory, hf⟩ := exists_of_isOk (accepted.mp module).1
  exact ⟨importable, factory, hm, hf, agree importable factory hm hf, resolve "a.b:C" (by decide)⟩

end TemplateCompiler.Generate
