import TemplateCompiler.Compile
import TemplateCompiler.Proofs.Generate.LoweringAccounts
import TemplateCompiler.Proofs.Scope.Hoisting

/-!
The draft of a render function: what lowering a template gives, before it is decided where properties are
read. The finished render function is the draft with every undecided read replaced by its decision.
-/

namespace TemplateCompiler.Template

open TemplateCompiler.Code

def Element.ofTag (tag : String) : Element where
  position := ⟨0, 0⟩
  kind := .plain
  tag := tag
  namespaceName := htmlNamespace
  attrs := .empty
  props := .empty
  handlers := .empty
  className := none
  classMap := .empty
  style := none
  styleMap := .empty
  branch := none
  forEach := none
  forOf := none
  key := none
  dynamic := none
  dom := none

def Node.root (children : List Node) : Node := .element (.ofTag "template") children

def Node.show (value : Expr) : Node := .dynamicText ⟨0, 0⟩ value

end TemplateCompiler.Template

namespace TemplateCompiler.Generate

open TemplateCompiler.Code TemplateCompiler.Scope TemplateCompiler.Template

structure Draft where
  /-- The scopes with the reads that they recorded. -/
  tree : Tree
  emitter : Emitter
  /-- The expression for the nodes of the root. -/
  root : Expr

/-- Lowers a template. -/
def draft? (config : Config) (root : Node) : Option Draft :=
  match root with
  | .element _ children =>
    match (lowerRoot config children).run.run .initial with
    | (.ok x, s) => some ⟨s.context.tree, s.emitter, x⟩
    | _ => none
  | _ => none

theorem walked_of_draft {U : Uses} {config : Config} {e : Element} {children : List Node} {d : Draft}
    (hu : BlocksUse U [] (Block.arrange (Block.ofNodes children)))
    (h : draft? config (.element e children) = some d) :
    ∃ t r cs, Walked U [] [] .initial t cs [d.root]
        (Block.numberedAll (Block.arrange (Block.ofNodes children)))
        (Block.requestsAll [] (Block.arrange (Block.ofNodes children))) (fun L =>
          BlocksShape L config (Block.arrange (Block.ofNodes children)) 0 0 [] r cs ∧ Packed L r d.root) ∧
      d.emitter = t.emitter ∧ d.tree = .node t.context.current.region cs := by
  unfold draft? at h
  simp only at h
  split at h
  · next x t ht =>
    cases h
    obtain ⟨r, cs, walked⟩ := walked_lowerRoot hu ht
    have outer : t.context.outer = [] := walked.walks.outer
    have held : t.context.current.children = cs := walked.walks.children
    refine ⟨t, r, cs, walked, rfl, ?_⟩
    rw [Context.tree, outer, ← held]
    rfl
  · cases h

namespace Draft

def stmt (d : Draft) : Stmt :=
  .function renderName renderSignature (renderBody d.emitter (d.tree.collect.leading []) d.root)

def decision (d : Draft) : Placeholder → Expr := (d.tree.collect.decide []).target

def finished (d : Draft) : Stmt := d.stmt.substitute d.decision

end Draft

def innerStmts : Stmt → List Stmt
  | .function _ _ body => body
  | _ => []

def isRenderFunction : Stmt → Bool
  | .function name _ _ => name == renderName
  | _ => false

/-- The render function of a program: a statement of its own, or one inside a factory. -/
def renderOf (stmts : List Stmt) : Option Stmt :=
  (stmts ++ stmts.flatMap innerStmts).find? isRenderFunction

section

variable {s t : WalkState}

theorem runs_lift {α : Type} {x : Except Failure α} {a : α} :
    Runs (liftM x : WalkM α) s a t ↔ x = .ok a ∧ t = s := by
  cases x with
  | error e =>
    have run : (liftM (Except.error e : Except Failure α) : WalkM α).run.run s = (.error e, s) := rfl
    simp only [reduceCtorEq, false_and, iff_false]
    exact not_runs_of_error run
  | ok b =>
    have run : (liftM (Except.ok b : Except Failure α) : WalkM α).run.run s = (.ok b, s) := rfl
    rw [runs_iff_of_ok run, Except.ok.injEq]
    exact and_congr_left' eq_comm

theorem runs_note {entry : LogEntry} {u : Unit} :
    Runs (Walk.note entry) s u t ↔ t = { s with log := s.log ++ [entry] } := by
  have run : (Walk.note entry).run.run s = (.ok (), { s with log := s.log ++ [entry] }) := rfl
  rw [runs_iff_of_ok run]
  simp

theorem runs_noteAll {l : List (Nat × List String)} {u : PUnit}
    (h : Runs (forIn l PUnit.unit fun x _ => do
      Walk.note (.hoisted x.1 x.2)
      pure (ForInStep.yield PUnit.unit)) s u t) : t.emitter = s.emitter := by
  induction l generalizing s with
  | nil =>
    rw [List.forIn_nil] at h
    obtain ⟨-, rfl⟩ := runs_pure.mp h
    rfl
  | cons x l ih =>
    rw [List.forIn_cons] at h
    obtain ⟨step, s1, h1, h2⟩ := runs_bind.mp h
    obtain ⟨_, s2, h3, h4⟩ := runs_bind.mp h1
    obtain ⟨rfl, rfl⟩ := runs_pure.mp h4
    obtain rfl := runs_note.mp h3
    exact (ih h2 :)

/-- What finishing a draft gives and leaves. -/
def Draft.Finishes (d : Draft) (x : Stmt) (t : WalkState) : Prop :=
  x = d.finished ∧ t.emitter = d.emitter ∧ ∃ stmts count,
    (d.tree.collect.decide []).resolve [d.stmt] = .ok (stmts, count) ∧
    .resolved count d.tree.collect.regions.length ∈ t.log

theorem runs_renderFunction {root : Expr} {x : Stmt} (h : Runs (renderFunction root) s x t) :
    (Draft.mk s.context.tree s.emitter root).Finishes x t := by
  obtain ⟨s0, s1, h0, h1⟩ := runs_bind.mp h
  obtain ⟨rfl, rfl⟩ := runs_get.mp h0
  simp only at h1
  split at h1
  · exact absurd h1 not_runs_throw
  · next leading hl =>
    have hleading : leading = s1.context.tree.collect.leading [] := by
      unfold Tree.dump at hl
      split at hl
      · cases hl
      · exact (Except.ok.inj hl).symm
    subst hleading
    obtain ⟨_, s2, h2, h3⟩ := runs_bind.mp h1
    have same := runs_noteAll h2
    split at h3
    · exact absurd h3 not_runs_throw
    · next stmts count hres =>
      obtain ⟨_, s3, h4, h5⟩ := runs_bind.mp h3
      obtain rfl := runs_note.mp h4
      obtain ⟨rfl, rfl⟩ := runs_pure.mp h5
      have resolved := hres
      unfold Tree.resolve at hres
      split at hres
      · cases hres
      · obtain ⟨rfl, -⟩ := Prod.mk.inj (Except.ok.inj hres)
        exact ⟨rfl, same, _, count, resolved, by simp⟩

end

theorem renderOf_programStmts {config : Config} {emitter : Emitter} {signature : Signature}
    {body stmts : List Stmt}
    (h : programStmts config emitter (.function renderName signature body) = .ok stmts) :
    renderOf stmts = some (.function renderName signature body) := by
  have imports : (namespaceImport emitter).find? isRenderFunction = none := by
    unfold namespaceImport
    split <;> rfl
  unfold programStmts at h
  split at h
  · cases h
    have components : (emitter.components.entries.map fun c => moduleLookup c.2 c.1).find?
        isRenderFunction = none := by
      simp [List.find?_eq_none, moduleLookup, isRenderFunction]
    have helpers : ∀ key : String → String, (emitter.runtimeHelpers.map fun h =>
        moduleLookup h (key h)).find? isRenderFunction = none := by
      simp [List.find?_eq_none, moduleLookup, isRenderFunction]
    have factory : (factoryName == renderName) = false := by decide
    simp [renderOf, factoryStmt, innerStmts, isRenderFunction, List.find?_append, imports,
      components, helpers, factory]
  · cases h
    have components : (emitter.components.entries.map fun c => componentImport c.1 c.2).find?
        isRenderFunction = none := by
      simp [List.find?_eq_none, componentImport, isRenderFunction]
    simp [renderOf, moduleStmts, isRenderFunction, List.find?_append, imports, components]
  · cases h

theorem runs_render {config : Config} {root : Node} {x : Stmt} {t : WalkState}
    (h : Runs (render config root) .initial x t) :
    ∃ d, draft? config root = some d ∧ d.Finishes x t := by
  unfold render at h
  split at h
  · next e children =>
    obtain ⟨y, s1, h1, h2⟩ := runs_bind.mp h
    refine ⟨⟨s1.context.tree, s1.emitter, y⟩, ?_, runs_renderFunction h2⟩
    have lowered : (lowerRoot config children).run.run .initial = (.ok y, s1) := h1
    simp only [draft?, lowered]
  · exact absurd h not_runs_throw

theorem runs_program {config : Config} {root : Node} {program : Program} {s t : WalkState} :
    Runs (Generate.program config root) s program t ↔
      ∃ x, Runs (render config root) s x t ∧ printed config t.emitter x = .ok program := by
  constructor
  · intro h
    obtain ⟨x, s1, h1, hr1⟩ := runs_bind.mp h
    obtain ⟨s2, _, h2, hr2⟩ := runs_bind.mp hr1
    obtain ⟨rfl, rfl⟩ := runs_get.mp h2
    obtain ⟨print, rfl⟩ := runs_lift.mp hr2
    exact ⟨x, h1, print⟩
  · rintro ⟨x, h, print⟩
    exact runs_bind.mpr ⟨x, t, h, runs_bind.mpr ⟨t, t, runs_get.mpr ⟨rfl, rfl⟩, runs_lift.mpr ⟨print, rfl⟩⟩⟩

theorem runs_of_generate {config : Config} {root : Node} {program : Program}
    (h : (generate config root).1 = .ok program) :
    ∃ x t, Runs (render config root) .initial x t ∧ printed config t.emitter x = .ok program ∧
      t.log = (generate config root).2 := by
  obtain ⟨x, run, print⟩ := runs_program.mp
    (show Runs (Generate.program config root) .initial program _ from Prod.ext h rfl)
  exact ⟨x, _, run, print, rfl⟩

theorem stmts_of_printed {config : Config} {emitter : Emitter} {render : Stmt} {program : Program}
    (h : printed config emitter render = .ok program) :
    programStmts config emitter render = .ok program.stmts ∧
      program.dependencies = emitter.components.keys := by
  unfold printed at h
  cases hs : programStmts config emitter render with
  | error e =>
    rw [hs] at h
    cases h
  | ok stmts =>
    rw [hs] at h
    change (codeOf stmts >>= fun code => _) = _ at h
    cases hc : codeOf stmts with
    | error e =>
      rw [hc] at h
      cases h
    | ok code =>
      rw [hc] at h
      cases h
      exact ⟨rfl, rfl⟩

/-- A program is generated from a draft, and its render function is the finished draft. -/
theorem draft_of_generate {config : Config} {root : Node} {program : Program}
    (h : (generate config root).1 = .ok program) :
    ∃ d, draft? config root = some d ∧ renderOf program.stmts = some d.finished ∧
      programStmts config d.emitter d.finished = .ok program.stmts := by
  obtain ⟨x, t, run, print, -⟩ := runs_of_generate h
  obtain ⟨d, hd, rfl, same, -⟩ := runs_render run
  have stmts := (stmts_of_printed print).1
  rw [same] at stmts
  exact ⟨d, hd, renderOf_programStmts stmts, stmts⟩

theorem exists_of_isOk {ε α : Type} {x : Except ε α} (h : x.isOk) : ∃ a, x = .ok a := by
  cases x with
  | ok a => exact ⟨a, rfl⟩
  | error e => cases h

theorem validate_of_compile {config : Config} {root : Node} {compiled : Compiled}
    (h : (compile config root).1 = .ok compiled) : root.validate config.name = .ok () := by
  unfold compile at h
  split at h
  · cases h
  · assumption

theorem generate_of_compile {config : Config} {root : Node} {compiled : Compiled}
    (h : (compile config root).1 = .ok compiled) :
    (generate config root).1 = .ok compiled.program := by
  unfold compile at h
  split at h
  · cases h
  · split at h
    · cases h
    · next program log hg =>
      cases h
      rw [hg]

end TemplateCompiler.Generate
