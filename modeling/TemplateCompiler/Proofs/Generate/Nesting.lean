import TemplateCompiler.Proofs.Generate.Draft

/-!
Scopes and functions. The functions of a render function stand in its code as the scopes stand in their
tree: every scope has one function, inside the functions of the scopes around it. `Nested` tells what is
known of a scope with those around it; all statements about the code of a function follow from it.
-/

namespace TemplateCompiler.Generate

open TemplateCompiler.Code TemplateCompiler.Scope TemplateCompiler.Template

namespace Draft

/-- All scopes, each before those below it and with those around it. -/
def scopes (d : Draft) : List (List Spot × Spot) := d.tree.spots [] []

/-- The function of a scope with undecided reads. Only the root has no helper. -/
def function (d : Draft) (p : Spot) : Function :=
  match p.region.helper with
  | some helper => ⟨p.region.helperName, helper.signature, p.leading ++ helper.body⟩
  | none => ⟨renderName, renderSignature, renderBody d.emitter p.leading d.root⟩

end Draft

/-- What the render function does before it gives its root expression. -/
def renderPrelude (E : Emitter) (leading : List Stmt) : List Stmt :=
  primitiveStmts E.primitives ++ leading ++
    E.slots.entries.map (fun s => takeEntry s.2 slotSetName s.1) ++
    E.memoNames.map (fun m => takeEntry m contextName m)

theorem renderBody_eq (E : Emitter) (leading : List Stmt) (root : Expr) :
    renderBody E leading root = renderPrelude E leading ++ [.ret root] := rfl

theorem substitute_hoistStmts (σ : Placeholder → Expr) (r : Region) (inherited : Available) :
    (r.hoistStmts inherited).map (Stmt.substitute σ) = r.hoistStmts inherited := by
  unfold Region.hoistStmts
  split
  · rfl
  · rw [List.map_singleton, Stmt.substitute_destructure, List.map_map]
    rfl

theorem substitute_renderBody (σ : Placeholder → Expr) (E : Emitter) (leading : List Stmt) (root : Expr) :
    (renderBody E leading root).map (Stmt.substitute σ) =
      renderBody E (leading.map (Stmt.substitute σ)) (root.substitute σ) := by
  have primitives : (primitiveStmts E.primitives).map (Stmt.substitute σ) =
      primitiveStmts E.primitives := by
    unfold primitiveStmts
    split
    · rfl
    · rw [List.map_singleton, Stmt.substitute_destructure, List.map_map]
      rfl
  simp only [renderBody, List.map_append, primitives, List.map_map]
  rfl

/-- A collection over statements takes from an assignment what its bindings tell, and nothing from the
definition of a function. -/
structure Collects {α : Type} (f : Stmt → List α) (g : String × Expr → List α) : Prop where
  destructure : ∀ bs, f (.destructure bs) = bs.flatMap g
  function : ∀ name signature body, f (.function name signature body) = []

namespace Collects

variable {α : Type} {f : Stmt → List α} {g : String × Expr → List α}

theorem substitute (h : Collects f g) (σ : Placeholder → Expr) :
    Collects (fun s => f (s.substitute σ)) fun b => g (b.1, b.2.substitute σ) where
  destructure bs := by rw [Stmt.substitute_destructure, h.destructure, List.flatMap_map]
  function name signature body := by rw [Stmt.substitute, h.function]

theorem leading (h : Collects f g) (p : Spot) :
    p.leading.flatMap f = p.hoisted.flatMap fun u => g (u.localName, componentMember u.property) := by
  have helpers (inherited : Available) (ts : List Tree) : (Tree.helpers inherited ts).flatMap f = [] := by
    induction ts with
    | nil => rfl
    | cons t ts ih =>
      obtain ⟨region, children⟩ := t
      rw [Tree.helpers]
      cases region.helper <;> simp [ih, h.function]
  change (p.collected.hoistStmts p.inherited ++ Tree.helpers p.passes _).flatMap f = _
  rw [List.flatMap_append, helpers, List.append_nil]
  unfold Region.hoistStmts Spot.hoisted
  cases p.collected.hoisted p.inherited with
  | nil => rfl
  | cons u us => rw [List.flatMap_singleton, h.destructure, List.flatMap_map]

theorem renderPrelude (h : Collects f g) (E : Emitter) (p : Spot) :
    (renderPrelude E p.leading).flatMap f =
      (E.primitives.flatMap fun p => g (p.localName, .member (.own apiName) p.member)) ++
        (p.hoisted.flatMap fun u => g (u.localName, componentMember u.property)) ++
        (E.slots.entries.flatMap fun s => f (takeEntry s.2 slotSetName s.1)) ++
        E.memoNames.flatMap fun m => f (takeEntry m contextName m) := by
  have primitives : (primitiveStmts E.primitives).flatMap f =
      E.primitives.flatMap fun p => g (p.localName, .member (.own apiName) p.member) := by
    unfold primitiveStmts
    split
    · next none => rw [none]; rfl
    · rw [List.flatMap_singleton, h.destructure, List.flatMap_map]
  simp only [Generate.renderPrelude, List.flatMap_append, primitives, h.leading, List.flatMap_map]

end Collects

theorem isPlain_destructure (bs : List (String × Expr)) : (Stmt.destructure bs).isPlain := by
  unfold Stmt.destructure
  split <;> rfl

theorem isPlain_hoistStmts (r : Region) (inherited : Available) :
    ∀ s ∈ r.hoistStmts inherited, s.isPlain := by
  unfold Region.hoistStmts
  split
  · exact nofun
  · simpa using isPlain_destructure _

/-- A scope below the root has a helper without function definitions of its own. -/
def HasHelper (r : Region) : Prop := ∃ helper, r.helper = some helper ∧ ∀ s ∈ helper.body, s.isPlain

mutual

theorem functionsAll_leading (d : Draft) (above : List Spot) (inherited : Available) :
    ∀ t : Tree, (∀ r ∈ Tree.regionsAll t.children, HasHelper r) →
      Stmt.functionsAll ((⟨t.region, t.children, inherited⟩ :: above).map d.function)
          (t.collect.leading inherited) =
        (Tree.spotsAll (⟨t.region, t.children, inherited⟩ :: above)
          (Spot.passes ⟨t.region, t.children, inherited⟩) t.children).map
          fun p => (p.1.map d.function, d.function p.2)
  | .node region children, h => by
    rw [Tree.collect, Tree.leading, Stmt.functionsAll_append,
      Stmt.functionsAll_plain _ (isPlain_hoistStmts _ _), List.nil_append]
    exact functionsAll_helpers d _ _ children h

theorem functionsAll_helpers (d : Draft) (above : List Spot) (inherited : Available) :
    ∀ ts : List Tree, (∀ r ∈ Tree.regionsAll ts, HasHelper r) →
      Stmt.functionsAll (above.map d.function) (Tree.helpers inherited (Tree.collectAll ts)) =
        (Tree.spotsAll above inherited ts).map fun p => (p.1.map d.function, d.function p.2)
  | [], _ => rfl
  | .node region children :: ts, h => by
    simp only [Tree.regionsAll, Tree.regions, List.mem_append, List.mem_cons] at h
    obtain ⟨helper, hh, plain⟩ := h region (.inl (.inl rfl))
    have inner := functionsAll_leading d above inherited (.node region children)
      fun r hr => h r (.inl (.inr hr))
    have later := functionsAll_helpers d above inherited ts fun r hr => h r (.inr hr)
    have own : d.function ⟨region, children, inherited⟩ =
        ⟨region.helperName, helper.signature,
          (Scope.Tree.node region children).collect.leading inherited ++ helper.body⟩ := by
      simp only [Draft.function, hh, Spot.leading]
    simp only [Tree.region, Tree.children, List.map_cons, own] at inner
    have first : Tree.helpers inherited (Tree.collectAll (.node region children :: ts)) =
        .function region.helperName helper.signature
          ((Scope.Tree.node region children).collect.leading inherited ++ helper.body) ::
          Tree.helpers inherited (Tree.collectAll ts) := by
      simp [Tree.collectAll, Tree.collect, Tree.helpers, hh]
    rw [first, Stmt.functionsAll, Stmt.functions, Stmt.functionsAll_append,
      Stmt.functionsAll_plain _ plain, List.append_nil, later, inner]
    simp only [Tree.spotsAll, Tree.spots, List.map_append, List.map_cons, own]

end

theorem functions_stmt {d : Draft} (root : d.tree.region.helper = none)
    (below : ∀ r ∈ Tree.regionsAll d.tree.children, HasHelper r) :
    d.stmt.functions [] = d.scopes.map fun p => (p.1.map d.function, d.function p.2) := by
  obtain ⟨⟨region, children⟩, emitter, x⟩ := d
  have inner := functionsAll_leading ⟨.node region children, emitter, x⟩ [] [] _ below
  have own : Draft.function ⟨.node region children, emitter, x⟩ ⟨region, children, []⟩ =
      ⟨renderName, renderSignature,
        renderBody emitter ((Scope.Tree.node region children).collect.leading []) x⟩ := by
    simp only [Tree.region] at root
    simp only [Draft.function, root, Spot.leading]
  simp only [Tree.region, Tree.children, List.map_cons, List.map_nil, own] at inner
  have primitives : ∀ s ∈ primitiveStmts emitter.primitives, s.isPlain := by
    unfold primitiveStmts
    split
    · exact nofun
    · simpa using isPlain_destructure _
  have entries : ∀ {α : Type} (xs : List α) (name mapping key : α → String),
      ∀ s ∈ xs.map (fun x => takeEntry (name x) (mapping x) (key x)), s.isPlain := by
    intro α xs name mapping key s hs
    obtain ⟨y, -, rfl⟩ := List.mem_map.mp hs
    rfl
  have slots := entries emitter.slots.entries Prod.snd (fun _ => slotSetName) Prod.fst
  have memos := entries emitter.memoNames id (fun _ => contextName) id
  simp only [id] at memos
  simp only [Draft.scopes, Tree.spots, Draft.stmt, Stmt.functions, List.map_cons, List.map_nil, own]
  congr 1
  rw [← inner]
  simp only [renderBody, Stmt.functionsAll_append]
  rw [Stmt.functionsAll_plain _ primitives, Stmt.functionsAll_plain _ slots,
    Stmt.functionsAll_plain _ memos]
  simp [Stmt.functionsAll, Stmt.functions]

/-- A scope with those around it, the nearest first, and the loops that it stands in. -/
inductive Nested (U : Uses) (d : Draft) : List Spot → List Loop → Prop
  | root {r : Region} {children : List Tree} (number : r.id = 0) (kind : r.kind = .root)
      (helper : r.helper = none)
      (coded : Coded U d.emitter [] r children d.root.occurrences) :
      Nested U d [⟨r, children, []⟩] []
  | conditional {p q : Spot} {above : List Spot} {loops : List Loop} {modifier : Modifier}
      {condition body otherwise : Expr} (around : Nested U d (q :: above) loops)
      (child : .node p.region p.children ∈ q.children) (inherits : p.inherited = q.passes)
      (named : Named p.region) (kind : p.region.kind = .conditional)
      (test : testExpr? modifier = some condition)
      (helper : p.region.helper = some (testHelper condition body otherwise))
      (coded : Coded U d.emitter loops p.region p.children
        (body.occurrences ++ otherwise.occurrences)) :
      Nested U d (p :: q :: above) loops
  | loop {p q : Spot} {above : List Spot} {loops : List Loop} {l : Loop} {body : Expr}
      (around : Nested U d (q :: above) loops)
      (child : .node p.region p.children ∈ q.children) (inherits : p.inherited = q.passes)
      (uses : U.loop l) (named : Named p.region) (kind : p.region.kind = loopKind l)
      (noted : ∀ f, l = .of f → d.emitter.usesNamespace)
      (helper : p.region.helper = some (loopHelper body l))
      (coded : Coded U d.emitter (l :: loops) p.region p.children body.occurrences) :
      Nested U d (p :: q :: above) (l :: loops)

section

variable {U : Uses} {d : Draft} {p q : Spot} {above : List Spot} {loops : List Loop}

theorem Nested.lowered {r : Region} {children : List Tree} (around : Nested U d (q :: above) loops)
    (child : .node r children ∈ q.children) (h : Lowered U d.emitter loops (.node r children)) :
    ∃ inner, Nested U d (⟨r, children, q.passes⟩ :: q :: above) inner ∧
      ∀ c ∈ children, Lowered U d.emitter inner c := by
  cases h with
  | conditional named kind test helper coded below =>
    exact ⟨_, .conditional around child rfl named kind test helper coded, below⟩
  | loop uses named kind noted helper coded below =>
    exact ⟨_, .loop around child rfl uses named kind noted helper coded, below⟩

/-- A scope right below others, whose code is lowered. -/
def Below (U : Uses) (d : Draft) (above : List Spot) (inherited : Available) (t : Tree) : Prop :=
  ∃ q around loops, above = q :: around ∧ inherited = q.passes ∧ t ∈ q.children ∧
    Nested U d (q :: around) loops ∧ Lowered U d.emitter loops t

theorem nested_spotsAll (around : Nested U d (q :: above) loops)
    (h : ∀ c ∈ q.children, Lowered U d.emitter loops c) :
    ∀ x ∈ Tree.spotsAll (q :: above) q.passes q.children, ∃ loops, Nested U d (x.2 :: x.1) loops := by
  have below : ∀ x ∈ Tree.spotsAll (q :: above) q.passes q.children,
      Below U d x.1 x.2.inherited (.node x.2.region x.2.children) := by
    refine Tree.forall_spotsAll ?_ fun c hc => ⟨q, above, loops, rfl, rfl, hc, around, h c hc⟩
    rintro _ _ region children ⟨q, above, loops, rfl, rfl, child, around, lowered⟩ c hc
    obtain ⟨inner, here, below⟩ := around.lowered child lowered
    exact ⟨_, _, inner, rfl, rfl, hc, here, below c hc⟩
  intro x hx
  obtain ⟨q, above, loops, is, inherits, child, around, lowered⟩ := below x hx
  obtain ⟨inner, here, -⟩ := around.lowered child lowered
  rw [← inherits, ← is] at here
  exact ⟨inner, here⟩

end

/-- What is known of a draft that a template gives. -/
structure Draft.Made (U : Uses) (d : Draft) : Prop where
  nested : ∀ x ∈ d.scopes, ∃ loops, Nested U d (x.2 :: x.1) loops
  numbers : (d.tree.regions.map Region.id).Nodup
  formed : d.emitter.Formed
  references : ∀ c ∈ d.emitter.components.keys, U.component c

theorem Draft.Made.nestedAt {U : Uses} {d : Draft} (made : d.Made U) {above : List Spot} {p : Spot}
    (hp : (above, p) ∈ d.scopes) : ∃ loops, Nested U d (p :: above) loops := made.nested _ hp

theorem Draft.Made.nodup_scopes {U : Uses} {d : Draft} (made : d.Made U) :
    (d.scopes.map fun s => s.2.region.id).Nodup := by
  have numbers := made.numbers
  rwa [← Tree.map_region_spots [] [] d.tree, List.map_map] at numbers

theorem Draft.Made.scope_unique {U : Uses} {d : Draft} (made : d.Made U) {x y : List Spot × Spot}
    (hx : x ∈ d.scopes) (hy : y ∈ d.scopes) (same : x.2.region.id = y.2.region.id) : x = y :=
  List.inj_on_of_nodup_map made.nodup_scopes hx hy same

theorem made_of_draft {U : Uses} {config : Config} {e : Element} {children : List Node} {d : Draft}
    (hu : BlocksUse U [] (Block.arrange (Block.ofNodes children)))
    (h : draft? config (.element e children) = some d) : d.Made U := by
  obtain ⟨t, r, cs, walked, emitter, tree⟩ := walked_of_draft hu h
  have walks := walked.walks
  rw [List.flatMap_singleton] at walks
  have region := walks.region
  have number : t.context.current.region.id = 0 := by
    rw [region]
    rfl
  have kind : t.context.current.region.kind = .root := by
    rw [region]
    rfl
  have helper : t.context.current.region.helper = none := by
    rw [region]
    rfl
  have coded : Coded U d.emitter [] t.context.current.region cs d.root.occurrences := by
    have start : Tabled 0 [] := tabled_nil 0
    refine ⟨?_, ?_, emitter ▸ walks.sourced⟩
    · rw [number]
      exact walks.records.tabled start
    · rw [number]
      exact walks.records.sites start
  have ids := walks.numbers
  constructor
  · intro p hp
    simp only [Draft.scopes, tree, Tree.spots] at hp
    have root : Nested U d [⟨t.context.current.region, cs, []⟩] [] := .root number kind helper coded
    rcases List.mem_cons.mp hp with rfl | hp
    · exact ⟨_, root⟩
    · exact nested_spotsAll root (emitter ▸ walks.lowered) p hp
  · rw [tree, Tree.regions, List.map_cons, number]
    rw [idsOf] at ids
    rw [ids, List.nodup_cons, List.mem_range'_1]
    refine ⟨fun h => absurd h.1 (Nat.not_succ_le_zero 0), List.nodup_range'⟩
  · exact emitter ▸ walks.emitter.formed Emitter.formed_empty
  · exact emitter ▸ walks.emitter.references (by intro c hc; cases hc)

theorem made_of_draft? {config : Config} {root : Node} {d : Draft} (h : draft? config root = some d) :
    d.Made .any := by
  cases root with
  | element e children => exact made_of_draft (blocksUse_any _ _) h
  | _ => cases h

theorem Nested.hasHelper {U : Uses} {d : Draft} {p : Spot} {above : List Spot} {loops : List Loop}
    (h : Nested U d (p :: above) loops) :
    p.region.id = 0 ∧ p.region.helper = none ∨ HasHelper p.region := by
  cases h with
  | root number kind helper coded => exact .inl ⟨number, helper⟩
  | conditional around child inherits named kind test helper coded =>
    exact .inr ⟨_, helper, by simp [testHelper, Stmt.isPlain]⟩
  | @loop _ _ _ _ l body around child inherits uses named kind noted helper coded =>
    refine .inr ⟨_, helper, ?_⟩
    cases l <;> simp [loopHelper, Stmt.isPlain]

theorem Draft.Made.helpers {U : Uses} {d : Draft} (made : d.Made U) :
    d.tree.region.helper = none ∧ ∀ r ∈ Tree.regionsAll d.tree.children, HasHelper r := by
  have numbers := made.numbers
  have first : ([], ⟨d.tree.region, d.tree.children, []⟩) ∈ d.scopes := by
    unfold Draft.scopes
    cases d.tree
    simp [Tree.spots, Tree.region, Tree.children]
  obtain ⟨loops, nested⟩ := made.nested _ first
  have root : d.tree.region.id = 0 ∧ d.tree.region.helper = none := by
    cases nested with
    | root number kind helper coded => exact ⟨number, helper⟩
  refine ⟨root.2, fun r hr => ?_⟩
  have hm : r ∈ d.scopes.map fun x => x.2.region := by
    rw [Draft.scopes, Tree.map_region_spots, Tree.regions_eq]
    exact List.mem_cons_of_mem _ hr
  obtain ⟨x, hx, rfl⟩ := List.mem_map.mp hm
  obtain ⟨loops, nested⟩ := made.nested x hx
  refine nested.hasHelper.resolve_left fun h => ?_
  rw [Tree.regions_eq, List.map_cons, List.nodup_cons, root.1, ← h.1] at numbers
  exact numbers.1 (List.mem_map_of_mem hr)

theorem Draft.Made.functions_stmt {U : Uses} {d : Draft} (made : d.Made U) :
    d.stmt.functions [] = d.scopes.map fun p => (p.1.map d.function, d.function p.2) :=
  Generate.functions_stmt made.helpers.1 made.helpers.2

theorem Draft.Made.functions_finished {U : Uses} {d : Draft} (made : d.Made U) :
    d.finished.functions [] = d.scopes.map fun p =>
      (p.1.map fun q => (d.function q).substitute d.decision,
        (d.function p.2).substitute d.decision) := by
  have substituted := Stmt.functions_substitute d.decision [] d.stmt
  rw [List.map_nil, made.functions_stmt, List.map_map] at substituted
  rw [Draft.finished, substituted]
  simp [Function.comp_def]

end TemplateCompiler.Generate
