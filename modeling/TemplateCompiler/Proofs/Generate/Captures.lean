import TemplateCompiler.Proofs.Generate.Hygiene

/-!
Captured names. A name of generated code is taken from its home, unless an expression of the template binds
it on the way or a helper is named like a loop variable of the function that defines it. A loop variable is
taken from the function of its innermost loop, unless a part of what an iterator tells or a helper has its
name, or an expression binds it on the way.
-/

namespace TemplateCompiler.Code

@[simp] theorem Frame.generated_inner (i : Inner) : (Frame.inner i).generated = [] := rfl

@[simp] theorem Frame.loopNames_inner (i : Inner) : (Frame.inner i).loopNames = [] := rfl

@[simp] theorem Frame.written_inner (i : Inner) : (Frame.inner i).written = i.names := rfl

end TemplateCompiler.Code

namespace TemplateCompiler.Generate

open TemplateCompiler.Code TemplateCompiler.Scope TemplateCompiler.Template

def surroundings (stmts : List Stmt) : List Stmt :=
  if stmts.any isRenderFunction then stmts else stmts.flatMap innerStmts

def outerFrame (stmts : List Stmt) : Frame :=
  ⟨(surroundings stmts).flatMap Stmt.outerNames, [], [], [], []⟩

/-- The scopes around an occurrence in the function of a scope, the innermost first. -/
def Draft.framesAt (d : Draft) (stmts : List Stmt) (s : List Spot × Spot) (o : Occurrence) :
    List Frame :=
  o.within.map .inner ++ ((s.2 :: s.1).map d.frame ++ [outerFrame stmts])

theorem outerNames_subset {config : Config} {d : Draft} {stmts : List Stmt}
    (h : programStmts config d.emitter d.finished = .ok stmts) :
    d.emitter.outerNames ⊆ (outerFrame stmts).generated := by
  have render : isRenderFunction d.finished := by
    simp [Draft.finished, Draft.stmt, Stmt.substitute, isRenderFunction]
  have namespaces : (namespaceImport d.emitter).flatMap Stmt.outerNames =
      if d.emitter.usesNamespace then [namespaceTypeName] else [] := by
    unfold namespaceImport
    split <;> rfl
  have same : (outerFrame stmts).generated = (surroundings stmts).flatMap Stmt.outerNames := by
    simp [outerFrame, Frame.generated]
  rw [same]
  unfold programStmts at h
  split at h
  · cases h
    have inside (signature : Signature) (body : List Stmt) :
        surroundings [.function factoryName signature body] = body := by
      have other : (factoryName == renderName) = false := by decide
      simp [surroundings, isRenderFunction, innerStmts, other]
    intro name hn
    rw [factoryStmt, inside]
    simp only [List.flatMap_append, namespaces]
    simp only [Emitter.outerNames, List.mem_append] at hn ⊢
    simp only [List.flatMap_map, moduleLookup, Stmt.outerNames, Stmt.targets, List.mem_flatMap,
      List.mem_singleton]
    rcases hn with (hn | hn) | hn
    · exact .inl (.inl (.inl hn))
    · obtain ⟨c, hc, rfl⟩ := List.mem_map.mp hn
      exact .inl (.inl (.inr ⟨c, hc, rfl⟩))
    · exact .inl (.inr ⟨name, hn, rfl⟩)
  · cases h
    have among (runtime : String) : surroundings (moduleStmts runtime d.emitter d.finished) =
        moduleStmts runtime d.emitter d.finished := by
      have found : (moduleStmts runtime d.emitter d.finished).any isRenderFunction := by
        simp [moduleStmts, render]
      rw [surroundings, if_pos found]
    intro name hn
    rw [among]
    simp only [moduleStmts, List.flatMap_append, namespaces]
    simp only [Emitter.outerNames, List.mem_append] at hn ⊢
    rcases hn with (hn | hn) | hn
    · exact .inl (.inl (.inl hn))
    · obtain ⟨c, hc, rfl⟩ := List.mem_map.mp hn
      refine .inl (.inr ?_)
      simp only [List.flatMap_map, List.mem_flatMap]
      exact ⟨c, hc, by simp [componentImport, Stmt.outerNames]⟩
    · refine .inl (.inl (.inr ?_))
      simp [Stmt.outerNames, hn]
  · cases h

section

variable {frames : List Frame} {name : String} {k : Nat}

theorem mem_take_inner {ws : List Inner} {n : Nat} {G : Frame}
    (h : G ∈ (ws.map Frame.inner ++ frames).take (ws.length + n)) :
    (∃ w ∈ ws, G = .inner w) ∨ G ∈ frames.take n := by
  rw [List.take_append, List.length_map, Nat.add_sub_cancel_left,
    List.take_of_length_le (by simp)] at h
  rcases List.mem_append.mp h with h | h
  · obtain ⟨w, hw, rfl⟩ := List.mem_map.mp h
    exact .inl ⟨w, hw, rfl⟩
  · exact .inr h

/-- A name that generated code binds is taken from there, unless an expression binds it on the way or it is
also the loop variable of the function that it is used in. -/
theorem BoundAt.resolves_iff (h : BoundAt frames name k) (ws : List Inner) :
    ResolvesToOwn (ws.map .inner ++ frames) name (ws.length + k) ↔
      (∀ G ∈ (ws.map Frame.inner ++ frames).take (ws.length + k + 1), name ∉ G.written) ∧
        (IsHelperName name → ∀ G ∈ frames.head?, name ∉ G.loopNames) := by
  obtain ⟨F, there, bound⟩ := h.there
  have outside : (ws.map Frame.inner ++ frames)[ws.length + k]? = some F := by
    rw [List.getElem?_append_right (by simp), List.length_map, Nat.add_sub_cancel_left, there]
  rw [resolvesToOwn_iff outside bound]
  · constructor
    · intro free
      refine ⟨fun G hG written => free G hG (List.mem_append_right _ written), fun _ G hG loop => ?_⟩
      refine free G ?_ (List.mem_append_left _ loop)
      obtain ⟨rest, rfl⟩ : ∃ rest, frames = G :: rest := List.head?_eq_some_iff.mp hG
      rw [Nat.add_assoc, List.take_append, List.length_map, Nat.add_sub_cancel_left]
      simp
    · rintro ⟨written, head⟩ G hG chosen
      rcases List.mem_append.mp chosen with loop | other
      · rw [Nat.add_assoc] at hG
        rcases mem_take_inner hG with ⟨w, -, rfl⟩ | hG
        · cases loop
        · obtain ⟨helper, rfl⟩ := h.loops G hG loop
          cases frames with
          | nil => cases hG
          | cons first rest =>
            obtain rfl : G = first := by simpa using hG
            exact head helper G rfl loop
      · exact written G hG other
  · intro G hG generated
    rcases mem_take_inner hG with ⟨w, -, rfl⟩ | hG
    · cases generated
    · exact h.first G hG generated

end

/-- The function of a scope is that of a loop, and binds the variables of the loop. -/
def Draft.IsLoop (d : Draft) (p : Spot) (l : Loop) : Prop :=
  p.region.kind = loopKind l ∧ (d.frame p).loopNames = l.names

/-- The function of a loop is that many functions outwards. The loops on the way are the given ones. -/
def Draft.LoopAt (d : Draft) (path : List Spot) (inner : List Loop) (l : Loop) (k : Nat) : Prop :=
  ∃ between q around, path = between ++ q :: around ∧ between.length = k ∧ d.IsLoop q l ∧
    List.Forall₂ d.IsLoop (between.filter fun r => r.region.kind ≠ .conditional) inner

section

variable {U : Uses} {d : Draft} {p q : Spot} {path above : List Spot} {loops inner outer : List Loop}
  {l : Loop} {name : String}

/-- The functions around a scope hold those of the loops that it stands in. What is on the way to a loop
binds no loop variables but those of the loops inside it. -/
theorem Nested.loopAt (nested : Nested U d path loops) : ∀ {inner}, loops = inner ++ l :: outer →
    ∃ k, d.LoopAt path inner l k ∧
      ∀ G ∈ (path.map d.frame).take k, ∀ name ∈ G.loopNames, ∃ m ∈ inner, name ∈ m.names := by
  induction nested with
  | root number kind helper coded => exact fun split => absurd split (by simp)
  | @conditional p q above loops _ _ _ _ around child inherits named kind test helper coded ih =>
    intro inner split
    obtain ⟨k, ⟨between, s, beyond, e, size, is, loops⟩, names⟩ := ih split
    have unnamed : (d.frame p).loopNames = [] := by
      have here := Nested.conditional around child inherits named kind test helper coded
      rcases here.frame_loopNames with ⟨none, -⟩ | ⟨m, _, -, -, other, -⟩
      · exact none
      · rw [kind] at other
        cases m <;> cases other
    refine ⟨k + 1, ⟨p :: between, s, beyond, by rw [e]; rfl, by simp [size], is, ?_⟩, ?_⟩
    · rwa [List.filter_cons_of_neg (by simp [kind])]
    · intro G hG name hn
      rcases List.mem_cons.mp hG with rfl | hG
      · rw [unnamed] at hn
        cases hn
      · exact names G hG name hn
  | @loop p q above loops m body around child inherits uses named kind noted helper coded ih =>
    intro inner split
    have is : d.IsLoop p m := by
      have here := Nested.loop around child inherits uses named kind noted helper coded
      rcases here.frame_loopNames with ⟨-, other⟩ | ⟨m', _, e, -, -, names⟩
      · rw [kind] at other
        cases m <;> simp [loopKind] at other
      · obtain ⟨rfl, -⟩ := List.cons.inj e
        exact ⟨kind, names⟩
    cases inner with
    | nil =>
      obtain ⟨rfl, -⟩ := List.cons.inj split
      exact ⟨0, ⟨[], p, _, rfl, rfl, is, .nil⟩, by simp⟩
    | cons m' inner =>
      obtain ⟨rfl, rest⟩ := List.cons.inj split
      obtain ⟨k, ⟨between, s, beyond, e, size, there, loops⟩, names⟩ := ih rest
      refine ⟨k + 1, ⟨p :: between, s, beyond, by rw [e]; rfl, by simp [size], there, ?_⟩, ?_⟩
      · rw [List.filter_cons_of_pos (by cases m <;> simp [kind, loopKind])]
        exact .cons is loops
      · intro G hG name hn
        rcases List.mem_cons.mp hG with rfl | hG
        · exact ⟨m, List.mem_cons_self, is.2 ▸ hn⟩
        · obtain ⟨m', hm, hn⟩ := names G hG name hn
          exact ⟨m', List.mem_cons_of_mem _ hm, hn⟩

/-- A name that the code of a function takes from the template stands in an expression of the template. -/
theorem Draft.Made.name_written (made : d.Made U) (nested : Nested U d (p :: above) loops)
    {o : Occurrence} (ho : o ∈ ((d.function p).substitute d.decision).loads) (is : o.atom = .name name) :
    ∃ e, U.expr loops e ∧ o ∈ e.asWritten.occurrences := by
  obtain ⟨own, os, perm, coded, introduced⟩ := nested.loads
  rw [Function.loads_substitute made.decides] at ho
  obtain ⟨x, hx, ho⟩ := List.mem_flatMap.mp ho
  have parts := perm.subset hx
  simp only [List.mem_append] at parts
  rcases parts with (hm | hm) | hm
  · obtain ⟨u, -, rfl⟩ := List.mem_map.mp hm
    rw [List.mem_singleton.mp ho] at is
    cases is
  · obtain ⟨id, rfl, -⟩ := introduced x hm
    rw [List.mem_singleton.mp ho] at is
    cases is
  · cases hhole : x.hole? with
    | some site =>
      -- a decided read is no name of the template
      have absent := made.decides.name? x
      have none : x.name? = none := by
        obtain ⟨a, w⟩ := x
        cases a <;> first | rfl | cases hhole
      rw [none, Option.toList_none, List.filterMap_eq_nil_iff] at absent
      simpa [Occurrence.name?, is] using absent o ho
    | none =>
      rw [Occurrence.replace_of_hole?_none hhole] at ho
      obtain rfl := List.mem_singleton.mp ho
      cases coded.sourced o hm with
      | noted id e noted =>
        subst e
        cases is
      | helper c child e =>
        subst e
        cases is
      | template e uses written =>
        have same : erase o = o := by
          obtain ⟨a, w⟩ := o
          subst is
          rfl
        exact ⟨e, uses, same ▸ written⟩

end

section

variable {all : List Node} {d : Draft} {p : Spot} {above : List Spot} {loops inner outer : List Loop}
  {l : Loop} {name : String}

/-- A loop variable is taken from the function of its innermost loop, unless a part of what an iterator
tells or a helper has its name, or an expression binds it on the way. -/
theorem Draft.Made.variable_resolves (made : d.Made (admitted all)) (hp : (above, p) ∈ d.scopes)
    (nested : Nested (admitted all) d (p :: above) (inner ++ l :: outer)) (hn : name ∈ l.names)
    (innermost : ∀ m ∈ inner, name ∉ m.names) (ws : List Inner) (last : Frame) :
    ∃ k, d.LoopAt (p :: above) inner l k ∧
      (ResolvesToVariable (ws.map .inner ++ ((p :: above).map d.frame ++ [last])) name
          (ws.length + k) ↔
        (∀ G ∈ (ws.map Frame.inner ++ ((p :: above).map d.frame ++ [last])).take (ws.length + k + 1),
          name ∉ G.parts ++ G.helpers) ∧
        ∀ G ∈ (ws.map Frame.inner ++ ((p :: above).map d.frame ++ [last])).take (ws.length + k),
          name ∉ G.written) := by
  obtain ⟨k, loopAt, names⟩ := nested.loopAt rfl
  refine ⟨k, loopAt, ?_⟩
  obtain ⟨between, q, around, path, rfl, ⟨-, binds⟩, -⟩ := loopAt
  have frames : (p :: above).map d.frame ++ [last] =
      between.map d.frame ++ (d.frame q :: (around.map d.frame ++ [last])) := by
    rw [path]
    simp
  have allowed : loopNameFault? name = none := by
    obtain ⟨_, scope⟩ := scope_of_mem hp (show q ∈ p :: above by rw [path]; simp)
    exact made.loopNames_allowed scope (binds ▸ hn)
  have upTo {n : Nat} (hn : n ≤ between.length + 1) :
      ((p :: above).map d.frame ++ [last]).take n = ((p :: above).map d.frame).take n := by
    rw [List.take_append_of_le_length]
    rw [path]
    simp
    omega
  have there : (ws.map Frame.inner ++ ((p :: above).map d.frame ++ [last]))[ws.length +
      between.length]? = some (d.frame q) := by
    rw [List.getElem?_append_right (by simp), List.length_map, Nat.add_sub_cancel_left, frames]
    simp
  have first : ∀ G ∈ (ws.map Frame.inner ++ ((p :: above).map d.frame ++ [last])).take
      (ws.length + between.length), name ∉ G.loopNames := by
    intro G hG loop
    rcases mem_take_inner hG with ⟨w, -, rfl⟩ | hG
    · cases loop
    · rw [upTo (Nat.le_succ _)] at hG
      obtain ⟨m, hm, named⟩ := names G hG name loop
      exact innermost m hm named
  -- only the parts of iterators and helpers can be called like a loop variable
  have generated : ∀ G ∈ (ws.map Frame.inner ++ ((p :: above).map d.frame ++ [last])).take
      (ws.length + between.length + 1), name ∉ G.generated ↔ name ∉ G.parts ++ G.helpers := by
    intro G hG
    rw [Nat.add_assoc] at hG
    rcases mem_take_inner hG with ⟨w, -, rfl⟩ | hG
    · simp [Frame.inner, Frame.generated]
    · rw [upTo (Nat.le_refl _)] at hG
      obtain ⟨r, hr, rfl⟩ := List.mem_map.mp (List.mem_of_mem_take hG)
      obtain ⟨_, scope⟩ := scope_of_mem hp hr
      have free : name ∉ (d.frame r).own := fun own =>
        not_guarded allowed (made.guarded_own scope own)
      simp [Frame.generated, free]
  rw [resolvesToVariable_iff there (binds ▸ hn) first]
  exact and_congr_left' (forall₂_congr generated)

end

/-- Where the names at an occurrence in the function of a scope are taken from. -/
structure Resolution (content : List Node) (d : Draft) (stmts : List Stmt) (s : List Spot × Spot)
    (o : Occurrence) : Prop where
  /-- A name of generated code has a home and is taken from there, unless an expression of the template
  binds it on the way or it is a helper that is called like a loop variable of its function. -/
  own : ∀ name, o.ownName? = some name → ∃ k, Home d (d.functionAt s) name k ∧
    (ResolvesToOwn (d.framesAt stmts s o) name (o.within.length + k) ↔
      (∀ G ∈ (d.framesAt stmts s o).take (o.within.length + k + 1), name ∉ G.written) ∧
      (IsHelperName name → name ∉ (d.frame s.2).loopNames))
  /-- A loop variable in an expression of the template is taken from the innermost loop that binds it,
  unless a part of what an iterator tells or a helper has its name, or an expression of the template
  binds it on the way. -/
  loops : ∀ name, o.atom = .name name → ∃ loops e, (loops, e) ∈ Node.usesAll [] content ∧
    o ∈ e.asWritten.occurrences ∧
    ∀ inner l outer, loops = inner ++ l :: outer → name ∈ l.names → (∀ m ∈ inner, name ∉ m.names) →
      ∃ k, d.LoopAt (s.2 :: s.1) inner l k ∧
        (ResolvesToVariable (d.framesAt stmts s o) name (o.within.length + k) ↔
          (∀ G ∈ (d.framesAt stmts s o).take (o.within.length + k + 1), name ∉ G.parts ++ G.helpers) ∧
          ∀ G ∈ (d.framesAt stmts s o).take (o.within.length + k), name ∉ G.written)

theorem Draft.Made.resolution {all : List Node} {config : Config} {d : Draft} {stmts : List Stmt}
    (made : d.Made (admitted all)) (program : programStmts config d.emitter d.finished = .ok stmts)
    {s : List Spot × Spot} (hs : s ∈ d.scopes) {o : Occurrence} (ho : o ∈ (d.functionAt s).2.loads) :
    Resolution all d stmts s o := by
  obtain ⟨above, p⟩ := s
  obtain ⟨loops, nested⟩ := made.nestedAt hs
  constructor
  · intro name is
    obtain ⟨k, home, bound⟩ := made.own_bound hs ho is (outerNames_subset program) rfl
    refine ⟨k, home, ?_⟩
    simpa [Draft.framesAt] using bound.resolves_iff o.within
  · intro name is
    obtain ⟨e, uses, written⟩ := made.name_written nested ho is
    refine ⟨loops, e, uses, written, ?_⟩
    rintro inner l outer rfl hn innermost
    exact made.variable_resolves hs nested hn innermost o.within _

/-- The names in the code of a compiled template are taken from where they should be, but for those that
are captured. -/
theorem names_resolve_unless_captured {config : Config} {root : Node} {compiled : Compiled}
    (h : (compile config root).1 = .ok compiled) :
    ∃ d render, draft? config root = some d ∧ renderOf compiled.program.stmts = some render ∧
      render.functions [] = d.scopes.map d.functionAt ∧
      ∀ s ∈ d.scopes, ∀ o ∈ (d.functionAt s).2.loads,
        Resolution root.content d compiled.program.stmts s o := by
  obtain ⟨d, hd, hr, program⟩ := draft_of_generate (generate_of_compile h)
  have made : d.Made (admitted root.content) := by
    have accepted := accepted_of_validate (validate_of_compile h)
    cases root with
    | element e children =>
      exact made_of_draft (blocksUse_arrange children accepted (List.Subset.refl _)) hd
    | _ => cases hd
  refine ⟨d, d.finished, hd, hr, made.functions_finished, fun s hs o ho => ?_⟩
  exact made.resolution program hs ho

/-- A row of cells, where the loop variable of the rows is called like a part of what the iterator of the
cells tells. -/
def shadowedRow : Node :=
  .root [.element { Element.ofTag "template" with forEach := some ⟨.name "rows", "it_value", none⟩ }
    [.element { Element.ofTag "li" with forOf := some ⟨.name "cells", "it"⟩ }
      [.show (.name "it_value")]]]

theorem shadowedRow_resolves : ∃ compiled, (compile .default shadowedRow).1 = .ok compiled ∧
    ∃ d render, draft? .default shadowedRow = some d ∧
      renderOf compiled.program.stmts = some render ∧
      render.functions [] = d.scopes.map d.functionAt ∧
      ∀ s ∈ d.scopes, ∀ o ∈ (d.functionAt s).2.loads,
        Resolution shadowedRow.content d compiled.program.stmts s o := by
  have ok : (compile .default shadowedRow).1.isOk := by decide +kernel
  obtain ⟨compiled, h⟩ := exists_of_isOk ok
  exact ⟨compiled, h, names_resolve_unless_captured h⟩

/-- The text of a cell, which asks for the row, takes the cell. -/
theorem shadowedRow_captured : ∃ compiled d s o, (compile .default shadowedRow).1 = .ok compiled ∧
    draft? .default shadowedRow = some d ∧ s ∈ d.scopes ∧ o ∈ (d.functionAt s).2.loads ∧
    o.atom = .name "it_value" ∧ o.within = [] ∧
    d.LoopAt (s.2 :: s.1) [.of ⟨.name "cells", "it"⟩] (.each ⟨.name "rows", "it_value", none⟩) 1 ∧
    ¬ ResolvesToVariable (d.framesAt compiled.program.stmts s o) "it_value" 1 := by
  have ok : (compile .default shadowedRow).1.isOk := by decide +kernel
  obtain ⟨compiled, h⟩ := exists_of_isOk ok
  have found : (draft? .default shadowedRow).any fun d => ∃ s ∈ d.scopes,
      .free (.name "it_value") ∈ (d.functionAt s).2.loads ∧ "it_value" ∈ (d.frame s.2).parts ∧
      ((s.2 :: s.1).map fun r => (r.region.kind, (d.frame r).loopNames)) =
        [(.forOf, ["it"]), (.forEach, ["it_value"]), (.root, [])] := by
    decide +kernel
  obtain ⟨d, hd, found⟩ := (Option.any_eq_true _ _).mp found
  obtain ⟨⟨above, p⟩, hs, ho, part, path⟩ := of_decide_eq_true found
  obtain ⟨q, around, rfl⟩ : ∃ q around, above = q :: around :=
    List.exists_cons_of_ne_nil fun none => by simp [none] at path
  simp only [List.map_cons, List.cons.injEq, Prod.mk.injEq] at path
  obtain ⟨cells, rows, -⟩ := path
  refine ⟨compiled, d, _, _, h, hd, hs, ho, rfl, rfl, ?_, ?_⟩
  · refine ⟨[p], q, around, rfl, rfl, rows, ?_⟩
    rw [List.filter_cons_of_pos (by simp [cells.1])]
    exact .cons cells .nil
  · rintro ⟨F, ⟨-, -, first⟩, -⟩
    refine first (d.frame p) (by simp [Draft.framesAt, Occurrence.free]) ?_
    simp [Frame.generated, part]

end TemplateCompiler.Generate
