import TemplateCompiler.Proofs.Code.Levels
import TemplateCompiler.Proofs.Generate.Failures
import TemplateCompiler.Proofs.Generate.Loads

/-!
Once a template is lowered its render function is always finished: every scope below the root got its
helper, and every undecided read belongs to the scope that recorded it and is decided there.
-/

namespace TemplateCompiler.Generate

open TemplateCompiler.Code TemplateCompiler.Scope TemplateCompiler.Template

theorem holes_destructure (bindings : List (String × Expr)) :
    (Stmt.destructure bindings).openHoles = holes (Stmt.destructure bindings).loads := by
  unfold Stmt.destructure
  split
  · rfl
  · have targets : holes ((bindings.map fun b => Expr.own b.1).flatMap Expr.occurrences) = [] := by
      rw [holes, List.filterMap_eq_nil_iff]
      intro o ho
      obtain ⟨x, hx, ho⟩ := List.mem_flatMap.mp ho
      obtain ⟨b, -, rfl⟩ := List.mem_map.mp hx
      rw [List.mem_singleton.mp ho]
      rfl
    simp [Stmt.openHoles, Stmt.loads, Expr.occurrences, targets]

section

variable {U : Uses} {d : Draft} {p : Spot} {above : List Spot} {loops : List Loop}

theorem Nested.openHoles (h : Nested U d (p :: above) loops) :
    ∀ s ∈ (d.function p).body, s.openHoles = holes s.loads := by
  obtain ⟨before, after, body, primitives, closing⟩ := h.body
  intro s hs
  rw [body, List.mem_append, List.mem_append] at hs
  rcases hs with (hs | hs) | hs
  · obtain ⟨-, ps, rfl⟩ := primitives s hs
    exact holes_destructure _
  · rcases mem_leading hs with rfl | ⟨name, signature, stmts, rfl⟩
    · exact holes_destructure _
    · rfl
  · cases closing s hs with
    | entry name mapping key => rfl
    | namespaceValue iterator => rfl
    | ret value => rfl

namespace Draft.Made

theorem recorded (made : d.Made U) {read : Placeholder} (h : read ∈ Stmt.breadthFirst [d.stmt]) :
    ∃ above p, (above, p) ∈ d.scopes ∧ ∃ u ∈ p.region.usages, read ∈ u.sites p.region.id := by
  have found := (Stmt.levelsAll_perm_functionHoles [] [d.stmt]).mem_iff.mp h
  have none : [d.stmt].flatMap Stmt.openHoles = [] := rfl
  rw [none, List.nil_append, Stmt.functionsAll, Stmt.functionsAll, List.append_nil,
    made.functions_stmt, Stmt.functionHoles, List.flatMap_map, List.mem_flatMap] at found
  obtain ⟨⟨above, p⟩, hp, found⟩ := found
  obtain ⟨loops, nested⟩ := made.nestedAt hp
  have loaded : read ∈ holes (d.function p).loads := by
    obtain ⟨s, hs, here⟩ := List.mem_flatMap.mp found
    rw [nested.openHoles s hs] at here
    rw [Function.loads, holes, List.filterMap_flatMap]
    exact List.mem_flatMap.mpr ⟨s, hs, here⟩
  obtain ⟨u, hu, site⟩ := List.mem_flatMap.mp (nested.sites.mem_iff.mp loaded)
  exact ⟨above, p, hp, u, hu, site⟩

theorem firstUndecided? (made : d.Made U) :
    (d.tree.collect.decide []).firstUndecided? [d.stmt] = none := by
  rw [Tree.firstUndecided?, List.find?_eq_none]
  intro read hr
  obtain ⟨above, p, hp, u, hu, site⟩ := made.recorded hr
  obtain ⟨hs, hn⟩ := mem_sites site
  obtain ⟨loops, nested⟩ := made.nestedAt hp
  have usage := usageOf?_spot made.numbers hp nested.tabled.distinct hu hs hn
  rw [Tree.target?, usage, Option.bind_some, Usage.target?, decideUsage_spot hp hu]
  cases topAlias above u.property with
  | some name => simp
  | none =>
    simp only
    by_cases shared : 1 < u.occurrences ∨ u.property ∈ Tree.usedAll p.children
    · simp [if_pos shared]
    · simp [if_neg shared]

theorem unlowered? (made : d.Made U) : d.tree.collect.unlowered? = none := by
  rw [Tree.unlowered?, List.find?_eq_none, Tree.children_collect]
  intro r hr
  have helpers := Tree.map_helper_collectAll d.tree.children
  have hm : r.helper ∈ (Tree.regionsAll d.tree.children).map Region.helper := by
    rw [← helpers]
    exact List.mem_map_of_mem hr
  obtain ⟨q, hq, same⟩ := List.mem_map.mp hm
  obtain ⟨helper, has, -⟩ := made.helpers.2 q hq
  simp [← same, has]

end Draft.Made

end

theorem completes_noteAll (l : List (Nat × List String)) :
    Completes (forIn l PUnit.unit fun x _ => do
      Walk.note (.hoisted x.1 x.2)
      pure (ForInStep.yield PUnit.unit)) := by
  induction l with
  | nil =>
    rw [List.forIn_nil]
    exact .pure _
  | cons x l ih =>
    have noted : Completes (Walk.note (.hoisted x.1 x.2)) := fun _ => rfl
    rw [List.forIn_cons]
    refine .bind (.bind noted fun _ => .pure (ForInStep.yield PUnit.unit)) fun step => ?_
    cases step with
    | done _ => exact .pure _
    | yield _ => exact ih

theorem failure?_renderFunction {U : Uses} {s : WalkState} {root : Expr}
    (made : (Draft.mk s.context.tree s.emitter root).Made U) :
    failure? (renderFunction root) s = none := by
  have dumped : s.context.tree.collect.dump [] = .ok (s.context.tree.collect.leading []) := by
    have none := made.unlowered?
    simp only at none
    rw [Tree.dump, none]
  have decided := made.firstUndecided?
  unfold renderFunction
  rw [failure?_bind_of_runs (runs_get.mpr ⟨rfl, rfl⟩)]
  simp only [dumped]
  rw [failure?_bind (o := none), completes_noteAll, Option.or_none]
  intro _ t _
  rw [Tree.resolve]
  simp only [Draft.stmt] at decided
  rw [decided]
  rfl

end TemplateCompiler.Generate
