import TemplateCompiler.Proofs.Generate.Completion

/-!
Every recorded read is rewritten once. The undecided reads of a draft are the sites of the usages that its
scopes recorded, each in one place, and replacing them leaves none in the program.
-/

namespace TemplateCompiler.Code

namespace Expr

theorem placeholders_eq_holes (e : Expr) : e.placeholders = holes e.occurrences := by
  induction e using induct with
  | step e ih =>
    by_cases placed : ∃ read, e = placeholder read
    · obtain ⟨read, rfl⟩ := placed
      rfl
    · have other : ∀ read, e ≠ placeholder read := fun read h => placed ⟨read, h⟩
      rw [placeholders_eq other, holes_occurrences other]
      exact List.flatMap_congr ih

theorem placeholders_substitute (f : Placeholder → Expr) (e : Expr) :
    (e.substitute f).placeholders = e.placeholders.flatMap fun read => (f read).placeholders := by
  induction e using induct with
  | step e ih =>
    by_cases placed : ∃ read, e = placeholder read
    · obtain ⟨read, rfl⟩ := placed
      simp [substitute, placeholders]
    · have other : ∀ read, e ≠ placeholder read := fun read h => placed ⟨read, h⟩
      have kept : ∀ read, e.substitute f ≠ placeholder read := by
        intro read h
        cases e with
        | placeholder p => exact other p rfl
        | _ => simp [substitute] at h
      rw [placeholders_eq other, placeholders_eq kept, parts_substitute other, List.flatMap_map,
        List.flatMap_assoc]
      exact List.flatMap_congr ih

end Expr

namespace Stmt

mutual

theorem placeholders_perm (around : List Function) :
    ∀ s : Stmt, s.placeholders.Perm (s.openHoles ++ functionHoles (s.functions around))
  | assign target value => by
    simp [placeholders, openHoles, functions, functionHoles, Expr.placeholders_eq_holes]
  | ret value | expr value => by
    simp [placeholders, openHoles, functions, functionHoles, Expr.placeholders_eq_holes]
  | importFrom moduleName names => .refl _
  | function name signature body => by
    have below := placeholdersAll_perm (⟨name, signature, body⟩ :: around) body
    simpa [placeholders, openHoles, functions, functionHoles] using below

theorem placeholdersAll_perm (around : List Function) :
    ∀ ss : List Stmt, (ss.flatMap placeholders).Perm
      (ss.flatMap openHoles ++ functionHoles (functionsAll around ss))
  | [] => .refl _
  | s :: ss => by
    have both := (placeholders_perm around s).append (placeholdersAll_perm around ss)
    rw [functionsAll, List.flatMap_cons, List.flatMap_cons, functionHoles, List.flatMap_append]
    refine both.trans ?_
    simp only [functionHoles, List.append_assoc]
    refine List.Perm.append_left _ ?_
    rw [← List.append_assoc, ← List.append_assoc]
    exact List.Perm.append_right _ List.perm_append_comm

end

mutual

theorem placeholders_substitute (f : Placeholder → Expr) : ∀ s : Stmt,
    (s.substitute f).placeholders = s.placeholders.flatMap fun read => (f read).placeholders
  | assign target value => by
    simp [substitute, placeholders, Expr.placeholders_substitute]
  | ret value | expr value => by
    simp [substitute, placeholders, Expr.placeholders_substitute]
  | importFrom moduleName names => rfl
  | function name signature body => by
    simpa [substitute, placeholders] using placeholdersAll_substitute f body

theorem placeholdersAll_substitute (f : Placeholder → Expr) : ∀ ss : List Stmt,
    (ss.map (substitute f)).flatMap placeholders =
      (ss.flatMap placeholders).flatMap fun read => (f read).placeholders
  | [] => rfl
  | s :: ss => by
    rw [List.map_cons, List.flatMap_cons, List.flatMap_cons, List.flatMap_append,
      placeholders_substitute f s, placeholdersAll_substitute f ss]

end

end Stmt

end TemplateCompiler.Code

namespace TemplateCompiler.Scope

open TemplateCompiler.Code

theorem length_sitesOf (scope : Nat) (us : List Usage) :
    (sitesOf scope us).length = (us.map Usage.occurrences).sum := by
  rw [sitesOf, List.length_flatMap]
  simp

theorem nodup_sites (scope : Nat) (u : Usage) : (u.sites scope).Nodup := by
  refine List.Nodup.map ?_ List.nodup_range
  intro i j h
  exact congrArg Placeholder.index h

theorem Tabled.nodup_sitesOf {scope : Nat} {us : List Usage} (h : Tabled scope us) :
    (sitesOf scope us).Nodup := by
  refine List.nodup_flatMap.mpr ⟨fun u _ => nodup_sites scope u, ?_⟩
  refine (List.pairwise_map.mp h.distinct).imp fun {u v} differ => ?_
  intro read hu hv
  exact differ ((mem_sites hu).2.symm.trans (mem_sites hv).2)

def Tree.sites (t : Tree) : List Placeholder := t.regions.flatMap fun r => sitesOf r.id r.usages

def Tree.readCount (t : Tree) : Nat :=
  (t.regions.map fun r => (r.usages.map Usage.occurrences).sum).sum

theorem Tree.length_sites (t : Tree) : t.sites.length = t.readCount := by
  rw [sites, List.length_flatMap, readCount]
  simp only [length_sitesOf]

end TemplateCompiler.Scope

namespace TemplateCompiler.Generate

open TemplateCompiler.Code TemplateCompiler.Scope TemplateCompiler.Template

section

variable {U : Uses} {d : Draft}

namespace Draft.Made

theorem placeholders_perm_sites (made : d.Made U) : d.stmt.placeholders.Perm d.tree.sites := by
  have found := Stmt.placeholders_perm [] d.stmt
  have none : d.stmt.openHoles = [] := rfl
  rw [none, List.nil_append, made.functions_stmt, Stmt.functionHoles, List.flatMap_map] at found
  have regions : d.tree.sites = d.scopes.flatMap fun x => sitesOf x.2.region.id x.2.region.usages := by
    rw [Tree.sites, ← Tree.map_region_spots [] [] d.tree, List.flatMap_map]
    rfl
  rw [regions]
  refine found.trans (List.Perm.flatMap_left _ fun x hx => ?_)
  obtain ⟨loops, nested⟩ := made.nested x hx
  have loaded : (d.function x.2).body.flatMap Stmt.openHoles = holes (d.function x.2).loads := by
    rw [Function.loads, holes, List.filterMap_flatMap]
    exact List.flatMap_congr nested.openHoles
  rw [loaded]
  exact nested.sites

theorem nodup_sites (made : d.Made U) : d.tree.sites.Nodup := by
  refine List.nodup_flatMap.mpr ⟨fun r hr => ?_, ?_⟩
  · have hm : r ∈ d.scopes.map fun x => x.2.region := by
      rw [Draft.scopes, Tree.map_region_spots]
      exact hr
    obtain ⟨x, hx, rfl⟩ := List.mem_map.mp hm
    obtain ⟨loops, nested⟩ := made.nested x hx
    exact nested.tabled.nodup_sitesOf
  · refine (List.pairwise_map.mp made.numbers).imp fun {r q} differ => ?_
    intro read hr hq
    obtain ⟨u, -, hu⟩ := List.mem_flatMap.mp hr
    obtain ⟨v, -, hv⟩ := List.mem_flatMap.mp hq
    exact differ ((mem_sites hu).1.symm.trans (mem_sites hv).1)

theorem placeholders_decision (made : d.Made U) {read : Placeholder} (h : read ∈ d.stmt.placeholders) :
    (d.decision read).placeholders = [] := by
  have among : read ∈ Stmt.breadthFirst [d.stmt] := by
    have levels := Stmt.levelsAll_perm_functionHoles [] [d.stmt]
    have places := Stmt.placeholdersAll_perm [] [d.stmt]
    refine levels.mem_iff.mpr (places.mem_iff.mp ?_)
    simpa using h
  have some := List.find?_eq_none.mp made.firstUndecided? read among
  rw [Option.isNone_iff_eq_none] at some
  obtain ⟨e, target⟩ := Option.ne_none_iff_exists'.mp some
  have decision : d.decision read = e := by rw [Draft.decision, Tree.target, target, Option.getD_some]
  obtain ⟨u, -, ht⟩ := Option.bind_eq_some_iff.mp target
  rw [decision]
  unfold Usage.target? at ht
  split at ht <;> cases ht <;> rfl

theorem placeholders_finished (made : d.Made U) : d.finished.placeholders = [] := by
  rw [Draft.finished, Stmt.placeholders_substitute, List.flatMap_eq_nil_iff]
  intro read h
  exact made.placeholders_decision h

theorem resolve_stmt (made : d.Made U) :
    (d.tree.collect.decide []).resolve [d.stmt] = .ok ([d.finished], d.tree.readCount) := by
  rw [Tree.resolve, made.firstUndecided?, ← Tree.length_sites, ← made.placeholders_perm_sites.length_eq]
  simp only [List.map_singleton, List.flatMap_singleton]
  rfl

end Draft.Made

end

theorem placeholders_programStmts {config : Config} {emitter : Emitter} {render : Stmt}
    {stmts : List Stmt} (h : programStmts config emitter render = .ok stmts) :
    stmts.flatMap Stmt.placeholders = render.placeholders := by
  have imports : (namespaceImport emitter).flatMap Stmt.placeholders = [] := by
    unfold namespaceImport
    split <;> rfl
  have lookups : ∀ {α : Type} (xs : List α) (name key : α → String),
      (xs.map fun x => moduleLookup (name x) (key x)).flatMap Stmt.placeholders = [] := by
    intro α xs name key
    rw [List.flatMap_map, List.flatMap_eq_nil_iff]
    intro x _
    rfl
  have components : (emitter.components.entries.map fun c => componentImport c.1 c.2).flatMap
      Stmt.placeholders = [] := by
    rw [List.flatMap_map, List.flatMap_eq_nil_iff]
    intro c _
    rfl
  unfold programStmts at h
  split at h
  · cases h
    simp [factoryStmt, Stmt.placeholders, imports, lookups, stylesheetsStmt, Expr.placeholders]
  · cases h
    simp [moduleStmts, Stmt.placeholders, imports, components, stylesheetsStmt, Expr.placeholders,
      Expr.apply]
  · cases h

theorem noted_generate {config : Config} {root : Node} {program : Program} {d : Draft}
    (h : (generate config root).1 = .ok program) (hd : draft? config root = some d)
    {count : Nat} {stmts : List Stmt}
    (resolved : (d.tree.collect.decide []).resolve [d.stmt] = .ok (stmts, count)) :
    LogEntry.resolved count d.tree.collect.regions.length ∈ (generate config root).2 := by
  obtain ⟨x, t, run, -, log⟩ := runs_of_generate h
  obtain ⟨d', hd', -, -, stmts', count', resolved', noted⟩ := runs_render run
  obtain rfl : d' = d := Option.some.inj (hd'.symm.trans hd)
  obtain ⟨-, rfl⟩ := Prod.mk.inj (Except.ok.inj (resolved'.symm.trans resolved))
  exact log ▸ noted

/-- The recorded reads of a draft and its undecided reads are the same, each in one place; all of them are
replaced and counted; and none is left in the program. -/
structure ResolvedOnce (d : Draft) (stmts : List Stmt) (log : List LogEntry) : Prop where
  places : ∀ read, d.stmt.placeholders.count read = if read ∈ d.tree.sites then 1 else 0
  resolves : (d.tree.collect.decide []).resolve [d.stmt] = .ok ([d.finished], d.tree.readCount)
  noted : .resolved d.tree.readCount d.tree.collect.regions.length ∈ log
  finished : renderOf stmts = some d.finished
  none : stmts.flatMap Stmt.placeholders = []

/-- Every read that was recorded while a template was lowered stands in one place of the draft of the
render function, as many are replaced as were recorded, and no placeholder is left. -/
theorem recorded_reads_resolved_once {config : Config} {root : Node} {program : Program}
    (h : (generate config root).1 = .ok program) :
    ∃ d, draft? config root = some d ∧ ResolvedOnce d program.stmts (generate config root).2 := by
  obtain ⟨d, hd, finished, stmts⟩ := draft_of_generate h
  have made := made_of_draft? hd
  refine ⟨d, hd, ?_, made.resolve_stmt, noted_generate h hd made.resolve_stmt, finished, ?_⟩
  · intro read
    rw [made.placeholders_perm_sites.count_eq, made.nodup_sites.count]
  · rw [placeholders_programStmts stmts, made.placeholders_finished]

/-- A loop over rows with a conditional on a property that is read again in it. -/
def markedRows : Node :=
  .root [.element { Element.ofTag "li" with
      forEach := some ⟨.name "rows", "row", none⟩
      branch := some ⟨some (.name "marked"), .holds, .opening⟩ }
    [.show (.binary .add (.name "marked") (.name "row")), .show (.name "rows")]]

theorem markedRows_resolved_once : ∃ program, (generate .default markedRows).1 = .ok program ∧
    ∃ d, draft? .default markedRows = some d ∧
      ResolvedOnce d program.stmts (generate .default markedRows).2 := by
  have ok : (generate .default markedRows).1.isOk := by decide +kernel
  obtain ⟨program, h⟩ := exists_of_isOk ok
  exact ⟨program, h, recorded_reads_resolved_once h⟩

end TemplateCompiler.Generate
