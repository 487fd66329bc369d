import Mathlib.Algebra.Ring.Nat
import TemplateCompiler.Proofs.Generate.Nesting

/-!
What the function of a scope loads. Besides the code of the scope these are the properties that the scope
reads into local names and the names that come with the form of the function. The undecided reads are
those that the scope recorded, and each is decided by the scopes around it.
-/

namespace TemplateCompiler.Generate

open TemplateCompiler.Code TemplateCompiler.Scope TemplateCompiler.Template

theorem collects_loads : Collects Stmt.loads fun b => b.2.occurrences where
  destructure bs := by
    unfold Stmt.destructure
    split
    · simp [Stmt.loads]
    · simp [Stmt.loads, Expr.occurrences, List.flatMap_map]
  function _ _ _ := rfl

def hoistLoads (p : Spot) : List Occurrence := p.hoisted.map fun u => .free (.read u.property)

theorem occurrences_componentMember (property : String) :
    (componentMember property).occurrences = [.free (.read property)] := by
  simp [componentMember, Expr.occurrences]

theorem loads_leading (p : Spot) : p.leading.flatMap Stmt.loads = hoistLoads p := by
  simp only [collects_loads.leading, occurrences_componentMember, ← List.map_eq_flatMap, hoistLoads]

theorem mem_leading {p : Spot} {s : Stmt} (h : s ∈ p.leading) :
    s = .destructure (p.hoisted.map fun u => (u.localName, componentMember u.property)) ∨
      ∃ name signature body, s = .function name signature body := by
  unfold Spot.leading at h
  rw [Tree.collect, Tree.leading, List.mem_append] at h
  rcases h with h | h
  · change s ∈ p.collected.hoistStmts p.inherited at h
    unfold Region.hoistStmts at h
    split at h
    · cases h
    · exact .inl (List.mem_singleton.mp h)
  · refine .inr ?_
    have named : ∀ ts, s ∈ Tree.helpers (p.collected.available p.inherited) ts →
        ∃ name signature body, s = .function name signature body := by
      intro ts
      induction ts with
      | nil => intro h; cases h
      | cons t ts ih =>
        obtain ⟨region, children⟩ := t
        rw [Tree.helpers]
        cases region.helper with
        | none => simpa using ih
        | some helper =>
          intro h
          rcases List.mem_cons.mp h with h | h
          · exact ⟨_, _, _, h⟩
          · exact ih h
    exact named _ h

/-- The names that come with the form of a function. -/
inductive Introduces (p : Spot) (loops : List Loop) : String → Prop
  | parameter {id : String} (root : p.region.helper = none)
      (h : id ∈ [apiName, slotSetName, contextName]) : Introduces p loops id
  | test (kind : p.region.kind = .conditional) : Introduces p loops testName
  | namespaceType {f : ForOf} (kind : p.region.kind = .forOf) (h : loops.head? = some (.of f)) :
      Introduces p loops namespaceTypeName
  | part {f : ForOf} {part : String} (kind : p.region.kind = .forOf)
      (h : loops.head? = some (.of f)) (hp : part ∈ iteratorParts) :
      Introduces p loops (partName f.iterator part)

theorem occurrences_test {modifier : Modifier} {condition : Expr}
    (h : testExpr? modifier = some condition) :
    condition.occurrences = [.free (.own testName)] := by
  cases modifier <;> cases h <;> simp [Expr.occurrences, Expr.bool]

section

variable {U : Uses} {d : Draft} {p q : Spot} {above around : List Spot} {loops : List Loop}

theorem Nested.loads (h : Nested U d (p :: above) loops) :
    ∃ own os, (d.function p).loads.Perm (hoistLoads p ++ own ++ os) ∧
      Coded U d.emitter loops p.region p.children os ∧
      ∀ o ∈ own, ∃ id, o = .free (.own id) ∧ Introduces p loops id := by
  cases h with
  | @root r children number kind helper coded =>
    have member (name : String) : (Expr.member (.own apiName) name).occurrences = [.free (.own apiName)] := by
      have other : apiName ≠ componentName := by decide
      simp [Expr.occurrences, other]
    have entry {mapping : String} (other : mapping ≠ componentName) (name key : String) :
        (takeEntry name mapping key).loads = [.free (.own mapping)] := by
      simp [takeEntry, Stmt.loads, Expr.apply, Expr.occurrences, Expr.str, other]
    have ret : (Stmt.ret d.root).loads = d.root.occurrences := rfl
    have slot (name key : String) := entry (show slotSetName ≠ _ by decide) name key
    have memo (name key : String) := entry (show contextName ≠ _ by decide) name key
    refine ⟨(d.emitter.primitives.map fun _ => .free (.own apiName)) ++
      ((d.emitter.slots.entries.map fun _ => .free (.own slotSetName)) ++
      d.emitter.memoNames.map fun _ => .free (.own contextName)), d.root.occurrences, ?_, coded, ?_⟩
    · simp only [Draft.function, helper, Function.loads, renderBody_eq, List.flatMap_append,
        collects_loads.renderPrelude, member, slot, memo, occurrences_componentMember, ← List.map_eq_flatMap,
        hoistLoads, List.flatMap_singleton, ret, List.append_assoc]
      rw [← List.append_assoc, ← List.append_assoc (List.map _ (Spot.hoisted _))]
      exact List.Perm.append_right _ List.perm_append_comm
    · simp only [List.mem_append, List.mem_map]
      rintro o (⟨_, -, rfl⟩ | ⟨_, -, rfl⟩ | ⟨_, -, rfl⟩) <;> exact ⟨_, rfl, .parameter helper (by simp)⟩
  | @conditional _ q _ _ modifier condition body otherwise _ _ _ _ kind test helper coded =>
    refine ⟨[.free (.own testName)], _, ?_, coded, ?_⟩
    · simp only [Draft.function, helper, Function.loads, testHelper, List.flatMap_append, loads_leading,
        List.flatMap_singleton, Stmt.loads, Expr.occurrences, occurrences_test test,
        List.append_assoc]
      exact .refl _
    · intro o ho
      exact ⟨_, List.mem_singleton.mp ho, .test kind⟩
  | @loop _ q _ _ l body _ _ _ _ _ kind _ helper coded =>
    cases l with
    | each f =>
      refine ⟨[], _, ?_, coded, by simp⟩
      simp only [Draft.function, helper, Function.loads, loopHelper, List.flatMap_append,
        loads_leading, List.flatMap_singleton, Stmt.loads, List.append_nil]
      exact .refl _
    | of f =>
      refine ⟨(namespaceValue f.iterator).occurrences, _, ?_, coded, ?_⟩
      · simp only [Draft.function, helper, Function.loads, loopHelper, List.flatMap_append,
          loads_leading, List.flatMap_cons, List.flatMap_nil, Stmt.loads, List.append_nil,
          List.append_assoc]
        exact .refl _
      · intro o ho
        simp only [namespaceValue, Expr.occurrences, Expr.occurrencesAll_eq_flatMap, List.flatMap_nil,
          List.append_nil, List.singleton_append, List.mem_cons, List.flatMap_map, List.mem_flatMap,
          List.not_mem_nil, or_false] at ho
        rcases ho with rfl | ⟨part, hp, rfl⟩
        · exact ⟨_, rfl, .namespaceType kind rfl⟩
        · exact ⟨_, rfl, .part kind rfl hp⟩

theorem Nested.sites (h : Nested U d (p :: above) loops) :
    (holes (d.function p).loads).Perm (sitesOf p.region.id p.region.usages) := by
  obtain ⟨own, os, perm, coded, introduced⟩ := h.loads
  have hoisted : holes (hoistLoads p) = [] := by
    simp [holes, hoistLoads, Occurrence.hole?, Occurrence.free]
  have none : holes own = [] := by
    rw [holes, List.filterMap_eq_nil_iff]
    intro o ho
    obtain ⟨id, rfl, -⟩ := introduced o ho
    rfl
  have sites := perm.filterMap Occurrence.hole?
  change (holes _).Perm (holes _) at sites
  rw [holes_append, holes_append, hoisted, none, List.append_nil, List.nil_append] at sites
  exact sites.trans coded.sites.symm

def TakesPrimitives (s : Stmt) : Prop :=
  ∃ ps : List Primitive, s = .destructure (ps.map fun x => (x.localName, .member (.own apiName) x.member))

/-- The statements that follow those that a scope starts with. -/
inductive Closing : Stmt → Prop
  | entry (name mapping key : String) : Closing (takeEntry name mapping key)
  | namespaceValue (iterator : String) :
      Closing (.assign (.name iterator) (namespaceValue iterator))
  | ret (value : Expr) : Closing (.ret value)

theorem Nested.body (h : Nested U d (p :: above) loops) :
    ∃ before after, (d.function p).body = before ++ p.leading ++ after ∧
      (∀ s ∈ before, p.region.helper = none ∧ TakesPrimitives s) ∧ ∀ s ∈ after, Closing s := by
  cases h with
  | root number kind helper coded =>
    refine ⟨primitiveStmts d.emitter.primitives,
      d.emitter.slots.entries.map (fun s => takeEntry s.2 slotSetName s.1) ++
        d.emitter.memoNames.map (fun m => takeEntry m contextName m) ++ [.ret d.root], ?_, ?_, ?_⟩
    · simp only [Draft.function, helper, renderBody, List.append_assoc]
    · intro s hs
      unfold primitiveStmts at hs
      split at hs
      · cases hs
      · exact ⟨helper, _, List.mem_singleton.mp hs⟩
    · intro s hs
      simp only [List.mem_append, List.mem_map, List.mem_singleton] at hs
      rcases hs with (⟨x, -, rfl⟩ | ⟨x, -, rfl⟩) | rfl
      · exact .entry ..
      · exact .entry ..
      · exact .ret _
  | @conditional _ _ _ _ _ condition body otherwise _ _ _ _ _ _ helper =>
    refine ⟨[], [.ret (.conditional condition body otherwise)], ?_, by simp, ?_⟩
    · simp only [Draft.function, helper, testHelper, List.nil_append]
    · simpa using Closing.ret _
  | @loop _ _ _ _ l body _ _ _ _ _ _ _ helper =>
    cases l with
    | each f =>
      refine ⟨[], [.ret body], ?_, by simp, by simpa using Closing.ret _⟩
      simp only [Draft.function, helper, loopHelper, List.nil_append]
    | of f =>
      refine ⟨[], [.assign (.name f.iterator) (namespaceValue f.iterator), .ret body], ?_, by simp, ?_⟩
      · simp only [Draft.function, helper, loopHelper, List.nil_append]
      · intro s hs
        rcases List.mem_pair.mp hs with rfl | rfl
        · exact .namespaceValue _
        · exact .ret _

theorem Nested.tabled (h : Nested U d (p :: above) loops) : Tabled p.region.id p.region.usages := by
  obtain ⟨own, os, -, coded, -⟩ := h.loads
  exact coded.tabled

end

theorem localName_of_tabled {scope : Nat} {us : List Usage} (h : Tabled scope us) {u : Usage}
    (hu : u ∈ us) : ∃ k, u.localName = localName scope k := by
  have hm : u.localName ∈ us.map Usage.localName := List.mem_map_of_mem hu
  rw [h.localNames] at hm
  obtain ⟨k, -, hk⟩ := List.mem_map.mp hm
  exact ⟨k, hk.symm⟩

/-- Some scope uses the property and has the local name for it. -/
def Draft.Aliases (d : Draft) (property name : String) : Prop :=
  ∃ x ∈ d.scopes, ∃ u ∈ x.2.region.usages, u.property = property ∧ u.localName = name

namespace Draft.Made

variable {U : Uses} {d : Draft} {p : Spot} {above : List Spot} {u : Usage}

/-- The local name of a property in the outermost scope that uses it is that of a usage there. -/
theorem topAlias_aliases (hp : (above, p) ∈ d.scopes) {property name : String}
    (h : topAlias above property = some name) : d.Aliases property name := by
  obtain ⟨q, around, suffix, -, named⟩ := topAlias_eq_some h
  have inTree := Tree.spots_suffix hp (suffix.trans (List.suffix_cons p above))
  obtain ⟨v, hv, rfl⟩ := Option.map_eq_some_iff.mp named
  have is := List.find?_some hv
  exact ⟨_, inTree.resolve_left (by simp), v, List.mem_of_find?_eq_some hv, by simpa using is, rfl⟩

theorem localName_of_aliases (made : d.Made U) {property name : String} (h : d.Aliases property name) :
    ∃ scope k, name = localName scope k := by
  obtain ⟨x, hx, u, hu, -, rfl⟩ := h
  obtain ⟨_, nested⟩ := made.nestedAt hx
  obtain ⟨k, hk⟩ := localName_of_tabled nested.tabled hu
  exact ⟨_, k, hk⟩

theorem aliases_unique (made : d.Made U) {property other name : String} (h : d.Aliases property name)
    (h' : d.Aliases other name) : other = property := by
  obtain ⟨x, hx, u, hu, rfl, named⟩ := h
  obtain ⟨y, hy, v, hv, rfl, named'⟩ := h'
  obtain ⟨_, nested⟩ := made.nestedAt hx
  obtain ⟨_, nested'⟩ := made.nestedAt hy
  obtain ⟨j, hj⟩ := localName_of_tabled nested.tabled hu
  obtain ⟨k, hk⟩ := localName_of_tabled nested'.tabled hv
  have same : localName x.2.region.id j = localName y.2.region.id k := by rw [← hj, ← hk, named, named']
  obtain rfl := made.scope_unique hx hy (localName_injective same).1
  have names : (x.2.region.usages.map Usage.localName).Nodup := by
    rw [nested.tabled.localNames]
    exact List.nodup_range.map fun a b h => (localName_injective h).2
  rw [List.inj_on_of_nodup_map names hu hv (named.trans named'.symm)]

theorem decision (made : d.Made U) (hp : (above, p) ∈ d.scopes) (hu : u ∈ p.region.usages)
    {read : Placeholder} (hs : read.scope = p.region.id) (hr : read.property = u.property) :
    d.decision read =
      match topAlias above u.property with
      | some name => .own name
      | none =>
        if 1 < u.occurrences ∨ u.property ∈ Tree.usedAll p.children then .own u.localName
        else componentMember u.property := by
  obtain ⟨loops, nested⟩ := made.nestedAt hp
  have usage := usageOf?_spot made.numbers hp nested.tabled.distinct hu hs hr
  have resolution := decideUsage_spot hp hu
  unfold Draft.decision Tree.target Tree.target?
  rw [usage, Option.bind_some, Usage.target?, resolution]
  cases topAlias above u.property with
  | some name => rfl
  | none =>
    by_cases h : 1 < u.occurrences ∨ u.property ∈ Tree.usedAll p.children
    · simp only [if_pos h, Option.getD_some]
    · simp only [if_neg h, Option.getD_some, property_decideUsage]

theorem decidedBy (made : d.Made U) (read : Placeholder) : d.decision read = .placeholder read ∨
    d.decision read = componentMember read.property ∨
      ∃ name, d.Aliases read.property name ∧ d.decision read = .own name := by
  cases hf : (d.tree.collect.decide []).usageOf? read with
  | none =>
    refine .inl ?_
    simp only [Draft.decision, Tree.target, Tree.target?, hf, Option.bind_none, Option.getD_none]
  | some v =>
    refine .inr ?_
    obtain ⟨region, hregion, hv⟩ := Option.bind_eq_some_iff.mp hf
    have hs := List.find?_some hregion
    have hr := List.find?_some hv
    have hm := List.mem_of_find?_eq_some hregion
    rw [Tree.regions_decide [] []] at hm
    obtain ⟨⟨above, p⟩, hp, rfl⟩ := List.mem_map.mp hm
    obtain ⟨u, hu, rfl⟩ := List.mem_map.mp (List.mem_of_find?_eq_some hv)
    simp only [decide_eq_true_eq, property_decideUsage] at hs hr
    have decided := made.decision hp hu hs.symm hr.symm
    rw [← hr]
    cases htop : topAlias above u.property with
    | some name =>
      rw [htop] at decided
      exact .inr ⟨name, topAlias_aliases hp htop, decided⟩
    | none =>
      simp only [htop] at decided
      split at decided
      · exact .inr ⟨_, ⟨_, hp, u, hu, rfl, rfl⟩, decided⟩
      · exact .inl decided

theorem decided (made : d.Made U) (read : Placeholder) : d.decision read = .placeholder read ∨
    d.decision read = componentMember read.property ∨
      ∃ scope k, d.decision read = .own (localName scope k) := by
  rcases made.decidedBy read with h | h | ⟨name, aliases, h⟩
  · exact .inl h
  · exact .inr (.inl h)
  · obtain ⟨scope, k, rfl⟩ := made.localName_of_aliases aliases
    exact .inr (.inr ⟨scope, k, h⟩)

theorem decides (made : d.Made U) : Expr.Decides d.decision := by
  intro read
  rcases made.decided read with h | h | ⟨scope, k, h⟩
  · exact .inl h
  · exact .inr (.inl ⟨_, h⟩)
  · exact .inr (.inr ⟨_, localName_ne_componentName _ _, h⟩)

end Draft.Made

end TemplateCompiler.Generate
