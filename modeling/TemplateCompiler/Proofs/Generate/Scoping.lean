import TemplateCompiler.Proofs.Generate.Reads

/-!
Generated names are in scope. Every name that generated code makes for a property or for a helper is used
only where the function around binds it, and is bound once in the whole render function.
-/

namespace TemplateCompiler.Generate

open TemplateCompiler.Code TemplateCompiler.Scope TemplateCompiler.Template

/-- The function assigns the name in the statement that it starts with. In the render function, the
statement that takes the primitives stands before it. -/
def StartsWith (f : Function) (name : String) : Prop :=
  ∃ before bindings after, f.body = before ++ Stmt.destructure bindings :: after ∧
    name ∈ bindings.map Prod.fst ∧ ∀ s ∈ before, f.name = renderName ∧ TakesPrimitives s

section

variable {U : Uses} {d : Draft} {p q : Spot} {above around : List Spot} {loops : List Loop}

theorem Nested.named (h : Nested U d (p :: above) loops) (root : p.region.helper ≠ none) :
    Named p.region ∧ p.region.kind ∈ helperKinds := by
  cases h with
  | root number kind helper coded => exact absurd helper root
  | conditional around child inherits named kind test helper coded =>
    exact ⟨named, by simp [kind, helperKinds]⟩
  | @loop _ _ _ _ l body around child inherits uses named kind noted helper coded =>
    refine ⟨named, ?_⟩
    cases l <;> simp [kind, loopKind, helperKinds]

theorem Nested.isHelperName (h : Nested U d (p :: above) loops) (root : p.region.helper ≠ none) :
    IsHelperName p.region.helperName := by
  obtain ⟨⟨k, hk⟩, kind⟩ := h.named root
  exact ⟨_, kind, _, k, hk⟩

theorem Nested.regions_subset {path : List Spot} (h : Nested U d path loops) :
    ∀ p ∈ path.head?, ∀ q around, (q :: around) <:+ path →
      Tree.regionsAll p.children ⊆ Tree.regionsAll q.children := by
  have step {p c : Spot} (child : .node p.region p.children ∈ c.children) :
      Tree.regionsAll p.children ⊆ Tree.regionsAll c.children := by
    intro r hr
    rw [Tree.regionsAll_eq_flatMap c.children]
    exact List.mem_flatMap.mpr ⟨_, child, List.mem_cons_of_mem _ hr⟩
  induction h with
  | root number kind helper coded =>
    intro p hp q around hs
    obtain ⟨rfl, rfl⟩ := List.cons.inj (List.IsSuffix.eq_of_length_le hs (by simp))
    rw [← Option.some.inj hp]
    exact List.Subset.refl _
  | conditional inner child inherits named kind test helper coded ih
  | loop inner child inherits uses named kind noted helper coded ih =>
    intro p hp q around hs
    obtain rfl := Option.some.inj hp
    rcases List.suffix_cons_iff.mp hs with e | hs
    · obtain ⟨rfl, rfl⟩ := List.cons.inj e
      exact List.Subset.refl _
    · exact List.Subset.trans (step child) (ih _ rfl q around hs)

theorem Nested.mem_below (h : Nested U d (p :: above) loops) (hs : (q :: around) <:+ above) :
    p.region ∈ Tree.regionsAll q.children := by
  have step {p c : Spot} (child : .node p.region p.children ∈ c.children) :
      p.region ∈ Tree.regionsAll c.children := by
    rw [Tree.regionsAll_eq_flatMap]
    exact List.mem_flatMap.mpr ⟨_, child, List.mem_cons_self⟩
  cases h with
  | root number kind helper coded => exact absurd hs (by simp)
  | conditional inner child inherits named kind test helper coded
  | loop inner child inherits uses named kind noted helper coded =>
    exact inner.regions_subset _ rfl q around hs (step child)

/-- A recorded read that goes through a local name goes through one that a function around assigns in the
statement that it starts with. -/
theorem Draft.Made.shares_site (made : d.Made U) (hp : (above, p) ∈ d.scopes) {s : Placeholder}
    (hs : s ∈ sitesOf p.region.id p.region.usages) :
    d.decision s = componentMember s.property ∨
      ∃ q around u, (q :: around) <:+ (p :: above) ∧ u ∈ q.hoisted ∧ d.decision s = .own u.localName := by
  obtain ⟨loops, nested⟩ := made.nestedAt hp
  rcases made.decided_site hp hs with ⟨-, -, decided⟩ | ⟨shares, q, around, name, suffix, top, named, decided⟩
  · exact .inl decided
  · refine .inr ?_
    have used : s.property ∈ p.region.properties := by
      obtain ⟨u, hu, hm⟩ := List.mem_flatMap.mp hs
      rw [(mem_sites hm).2]
      exact List.mem_map_of_mem hu
    have outer : (around, q) ∈ d.scopes :=
      (Tree.spots_suffix hp suffix).resolve_left (by simp)
    have shared : Shares s.property around q := by
      rcases List.suffix_cons_iff.mp suffix with e | below
      · obtain ⟨rfl, rfl⟩ := List.cons.inj e
        exact shares top
      · exact ⟨top, .inr ⟨p.region, nested.mem_below below, used⟩⟩
    have assigns := (made.assigns_iff outer).mpr ⟨shared, named⟩
    obtain ⟨_, outerNested⟩ := made.nestedAt outer
    obtain ⟨u, hu, rfl, -⟩ := (outerNested.assigns _).mp assigns
    exact ⟨q, around, u, suffix, hu, decided⟩

theorem Nested.startsWith (h : Nested U d (p :: above) loops) (σ : Placeholder → Expr) {u : Usage}
    (hu : u ∈ p.hoisted) : StartsWith ((d.function p).substitute σ) u.localName := by
  obtain ⟨before, after, body, engine, -⟩ := h.body
  have leading : p.leading =
      .destructure (p.hoisted.map fun v => (v.localName, componentMember v.property)) ::
        Tree.helpers p.passes (Tree.collectAll p.children) := by
    change p.collected.hoistStmts p.inherited ++ _ = _
    unfold Region.hoistStmts
    split
    · next e => exact absurd e (List.ne_nil_of_mem hu)
    · rfl
  refine ⟨before.map (Stmt.substitute σ),
    p.hoisted.map fun v => (v.localName, (componentMember v.property).substitute σ),
    (Tree.helpers p.passes (Tree.collectAll p.children) ++ after).map (Stmt.substitute σ), ?_, ?_, ?_⟩
  · rw [Function.substitute, body, leading]
    simp only [List.map_append, List.map_cons, Stmt.substitute_destructure, List.map_map,
      List.append_assoc, List.cons_append]
    rfl
  · rw [List.map_map]
    exact List.mem_map.mpr ⟨u, hu, rfl⟩
  · intro s hs
    obtain ⟨t, ht, rfl⟩ := List.mem_map.mp hs
    obtain ⟨root, ps, rfl⟩ := engine t ht
    refine ⟨?_, ps, ?_⟩
    · simp only [Function.substitute, Draft.function, root]
    · rw [Stmt.substitute_destructure, List.map_map]
      rfl

/-- Where a name of generated code in the code of a scope comes from. -/
inductive Origin (d : Draft) (above : List Spot) (p : Spot) (name : String) : Prop
  | property {q : Spot} {around : List Spot} {u : Usage} (suffix : (q :: around) <:+ (p :: above))
      (hoisted : u ∈ q.hoisted) (is : name = u.localName)
  | helper {c : Tree} (child : c ∈ p.children) (is : name = c.region.helperName)
  | noted (h : d.emitter.Notes name)

theorem Draft.Made.origin (made : d.Made U) (hp : (above, p) ∈ d.scopes) {os : List Occurrence}
    (coded : Coded U d.emitter loops p.region p.children os) {o : Occurrence}
    (ho : o ∈ os.flatMap (Occurrence.replace d.decision)) {name : String} (is : o.atom = .own name) :
    Origin d above p name := by
  obtain ⟨x, hx, ho⟩ := List.mem_flatMap.mp ho
  cases hhole : x.hole? with
  | some site =>
    have recorded : site ∈ sitesOf p.region.id p.region.usages :=
      coded.sites.symm.subset (List.mem_filterMap.mpr ⟨x, hx, hhole⟩)
    rw [Occurrence.replace_of_hole?_some hhole] at ho
    obtain ⟨y, hy, rfl⟩ := List.mem_map.mp ho
    rcases made.shares_site hp recorded with decided | ⟨q, around, u, suffix, hu, decided⟩
    · rw [decided, occurrences_componentMember] at hy
      rw [List.mem_singleton.mp hy] at is
      cases is
    · rw [decided, Expr.occurrences] at hy
      rw [List.mem_singleton.mp hy] at is
      exact .property suffix hu (Atom.own.inj is).symm
  | none =>
    rw [Occurrence.replace_of_hole?_none hhole] at ho
    obtain rfl := List.mem_singleton.mp ho
    cases coded.sourced o hx with
    | noted id e noted =>
      subst e
      cases is
      exact .noted noted
    | helper c child e =>
      subst e
      cases is
      exact .helper child rfl
    | template e uses written =>
      obtain ⟨a, w⟩ := o
      subst is
      obtain ⟨id, h | h⟩ := (Expr.written_asWritten e).name _ written <;> simp [erase] at h

/-- A name of generated code in the function of a scope is in its code or comes with its form. -/
theorem Draft.Made.load_origin (made : d.Made U) (hp : (above, p) ∈ d.scopes)
    (nested : Nested U d (p :: above) loops) {o : Occurrence}
    (ho : o ∈ ((d.function p).substitute d.decision).loads) {name : String} (is : o.atom = .own name) :
    Origin d above p name ∨ Introduces p loops name := by
  obtain ⟨own, os, perm, coded, introduced⟩ := nested.loads
  rw [Function.loads_substitute made.decides] at ho
  obtain ⟨x, hx, ho⟩ := List.mem_flatMap.mp ho
  have parts := perm.subset hx
  simp only [List.mem_append] at parts
  rcases parts with (hm | hm) | hm
  · obtain ⟨u, -, rfl⟩ := List.mem_map.mp hm
    rw [List.mem_singleton.mp ho] at is
    cases is
  · obtain ⟨id, rfl, h⟩ := introduced x hm
    rw [List.mem_singleton.mp ho] at is
    cases is
    exact .inr h
  · exact .inl (made.origin hp coded (List.mem_flatMap.mpr ⟨x, hm, ho⟩) is)

theorem Introduces.plain {name : String} (h : Introduces p loops name) : IsPlainName name := by
  cases h with
  | parameter root h =>
    simp only [List.mem_cons, List.not_mem_nil, or_false] at h
    rcases h with rfl | rfl | rfl <;> exact .inl (by decide)
  | test kind => exact .inl (by decide)
  | namespaceType kind h => exact .inl (by decide)
  | part kind h hp => exact isPlainName_part hp

theorem Nested.helper_ne_none (h : Nested U d (p :: q :: above) loops) : p.region.helper ≠ none := by
  cases h with
  | conditional around child inherits named kind test helper coded => simp [helper]
  | loop around child inherits uses named kind noted helper coded => simp [helper]

theorem Draft.Made.child (made : d.Made U) (hp : (above, p) ∈ d.scopes) {c : Tree}
    (hc : c ∈ p.children) : c.region.helper ≠ none ∧ IsHelperName c.region.helperName := by
  obtain ⟨loops, nested⟩ := made.nestedAt (Tree.spots_child hp hc)
  exact ⟨nested.helper_ne_none, nested.isHelperName nested.helper_ne_none⟩

theorem Origin.localName (made : d.Made U) (hp : (above, p) ∈ d.scopes) {name : String}
    (h : Origin d above p name) (is : IsLocalName name) :
    (∃ q around u, (q :: around) <:+ (p :: above) ∧ u ∈ q.hoisted ∧ name = u.localName) ∨
      d.emitter.IsComponent name := by
  cases h with
  | property suffix hoisted e => exact .inl ⟨_, _, _, suffix, hoisted, e⟩
  | helper child e => exact absurd (e ▸ (made.child hp child).2) is.not_helper
  | noted h => exact .inr ((h.plain_or_component made.formed).resolve_left is.not_plain)

theorem isLocalName_hoisted {u : Usage} (h : Nested U d (p :: above) loops) (hu : u ∈ p.hoisted) :
    IsLocalName u.localName := by
  obtain ⟨k, hk⟩ := localName_of_tabled h.tabled (List.mem_of_mem_filter hu)
  exact ⟨_, k, hk⟩

theorem not_isHelperName_component (reference : String) :
    ¬ IsHelperName (componentIdentifier reference) := by
  intro h
  obtain ⟨c, rest, hl, hc⟩ := head_helperName h
  rw [componentIdentifier, String.toList_append] at hl
  exact hc (List.cons.inj hl).1.symm

theorem Origin.helperName (made : d.Made U) (hp : (above, p) ∈ d.scopes) {name : String}
    (h : Origin d above p name) (is : IsHelperName name) :
    ∃ c ∈ p.children, name = c.region.helperName := by
  cases h with
  | property suffix hoisted e =>
    obtain ⟨_, outer⟩ := made.nestedAt ((Tree.spots_suffix hp suffix).resolve_left (by simp))
    exact absurd (e ▸ is) (isLocalName_hoisted outer hoisted).not_helper
  | helper child e => exact ⟨_, child, e⟩
  | noted h =>
    rcases h.plain_or_component made.formed with plain | ⟨reference, -, rfl⟩
    · exact absurd plain is.not_plain
    · exact absurd is (not_isHelperName_component reference)

theorem Emitter.Notes.testName {E : Emitter} (formed : E.Formed) (h : E.Notes Generate.testName) :
    E.IsComponent Generate.testName := by
  generalize hn : Generate.testName = name at h
  cases h with
  | @primitive p hp => cases p <;> exact absurd hn (by decide)
  | @slot slot _ hs =>
    have hv : name ∈ E.slots.values := List.mem_map_of_mem (mem_of_get? hs)
    rw [formed.slots] at hv
    obtain ⟨k, -, hk⟩ := List.mem_map.mp hv
    have lists := congrArg String.toList (hn.trans hk.symm)
    rw [slotLocalName, String.toList_append] at lists
    exact absurd (List.cons.inj (List.cons.inj lists).2).1 (by decide)
  | @memo n hm =>
    have lists := congrArg String.toList hn
    rw [memoName, String.toList_append] at lists
    exact absurd (List.cons.inj (List.cons.inj lists).2).1 (by decide)
  | @component reference _ hc =>
    have entry := mem_of_get? hc
    exact ⟨reference, List.mem_map_of_mem entry, formed.components _ entry⟩
  | runtime hr =>
    rw [List.mem_singleton.mp (formed.runtimeHelpers hr)] at hn
    exact absurd hn (by decide)
  | context => exact absurd hn (by decide)

theorem Origin.of_plain (made : d.Made U) (hp : (above, p) ∈ d.scopes) {name : String}
    (h : Origin d above p name) (plain : IsPlainName name) : d.emitter.Notes name := by
  cases h with
  | property suffix hoisted e =>
    obtain ⟨_, outer⟩ := made.nestedAt ((Tree.spots_suffix hp suffix).resolve_left (by simp))
    exact absurd (e ▸ plain) (isLocalName_hoisted outer hoisted).not_plain
  | helper child e => exact absurd (e ▸ plain) (made.child hp child).2.not_plain
  | noted h => exact h

/-- A part of what an iterator tells has a longer name than the parameter of conditional helpers. -/
theorem partName_ne_testName {iterator part : String} (h : part ∈ iteratorParts) :
    partName iterator part ≠ testName := by
  intro e
  have lengths := congrArg (fun s => s.toList.length) e
  simp only [partName, String.toList_append, List.length_append] at lengths
  simp only [iteratorParts, List.mem_cons, List.not_mem_nil, or_false] at h
  have size : testName.toList.length = 2 := by decide
  rw [size] at lengths
  rcases h with rfl | rfl | rfl | rfl <;> simp at lengths

theorem Introduces.testName (h : Introduces p loops Generate.testName) :
    p.region.kind = .conditional := by
  generalize hn : Generate.testName = name at h
  cases h with
  | parameter root h =>
    rw [← hn] at h
    exact absurd h (by decide)
  | test kind => exact kind
  | namespaceType kind h => exact absurd hn (by decide)
  | part kind h hp => exact absurd hn.symm (partName_ne_testName hp)

end

/-- The names that generated code itself binds for a function: the name of the function, its parameters
but for the loop names of the template, and what its statements assign. -/
def ownBindings (p : Spot) (f : Function) : List String :=
  f.name ::
    (if p.region.kind = .forEach then f.signature.rest.toList else f.signature.names) ++
      f.body.flatMap Stmt.assignedNames

/-- What the render function takes from its parameters. -/
def Emitter.takenNames (E : Emitter) : List String :=
  E.primitives.map Primitive.localName ++ E.slots.values ++ E.memoNames

theorem collects_assignedNames : Collects Stmt.assignedNames fun b => [b.1] where
  destructure bs := by
    unfold Stmt.destructure
    split
    · rfl
    · simp [Stmt.assignedNames, Stmt.targets, List.flatMap_map]
  function _ _ _ := rfl

section

variable {U : Uses} {d : Draft} {p : Spot} {above : List Spot} {loops : List Loop}

/-- The statements of a function assign the local names of the hoisted properties; those of the render
function also what it takes from its parameters. -/
theorem Nested.assignedNames (nested : Nested U d (p :: above) loops) (σ : Placeholder → Expr) :
    ∃ first last, ((d.function p).substitute σ).body.flatMap Stmt.assignedNames =
      first ++ p.hoisted.map Usage.localName ++ last ∧
      ∀ name, name ∈ first ++ last ↔ p.region.helper = none ∧ name ∈ d.emitter.takenNames := by
  have leading : (p.leading.map (Stmt.substitute σ)).flatMap Stmt.assignedNames =
      p.hoisted.map Usage.localName := by
    rw [List.flatMap_map, (collects_assignedNames.substitute σ).leading, List.map_eq_flatMap]
  cases nested with
  | root number kind helper coded =>
    refine ⟨d.emitter.primitives.map Primitive.localName,
      d.emitter.slots.values ++ d.emitter.memoNames, ?_, ?_⟩
    · simp only [Draft.function, helper, Function.substitute, renderBody_eq, List.flatMap_map,
        List.flatMap_append, (collects_assignedNames.substitute σ).renderPrelude]
      simp [takeEntry, Stmt.substitute, Expr.substitute, Stmt.assignedNames, Stmt.targets,
        ← List.map_eq_flatMap, Table.values]
    · simp [helper, Emitter.takenNames]
  | conditional around child inherits named kind test helper coded =>
    refine ⟨[], [], ?_, by simp [helper]⟩
    simp only [Draft.function, helper, Function.substitute, testHelper, List.map_append,
      List.flatMap_append, leading]
    rfl
  | @loop _ _ _ _ l body around child inherits uses named kind noted helper coded =>
    refine ⟨[], [], ?_, by simp [helper]⟩
    simp only [Draft.function, helper, Function.substitute, List.map_append, List.flatMap_append,
      leading]
    cases l <;> simp [loopHelper, Stmt.substitute, Expr.substitute, Stmt.assignedNames, Stmt.targets]

theorem isPlainName_taken {E : Emitter} (formed : E.Formed) {name : String} (h : name ∈ E.takenNames) :
    IsPlainName name := by
  simp only [Emitter.takenNames, List.mem_append, List.mem_map, formed.slots, Emitter.memoNames] at h
  rcases h with (⟨x, -, rfl⟩ | ⟨k, -, rfl⟩) | ⟨k, -, rfl⟩
  · exact isPlainName_primitive x
  · exact isPlainName_slot k
  · exact isPlainName_memo k

theorem Nested.parameters (nested : Nested U d (p :: above) loops) (σ : Placeholder → Expr) :
    ∃ names, ownBindings p ((d.function p).substitute σ) = (d.function p).name :: names ++
        ((d.function p).substitute σ).body.flatMap Stmt.assignedNames ∧
      ∀ name ∈ names, IsPlainName name := by
  refine ⟨_, rfl, ?_⟩
  intro name hn
  cases nested with
  | root number kind helper coded =>
    simp only [Function.substitute, Draft.function, helper, kind, reduceCtorEq, if_false,
      renderSignature, Signature.names, Option.toList_none, List.append_nil, List.mem_cons,
      List.not_mem_nil, or_false] at hn
    rcases hn with rfl | rfl | rfl | rfl <;> exact .inl (by decide)
  | conditional around child inherits named kind test helper coded =>
    simp only [Function.substitute, Draft.function, helper, kind, reduceCtorEq, if_false, testHelper,
      Signature.names, Option.toList_none, List.append_nil, List.mem_singleton] at hn
    rw [hn]
    exact .inl (by decide)
  | @loop _ _ _ _ l body around child inherits uses named kind noted helper coded =>
    cases l with
    | each f =>
      simp only [Function.substitute, Draft.function, helper, kind, loopKind, if_true, loopHelper,
        Option.toList_some, List.mem_singleton] at hn
      rw [hn]
      exact .inl (by decide)
    | of f =>
      simp only [Function.substitute, Draft.function, helper, kind, loopKind, reduceCtorEq, if_false,
        loopHelper, Signature.names, Option.toList_none, List.append_nil, List.mem_map] at hn
      obtain ⟨part, hp, rfl⟩ := hn
      exact isPlainName_part hp

theorem nodup_hoisted (nested : Nested U d (p :: above) loops) :
    (p.hoisted.map Usage.localName).Nodup := by
  have all : (p.region.usages.map Usage.localName).Nodup := by
    rw [nested.tabled.localNames]
    exact List.nodup_range.map fun a b h => (localName_injective h).2
  exact all.sublist (List.filter_sublist.map _)

theorem Draft.Made.ownBindings (made : d.Made U) (hp : (above, p) ∈ d.scopes) (σ : Placeholder → Expr) :
    ∃ plain, (ownBindings p ((d.function p).substitute σ)).Perm
        ((d.function p).name :: p.hoisted.map Usage.localName ++ plain) ∧
      ∀ name ∈ plain, IsPlainName name := by
  obtain ⟨loops, nested⟩ := made.nestedAt hp
  obtain ⟨names, e, hnames⟩ := nested.parameters σ
  obtain ⟨first, last, assigned, taken⟩ := nested.assignedNames σ
  refine ⟨names ++ (first ++ last), ?_, ?_⟩
  · rw [e, assigned]
    simp only [List.cons_append, List.append_assoc]
    refine List.Perm.cons _ ?_
    have swap : (names ++ first ++ p.hoisted.map Usage.localName).Perm
        (p.hoisted.map Usage.localName ++ (names ++ first)) := List.perm_append_comm
    simpa only [List.append_assoc] using swap.append_right last
  · intro name hn
    rcases List.mem_append.mp hn with hn | hn
    · exact hnames name hn
    · exact isPlainName_taken made.formed ((taken name).mp hn).2

end

end TemplateCompiler.Generate
