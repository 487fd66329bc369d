import TemplateCompiler.Scope.Hoisting
import TemplateCompiler.Scope.Resolve

/-!
Hoisting in closed form. The local names that a scope inherits come from the scopes around it: a property
that is used in the scope or below it is inherited exactly if a scope further out uses it, and then under
the local name of the outermost such scope. So every usage is decided by the scopes around it, by the
number of its reads, and by whether the property is used below.
-/

namespace TemplateCompiler.Scope

open TemplateCompiler.Code

theorem mem_union {x : String} {xs ys : List String} : x ∈ union xs ys ↔ x ∈ xs ∨ x ∈ ys := by
  unfold union
  induction ys generalizing xs with
  | nil => simp
  | cons y ys ih =>
    rw [List.foldl_cons, ih, List.mem_cons]
    split
    · next h =>
      have hy : y ∈ xs := List.contains_iff_mem.mp h
      constructor
      · rintro (h | h)
        · exact .inl h
        · exact .inr (.inr h)
      · rintro (h | rfl | h)
        · exact .inl h
        · exact .inl hy
        · exact .inr h
    · rw [List.mem_append, List.mem_singleton, or_assoc]

namespace Region

def collected (r : Region) (children : List Tree) : Region :=
  { r with below := Tree.usedAll children }

/-- The local name that a scope would give a property that it uses. -/
def alias? (r : Region) (property : String) : Option String :=
  (r.usage? property).map Usage.localName

theorem alias?_eq_none {r : Region} {property : String} :
    r.alias? property = none ↔ property ∉ r.properties := by
  simp only [alias?, Option.map_eq_none_iff, usage?, properties, List.find?_eq_none, List.mem_map,
    not_exists, not_and]
  simp

end Region

/-- A scope in its tree: what is below it, and the local names that it inherits. -/
structure Spot where
  region : Region
  children : List Tree
  inherited : Available

namespace Spot

def collected (p : Spot) : Region := p.region.collected p.children

def decided (p : Spot) : Region := p.collected.decide p.inherited

/-- The properties that the scope reads into local names of its own. -/
def hoisted (p : Spot) : List Usage := p.collected.hoisted p.inherited

/-- What the scopes right below inherit. -/
def passes (p : Spot) : Available := p.collected.available p.inherited

/-- The statements that the function of the scope starts with. -/
def leading (p : Spot) : List Stmt := (Tree.node p.region p.children).collect.leading p.inherited

end Spot

/-- The local name that the outermost of the scopes gives a property. -/
def topAlias : List Spot → String → Option String
  | [], _ => none
  | q :: above, property => topAlias above property <|> q.region.alias? property

theorem topAlias_eq_none {above : List Spot} {property : String} :
    topAlias above property = none ↔ ∀ q ∈ above, property ∉ q.region.properties := by
  induction above with
  | nil => simp [topAlias]
  | cons q above ih =>
    rw [List.forall_mem_cons, ← ih, ← Region.alias?_eq_none, topAlias]
    cases topAlias above property <;> simp

theorem topAlias_eq_some {above : List Spot} {property name : String}
    (h : topAlias above property = some name) :
    ∃ q around, (q :: around) <:+ above ∧ topAlias around property = none ∧
      q.region.alias? property = some name := by
  induction above with
  | nil => cases h
  | cons q above ih =>
    cases ht : topAlias above property with
    | some other =>
      have same : other = name := by simpa [topAlias, ht] using h
      obtain ⟨r, around, suffix, none, named⟩ := ih (ht.trans (congrArg some same))
      exact ⟨r, around, suffix.trans (List.suffix_cons q above), none, named⟩
    | none => exact ⟨q, above, List.suffix_refl _, ht, by simpa [topAlias, ht] using h⟩

namespace Tree

mutual

/-- All scopes of a tree with their places, each before those below it and with the scopes around it, the
nearest first. -/
def spots (above : List Spot) (inherited : Available) : Tree → List (List Spot × Spot)
  | node region children =>
    (above, ⟨region, children, inherited⟩) ::
      spotsAll (⟨region, children, inherited⟩ :: above)
        (Spot.passes ⟨region, children, inherited⟩) children

def spotsAll (above : List Spot) (inherited : Available) : List Tree → List (List Spot × Spot)
  | [] => []
  | t :: ts => t.spots above inherited ++ spotsAll above inherited ts

end

/-- What holds of a scope passes to those right below it. -/
def Passes (P : List Spot → Available → Tree → Prop) : Prop :=
  ∀ {above : List Spot} {inherited : Available} {region : Region} {children : List Tree},
    P above inherited (node region children) → ∀ c ∈ children,
      P (⟨region, children, inherited⟩ :: above) (Spot.passes ⟨region, children, inherited⟩) c

mutual

theorem forall_spots {P : List Spot → Available → Tree → Prop} (step : Passes P) :
    ∀ {t : Tree} {above : List Spot} {inherited : Available}, P above inherited t →
      ∀ x ∈ t.spots above inherited, P x.1 x.2.inherited (node x.2.region x.2.children)
  | node region children, above, inherited, h, x, hx => by
    rw [spots] at hx
    rcases List.mem_cons.mp hx with rfl | hx
    · exact h
    · exact forall_spotsAll step (step h) x hx

theorem forall_spotsAll {P : List Spot → Available → Tree → Prop} (step : Passes P) :
    ∀ {ts : List Tree} {above : List Spot} {inherited : Available}, (∀ t ∈ ts, P above inherited t) →
      ∀ x ∈ spotsAll above inherited ts, P x.1 x.2.inherited (node x.2.region x.2.children)
  | [], _, _, _, _, hx => by cases hx
  | t :: ts, above, inherited, h, x, hx => by
    rw [spotsAll, List.mem_append] at hx
    rcases hx with hx | hx
    · exact forall_spots step (h t List.mem_cons_self) x hx
    · exact forall_spotsAll step (fun t ht => h t (List.mem_cons_of_mem _ ht)) x hx

end

mutual

theorem map_region_spots (above : List Spot) (inherited : Available) :
    ∀ t : Tree, (t.spots above inherited).map (fun p => p.2.region) = t.regions
  | node region children => by
    simp only [spots, List.map_cons, regions, map_region_spotsAll _ _ children]

theorem map_region_spotsAll (above : List Spot) (inherited : Available) :
    ∀ ts : List Tree, (spotsAll above inherited ts).map (fun p => p.2.region) = regionsAll ts
  | [] => rfl
  | t :: ts => by
    simp only [spotsAll, List.map_append, regionsAll, map_region_spots _ _ t,
      map_region_spotsAll _ _ ts]

end

theorem mem_spotsAll {above : List Spot} {inherited : Available} {c : Tree} {ts : List Tree}
    (h : c ∈ ts) : (above, ⟨c.region, c.children, inherited⟩) ∈ spotsAll above inherited ts := by
  induction ts with
  | nil => cases h
  | cons t ts ih =>
    rw [spotsAll, List.mem_append]
    rcases List.mem_cons.mp h with rfl | h
    · obtain ⟨region, children⟩ := c
      exact .inl List.mem_cons_self
    · exact .inr (ih h)

mutual

theorem spots_child {x : List Spot × Spot} {c : Tree} :
    ∀ {t : Tree} {above : List Spot} {inherited : Available}, x ∈ t.spots above inherited →
      c ∈ x.2.children → (x.2 :: x.1, ⟨c.region, c.children, x.2.passes⟩) ∈ t.spots above inherited
  | node region children, above, inherited, hx, hc => by
    rw [spots] at hx ⊢
    rcases List.mem_cons.mp hx with rfl | hx
    · exact List.mem_cons_of_mem _ (mem_spotsAll hc)
    · exact List.mem_cons_of_mem _ (spotsAll_child hx hc)

theorem spotsAll_child {x : List Spot × Spot} {c : Tree} :
    ∀ {ts : List Tree} {above : List Spot} {inherited : Available},
      x ∈ spotsAll above inherited ts → c ∈ x.2.children →
      (x.2 :: x.1, ⟨c.region, c.children, x.2.passes⟩) ∈ spotsAll above inherited ts
  | [], _, _, hx, _ => by cases hx
  | t :: ts, above, inherited, hx, hc => by
    rw [spotsAll, List.mem_append] at hx ⊢
    rcases hx with hx | hx
    · exact .inl (spots_child hx hc)
    · exact .inr (spotsAll_child hx hc)

end

mutual

theorem spots_suffix {x : List Spot × Spot} {q : Spot} {around : List Spot} :
    ∀ {t : Tree} {above : List Spot} {inherited : Available}, x ∈ t.spots above inherited →
      (q :: around) <:+ (x.2 :: x.1) →
      (q :: around) <:+ above ∨ (around, q) ∈ t.spots above inherited
  | node region children, above, inherited, hx, hs => by
    have here (h : (q :: around) <:+ (⟨region, children, inherited⟩ :: above)) :
        (q :: around) <:+ above ∨ (around, q) ∈ (node region children).spots above inherited := by
      rcases List.suffix_cons_iff.mp h with e | h
      · obtain ⟨rfl, rfl⟩ := List.cons.inj e
        exact .inr List.mem_cons_self
      · exact .inl h
    rw [spots] at hx
    rcases List.mem_cons.mp hx with rfl | hx
    · exact here hs
    · rcases spotsAll_suffix hx hs with h | h
      · exact here h
      · exact .inr (List.mem_cons_of_mem _ h)

theorem spotsAll_suffix {x : List Spot × Spot} {q : Spot} {around : List Spot} :
    ∀ {ts : List Tree} {above : List Spot} {inherited : Available},
      x ∈ spotsAll above inherited ts → (q :: around) <:+ (x.2 :: x.1) →
      (q :: around) <:+ above ∨ (around, q) ∈ spotsAll above inherited ts
  | [], _, _, hx, _ => by cases hx
  | t :: ts, above, inherited, hx, hs => by
    rw [spotsAll, List.mem_append] at hx ⊢
    rcases hx with hx | hx
    · exact (spots_suffix hx hs).imp_right .inl
    · exact (spotsAll_suffix hx hs).imp_right .inr

end

mutual

theorem regions_decide (above : List Spot) (inherited : Available) :
    ∀ t : Tree, (t.collect.decide inherited).regions =
      (t.spots above inherited).map fun p => p.2.decided
  | node region children => by
    simp only [collect, decide, regions, spots, List.map_cons]
    rw [regionsAll_decide (⟨region, children, inherited⟩ :: above) _ children]
    rfl

theorem regionsAll_decide (above : List Spot) (inherited : Available) :
    ∀ ts : List Tree, regionsAll (decideAll inherited (collectAll ts)) =
      (spotsAll above inherited ts).map fun p => p.2.decided
  | [] => rfl
  | t :: ts => by
    simp only [collectAll, decideAll, regionsAll, spotsAll, List.map_append]
    rw [regions_decide above inherited t, regionsAll_decide above inherited ts]

end

mutual

theorem mem_used {property : String} :
    ∀ {t : Tree}, property ∈ t.used ↔ ∃ r ∈ t.regions, property ∈ r.properties
  | node region children => by
    rw [used, mem_union, mem_usedAll, regions]
    simp only [List.mem_cons, exists_eq_or_imp]
    exact or_comm

theorem mem_usedAll {property : String} :
    ∀ {ts : List Tree}, property ∈ usedAll ts ↔ ∃ r ∈ regionsAll ts, property ∈ r.properties
  | [] => by simp [usedAll, regionsAll]
  | t :: ts => by
    rw [usedAll, mem_union, mem_used, mem_usedAll, regionsAll]
    simp only [List.mem_append, or_and_right, exists_or]

end

mutual

theorem map_helper_collect : ∀ t : Tree,
    t.collect.regions.map Region.helper = t.regions.map Region.helper
  | node region children => by
    rw [collect, regions, regions, List.map_cons, List.map_cons, map_helper_collectAll children]

theorem map_helper_collectAll : ∀ ts : List Tree,
    (regionsAll (collectAll ts)).map Region.helper = (regionsAll ts).map Region.helper
  | [] => rfl
  | t :: ts => by
    rw [collectAll, regionsAll, regionsAll, List.map_append, List.map_append, map_helper_collect t,
      map_helper_collectAll ts]

end

theorem children_collect (t : Tree) : t.collect.children = collectAll t.children := by
  cases t
  rfl

end Tree

theorem lookup_filter {us : List Usage} {keep : Usage → Bool} {property : String} {b : Bool}
    (h : ∀ u ∈ us, u.property = property → keep u = b) :
    ((us.filter keep).map fun u => (u.property, u.localName)).lookup property =
      if b then (us.find? (·.property = property)).map Usage.localName else none := by
  induction us with
  | nil => cases b <;> rfl
  | cons u us ih =>
    have rest := ih fun v hv => h v (List.mem_cons_of_mem u hv)
    by_cases hu : u.property = property
    · have hk := h u List.mem_cons_self hu
      cases b with
      | true => simp [hk, hu]
      | false => simpa [hk] using rest
    · have hu' : (property == u.property) = false := by simpa using fun e => hu e.symm
      by_cases hk : keep u
      · simpa [hk, hu', List.lookup_cons, hu] using rest
      · simpa [hk, hu] using rest

/-- A property that is used below is inherited under the name of the scope or of one further out. -/
theorem lookup_passes {p : Spot} {property : String} (h : property ∈ Tree.usedAll p.children) :
    p.passes.lookup property = (p.inherited.lookup property <|> p.region.alias? property) := by
  have below : p.collected.below.contains property := List.contains_iff_mem.mpr h
  have together : ∀ u ∈ p.collected.usages, u.property = property →
      p.collected.hoists p.inherited u = (p.inherited.lookup property).isNone := by
    rintro u - rfl
    rw [Region.hoists, below, Bool.or_true, Bool.and_true]
  unfold Spot.passes Region.available Region.hoisted
  rw [List.lookup_append, lookup_filter together]
  cases p.inherited.lookup property with
  | none => simp [Region.alias?, Region.usage?, Region.collected, Spot.collected]
  | some a => simp

namespace Tree

/-- What is inherited under a property used in a tree is what the scopes around call it. -/
def Inherits (above : List Spot) (inherited : Available) (used : List String) : Prop :=
  ∀ property ∈ used, inherited.lookup property = topAlias above property

theorem Inherits.below {above : List Spot} {p : Spot}
    (h : Inherits above p.inherited (node p.region p.children).used) :
    Inherits (p :: above) p.passes (usedAll p.children) := by
  intro property hp
  have here : property ∈ (node p.region p.children).used := by
    rw [used, mem_union]
    exact .inl hp
  rw [lookup_passes hp, h property here, topAlias]

theorem inherits_spots {t : Tree} {above : List Spot} {inherited : Available}
    (h : Inherits above inherited t.used) : ∀ p ∈ t.spots above inherited,
      Inherits p.1 p.2.inherited (node p.2.region p.2.children).used := by
  refine forall_spots (P := fun above inherited t => Inherits above inherited t.used) ?_ h
  intro above inherited region children h c hc property hp
  refine Inherits.below h property (mem_usedAll.mpr ?_)
  obtain ⟨r, hr, listed⟩ := mem_used.mp hp
  rw [regionsAll_eq_flatMap]
  exact ⟨r, List.mem_flatMap.mpr ⟨c, hc, hr⟩, listed⟩

end Tree

section Decisions

variable {t : Tree} {above : List Spot} {p : Spot} {u : Usage}

theorem lookup_inherited (hp : (above, p) ∈ t.spots [] []) (hu : u ∈ p.region.usages) :
    p.inherited.lookup u.property = topAlias above u.property := by
  have used : u.property ∈ (Tree.node p.region p.children).used := by
    rw [Tree.used, mem_union]
    exact .inr (List.mem_map_of_mem hu)
  have inherits : Tree.Inherits [] [] t.used := fun property _ => rfl
  exact Tree.inherits_spots inherits (above, p) hp u.property used

theorem hoists_spot (hp : (above, p) ∈ t.spots [] []) (hu : u ∈ p.region.usages) :
    p.collected.hoists p.inherited u ↔
      topAlias above u.property = none ∧
        (1 < u.occurrences ∨ u.property ∈ Tree.usedAll p.children) := by
  have below : p.collected.below = Tree.usedAll p.children := rfl
  unfold Region.hoists
  rw [lookup_inherited hp hu, below]
  simp only [Bool.and_eq_true, Option.isNone_iff_eq_none, Bool.or_eq_true, decide_eq_true_eq,
    List.contains_iff_mem]

theorem decideUsage_spot (hp : (above, p) ∈ t.spots [] []) (hu : u ∈ p.region.usages) :
    (p.collected.decideUsage p.inherited u).resolution =
      match topAlias above u.property with
      | some name => .via name
      | none =>
        if 1 < u.occurrences ∨ u.property ∈ Tree.usedAll p.children then .via u.localName
        else .direct := by
  have hoists := hoists_spot hp hu
  unfold Region.decideUsage
  rw [lookup_inherited hp hu]
  cases htop : topAlias above u.property with
  | some name => rfl
  | none =>
    simp only [htop, true_and] at hoists
    simp only [hoists]
    split <;> rfl

theorem find?_of_nodup {α β : Type} [DecidableEq β] {f : α → β} {xs : List α} {x : α}
    (h : (xs.map f).Nodup) (hx : x ∈ xs) : xs.find? (fun y => f y = f x) = some x := by
  induction xs with
  | nil => cases hx
  | cons y ys ih =>
    rw [List.map_cons, List.nodup_cons] at h
    rcases List.mem_cons.mp hx with rfl | hx
    · simp
    · have hy : f y ≠ f x := fun e => h.1 (e ▸ List.mem_map_of_mem hx)
      rw [List.find?_cons_of_neg (by simpa using hy)]
      exact ih h.2 hx

@[simp] theorem property_decideUsage (r : Region) (inherited : Available) (u : Usage) :
    (r.decideUsage inherited u).property = u.property := by
  unfold Region.decideUsage
  split
  · rfl
  · split <;> rfl

/-- The decided usage of a placeholder is found by the number of the scope and the property. -/
theorem usageOf?_spot (ids : (t.regions.map Region.id).Nodup)
    (hp : (above, p) ∈ t.spots [] []) (distinct : p.region.properties.Nodup)
    (hu : u ∈ p.region.usages) {read : Placeholder} (hs : read.scope = p.region.id)
    (hr : read.property = u.property) :
    (t.collect.decide []).usageOf? read = some (p.collected.decideUsage p.inherited u) := by
  have regions := Tree.regions_decide [] [] t
  have same : (t.collect.decide []).regions.map Region.id = t.regions.map Region.id := by
    rw [regions, ← Tree.map_region_spots [] [] t, List.map_map, List.map_map]
    rfl
  have here : p.decided ∈ (t.collect.decide []).regions := by
    rw [regions]
    exact List.mem_map_of_mem hp
  have found := find?_of_nodup (same ▸ ids) here
  have properties : (p.decided.usages.map Usage.property).Nodup := by
    simpa [Spot.decided, Region.decide, Spot.collected, Region.collected, Function.comp_def,
      Region.properties] using distinct
  have usage : p.collected.decideUsage p.inherited u ∈ p.decided.usages :=
    List.mem_map_of_mem hu
  have foundUsage := find?_of_nodup properties usage
  have id : p.decided.id = p.region.id := rfl
  rw [property_decideUsage, ← hr] at foundUsage
  rw [id, ← hs] at found
  unfold Tree.usageOf?
  rw [found]
  exact foundUsage

end Decisions

end TemplateCompiler.Scope
