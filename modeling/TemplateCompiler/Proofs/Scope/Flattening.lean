import Mathlib.Data.List.Forall2
import Mathlib.Data.List.Nodup
import TemplateCompiler.Proofs.Scope.Hoisting

/-!
Flattening a tree of scopes, told by the ways from the root to the scopes. A property that is at hand from
the start is read under its given name everywhere. Any other property belongs to the topmost scope on the
way that uses it: that scope reads it into a local name if it reads it more than once or if a scope below
uses it, and all scopes below go through this name. The local names of a scope are assigned in the order
of first reads, and the helpers of the scopes right below follow in the order in which they were entered.
-/

namespace TemplateCompiler.Scope

open TemplateCompiler.Code

/-- Every scope has one usage for each property. -/
def Tree.Keyed (t : Tree) : Prop := ∀ r ∈ t.regions, r.properties.Nodup

/-- Every scope below the top one has a helper. -/
def Tree.Equipped (t : Tree) : Prop := ∀ r ∈ Tree.regionsAll t.children, r.helper.isSome

instance (t : Tree) : Decidable t.Keyed := inferInstanceAs (Decidable (∀ r ∈ _, _))

instance (t : Tree) : Decidable t.Equipped := inferInstanceAs (Decidable (∀ r ∈ _, _))

/-- The scope reads the property more than once, or a scope below uses it. -/
def Tree.Repeats (t : Tree) (property : String) : Prop :=
  (∃ u ∈ t.region.usages, u.property = property ∧ 1 < u.occurrences) ∨
    ∃ r ∈ Tree.regionsAll t.children, property ∈ r.properties

instance (t : Tree) (property : String) : Decidable (t.Repeats property) :=
  inferInstanceAs (Decidable (_ ∨ _))

/-- A scope of a tree with the scopes around it, the root first. -/
structure Way where
  around : List Tree
  scope : Tree

namespace Way

def scopes (w : Way) : List Tree := w.around ++ [w.scope]

/-- The scope uses the property, and no scope around it does. -/
def IsTop (w : Way) (property : String) : Prop :=
  property ∈ w.scope.region.properties ∧ ∀ t ∈ w.around, property ∉ t.region.properties

instance (w : Way) (property : String) : Decidable (w.IsTop property) :=
  inferInstanceAs (Decidable (_ ∧ _))

/-- The way to `v` is a part of the way to `w`, and its scope is the topmost one that uses the property. -/
structure Topmost (w : Way) (property : String) (v : Way) : Prop where
  along : v.scopes <+: w.scopes
  isTop : v.IsTop property

/-- The scope reads the property into a local name of its own. -/
def Hoists (inherited : Available) (w : Way) (property : String) : Prop :=
  inherited.lookup property = none ∧ w.IsTop property ∧ w.scope.Repeats property

instance (inherited : Available) (w : Way) (property : String) :
    Decidable (w.Hoists inherited property) := inferInstanceAs (Decidable (_ ∧ _))

/-- The usages that the scope reads into local names, in the order of first reads. -/
def hoisted (inherited : Available) (w : Way) : List Usage :=
  w.scope.region.usages.filter fun u => w.Hoists inherited u.property

/-- How the reads of a property in the scope are resolved. -/
inductive Settles (inherited : Available) (w : Way) (property : String) : Resolution → Prop
  | given {name : String} (has : inherited.lookup property = some name) :
      Settles inherited w property (.via name)
  | shared {v : Way} {u : Usage} (lacks : inherited.lookup property = none)
      (top : w.Topmost property v) (repeats : v.scope.Repeats property)
      (usage : v.scope.region.usage? property = some u) :
      Settles inherited w property (.via u.localName)
  | direct (lacks : inherited.lookup property = none) (top : w.Topmost property w)
      (once : ¬w.scope.Repeats property) : Settles inherited w property .direct

theorem topmost_unique {w v v' : Way} {property : String} (h : w.Topmost property v)
    (h' : w.Topmost property v') : v = v' := by
  -- of two parts of one way, the longer one would have the scope of the shorter one around its own
  have shorter {a b : Way} (ha : w.Topmost property a) (hb : w.Topmost property b)
      (within : a.scopes <+: b.scopes) : a = b := by
    rcases List.prefix_concat_iff.mp within with same | inside
    · obtain ⟨around, scope⟩ := List.append_inj' same rfl
      obtain ⟨aAround, aScope⟩ := a
      obtain ⟨bAround, bScope⟩ := b
      simp_all
    · have mem : a.scope ∈ b.around := inside.subset (by simp [scopes])
      exact absurd ha.isTop.1 (hb.isTop.2 a.scope mem)
  rcases List.prefix_or_prefix_of_prefix h.along h'.along with within | within
  · exact shorter h h' within
  · exact (shorter h' h within).symm

theorem settles_unique {inherited : Available} {w : Way} {property : String} {r r' : Resolution}
    (h : w.Settles inherited property r) (h' : w.Settles inherited property r') : r = r' := by
  cases h with
  | given has =>
    cases h' with
    | given has' => rw [Option.some.inj (has.symm.trans has')]
    | shared lacks | direct lacks => cases has.symm.trans lacks
  | shared lacks top repeats usage =>
    cases h' with
    | given has => cases has.symm.trans lacks
    | shared _ top' _ usage' =>
      obtain rfl := topmost_unique top top'
      rw [Option.some.inj (usage.symm.trans usage')]
    | direct _ top' once =>
      obtain rfl := topmost_unique top top'
      exact absurd repeats once
  | direct lacks top once =>
    cases h' with
    | given has => cases has.symm.trans lacks
    | shared _ top' repeats =>
      obtain rfl := topmost_unique top top'
      exact absurd repeats once
    | direct => rfl

theorem Settles.decided {inherited : Available} {w : Way} {property : String} {r : Resolution}
    (h : w.Settles inherited property r) : r ≠ .undecided := by
  cases h <;> nofun

def outerName? (around : List Tree) (property : String) : Option String :=
  around.findSome? (·.region.alias? property)

theorem outerName?_eq_none {around : List Tree} {property : String} :
    outerName? around property = none ↔ ∀ t ∈ around, property ∉ t.region.properties := by
  simp only [outerName?, List.findSome?_eq_none_iff, Region.alias?_eq_none]

theorem topmost_of_outerName? {w : Way} {property name : String}
    (h : outerName? w.around property = some name) :
    ∃ v u, w.Topmost property v ∧ v.scopes <+: w.around ∧
      v.scope.region.usage? property = some u ∧ u.localName = name := by
  obtain ⟨before, t, after, split, named, first⟩ := List.findSome?_eq_some_iff.mp h
  obtain ⟨u, usage, rfl⟩ := Option.map_eq_some_iff.mp named
  have within : before ++ [t] <+: w.around := ⟨after, by simp [split]⟩
  have uses : property ∈ t.region.properties := by
    by_contra absent
    rw [Region.alias?_eq_none.mpr absent] at named
    cases named
  exact ⟨⟨before, t⟩, u, ⟨within.trans (List.prefix_append _ _), uses, fun s hs =>
    Region.alias?_eq_none.mp (first s hs)⟩, within, usage, rfl⟩

end Way

namespace Tree

mutual

/-- The ways to all scopes of a tree, each scope before those below it. -/
def ways (around : List Tree) : Tree → List Way
  | node region children =>
    ⟨around, node region children⟩ :: waysAll (around ++ [node region children]) children

def waysAll (around : List Tree) : List Tree → List Way
  | [] => []
  | t :: ts => t.ways around ++ waysAll around ts

end

def assignment : List Usage → List Stmt
  | [] => []
  | us => [.destructure (us.map fun u => (u.localName, componentMember u.property))]

mutual

/-- What the function of a scope starts with: its local names, then the helpers of its children. -/
def opening (inherited : Available) (around : List Tree) : Tree → List Stmt
  | node region children =>
    assignment (Way.hoisted inherited ⟨around, node region children⟩) ++
      openings inherited (around ++ [node region children]) children

def openings (inherited : Available) (around : List Tree) : List Tree → List Stmt
  | [] => []
  | node region children :: ts =>
    (region.helper.map fun helper => Stmt.function region.helperName helper.signature
      (opening inherited around (node region children) ++ helper.body)).toList ++
      openings inherited around ts

end

end Tree

/-- Scopes `ts` with the scopes around them: these have them below, and what is at hand is what was given
at the start and what the scopes around added to it. -/
structure Carries (inherited : Available) (around : List Tree) (available : Available)
    (ts : List Tree) : Prop where
  below : ∀ t ∈ around, Tree.regionsAll ts ⊆ Tree.regionsAll t.children
  lookup : ∀ property ∈ Tree.usedAll ts, available.lookup property =
    (inherited.lookup property <|> Way.outerName? around property)

namespace Carries

variable {inherited available : Available} {around : List Tree} {region : Region} {t : Tree}
  {children ts : List Tree}

theorem root (inherited : Available) (t : Tree) : Carries inherited [] inherited [t] :=
  ⟨by simp, by simp [Way.outerName?]⟩

theorem head (h : Carries inherited around available (t :: ts)) :
    Carries inherited around available [t] := by
  refine ⟨fun s hs r hr => h.below s hs ?_, fun property hp => h.lookup property ?_⟩
  · simp only [Tree.regionsAll, List.append_nil] at hr
    simp [Tree.regionsAll, hr]
  · rw [Tree.mem_usedAll] at hp ⊢
    obtain ⟨r, hr, uses⟩ := hp
    simp only [Tree.regionsAll, List.append_nil] at hr
    exact ⟨r, by simp [Tree.regionsAll, hr], uses⟩

theorem tail (h : Carries inherited around available (t :: ts)) :
    Carries inherited around available ts := by
  have subset : Tree.regionsAll ts ⊆ Tree.regionsAll (t :: ts) := by simp [Tree.regionsAll]
  refine ⟨fun s hs => List.Subset.trans subset (h.below s hs), fun property hp => h.lookup property ?_⟩
  rw [Tree.mem_usedAll] at hp ⊢
  obtain ⟨r, hr, uses⟩ := hp
  exact ⟨r, subset hr, uses⟩

theorem enter (h : Carries inherited around available [.node region children]) :
    Carries inherited (around ++ [.node region children])
      ((region.collected children).available available) children := by
  have subset : Tree.regionsAll children ⊆ Tree.regionsAll [.node region children] := by
    simp [Tree.regionsAll, Tree.regions]
  refine ⟨fun t ht => ?_, fun property hp => ?_⟩
  · rcases List.mem_append.mp ht with ht | ht
    · exact List.Subset.trans subset (h.below t ht)
    · rw [List.mem_singleton.mp ht]
      exact List.Subset.refl _
  · have here : property ∈ Tree.usedAll [.node region children] := by
      rw [Tree.mem_usedAll] at hp ⊢
      obtain ⟨r, hr, uses⟩ := hp
      exact ⟨r, subset hr, uses⟩
    have passes := lookup_passes (p := ⟨region, children, available⟩) hp
    unfold Spot.passes Spot.collected at passes
    rw [passes, h.lookup property here, Way.outerName?, Way.outerName?, List.findSome?_append]
    cases inherited.lookup property with
    | some name => rfl
    | none => simp [Tree.region]

end Carries

section Decisions

variable {inherited available : Available} {around : List Tree} {region : Region}
  {children : List Tree} {u : Usage}

theorem mem_usedAll_of_usage (hu : u ∈ region.usages) :
    u.property ∈ Tree.usedAll [.node region children] :=
  Tree.mem_usedAll.mpr ⟨region, by simp [Tree.regionsAll, Tree.regions], List.mem_map_of_mem hu⟩

theorem repeats_iff (distinct : region.properties.Nodup) (hu : u ∈ region.usages) :
    (Tree.node region children).Repeats u.property ↔
      1 < u.occurrences ∨ u.property ∈ Tree.usedAll children := by
  rw [Tree.Repeats, Tree.mem_usedAll]
  refine or_congr_left ⟨?_, fun many => ⟨u, hu, rfl, many⟩⟩
  rintro ⟨v, hv, same, many⟩
  have eq : v = u := List.inj_on_of_nodup_map distinct hv hu same
  exact eq ▸ many

variable (h : Carries inherited around available [.node region children])
  (distinct : region.properties.Nodup) (hu : u ∈ region.usages)

include h distinct hu

theorem hoists_iff : (region.collected children).hoists available u ↔
    Way.Hoists inherited ⟨around, .node region children⟩ u.property := by
  have below : (region.collected children).below = Tree.usedAll children := rfl
  have uses : u.property ∈ region.properties := List.mem_map_of_mem hu
  unfold Region.hoists
  rw [h.lookup u.property (mem_usedAll_of_usage hu), below, Way.Hoists, Way.IsTop,
    ← Way.outerName?_eq_none, repeats_iff distinct hu]
  simp only [Bool.and_eq_true, Option.isNone_iff_eq_none, Bool.or_eq_true, decide_eq_true_eq,
    List.contains_iff_mem, Option.orElse_eq_orElse, Option.orElse_eq_or, Option.or_eq_none_iff,
    Tree.region, uses, true_and, and_assoc]

theorem settles_decideUsage : Way.Settles inherited ⟨around, .node region children⟩ u.property
    ((region.collected children).decideUsage available u).resolution := by
  have uses : u.property ∈ region.properties := List.mem_map_of_mem hu
  have hoists := hoists_iff h distinct hu
  have lookup := h.lookup u.property (mem_usedAll_of_usage hu)
  unfold Region.decideUsage
  cases has : inherited.lookup u.property with
  | some name =>
    simp only [has] at lookup
    rw [lookup]
    exact .given has
  | none =>
    cases outer : Way.outerName? around u.property with
    | some name =>
      simp only [has, outer] at lookup
      obtain ⟨v, w, top, within, usage, rfl⟩ := Way.topmost_of_outerName?
        (w := ⟨around, .node region children⟩) outer
      have mem : v.scope ∈ around := within.subset (by simp [Way.scopes])
      have below : region ∈ Tree.regionsAll v.scope.children :=
        h.below v.scope mem (by simp [Tree.regionsAll, Tree.regions])
      rw [lookup]
      exact .shared has top (.inr ⟨region, below, uses⟩) usage
    | none =>
      simp only [has, outer] at lookup
      have isTop : Way.IsTop ⟨around, .node region children⟩ u.property :=
        ⟨uses, Way.outerName?_eq_none.mp outer⟩
      have top : Way.Topmost ⟨around, .node region children⟩ u.property ⟨around, .node region children⟩ :=
        ⟨List.prefix_rfl, isTop⟩
      rw [lookup]
      by_cases hoist : (region.collected children).hoists available u
      · simp only [hoist, if_true]
        exact .shared has top (hoists.mp hoist).2.2 (find?_of_nodup distinct hu)
      · simp only [hoist]
        exact .direct has top fun repeats => hoist (hoists.mpr ⟨has, isTop, repeats⟩)

omit hu in
theorem hoisted_eq : (region.collected children).hoisted available =
    Way.hoisted inherited ⟨around, .node region children⟩ := by
  unfold Region.hoisted Way.hoisted
  refine List.filter_congr fun u hu => ?_
  rw [Bool.eq_iff_iff, decide_eq_true_iff]
  exact hoists_iff h distinct hu

end Decisions

/-- A usage of a scope after it was decided: only its resolution has changed, to the one that the way to
the scope tells. -/
def Way.Decides (inherited : Available) (w : Way) (u decided : Usage) : Prop :=
  decided = { u with resolution := decided.resolution } ∧ decided.isDecided ∧
    ∀ r, w.Settles inherited u.property r ↔ r = decided.resolution

/-- A scope after its usages were decided, each in its place. -/
def Way.Decided (inherited : Available) (w : Way) (r : Region) : Prop :=
  r.id = w.scope.region.id ∧ List.Forall₂ (w.Decides inherited) w.scope.region.usages r.usages

theorem decided_region {inherited available : Available} {around : List Tree} {region : Region}
    {children : List Tree} (h : Carries inherited around available [.node region children])
    (distinct : region.properties.Nodup) :
    Way.Decided inherited ⟨around, .node region children⟩
      ((region.collected children).decide available) := by
  refine ⟨rfl, ?_⟩
  have each : ∀ u ∈ region.usages, Way.Decides inherited ⟨around, .node region children⟩ u
      ((region.collected children).decideUsage available u) := by
    intro u hu
    have settles := settles_decideUsage h distinct hu
    refine ⟨?_, ?_, fun r => ⟨fun hr => Way.settles_unique hr settles, fun hr => hr ▸ settles⟩⟩
    · unfold Region.decideUsage
      split
      · rfl
      · split <;> rfl
    · exact decide_eq_true settles.decided
  show List.Forall₂ _ region.usages (region.usages.map _)
  rw [List.forall₂_map_right_iff]
  exact List.forall₂_same.mpr each

namespace Tree

variable {inherited : Available}

mutual

theorem decided_regions {around : List Tree} {available : Available} :
    ∀ {t : Tree}, Carries inherited around available [t] → t.Keyed →
      List.Forall₂ (Way.Decided inherited) (t.ways around) (t.collect.decide available).regions
  | node region children, h, keyed => by
    have rest : ∀ r ∈ regionsAll children, r.properties.Nodup := fun r hr =>
      keyed r (List.mem_cons_of_mem region hr)
    simp only [ways, collect, decide, regions]
    exact .cons (decided_region h (keyed region List.mem_cons_self)) (decided_regionsAll h.enter rest)

theorem decided_regionsAll {around : List Tree} {available : Available} :
    ∀ {ts : List Tree}, Carries inherited around available ts →
      (∀ r ∈ regionsAll ts, r.properties.Nodup) →
      List.Forall₂ (Way.Decided inherited) (waysAll around ts)
        (regionsAll (decideAll available (collectAll ts)))
  | [], _, _ => .nil
  | t :: ts, h, keyed => by
    rw [regionsAll] at keyed
    simp only [waysAll, collectAll, decideAll, regionsAll]
    exact List.rel_append (decided_regions h.head fun r hr => keyed r (List.mem_append_left _ hr))
      (decided_regionsAll h.tail fun r hr => keyed r (List.mem_append_right _ hr))

end

theorem hoistStmts_eq {around : List Tree} {available : Available} {region : Region}
    {children : List Tree} (h : Carries inherited around available [node region children])
    (distinct : region.properties.Nodup) : (region.collected children).hoistStmts available =
      assignment (Way.hoisted inherited ⟨around, node region children⟩) := by
  unfold Region.hoistStmts assignment
  cases known : Way.hoisted inherited ⟨around, node region children⟩ <;>
    rw [hoisted_eq h distinct, known]

mutual

theorem leading_collect {around : List Tree} {available : Available} :
    ∀ {t : Tree}, Carries inherited around available [t] → t.Keyed →
      t.collect.leading available = t.opening inherited around
  | node region children, h, keyed => by
    have rest : ∀ r ∈ regionsAll children, r.properties.Nodup := fun r hr =>
      keyed r (List.mem_cons_of_mem region hr)
    have stmts := hoistStmts_eq h (keyed region List.mem_cons_self)
    have below := helpers_collectAll h.enter rest
    rw [collect, leading, opening, ← stmts, ← below]
    rfl

theorem helpers_collectAll {around : List Tree} {available : Available} :
    ∀ {ts : List Tree}, Carries inherited around available ts →
      (∀ r ∈ regionsAll ts, r.properties.Nodup) →
      helpers available (collectAll ts) = openings inherited around ts
  | [], _, _ => rfl
  | node region children :: ts, h, keyed => by
    rw [regionsAll] at keyed
    have first := leading_collect h.head fun r hr => keyed r (List.mem_append_left _ hr)
    have rest := helpers_collectAll h.tail fun r hr => keyed r (List.mem_append_right _ hr)
    rw [collect] at first
    simp only [collectAll, collect, helpers, openings, first, rest]
    cases region.helper <;> rfl

end

theorem unlowered?_collect {t : Tree} (h : t.Equipped) : t.collect.unlowered? = none := by
  rw [unlowered?, List.find?_eq_none, children_collect]
  intro r hr
  have hm : r.helper ∈ (regionsAll t.children).map Region.helper := by
    rw [← map_helper_collectAll]
    exact List.mem_map_of_mem hr
  obtain ⟨q, hq, same⟩ := List.mem_map.mp hm
  simpa [← same] using Option.isSome_iff_ne_none.mp (h q hq)

/-- Flattening by ways: every usage is decided, to what the way to its scope tells and nothing else. The
statements that a scope starts with are the assignment of what it hoists and then its helpers, and on no
way is a property hoisted twice. -/
theorem flattening_by_ways {t : Tree} (inherited : Available) (keyed : t.Keyed)
    (equipped : t.Equipped) :
    List.Forall₂ (Way.Decided inherited) (t.ways []) (t.collect.decide inherited).regions ∧
      t.collect.dump inherited = .ok (t.opening inherited []) ∧
      ∀ w ∈ t.ways [], ∀ property, ∀ v v' : Way, v.scopes <+: w.scopes → v'.scopes <+: w.scopes →
        v.Hoists inherited property → v'.Hoists inherited property → v = v' := by
  have carries := Carries.root inherited t
  refine ⟨decided_regions carries keyed, ?_, ?_⟩
  · rw [dump, unlowered?_collect equipped, leading_collect carries keyed]
  · intro w _ property v v' along along' h h'
    exact Way.topmost_unique ⟨along, h.2.1⟩ ⟨along', h'.2.1⟩

/-- A list of entries under a heading: the heading is read around the list and in every entry, the entry
reads its label twice, and the user is at hand from the start. -/
def menuScopes : Tree :=
  let entry : Region := ⟨2, .conditional, "if2_0", [⟨"label", "_cv2_0", 2, .undecided⟩,
    ⟨"heading", "_cv2_1", 1, .undecided⟩, ⟨"user", "_cv2_2", 3, .undecided⟩], [], some ⟨⟨["_t"], none⟩, []⟩⟩
  let list : Region := ⟨1, .forEach, "foreach1_0", [⟨"size", "_cv1_0", 1, .undecided⟩], [],
    some ⟨⟨["item"], some "_"⟩, []⟩⟩
  node ⟨0, .root, "", [⟨"heading", "_cv0_0", 1, .undecided⟩], [], none⟩ [node list [node entry []]]

theorem menuScopes_flattened : menuScopes.Keyed ∧ menuScopes.Equipped ∧
    menuScopes.collect.dump [("user", "_user")] = .ok (menuScopes.opening [("user", "_user")] []) := by
  have keyed : menuScopes.Keyed := by decide
  have equipped : menuScopes.Equipped := by decide
  exact ⟨keyed, equipped, (flattening_by_ways _ keyed equipped).2.1⟩

end Tree

end TemplateCompiler.Scope
