import TemplateCompiler.Proofs.Generate.Loads

/-!
Every property is read once. In the finished render function a property is read on the component in the
function of each outermost scope that uses it, once and nowhere else. All other reads go through the
local name that this function gives the property.
-/

namespace TemplateCompiler.Code

def Occurrence.reads (property : String) (o : Occurrence) : Bool := o.atom = .read property

@[simp] theorem Occurrence.reads_under (property : String) (w : List Inner) (o : Occurrence) :
    (o.under w).reads property = o.reads property := rfl

/-- The function assigns a value to a local name, alone or among others. -/
def Function.Assigns (f : Function) (name : String) (value : Expr) : Prop :=
  ∃ bindings, Stmt.destructure bindings ∈ f.body ∧ (name, value) ∈ bindings

def Stmt.assigned : Stmt → List Expr
  | assign _ (.tuple items) => items
  | assign _ value => [value]
  | _ => []

theorem Stmt.destructure_injective {xs ys : List (String × Expr)}
    (h : Stmt.destructure xs = Stmt.destructure ys) : xs = ys := by
  unfold Stmt.destructure at h
  split at h <;> split at h
  · simp_all
  · simp at h
  · simp at h
  · simp only [Stmt.assign.injEq, Expr.tuple.injEq] at h
    obtain ⟨names, values⟩ := h
    have lengths : xs.length = ys.length := by simpa using congrArg List.length values
    refine List.ext_getElem lengths fun i hx hy => Prod.ext ?_ ?_
    · have entry := List.getElem_of_eq names (by simpa using hx)
      simpa using entry
    · have entry := List.getElem_of_eq values (by simpa using hx)
      simpa using entry

end TemplateCompiler.Code

namespace TemplateCompiler.Scope

open TemplateCompiler.Code

def Region.reads (r : Region) (property : String) : Nat :=
  (r.usage? property).elim 0 Usage.occurrences

/-- The scope records a read of the property, and no scope around it does. -/
def Topmost (property : String) (above : List Spot) (p : Spot) : Prop :=
  property ∈ p.region.properties ∧ ∀ q ∈ above, property ∉ q.region.properties

instance (property : String) (above : List Spot) (p : Spot) :
    Decidable (Topmost property above p) := inferInstanceAs (Decidable (_ ∧ _))

/-- The scope is topmost, and one read site is not enough: the property is read twice or more in it, or
below it. -/
def Shares (property : String) (above : List Spot) (p : Spot) : Prop :=
  Topmost property above p ∧
    (2 ≤ p.region.reads property ∨ ∃ r ∈ Tree.regionsAll p.children, property ∈ r.properties)

theorem topmost_iff {property : String} {above : List Spot} {p : Spot} :
    Topmost property above p ↔ property ∈ p.region.properties ∧ topAlias above property = none := by
  rw [Topmost, topAlias_eq_none]

theorem usage?_of_mem {r : Region} (h : r.properties.Nodup) {u : Usage} (hu : u ∈ r.usages) :
    r.usage? u.property = some u := find?_of_nodup h hu

theorem reads_of_mem {r : Region} (h : r.properties.Nodup) {u : Usage} (hu : u ∈ r.usages) :
    r.reads u.property = u.occurrences := by
  rw [Region.reads, usage?_of_mem h hu]
  rfl

theorem shares_iff {above : List Spot} {p : Spot} {u : Usage} (h : p.region.properties.Nodup)
    (hu : u ∈ p.region.usages) :
    Shares u.property above p ↔ topAlias above u.property = none ∧
      (1 < u.occurrences ∨ u.property ∈ Tree.usedAll p.children) := by
  have used : u.property ∈ p.region.properties := List.mem_map_of_mem hu
  rw [Shares, topmost_iff, reads_of_mem h hu, Tree.mem_usedAll]
  simp only [used, true_and]
  rfl

theorem count_usages {scope : Nat} {property : String} {us : List Usage} {hoists c : Usage → Bool}
    {weight : Placeholder → Nat}
    (h : ∀ u ∈ us, (if hoists u ∧ u.property = property then 1 else 0) +
      ((u.sites scope).map weight).sum = if c u then 1 else 0) :
    (us.filter hoists).countP (fun u => u.property = property) +
      ((sitesOf scope us).map weight).sum = us.countP c := by
  induction us with
  | nil => rfl
  | cons u us ih =>
    have first := h u List.mem_cons_self
    have rest := ih fun v hv => h v (List.mem_cons_of_mem u hv)
    have split : (sitesOf scope (u :: us)).map weight =
        (u.sites scope).map weight ++ (sitesOf scope us).map weight := by
      simp [sitesOf]
    rw [split, List.sum_append, List.countP_cons, ← rest, ← first]
    by_cases hh : hoists u
    · by_cases hu : u.property = property
      · simp [hh, hu]
        omega
      · simp [hh, hu]
        omega
    · simp [hh]
      omega

end TemplateCompiler.Scope

namespace TemplateCompiler.Generate

open TemplateCompiler.Code TemplateCompiler.Scope TemplateCompiler.Template

theorem Sourced.reads {U : Uses} {E : Emitter} {loops : List Loop} {children : List Tree}
    {o : Occurrence} (h : Sourced U E loops children o) (property : String) :
    o.reads property = false := by
  cases h with
  | noted id is noted => simp [is, Occurrence.reads, Occurrence.free]
  | helper c child is => simp [is, Occurrence.reads, Occurrence.free]
  | template e uses is =>
    obtain ⟨a, w⟩ := o
    cases a with
    | read n =>
      obtain ⟨id, hid | hid⟩ := (Expr.written_asWritten e).name _ is <;> simp [erase] at hid
    | _ => simp [Occurrence.reads]

theorem count_replace {f : Placeholder → Expr} {property : String} {os : List Occurrence}
    (h : ∀ o ∈ os, o.reads property = false) :
    (os.flatMap (Occurrence.replace f)).countP (Occurrence.reads property) =
      ((holes os).map fun s => (f s).occurrences.countP (Occurrence.reads property)).sum := by
  induction os with
  | nil => rfl
  | cons o os ih =>
    have rest := ih fun x hx => h x (List.mem_cons_of_mem o hx)
    have first := h o List.mem_cons_self
    rw [List.flatMap_cons, List.countP_append, rest]
    cases ho : o.hole? with
    | none => simp [holes, ho, Occurrence.replace_of_hole?_none ho, first]
    | some site =>
      simp [holes, ho, Occurrence.replace_of_hole?_some ho, List.countP_map, Function.comp_def]

section

variable {U : Uses} {d : Draft} {p : Spot} {above : List Spot} {u : Usage} {property : String}

/-- A usage makes one read on the component if no scope around uses the property, and none if one does:
either the read into a local name or its only site. -/
theorem Draft.Made.count_usage (made : d.Made U) (hp : (above, p) ∈ d.scopes)
    (hu : u ∈ p.region.usages) :
    (if p.collected.hoists p.inherited u ∧ u.property = property then 1 else 0) +
      ((u.sites p.region.id).map fun s =>
        (d.decision s).occurrences.countP (Occurrence.reads property)).sum =
      if decide (u.property = property ∧ topAlias above u.property = none) then 1 else 0 := by
  obtain ⟨loops, nested⟩ := made.nestedAt hp
  have positive := nested.tabled.isRead u hu
  have hoists := hoists_spot hp hu
  have decided (s : Placeholder) (hs : s ∈ u.sites p.region.id) :=
    made.decision hp hu (mem_sites hs).1 (mem_sites hs).2
  have weights (k : Nat)
      (h : ∀ s ∈ u.sites p.region.id,
        (d.decision s).occurrences.countP (Occurrence.reads property) = k) :
      ((u.sites p.region.id).map fun s =>
        (d.decision s).occurrences.countP (Occurrence.reads property)).sum = u.occurrences * k := by
    rw [List.map_congr_left h]
    simp
  cases htop : topAlias above u.property with
  | some name =>
    simp only [htop] at decided hoists
    rw [weights 0 fun s hs => by simp [decided s hs, Expr.occurrences, Occurrence.reads, Occurrence.free]]
    simp [hoists]
  | none =>
    simp only [htop] at decided hoists
    by_cases shared : 1 < u.occurrences ∨ u.property ∈ Tree.usedAll p.children
    · simp only [if_pos shared] at decided
      rw [weights 0 fun s hs => by
        simp [decided s hs, Expr.occurrences, Occurrence.reads, Occurrence.free]]
      simp [hoists, shared]
    · simp only [if_neg shared] at decided
      have once : u.occurrences = 1 := by omega
      rw [weights (if u.property = property then 1 else 0) fun s hs => by
        rw [decided s hs, occurrences_componentMember]
        by_cases h : u.property = property <;> simp [Occurrence.reads, Occurrence.free, h]]
      have direct : ¬ p.collected.hoists p.inherited u := by
        rw [hoists]
        exact fun h => shared h.2
      simp [direct, once]

theorem Draft.Made.count_reads (made : d.Made U) (hp : (above, p) ∈ d.scopes) :
    ((d.function p).substitute d.decision).loads.countP (Occurrence.reads property) =
      if Topmost property above p then 1 else 0 := by
  obtain ⟨loops, nested⟩ := made.nestedAt hp
  obtain ⟨own, os, perm, coded, introduced⟩ := nested.loads
  have hoisted : ((hoistLoads p).flatMap (Occurrence.replace d.decision)).countP
      (Occurrence.reads property) =
      (p.region.usages.filter (p.collected.hoists p.inherited)).countP
        (fun u => u.property = property) := by
    have same : (hoistLoads p).flatMap (Occurrence.replace d.decision) = hoistLoads p := by
      simp [hoistLoads, List.flatMap_map, Occurrence.replace, Occurrence.free, ← List.map_eq_flatMap]
    rw [same, hoistLoads, List.countP_map]
    refine List.countP_congr fun u _ => ?_
    simp [Occurrence.reads, Occurrence.free]
  have introducedReads : ∀ o ∈ own, o.reads property = false := by
    intro o ho
    obtain ⟨id, rfl, -⟩ := introduced o ho
    simp [Occurrence.reads, Occurrence.free]
  have none : holes own = [] := by
    rw [holes, List.filterMap_eq_nil_iff]
    intro o ho
    obtain ⟨id, rfl, -⟩ := introduced o ho
    rfl
  rw [Function.loads_substitute made.decides, (perm.flatMap_right _).countP_eq, List.flatMap_append,
    List.flatMap_append, List.countP_append, List.countP_append, hoisted,
    count_replace introducedReads, none, count_replace fun o ho => (coded.sourced o ho).reads property,
    ← (coded.sites.map _).sum_nat, List.map_nil, List.sum_nil, Nat.add_zero,
    count_usages fun u hu => made.count_usage hp hu]
  have listed : p.region.usages.countP (fun u => u.property = property) =
      if property ∈ p.region.properties then 1 else 0 := by
    have count := nested.tabled.distinct.count (a := property)
    rw [List.count_eq_countP, List.countP_map] at count
    rw [Region.properties, ← count]
    exact List.countP_congr fun u _ => by simp
  simp only [topmost_iff]
  cases htop : topAlias above property with
  | none =>
    simp only [and_true]
    rw [← listed]
    refine List.countP_congr fun u _ => ?_
    simp only [decide_eq_true_eq]
    exact ⟨And.left, fun h => ⟨h, h ▸ htop⟩⟩
  | some name =>
    simp only [reduceCtorEq, and_false, if_false, List.countP_eq_zero, decide_eq_true_eq, not_and]
    rintro u - rfl
    simp [htop]

/-- A recorded read of a property is the read on the component itself, or goes through the local name
that the topmost scope gives the property. -/
theorem Draft.Made.decided_site (made : d.Made U) (hp : (above, p) ∈ d.scopes) {s : Placeholder}
    (hs : s ∈ sitesOf p.region.id p.region.usages) :
    (Topmost s.property above p ∧ ¬ Shares s.property above p ∧
      d.decision s = componentMember s.property) ∨
    ((Topmost s.property above p → Shares s.property above p) ∧
      ∃ q around name, (q :: around) <:+ (p :: above) ∧ Topmost s.property around q ∧
        q.region.alias? s.property = some name ∧ d.decision s = .own name) := by
  obtain ⟨loops, nested⟩ := made.nestedAt hp
  obtain ⟨u, hu, hs⟩ := List.mem_flatMap.mp hs
  obtain ⟨hscope, hproperty⟩ := mem_sites hs
  have decided := made.decision hp hu hscope hproperty
  have shares : Shares u.property above p ↔ _ := shares_iff nested.tabled.distinct hu
  have used : u.property ∈ p.region.properties := List.mem_map_of_mem hu
  rw [hproperty]
  cases htop : topAlias above u.property with
  | some name =>
    simp only [htop] at decided
    obtain ⟨q, around, suffix, none, named⟩ := topAlias_eq_some htop
    refine .inr ⟨?_, q, around, name, suffix.trans (List.suffix_cons p above), ?_, named, decided⟩
    · rw [topmost_iff, htop]
      rintro ⟨-, h⟩
      cases h
    · rw [topmost_iff]
      refine ⟨?_, none⟩
      by_contra absent
      rw [Region.alias?_eq_none.mpr absent] at named
      cases named
  | none =>
    simp only [htop, true_and] at decided shares
    have topmost : Topmost u.property above p := topmost_iff.mpr ⟨used, htop⟩
    by_cases shared : 1 < u.occurrences ∨ u.property ∈ Tree.usedAll p.children
    · rw [if_pos shared] at decided
      refine .inr ⟨fun _ => shares.mpr shared, p, above, u.localName, List.suffix_refl _, topmost, ?_,
        decided⟩
      rw [Region.alias?, usage?_of_mem nested.tabled.distinct hu]
      rfl
    · rw [if_neg shared] at decided
      exact .inl ⟨topmost, fun h => shared (shares.mp h), decided⟩

theorem assigned_of_closing {s : Stmt} (h : Closing s) (σ : Placeholder → Expr) (property : String) :
    componentMember property ∉ (s.substitute σ).assigned := by
  cases h <;>
    simp [takeEntry, namespaceValue, Stmt.substitute, Expr.apply, Expr.substitute, Stmt.assigned,
      componentMember]

theorem mem_assigned_destructure {bindings : List (String × Expr)} {name property : String}
    (h : (name, componentMember property) ∈ bindings) :
    componentMember property ∈ (Stmt.destructure bindings).assigned := by
  unfold Stmt.destructure
  split
  · obtain ⟨-, rfl⟩ := Prod.mk.inj (List.mem_singleton.mp h)
    simp [componentMember, Stmt.assigned]
  · exact List.mem_map_of_mem h

/-- The properties that a function assigns to local names are those that its scope hoists. -/
theorem Nested.assigns {loops : List Loop} (nested : Nested U d (p :: above) loops)
    (σ : Placeholder → Expr) {name property : String} :
    ((d.function p).substitute σ).Assigns name (componentMember property) ↔
      ∃ u ∈ p.hoisted, u.localName = name ∧ u.property = property := by
  obtain ⟨before, after, body, engine, closing⟩ := nested.body
  have kept : ((Stmt.destructure (p.hoisted.map fun u => (u.localName, componentMember u.property)))
      |>.substitute σ) =
      .destructure (p.hoisted.map fun u => (u.localName, componentMember u.property)) := by
    rw [Stmt.substitute_destructure, List.map_map]
    rfl
  constructor
  · rintro ⟨bindings, hb, hm⟩
    simp only [Function.substitute, body, List.mem_map, List.mem_append] at hb
    obtain ⟨s, (hs | hs) | hs, e⟩ := hb
    · obtain ⟨-, ps, rfl⟩ := engine s hs
      rw [Stmt.substitute_destructure, List.map_map] at e
      obtain rfl := Stmt.destructure_injective e
      obtain ⟨x, -, hx⟩ := List.mem_map.mp hm
      have other : apiName ≠ componentName := by decide
      simp [componentMember, Expr.substitute, other] at hx
    · rcases mem_leading hs with rfl | ⟨_, _, _, rfl⟩
      · rw [kept] at e
        obtain rfl := Stmt.destructure_injective e
        obtain ⟨u, hu, hx⟩ := List.mem_map.mp hm
        simp only [Prod.mk.injEq, componentMember, Expr.member.injEq, true_and] at hx
        exact ⟨u, hu, hx⟩
      · have assigned := mem_assigned_destructure hm
        rw [← e] at assigned
        cases assigned
    · have assigned := mem_assigned_destructure hm
      rw [← e] at assigned
      exact absurd assigned (assigned_of_closing (closing s hs) σ property)
  · rintro ⟨u, hu, rfl, rfl⟩
    refine ⟨p.hoisted.map fun v => (v.localName, componentMember v.property), ?_,
      List.mem_map.mpr ⟨u, hu, rfl⟩⟩
    rw [← kept]
    refine List.mem_map_of_mem ?_
    rw [body]
    refine List.mem_append_left _ (List.mem_append_right _ ?_)
    unfold Spot.leading
    rw [Tree.collect, Tree.leading]
    refine List.mem_append_left _ ?_
    change _ ∈ p.collected.hoistStmts p.inherited
    unfold Region.hoistStmts
    have some : p.collected.hoisted p.inherited ≠ [] := List.ne_nil_of_mem hu
    split
    · next e => exact absurd e some
    · exact List.mem_singleton_self _

theorem Draft.Made.assigns_iff (made : d.Made U) (hp : (above, p) ∈ d.scopes) {name : String} :
    ((d.function p).substitute d.decision).Assigns name (componentMember property) ↔
      Shares property above p ∧ p.region.alias? property = some name := by
  obtain ⟨loops, nested⟩ := made.nestedAt hp
  have distinct := nested.tabled.distinct
  rw [nested.assigns]
  constructor
  · rintro ⟨u, hu, rfl, rfl⟩
    obtain ⟨hm, hh⟩ := List.mem_filter.mp hu
    refine ⟨(shares_iff distinct hm).mpr ((hoists_spot hp hm).mp hh), ?_⟩
    rw [Region.alias?, usage?_of_mem distinct hm]
    rfl
  · rintro ⟨shares, named⟩
    obtain ⟨u, hf, rfl⟩ := Option.map_eq_some_iff.mp named
    have hm : u ∈ p.region.usages := List.mem_of_find?_eq_some hf
    obtain rfl : u.property = property := by simpa using List.find?_some hf
    exact ⟨u, List.mem_filter.mpr ⟨hm, (hoists_spot hp hm).mpr ((shares_iff distinct hm).mp shares)⟩,
      rfl, rfl⟩

end

/-- A property is read once: what the function of a scope has to do with it. -/
structure ReadsOnce (d : Draft) (property : String) (s : List Spot × Spot)
    (f : List Function × Function) : Prop where
  /-- One read on the component in the function of a topmost scope, none in any other function. -/
  count : f.2.loads.countP (Occurrence.reads property) = if Topmost property s.1 s.2 then 1 else 0
  /-- The recorded reads of the scope are in its function, each replaced by its decision. -/
  recorded : ∃ os, f.2.loads = os.flatMap (Occurrence.replace d.decision) ∧
    (holes os).Perm (sitesOf s.2.region.id s.2.region.usages)
  /-- The read on the component is assigned to the local name of the scope exactly if it is shared. -/
  assigned : ∀ name, f.2.Assigns name (componentMember property) ↔
    Shares property s.1 s.2 ∧ s.2.region.alias? property = some name
  /-- Otherwise it is the only recorded read of the scope. -/
  direct : Topmost property s.1 s.2 → ¬ Shares property s.1 s.2 →
    ∀ read ∈ sitesOf s.2.region.id s.2.region.usages, read.property = property →
      d.decision read = componentMember property
  /-- All other recorded reads are the local name that the topmost scope gives the property. -/
  through : (Topmost property s.1 s.2 → Shares property s.1 s.2) →
    ∀ read ∈ sitesOf s.2.region.id s.2.region.usages, read.property = property →
      ∃ q around name, (q :: around) <:+ (s.2 :: s.1) ∧ Topmost property around q ∧
        q.region.alias? property = some name ∧ d.decision read = .own name

theorem Draft.Made.readsOnce {U : Uses} {d : Draft} (made : d.Made U) (property : String)
    {s : List Spot × Spot} (hs : s ∈ d.scopes) (around : List Function) :
    ReadsOnce d property s (around, (d.function s.2).substitute d.decision) := by
  obtain ⟨above, p⟩ := s
  obtain ⟨loops, nested⟩ := made.nestedAt hs
  refine ⟨made.count_reads hs,
    ⟨(d.function p).loads, Function.loads_substitute made.decides _, nested.sites⟩,
    fun name => made.assigns_iff hs, ?_, ?_⟩
  · rintro topmost alone read hr rfl
    rcases made.decided_site hs hr with ⟨-, -, decided⟩ | ⟨shares, -⟩
    · exact decided
    · exact absurd (shares topmost) alone
  · rintro shared read hr rfl
    rcases made.decided_site hs hr with ⟨topmost, alone, -⟩ | ⟨-, through⟩
    · exact absurd (shared topmost) alone
    · exact through

/-- Every template that compiles reads each property once for each topmost scope, and hoists no read
that stands alone. -/
theorem properties_read_once {config : Config} {root : Node} {compiled : Compiled}
    (h : (compile config root).1 = .ok compiled) :
    ∃ d render, draft? config root = some d ∧ renderOf compiled.program.stmts = some render ∧
      ∀ property, List.Forall₂ (ReadsOnce d property) d.scopes (render.functions []) := by
  obtain ⟨d, hd, hr, -⟩ := draft_of_generate (generate_of_compile h)
  have made := made_of_draft? hd
  refine ⟨d, d.finished, hd, hr, fun property => ?_⟩
  rw [made.functions_finished]
  exact List.forall₂_map_right_iff.mpr (List.forall₂_same.mpr fun s hs => made.readsOnce property hs _)

/-- A property read in two scopes, one read twice in one scope, and one read once. -/
def sharedTitle : Node :=
  .root [.show (.name "title"),
    .element { Element.ofTag "p" with branch := some ⟨some (.name "shown"), .holds, .opening⟩ }
      [.show (.binary .add (.name "title") (.name "text")), .show (.name "text")]]

theorem sharedTitle_read_once : ∃ compiled, (compile .default sharedTitle).1 = .ok compiled ∧
    ∃ d render, draft? .default sharedTitle = some d ∧
      renderOf compiled.program.stmts = some render ∧
      ∀ property, List.Forall₂ (ReadsOnce d property) d.scopes (render.functions []) := by
  have ok : (compile .default sharedTitle).1.isOk := by decide +kernel
  obtain ⟨compiled, h⟩ := exists_of_isOk ok
  exact ⟨compiled, h, properties_read_once h⟩

end TemplateCompiler.Generate
