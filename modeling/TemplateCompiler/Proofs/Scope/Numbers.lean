import TemplateCompiler.Scope.Context

/-!
The numbers of scopes. In a context that was made by entering and leaving scopes every scope has a
smaller number than the next one to be entered. So a change to the scope that was left last changes no
other scope.
-/

namespace TemplateCompiler.Scope

def idsOf (ts : List Tree) : List Nat := (Tree.regionsAll ts).map Region.id

@[simp] theorem idsOf_nil : idsOf [] = [] := rfl

@[simp] theorem idsOf_append (ts us : List Tree) : idsOf (ts ++ us) = idsOf ts ++ idsOf us := by
  simp [idsOf]

theorem idsOf_cons (r : Region) (children ts : List Tree) :
    idsOf (.node r children :: ts) = r.id :: (idsOf children ++ idsOf ts) := by
  simp [idsOf, Tree.regions]

namespace Tree

theorem regions_eq (t : Tree) : t.regions = t.region :: regionsAll t.children := by
  cases t
  rfl

mutual

theorem map_eq_self {f : Region → Region} : ∀ (t : Tree), (∀ r ∈ t.regions, f r = r) → t.map f = t
  | node region children, h => by
    have hr : f region = region := h region (by simp [regions])
    rw [map, hr, mapAll_eq_self children fun r hm => h r (by
      rw [regions]
      exact List.mem_cons_of_mem region hm)]

theorem mapAll_eq_self {f : Region → Region} :
    ∀ (ts : List Tree), (∀ r ∈ regionsAll ts, f r = r) → mapAll f ts = ts
  | [], _ => rfl
  | t :: ts, h => by
    rw [mapAll, map_eq_self t fun r hm => h r (by rw [regionsAll]; exact List.mem_append_left _ hm),
      mapAll_eq_self ts fun r hm => h r (by rw [regionsAll]; exact List.mem_append_right _ hm)]

end

mutual

theorem regions_map (f : Region → Region) : ∀ t : Tree, (t.map f).regions = t.regions.map f
  | .node _ children => by rw [map, regions, regions, List.map_cons, regionsAll_map f children]

theorem regionsAll_map (f : Region → Region) : ∀ ts : List Tree,
    regionsAll (mapAll f ts) = (regionsAll ts).map f
  | [] => rfl
  | t :: ts => by rw [mapAll, regionsAll, regionsAll, List.map_append, regions_map f t, regionsAll_map f ts]

end

mutual

/-- All scopes of a tree, each with the number of the scope around it. -/
def entries (around : Nat) : Tree → List (Nat × Region)
  | node region children => (around, region) :: entriesAll region.id children

def entriesAll (around : Nat) : List Tree → List (Nat × Region)
  | [] => []
  | t :: ts => t.entries around ++ entriesAll around ts

end

@[simp] theorem entriesAll_append (around : Nat) (ts us : List Tree) :
    entriesAll around (ts ++ us) = entriesAll around ts ++ entriesAll around us := by
  induction ts with
  | nil => rfl
  | cons t ts ih => rw [List.cons_append, entriesAll, entriesAll, ih, List.append_assoc]

mutual

theorem map_entries (around : Nat) : ∀ t : Tree, (t.entries around).map Prod.snd = t.regions
  | node region children => by rw [entries, regions, List.map_cons, map_entriesAll region.id children]

theorem map_entriesAll (around : Nat) : ∀ ts : List Tree,
    (entriesAll around ts).map Prod.snd = regionsAll ts
  | [] => rfl
  | t :: ts => by
    rw [entriesAll, regionsAll, List.map_append, map_entries around t, map_entriesAll around ts]

end

theorem map_update_eq_self {id : Nat} {f : Region → Region} {ts : List Tree} (h : id ∉ idsOf ts) :
    ts.map (map fun r => if r.id = id then f r else r) = ts := by
  rw [← mapAll_eq_map]
  refine mapAll_eq_self ts fun r hr => if_neg ?_
  rintro rfl
  exact h (List.mem_map_of_mem hr)

end Tree

namespace Context

theorem close_mapOpen (f : Region → Region) (o : OpenScope) : (mapOpen f o).close = o.close.map f := by
  rw [OpenScope.close, OpenScope.close, Tree.map, Tree.mapAll_eq_map]
  rfl

theorem tree_map (f : Region → Region) (c : Context) : (c.map f).tree = c.tree.map f := by
  have outer (os : List OpenScope) (t : Tree) :
      (os.map (mapOpen f)).foldl enclose (t.map f) = (os.foldl enclose t).map f := by
    induction os generalizing t with
    | nil => rfl
    | cons o os ih =>
      rw [List.map_cons, List.foldl_cons, List.foldl_cons, ← ih]
      simp [enclose, mapOpen, Tree.map]
  rw [tree, map, close_mapOpen]
  exact outer c.outer c.current.close

/-- Every scope has a smaller number than the next. -/
def Numbered (c : Context) : Prop :=
  ∀ o ∈ c.path, o.region.id < c.nextId ∧ ∀ i ∈ idsOf o.children, i < c.nextId

theorem numbered_initial : initial.Numbered := by
  simp [Numbered, initial, path]

theorem Numbered.push {c : Context} (h : c.Numbered) (kind : ScopeKind) : (c.push kind).Numbered := by
  intro o ho
  have next : (c.push kind).nextId = c.nextId + 1 := rfl
  rw [next]
  rcases List.mem_cons.mp ho with rfl | ho
  · exact ⟨Nat.lt_succ_self _, by simp [Context.push]⟩
  · obtain ⟨hr, hc⟩ := h o ho
    exact ⟨Nat.lt_succ_of_lt hr, fun i hi => Nat.lt_succ_of_lt (hc i hi)⟩

theorem update_last {c : Context} {r : Region} {old cs : List Tree} {f : Region → Region}
    (children : c.current.children = old ++ [.node r cs]) (hcs : r.id ∉ idsOf cs)
    (hold : r.id ∉ idsOf old) (hcurrent : c.current.region.id ≠ r.id)
    (houter : ∀ o ∈ c.outer, o.region.id ≠ r.id ∧ r.id ∉ idsOf o.children) :
    c.update r.id f = { c with current := ⟨c.current.region, old ++ [.node (f r) cs]⟩ } := by
  have same : c.outer.map (mapOpen fun s => if s.id = r.id then f s else s) = c.outer := by
    refine (List.map_congr_left fun o ho => ?_).trans (List.map_id _)
    obtain ⟨hr, hc⟩ := houter o ho
    simp only [mapOpen, if_neg hr, Tree.map_update_eq_self hc]
    rfl
  have below := Tree.map_update_eq_self (f := f) hcs
  simp only [update, map, same, mapOpen, if_neg hcurrent, children, List.map_append,
    Tree.map_update_eq_self hold, List.map_cons, List.map_nil, Tree.map, if_true,
    Tree.mapAll_eq_map, below]

end Context

end TemplateCompiler.Scope
