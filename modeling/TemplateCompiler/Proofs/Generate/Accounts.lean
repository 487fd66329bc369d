import TemplateCompiler.Proofs.Generate.Runs
import TemplateCompiler.Proofs.Generate.Emission
import TemplateCompiler.Proofs.Scope.Recording
import TemplateCompiler.Proofs.Scope.Numbers

/-!
What a walk leaves behind. Code that is made in a scope holds exactly the undecided reads that the scope
records; its other names were noted by the emitter, name helpers of scopes closed in it, or stand in an
expression of the template. `Walks U loops s os cs t` says so of a part of a walk from the state `s` to
the state `t` that makes code with the occurrences `os` and closes the scopes `cs`.

`U` tells what the template has: which expressions inside which loops, which loops, which references to
components.
-/

namespace TemplateCompiler.Generate

open TemplateCompiler.Code TemplateCompiler.Scope TemplateCompiler.Template

/-- What a template has. -/
structure Uses where
  /-- An expression inside loops, the innermost first. -/
  expr : List Loop → Expr → Prop
  loop : Loop → Prop
  component : String → Prop

def Uses.any : Uses := ⟨fun _ _ => True, fun _ => True, fun _ => True⟩

/-- Where an occurrence in the code of a scope comes from. -/
inductive Sourced (U : Uses) (E : Emitter) (loops : List Loop) (children : List Tree)
    (o : Occurrence) : Prop
  | noted (id : String) (is : o = .free (.own id)) (noted : E.Notes id)
  | helper (c : Tree) (child : c ∈ children) (is : o = .free (.own c.region.helperName))
  | template (e : Expr) (uses : U.expr loops e) (is : erase o ∈ e.asWritten.occurrences)

/-- A closed scope whose code has the occurrences `os`. -/
structure Coded (U : Uses) (E : Emitter) (loops : List Loop) (r : Region) (children : List Tree)
    (os : List Occurrence) : Prop where
  tabled : Tabled r.id r.usages
  sites : (sitesOf r.id r.usages).Perm (holes os)
  sourced : ∀ o ∈ os, Sourced U E loops children o

/-- A scope whose helper is named for its kind, its number and its place. -/
def Named (r : Region) : Prop := ∃ k, r.helperName = Context.helperName r.kind r.id k

/-- A tree of closed scopes, each with the helper that its directive asks for. -/
inductive Lowered (U : Uses) (E : Emitter) : List Loop → Tree → Prop
  | conditional {loops : List Loop} {r : Region} {children : List Tree} {modifier : Modifier}
      {condition body otherwise : Expr} (named : Named r) (kind : r.kind = .conditional)
      (test : testExpr? modifier = some condition)
      (helper : r.helper = some (testHelper condition body otherwise))
      (coded : Coded U E loops r children (body.occurrences ++ otherwise.occurrences))
      (below : ∀ c ∈ children, Lowered U E loops c) : Lowered U E loops (.node r children)
  | loop {loops : List Loop} {r : Region} {children : List Tree} {l : Loop} {body : Expr}
      (uses : U.loop l) (named : Named r) (kind : r.kind = loopKind l)
      (noted : ∀ f, l = .of f → E.usesNamespace) (helper : r.helper = some (loopHelper body l))
      (coded : Coded U E (l :: loops) r children body.occurrences)
      (below : ∀ c ∈ children, Lowered U E (l :: loops) c) : Lowered U E loops (.node r children)

theorem Sourced.mono {U : Uses} {E F : Emitter} {loops : List Loop} {cs ds : List Tree}
    {o : Occurrence} (h : E.Grows U.component F) (hcs : cs ⊆ ds) (hs : Sourced U E loops cs o) :
    Sourced U F loops ds o := by
  cases hs with
  | noted id is noted => exact .noted id is (noted.mono h)
  | helper c child is => exact .helper c (hcs child) is
  | template e uses is => exact .template e uses is

theorem Coded.mono {U : Uses} {E F : Emitter} {loops : List Loop} {r : Region}
    {children : List Tree} {os : List Occurrence} (h : E.Grows U.component F) (hc : Coded U E loops r children os) :
    Coded U F loops r children os :=
  { hc with sourced := fun o ho => (hc.sourced o ho).mono h (List.Subset.refl children) }

theorem Lowered.mono {U : Uses} {E F : Emitter} {loops : List Loop} {t : Tree}
    (h : E.Grows U.component F) (ht : Lowered U E loops t) : Lowered U F loops t := by
  induction ht with
  | conditional named kind test helper coded below ih =>
    exact .conditional named kind test helper (coded.mono h) ih
  | loop uses named kind noted helper coded below ih =>
    exact .loop uses named kind (fun f hf => h.usesNamespace (noted f hf)) helper (coded.mono h) ih

structure Walks (U : Uses) (loops : List Loop) (s : WalkState) (os : List Occurrence)
    (cs : List Tree) (t : WalkState) : Prop where
  outer : t.context.outer = s.context.outer
  region : t.context.current.region =
    { s.context.current.region with usages := t.context.current.region.usages }
  children : t.context.current.children = s.context.current.children ++ cs
  records : Records s.context.currentId s.context.current.region.usages os
    t.context.current.region.usages
  emitter : s.emitter.Grows U.component t.emitter
  nextId : s.context.nextId ≤ t.context.nextId
  numbers : idsOf cs = List.range' s.context.nextId (t.context.nextId - s.context.nextId)
  lowered : ∀ c ∈ cs, Lowered U t.emitter loops c
  sourced : ∀ o ∈ os, Sourced U t.emitter loops cs o

namespace Walks

variable {U : Uses} {loops : List Loop} {s t u : WalkState} {os ps : List Occurrence}
  {cs ds : List Tree}

theorem currentId (h : Walks U loops s os cs t) : t.context.currentId = s.context.currentId := by
  unfold Context.currentId
  rw [h.region]

theorem nil (s : WalkState) : Walks U loops s [] [] s where
  outer := rfl
  region := rfl
  children := (List.append_nil _).symm
  records := .refl rfl
  emitter := .refl _
  nextId := Nat.le_refl _
  numbers := by simp
  lowered := by simp
  sourced := by simp

theorem trans (h : Walks U loops s os cs t) (h' : Walks U loops t ps ds u) :
    Walks U loops s (os ++ ps) (cs ++ ds) u where
  outer := h'.outer.trans h.outer
  region := by rw [h'.region, h.region]
  children := by rw [h'.children, h.children, List.append_assoc]
  records := h.records.trans (h.currentId ▸ h'.records)
  emitter := h.emitter.trans h'.emitter
  nextId := Nat.le_trans h.nextId h'.nextId
  numbers := by
    obtain ⟨m, hm⟩ := Nat.le.dest h.nextId
    obtain ⟨n, hn⟩ := Nat.le.dest h'.nextId
    rw [idsOf_append, h.numbers, h'.numbers, ← hn, ← hm, Nat.add_sub_cancel_left,
      Nat.add_sub_cancel_left, Nat.add_assoc, Nat.add_sub_cancel_left, List.range'_append_1]
  lowered := by
    intro c hc
    rcases List.mem_append.mp hc with hc | hc
    · exact (h.lowered c hc).mono h'.emitter
    · exact h'.lowered c hc
  sourced := by
    intro o ho
    rcases List.mem_append.mp ho with ho | ho
    · exact (h.sourced o ho).mono h'.emitter (List.subset_append_left cs ds)
    · exact (h'.sourced o ho).mono (.refl _) (List.subset_append_right cs ds)

theorem perm (h : Walks U loops s os cs t) (p : os.Perm ps) : Walks U loops s ps cs t :=
  { h with
    records := h.records.congr (p.filterMap _)
    sourced := fun o ho => h.sourced o (p.mem_iff.mpr ho) }

theorem numbered (h : Walks U loops s os cs t) (hn : s.context.Numbered) : t.context.Numbered := by
  have grown := h.nextId
  intro o ho
  rcases List.mem_cons.mp ho with rfl | ho
  · obtain ⟨hr, hc⟩ := hn s.context.current List.mem_cons_self
    refine ⟨?_, fun i hi => ?_⟩
    · rw [h.region]
      exact Nat.lt_of_lt_of_le hr grown
    · rw [h.children, idsOf_append, List.mem_append, h.numbers, List.mem_range'_1] at hi
      rcases hi with hi | hi
      · exact Nat.lt_of_lt_of_le (hc i hi) grown
      · omega
  · rw [h.outer] at ho
    obtain ⟨hr, hc⟩ := hn o (List.mem_cons_of_mem _ ho)
    exact ⟨Nat.lt_of_lt_of_le hr grown, fun i hi => Nat.lt_of_lt_of_le (hc i hi) grown⟩

theorem idle (h : t.context.current = s.context.current) (ho : t.context.outer = s.context.outer)
    (hn : t.context.nextId = s.context.nextId) (he : t.emitter = s.emitter) :
    Walks U loops s [] [] t where
  outer := ho
  region := by rw [h]
  children := by rw [h, List.append_nil]
  records := by
    rw [h]
    exact .refl rfl
  emitter := he ▸ .refl _
  nextId := Nat.le_of_eq hn.symm
  numbers := by simp [hn]
  lowered := by simp
  sourced := by simp

theorem bindExpr {locals : List String} {e a : Expr} (hu : U.expr loops e)
    (h : Runs (Walk.bindExpr locals e) s a t) : Walks U loops s a.occurrences [] t := by
  obtain ⟨rfl, rfl⟩ := Walk.runs_bindExpr.mp h
  have binds := bindsExpr s.context.currentId locals (Expr.written_asWritten e)
    s.context.current.region.usages
  exact {
    outer := rfl
    region := rfl
    children := (List.append_nil _).symm
    records := binds.records
    emitter := .refl _
    nextId := Nat.le_refl _
    numbers := by simp [Context.setUsages]
    lowered := by simp
    sourced := fun o ho => .template e hu (binds.erased ▸ List.mem_map_of_mem ho) }

theorem emit {step : EmitM Expr} {e : Expr} (h : Walks U loops s os cs t)
    (hs : Emits U.component step os) (hr : Runs (Walk.emit step) t e u) : Walks U loops s e.occurrences cs u := by
  obtain ⟨rfl, rfl⟩ := Walk.runs_emit.mp hr
  obtain ⟨new, hp, hn⟩ := hs.content t.emitter
  have grows := hs.grows t.emitter
  refine Walks.perm ?_ hp.symm
  exact { h with
    records := h.records.congr (by
      have none : holes new = [] := by
        rw [holes, List.filterMap_eq_nil_iff]
        intro o ho
        obtain ⟨id, rfl, -⟩ := hn o ho
        rfl
      rw [holes_append, none, List.append_nil])
    emitter := h.emitter.trans grows
    lowered := fun c hc => (h.lowered c hc).mono grows
    sourced := by
      intro o ho
      rcases List.mem_append.mp ho with ho | ho
      · exact (h.sourced o ho).mono grows (List.Subset.refl cs)
      · obtain ⟨id, is, noted⟩ := hn o ho
        exact .noted id is noted }

theorem emitUnit {step : EmitM Unit} {x : Unit}
    (hs : ∀ E : Emitter, E.Grows U.component (step E).2) (hr : Runs (Walk.emit step) s x t) : Walks U loops s [] [] t := by
  obtain ⟨-, rfl⟩ := Walk.runs_emit.mp hr
  exact {
    outer := rfl
    region := rfl
    children := (List.append_nil _).symm
    records := .refl rfl
    emitter := hs s.emitter
    nextId := Nat.le_refl _
    numbers := by simp
    lowered := by simp
    sourced := by simp }

end Walks

/-- A scope that is closed again, before it gets its helper. -/
def closedRegion (s : WalkState) (kind : ScopeKind) (usages : List Usage) : Region :=
  ⟨s.context.nextId, kind,
    Context.helperName kind s.context.nextId s.context.current.children.length, usages, [], none⟩

section Closing

variable {U : Uses} {inner loops : List Loop} {s t p q u : WalkState} {kind : ScopeKind}
  {os qs : List Occurrence} {cs : List Tree} {r : Region} {helper : Helper} {e : Expr}

theorem runs_pop_entered (h : Walks U inner (Walk.entered s kind) os cs t)
    (hp : Runs Walk.pop t r p) :
    r = closedRegion s kind t.context.current.region.usages ∧
      p = { t with context := { t.context with
        current := ⟨s.context.current.region, s.context.current.children ++ [.node r cs]⟩
        outer := s.context.outer } } := by
  obtain ⟨parent, outer, ho, rfl, rfl⟩ := Walk.runs_pop.mp hp
  have hout := h.outer
  rw [ho] at hout
  obtain ⟨rfl, rfl⟩ := List.cons.inj hout
  refine ⟨h.region, ?_⟩
  have hc : t.context.current.children = cs := h.children
  simp only [OpenScope.close, hc]

theorem coded_closed (h : Walks U inner (Walk.entered s kind) os cs t) (helper : Option Helper) :
    Coded U t.emitter inner
      { closedRegion s kind t.context.current.region.usages with helper := helper } cs os where
  tabled := h.records.tabled (tabled_nil _)
  sites := h.records.sites (tabled_nil _)
  sourced := h.sourced

/-- The walk around a scope: what is between leaving it and giving it its helper stays outside. -/
theorem walks_close (hn : s.context.Numbered) (h : Walks U inner (Walk.entered s kind) os cs t)
    (hp : Runs Walk.pop t r p) (hq : Walks U loops p qs [] q)
    (hset : Runs (Walk.setHelper r helper) q e u)
    (hl : t.emitter.Grows U.component q.emitter →
      Lowered U q.emitter loops (.node { r with helper := some helper } cs)) :
    e = .own r.helperName ∧
      Walks U loops s (qs ++ e.occurrences) [.node { r with helper := some helper } cs] u := by
  obtain ⟨hr, rfl⟩ := runs_pop_entered h hp
  obtain ⟨-, rfl, rfl⟩ := Walk.runs_setHelper.mp hset
  have hid : r.id = s.context.nextId := by rw [hr]; rfl
  have entered : s.context.nextId + 1 ≤ t.context.nextId := h.nextId
  have numbers : idsOf cs =
      List.range' (s.context.nextId + 1) (t.context.nextId - (s.context.nextId + 1)) := h.numbers
  have hnext : q.context.nextId = t.context.nextId := by
    have grown : t.context.nextId ≤ q.context.nextId := hq.nextId
    have none := congrArg List.length hq.numbers
    simp only [idsOf_nil, List.length_nil, List.length_range'] at none
    omega
  have hregion : q.context.current.region =
      { s.context.current.region with usages := q.context.current.region.usages } := hq.region
  have hchildren : q.context.current.children = s.context.current.children ++ [.node r cs] := by
    rw [hq.children, List.append_nil]
  have houter : q.context.outer = s.context.outer := hq.outer
  obtain ⟨hcurrent, hold⟩ := hn s.context.current List.mem_cons_self
  have update := Context.update_last (f := fun x => { x with helper := some helper }) hchildren
    (by rw [numbers, hid, List.mem_range'_1]; omega)
    (by rw [hid]; exact fun hm => Nat.lt_irrefl _ (hold _ hm))
    (by rw [hregion, hid]; exact Nat.ne_of_lt hcurrent)
    (by
      rw [houter, hid]
      intro o ho
      obtain ⟨hr, hc⟩ := hn o (List.mem_cons_of_mem _ ho)
      exact ⟨Nat.ne_of_lt hr, fun hm => Nat.lt_irrefl _ (hc _ hm)⟩)
  rw [update]
  have mine : holes (Expr.own r.helperName).occurrences = [] := rfl
  exact ⟨rfl, {
    outer := houter
    region := hregion
    children := rfl
    records := hq.records.trans (.refl mine)
    emitter := h.emitter.trans hq.emitter
    nextId := by
      show s.context.nextId ≤ q.context.nextId
      omega
    numbers := by
      rw [idsOf_cons, numbers, idsOf_nil, List.append_nil]
      show r.id :: _ = List.range' s.context.nextId (q.context.nextId - s.context.nextId)
      rw [hnext, hid, ← Nat.sub_add_cancel (show 1 ≤ t.context.nextId - s.context.nextId by omega),
        List.range'_succ, Nat.sub_sub]
    lowered := by
      intro c hc
      rw [List.mem_singleton.mp hc]
      exact hl hq.emitter
    sourced := by
      intro o ho
      rcases List.mem_append.mp ho with ho | ho
      · exact (hq.sourced o ho).mono (.refl _) (List.nil_subset _)
      · exact .helper _ (List.mem_singleton_self _) (List.mem_singleton.mp ho) }⟩

end Closing

end TemplateCompiler.Generate
