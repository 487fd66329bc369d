import TemplateCompiler.Proofs.Scope.Hoisting
import TemplateCompiler.Proofs.Scope.Names
import TemplateCompiler.Proofs.Scope.Numbers
import TemplateCompiler.Proofs.Scope.Recording
import Mathlib.Data.List.Nodup

/-!
Histories of a context. Scopes are entered and left and reads are recorded in any order. The scopes in
document order of their tree are the scopes in the order in which they were entered: entering a scope adds
it at the end, leaving one changes nothing, and recording keeps numbers and names.
-/

namespace TemplateCompiler.Scope

open TemplateCompiler.Code

/-- The kinds of scopes that templates open. -/
inductive BlockKind where
  | conditional
  | forEach
  | forOf

def BlockKind.kind : BlockKind → ScopeKind
  | conditional => .conditional
  | forEach => .forEach
  | forOf => .forOf

inductive ContextAction where
  | push (kind : BlockKind)
  | pop
  /-- A read of a property in any scope. -/
  | reference (scope : Nat) (property : String)

/-- A context with what was done to it. -/
structure History where
  context : Context
  /-- The scopes that were entered, each behind the scope in which that was done. -/
  entered : List (Nat × Nat)
  /-- The placeholders that were given out. -/
  given : List Placeholder

namespace History

def initial : History := ⟨.initial, [], []⟩

def step (h : History) : ContextAction → History
  | .push kind =>
    let context := h.context.push kind.kind
    { h with context, entered := h.entered ++ [(h.context.currentId, context.currentId)] }
  | .pop =>
    match h.context.pop with
    | .ok (_, context) => { h with context }
    | .error _ => h
  | .reference scope property =>
    match h.context.record scope property with
    | some (read, context) => { h with context, given := h.given ++ [read] }
    | none => h

def run (h : History) (actions : List ContextAction) : History := actions.foldl step h

def sites (h : History) (scope : Nat) (property : String) : List Placeholder :=
  h.given.filter fun read => read.scope = scope ∧ read.property = property

def localName? (h : History) (scope : Nat) (property : String) : Option String := do
  let region ← h.context.region? scope
  let usage ← region.usage? property
  return usage.localName

end History

theorem find?_recordRead (scope : Nat) (property : String) (us : List Usage) (other : String) :
    (recordRead scope property us).2.find? (·.property = other) =
      if other = property then
        some ((us.find? (·.property = property)).elim
          ⟨property, localName scope us.length, 1, .undecided⟩ Usage.again)
      else us.find? (·.property = other) := by
  unfold recordRead
  cases found : us.find? (·.property = property) with
  | none =>
    by_cases same : other = property
    · simp [same, List.find?_append, found]
    · simp [same, List.find?_append, Ne.symm same]
  | some u =>
    simp only [Option.elim_some]
    induction us with
    | nil => cases found
    | cons v us ih =>
      by_cases here : v.property = property
      · obtain rfl : v = u := by simpa [here] using found
        by_cases same : other = property
        · simp [recount, here, same, Usage.again]
        · simp [recount, here, same, Ne.symm same]
      · have later := ih (by simpa [here] using found)
        by_cases same : other = property
        · subst same
          simpa [recount, here] using later
        · by_cases first : v.property = other
          · simp [recount, same, first]
          · simpa [recount, here, same, first] using later

theorem sites_recordRead (scope : Nat) (property : String) (us : List Usage) (other : String) :
    ((recordRead scope property us).2.find? (·.property = other)).elim [] (Usage.sites scope) =
      (us.find? (·.property = other)).elim [] (Usage.sites scope) ++
        if other = property then [(recordRead scope property us).1] else [] := by
  rw [find?_recordRead]
  by_cases same : other = property
  · subst same
    rw [if_pos rfl, if_pos rfl, recordRead]
    cases found : us.find? (·.property = other) with
    | none => rfl
    | some u =>
      obtain rfl : u.property = other := by simpa using List.find?_some found
      exact sites_again scope u
  · rw [if_neg same, if_neg same, List.append_nil]

theorem recordRead_read (scope : Nat) (property : String) (us : List Usage) :
    (recordRead scope property us).1.scope = scope ∧ (recordRead scope property us).1.property = property := by
  unfold recordRead
  split <;> exact ⟨rfl, rfl⟩

namespace Context

variable {c : Context}

theorem entries_enclose {t t' : Tree} {extra : List (Nat × Region)}
    (h : ∀ around, t'.entries around = t.entries around ++ extra) (outer : List OpenScope) (around : Nat) :
    (outer.foldl enclose t').entries around = (outer.foldl enclose t).entries around ++ extra := by
  induction outer generalizing t t' with
  | nil => exact h around
  | cons o outer ih =>
    refine ih fun around => ?_
    simp [enclose, Tree.entries, Tree.entriesAll, h]

theorem entries_push (c : Context) (kind : ScopeKind) : (c.push kind).tree.entries 0 =
    c.tree.entries 0 ++ [(c.currentId, (c.push kind).current.region)] := by
  refine entries_enclose (fun around => ?_) c.outer 0
  simp [enclose, OpenScope.close, Tree.entries, Tree.entriesAll, push, currentId]

theorem regions_push (c : Context) (kind : ScopeKind) :
    (c.push kind).tree.regions = c.tree.regions ++ [(c.push kind).current.region] := by
  rw [← Tree.map_entries 0, entries_push, List.map_append, Tree.map_entries]
  rfl

mutual

theorem entries_map {f : Region → Region} (same : ∀ r, (f r).id = r.id) (around : Nat) : ∀ t : Tree,
    (t.map f).entries around = (t.entries around).map fun x => (x.1, f x.2)
  | .node region children => by
    rw [Scope.Tree.map, Tree.entries, Tree.entries, List.map_cons, same, entriesAll_map same]

theorem entriesAll_map {f : Region → Region} (same : ∀ r, (f r).id = r.id) (around : Nat) : ∀ ts : List Tree,
    Tree.entriesAll around (Tree.mapAll f ts) = (Tree.entriesAll around ts).map fun x => (x.1, f x.2)
  | [] => rfl
  | t :: ts => by
    rw [Tree.mapAll, Tree.entriesAll, Tree.entriesAll, List.map_append, entries_map same around t,
      entriesAll_map same around ts]

end

/-- A scope with other usages, if it has the number. -/
def retable (id : Nat) (usages : List Usage) (r : Region) : Region :=
  if r.id = id then { r with usages := usages } else r

theorem id_retable (id : Nat) (usages : List Usage) (r : Region) : (retable id usages r).id = r.id := by
  unfold retable
  split <;> rfl

theorem record_eq_some {id : Nat} {property : String} {read : Placeholder} {d : Context}
    (h : c.record id property = some (read, d)) : ∃ r ∈ c.tree.regions, r.id = id ∧
      read = (recordRead r.id property r.usages).1 ∧
      d = c.map (retable r.id (recordRead r.id property r.usages).2) := by
  unfold record at h
  cases found : c.region? id with
  | none => simp [found] at h
  | some r =>
    obtain rfl : r.id = id := by simpa using List.find?_some found
    simp only [found, Option.bind_eq_bind, Option.bind_some, Option.pure_def, Option.some.injEq,
      Prod.mk.injEq] at h
    exact ⟨r, List.mem_of_find?_eq_some found, rfl, h.1.symm, h.2.symm⟩

end Context

namespace History

structure Sound (h : History) : Prop where
  next : h.context.nextId = h.entered.length + 1
  numbers : h.entered.map Prod.snd = List.range' 1 h.entered.length
  stack : (h.context.path.map (·.region.id)).IsChain fun inner outer => (outer, inner) ∈ h.entered
  bottom : (h.context.path.map (·.region.id)).getLast? = some 0
  entries : (h.context.tree.entries 0).map (fun x => (x.1, x.2.id)) = (0, 0) :: h.entered
  named : ∀ r ∈ h.context.tree.regions, r.id = 0 ∧ r.helperName = "" ∨
    ∃ (kind : BlockKind) (position : Nat), r.helperName = Context.helperName kind.kind r.id position
  tabled : ∀ r ∈ h.context.tree.regions, Tabled r.id r.usages
  sites : ∀ r ∈ h.context.tree.regions, ∀ property,
    h.sites r.id property = (r.usage? property).elim [] (Usage.sites r.id)
  /-- No read is in a scope that is not there yet. -/
  reads : ∀ read ∈ h.given, read.scope < h.context.nextId

variable {h : History}

theorem sound_initial : initial.Sound where
  next := rfl
  numbers := rfl
  stack := .singleton _
  bottom := rfl
  entries := rfl
  named r hr := .inl (by cases hr with | head => exact ⟨rfl, rfl⟩ | tail _ hr => cases hr)
  tabled r hr := by
    cases hr with
    | head => exact tabled_nil 0
    | tail _ hr => cases hr
  sites r hr property := by
    cases hr with
    | head => rfl
    | tail _ hr => cases hr
  reads _ hr := nomatch hr

theorem Sound.ids (sound : h.Sound) : h.context.tree.regions.map Region.id = List.range h.context.nextId := by
  have ids := congrArg (List.map Prod.snd) sound.entries
  rw [List.map_map, List.map_cons, sound.numbers] at ids
  rw [← Tree.map_entries 0, List.map_map, sound.next, List.range_eq_range', List.range'_succ]
  exact ids

theorem Sound.distinct (sound : h.Sound) : (h.context.tree.regions.map Region.id).Nodup :=
  sound.ids ▸ List.nodup_range

theorem Sound.lt (sound : h.Sound) {r : Region} (hr : r ∈ h.context.tree.regions) :
    r.id < h.context.nextId := by
  have member := List.mem_map_of_mem (f := Region.id) hr
  rwa [sound.ids, List.mem_range] at member

/-- A scope has its number alone, so a change to the one with that number leaves the others as they are. -/
theorem Sound.retable (sound : h.Sound) {r s : Region} (hr : r ∈ h.context.tree.regions)
    (hs : s ∈ h.context.tree.regions) (us : List Usage) :
    s = r ∧ Context.retable r.id us s = { r with usages := us } ∨
      s.id ≠ r.id ∧ Context.retable r.id us s = s := by
  by_cases same : s.id = r.id
  · obtain rfl := List.inj_on_of_nodup_map sound.distinct hs hr same
    exact .inl ⟨rfl, if_pos rfl⟩
  · exact .inr ⟨same, if_neg same⟩

theorem Sound.push (sound : h.Sound) (kind : BlockKind) : (h.step (.push kind)).Sound where
  next := by simp [step, Context.push, sound.next]
  numbers := by
    simp [step, Context.currentId, Context.push, sound.numbers, sound.next, List.range'_1_concat, Nat.add_comm]
  stack := by
    refine .cons_cons (by simp [step, Context.currentId]) ?_
    exact sound.stack.imp fun _ _ hm => List.mem_append_left _ hm
  bottom := by
    have old := sound.bottom
    simp only [step, Context.path, Context.push, List.map_cons] at old ⊢
    rw [List.getLast?_cons_cons]
    exact old
  entries := by
    simp only [step, Context.entries_push, List.map_append, sound.entries, List.map_cons, List.map_nil]
    rfl
  named r hr := by
    simp only [step, Context.regions_push, List.mem_append, List.mem_singleton] at hr
    rcases hr with hr | rfl
    · exact sound.named r hr
    · exact .inr ⟨kind, _, rfl⟩
  tabled r hr := by
    simp only [step, Context.regions_push, List.mem_append, List.mem_singleton] at hr
    rcases hr with hr | rfl
    · exact sound.tabled r hr
    · exact tabled_nil _
  sites r hr property := by
    simp only [step, Context.regions_push, List.mem_append, List.mem_singleton] at hr
    rcases hr with hr | rfl
    · exact sound.sites r hr property
    · refine List.filter_eq_nil_iff.mpr fun read member => ?_
      have earlier := sound.reads read member
      simp [Context.push, Nat.ne_of_lt earlier]
  reads read member := Nat.lt_succ_of_lt (sound.reads read member)

theorem Sound.pop (sound : h.Sound) : (h.step .pop).Sound := by
  obtain ⟨⟨current, _ | ⟨parent, outer⟩, nextId, nextKey⟩, entered, given⟩ := h
  · exact sound
  · have path := sound.stack
    have bottom := sound.bottom
    simp only [Context.path, List.map_cons] at path bottom
    exact { sound with
      stack := (List.isChain_cons_cons.mp path).2
      bottom := by rwa [List.getLast?_cons_cons] at bottom }

theorem Sound.reference (sound : h.Sound) (id : Nat) (property : String) :
    (h.step (.reference id property)).Sound := by
  simp only [step]
  cases recorded : h.context.record id property with
  | none => exact sound
  | some x =>
    obtain ⟨read, d⟩ := x
    obtain ⟨r, hr, rfl, rfl, rfl⟩ := Context.record_eq_some recorded
    generalize hf : Context.retable r.id (recordRead r.id property r.usages).2 = f
    have ids (s : Region) : (f s).id = s.id := hf ▸ Context.id_retable _ _ s
    have regions : (h.context.map f).tree.regions = h.context.tree.regions.map f := by
      rw [Context.tree_map, Tree.regions_map]
    have path : (h.context.map f).path.map (·.region.id) = h.context.path.map (·.region.id) := by
      simp [Context.path, Context.map, Context.mapOpen, ids]
    have changes : ∀ s ∈ h.context.tree.regions,
        s = r ∧ f s = { r with usages := (recordRead r.id property r.usages).2 } ∨ s.id ≠ r.id ∧ f s = s :=
      fun s hs => hf ▸ sound.retable hr hs _
    obtain ⟨readScope, readProperty⟩ := recordRead_read r.id property r.usages
    exact {
      next := sound.next
      numbers := sound.numbers
      stack := path ▸ sound.stack
      bottom := path ▸ sound.bottom
      entries := by
        rw [Context.tree_map, Context.entries_map ids, List.map_map, ← sound.entries]
        exact List.map_congr_left fun x _ => by simp [ids]
      named := by
        rw [regions, List.forall_mem_map]
        intro s hs
        rcases changes s hs with ⟨rfl, change⟩ | ⟨-, change⟩ <;> rw [change] <;> exact sound.named s hs
      tabled := by
        rw [regions, List.forall_mem_map]
        intro s hs
        rcases changes s hs with ⟨rfl, change⟩ | ⟨-, change⟩ <;> rw [change]
        · exact (records_recordRead s.id property s.usages).tabled (sound.tabled s hs)
        · exact sound.tabled s hs
      sites := by
        rw [regions, List.forall_mem_map]
        intro s hs other
        have old := sound.sites s hs other
        rw [History.sites, ids, List.filter_append, ← History.sites, old]
        rcases changes s hs with ⟨rfl, change⟩ | ⟨differs, change⟩ <;> rw [change]
        · refine Eq.trans ?_ (sites_recordRead s.id property s.usages other).symm
          by_cases same : other = property
          · simp [same, readScope, readProperty, Region.usage?]
          · simp [same, readProperty, Ne.symm same, Region.usage?]
        · simp [readScope, Ne.symm differs]
      reads := by
        intro x hx
        rcases List.mem_append.mp hx with hx | hx
        · exact sound.reads x hx
        · rw [List.mem_singleton.mp hx, readScope]
          exact sound.lt hr }

theorem sound_run (actions : List ContextAction) (sound : h.Sound) : (h.run actions).Sound := by
  induction actions generalizing h with
  | nil => exact sound
  | cons a rest ih =>
    cases a with
    | push kind => exact ih (sound.push kind)
    | pop => exact ih sound.pop
    | reference scope property => exact ih (sound.reference scope property)

theorem Sound.regions (sound : h.Sound) : h.context.regions = h.context.tree.regions := by
  refine List.mergeSort_of_pairwise (List.Pairwise.imp ?_ (List.pairwise_map.mp (sound.ids ▸ List.pairwise_lt_range)))
  intro a b before
  simpa using Nat.le_of_lt before

theorem Sound.nodup_helperNames (sound : h.Sound) : (h.context.tree.regions.map Region.helperName).Nodup := by
  have plain (kind : BlockKind) : ∀ x ∈ kind.kind.label.toList, x.isDigit = false := by
    cases kind <;> simp [BlockKind.kind, ScopeKind.label]
  have unnamed {kind : ScopeKind} {id position : Nat} (is : "" = Context.helperName kind id position) : False :=
    absurd (Context.endsInDigit_helperName kind id position) (is ▸ by decide)
  refine List.Nodup.map_on (fun r hr s hs same => ?_) (sound.distinct.of_map _)
  refine List.inj_on_of_nodup_map sound.distinct hr hs ?_
  rcases sound.named r hr with ⟨zero, empty⟩ | ⟨kind, position, name⟩ <;>
    rcases sound.named s hs with ⟨zero', empty'⟩ | ⟨kind', position', name'⟩
  · rw [zero, zero']
  · exact (unnamed (empty.symm.trans (same.trans name'))).elim
  · exact (unnamed (empty'.symm.trans (same.symm.trans name))).elim
  · exact (Context.helperName_injective (plain kind) (plain kind') (name.symm.trans (same.trans name'))).1

theorem Sound.nodup_localNames (sound : h.Sound) :
    (h.context.tree.regions.flatMap fun r => r.usages.map Usage.localName).Nodup := by
  have names {r : Region} (hr : r ∈ h.context.tree.regions) := (sound.tabled r hr).localNames
  refine List.nodup_flatMap.mpr ⟨fun r hr => ?_, ?_⟩
  · rw [names hr]
    exact List.nodup_range.map fun _ _ same => (localName_injective same).2
  · refine (List.pairwise_map.mp sound.distinct).imp_of_mem fun {r s} hr hs differ x hx hx' => ?_
    simp only [names hr, names hs] at hx hx'
    obtain ⟨i, -, rfl⟩ := List.mem_map.mp hx
    obtain ⟨j, -, same⟩ := List.mem_map.mp hx'
    exact differ (localName_injective same).1.symm

variable {scope : Nat} {property name : String}

theorem localName?_eq_some : h.localName? scope property = some name ↔
    ∃ r u, h.context.region? scope = some r ∧ r.usage? property = some u ∧ u.localName = name := by
  simp [localName?, Option.bind_eq_some_iff]

theorem Sound.localName?_step (sound : h.Sound) (named : h.localName? scope property = some name)
    (a : ContextAction) : (h.step a).localName? scope property = some name := by
  obtain ⟨r, u, found, usage, rfl⟩ := localName?_eq_some.mp named
  cases a with
  | push kind =>
    refine localName?_eq_some.mpr ⟨r, u, ?_, usage, rfl⟩
    rw [Context.region?, step, Context.regions_push, List.find?_append, ← Context.region?, found]
    rfl
  | pop =>
    obtain ⟨⟨current, _ | ⟨parent, outer⟩, nextId, nextKey⟩, entered, given⟩ := h <;> exact named
  | reference id other =>
    simp only [step]
    cases recorded : h.context.record id other with
    | none => exact named
    | some x =>
      obtain ⟨read, d⟩ := x
      obtain ⟨s, hs, rfl, rfl, rfl⟩ := Context.record_eq_some recorded
      have there : (h.context.map (Context.retable s.id (recordRead s.id other s.usages).2)).region? scope =
          some (Context.retable s.id (recordRead s.id other s.usages).2 r) := by
        rw [Context.region?, Context.tree_map, Tree.regions_map, List.find?_map]
        simp only [Function.comp_def, Context.id_retable]
        rw [← Context.region?, found, Option.map_some]
      rcases sound.retable hs (List.mem_of_find?_eq_some found) (recordRead s.id other s.usages).2 with
        ⟨rfl, change⟩ | ⟨-, change⟩
      · have now := find?_recordRead r.id other r.usages property
        by_cases same : property = other
        · subst same
          rw [if_pos rfl, show r.usages.find? _ = some u from usage] at now
          exact localName?_eq_some.mpr ⟨_, u.again, there.trans (congrArg some change), now, rfl⟩
        · rw [if_neg same] at now
          exact localName?_eq_some.mpr ⟨_, u, there.trans (congrArg some change), now.trans usage, rfl⟩
      · exact localName?_eq_some.mpr ⟨r, u, there.trans (congrArg some change), usage, rfl⟩

theorem Sound.localName?_run (sound : h.Sound) (named : h.localName? scope property = some name)
    (actions : List ContextAction) : (h.run actions).localName? scope property = some name := by
  induction actions generalizing h with
  | nil => exact named
  | cons a rest ih => exact ih (sound_run [a] sound) (sound.localName?_step named a)

/-- What holds after any actions on a context, and after any further ones. -/
structure Consistent (h : History) : Prop where
  /-- Scopes are numbered in the order in which they are entered. -/
  numbers : 0 :: h.entered.map Prod.snd = List.range (h.entered.length + 1)
  /-- Each open scope was entered in the next one, and the last is the root. -/
  stack : (h.context.path.map (·.region.id)).IsChain (fun inner outer => (outer, inner) ∈ h.entered) ∧
    (h.context.path.map (·.region.id)).getLast? = some 0
  /-- The tree has each scope below the one in which it was entered, in the order of entering. -/
  tree : h.context.tree.region.id = 0 ∧
    (Tree.entriesAll 0 h.context.tree.children).map (fun x => (x.1, x.2.id)) = h.entered
  /-- All scopes are given in the order of the tree, which is that of entering. -/
  scopes : h.context.regions = h.context.tree.regions ∧
    h.context.regions.map Region.id = 0 :: h.entered.map Prod.snd
  helperNames : (h.context.regions.map Region.helperName).Nodup
  localNames : (h.context.regions.flatMap fun r => r.usages.map Usage.localName).Nodup
  /-- A local name stays what it is. -/
  kept : ∀ scope property name actions, h.localName? scope property = some name →
    (h.run actions).localName? scope property = some name
  /-- The reads of a usage are the placeholders that were given out for it. -/
  sites : ∀ r ∈ h.context.regions, ∀ u ∈ r.usages,
    h.sites r.id u.property = u.sites r.id ∧ (h.sites r.id u.property).length = u.occurrences
  /-- A read can be recorded in every scope, and is given out. -/
  recorded : ∀ r ∈ h.context.regions, ∀ property, ∃ read,
    (h.step (.reference r.id property)).given = h.given ++ [read] ∧
      read.scope = r.id ∧ read.property = property
  /-- Only the root cannot be left. Trying it fails and changes nothing. -/
  root : h.context.outer = [] →
    (∃ e : CompileError, h.context.pop = .error e ∧ e.cause.kind = .generation) ∧ h.step .pop = h
  inner : h.context.outer ≠ [] → h.context.pop.isOk

theorem Sound.consistent (sound : h.Sound) : h.Consistent where
  numbers := by rw [sound.numbers, List.range_eq_range', List.range'_succ]
  stack := ⟨sound.stack, sound.bottom⟩
  tree := by
    have entries := sound.entries
    generalize h.context.tree = t at entries
    obtain ⟨region, children⟩ := t
    simp only [Tree.entries, List.map_cons, List.cons.injEq, Prod.mk.injEq, true_and] at entries
    obtain ⟨zero, below⟩ := entries
    exact ⟨zero, zero ▸ below⟩
  scopes := by
    refine ⟨sound.regions, ?_⟩
    rw [sound.regions, sound.ids, sound.numbers, sound.next, List.range_eq_range', List.range'_succ]
  helperNames := sound.regions ▸ sound.nodup_helperNames
  localNames := sound.regions ▸ sound.nodup_localNames
  kept scope property name actions named := sound.localName?_run named actions
  sites r hr u hu := by
    rw [sound.regions] at hr
    have usage : r.usage? u.property = some u := find?_of_nodup (sound.tabled r hr).distinct hu
    have sites := sound.sites r hr u.property
    rw [usage] at sites
    exact ⟨sites, sites ▸ u.length_sites r.id⟩
  recorded r hr property := by
    rw [sound.regions] at hr
    have found : h.context.region? r.id = some r := find?_of_nodup sound.distinct hr
    refine ⟨(recordRead r.id property r.usages).1, ?_, recordRead_read r.id property r.usages⟩
    simp [step, Context.record, found]
  root outermost := by
    have pop : h.context.pop = .error (.unplaced .rootScopePopped) := by rw [Context.pop, outermost]
    exact ⟨⟨_, pop, rfl⟩, by rw [step, pop]⟩
  inner outermost := by
    obtain ⟨parent, outer, is⟩ := List.exists_cons_of_ne_nil outermost
    rw [Context.pop, is]
    rfl

/-- Contexts are consistent after every run. -/
theorem context_consistent (actions : List ContextAction) : (initial.run actions).Consistent :=
  (sound_run actions sound_initial).consistent

end History

end TemplateCompiler.Scope
