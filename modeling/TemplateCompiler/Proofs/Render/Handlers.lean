import TemplateCompiler.Proofs.Render.Packing
import TemplateCompiler.Proofs.Render.Reading
import TemplateCompiler.Proofs.Render.Sites

/-!
Handlers over several renders. The code of a site outside loops runs at most once in a render: every helper
around it is called once, and expressions of the template get hold of none of them. So a site that keeps its
handler finds what the renders before left in the context, or it binds the handler and enters it.
-/

namespace TemplateCompiler.Generate

open TemplateCompiler.Code TemplateCompiler.Scope TemplateCompiler.Template

def keptBelow (id : String) (cs : List Tree) : Nat := (treeDemands cs).count (.handler id (.str id))

/-- How many handlers are kept under a key by the helper with a name and the scopes below it. -/
def Draft.keptBy (d : Draft) (id name : String) : Nat :=
  match d.scopes.find? fun s => s.2.region.helper.isSome && s.2.region.helperName == name with
  | some s => keptBelow id [.node s.2.region s.2.children]
  | none => 0

/-- What code spends on the handlers that are kept under a key: once for each, and for each call what the
helper spends. -/
def Draft.spend (d : Draft) (id : String) : Demand → Nat
  | .handler name key => if Demand.handler name key = .handler id (.str id) then 1 else 0
  | .call name => d.keptBy id name
  | .name _ | .slot .. | .component .. => 0

section

variable {id : String}

theorem keptBelow_node (r : Region) (cs : List Tree) : keptBelow id [.node r cs] =
    (regionDemands r).count (.handler id (.str id)) + keptBelow id cs := by
  rw [keptBelow, treeDemands_node, List.count_append]
  rfl

theorem keptBelow_eq_sum (cs : List Tree) :
    keptBelow id cs = (cs.map fun c => keptBelow id [c]).sum := by
  induction cs with
  | nil => rfl
  | cons c cs ih =>
    rw [List.map_cons, List.sum_cons, ← ih, keptBelow, ← List.singleton_append, treeDemands_append,
      List.count_append]
    rfl

/-- Scopes that keep a handler, or have one below them that does, are conditions outside loops. -/
theorem outdoors_spotsAll (id : String) {ts : List Tree} {above : List Spot} {inherited : Available}
    (h : ∀ t ∈ ts, KeepsOutside t) : ∀ x ∈ Tree.spotsAll above inherited ts,
      keptBelow id [.node x.2.region x.2.children] = 0 ∨
        namesAlong x.1 = namesAlong above ∧ KeepsOutside (.node x.2.region x.2.children) := by
  refine Tree.forall_spotsAll (P := fun around _ t =>
    keptBelow id [t] = 0 ∨ namesAlong around = namesAlong above ∧ KeepsOutside t) ?_
    fun t ht => .inr ⟨rfl, h t ht⟩
  intro around inherited region children here c hc
  have spared (none : keptBelow id [.node region children] = 0) : keptBelow id [c] = 0 := by
    rw [keptBelow_node, keptBelow_eq_sum] at none
    exact List.sum_eq_zero_iff.mp (Nat.eq_zero_of_add_eq_zero_left none) _ (List.mem_map_of_mem hc)
  rcases here with none | ⟨names, here⟩
  · exact .inl (spared none)
  · cases here with
    | loop none => exact .inl (spared (List.count_eq_zero.mpr (none id _)))
    | condition test below =>
      rw [namesAlong_cons, test, Option.elim_some, loopNames_testHelper, List.append_nil]
      exact .inr ⟨names, below c hc⟩

variable {U : Uses} {d : Draft} (made : d.Made U)
include made

theorem mem_regions_of_helper {s : List Spot × Spot} (hs : s ∈ d.scopes) (has : s.2.region.helper.isSome) :
    s.2.region ∈ Tree.regionsAll d.tree.children := by
  have listed : s.2.region ∈ d.tree.regions := by
    rw [← Tree.map_region_spots [] [] d.tree]
    exact List.mem_map_of_mem hs
  rw [Tree.regions_eq] at listed
  refine (List.mem_cons.mp listed).resolve_left fun is => ?_
  rw [is, made.helpers.1] at has
  cases has

theorem keptBy_scope {p q : Spot} {above : List Spot} (here : (q :: above, p) ∈ d.scopes) :
    d.keptBy id p.region.helperName = keptBelow id [.node p.region p.children] := by
  obtain ⟨loops, nested⟩ := made.nestedAt here
  have has : p.region.helper.isSome := Option.isSome_iff_ne_none.mpr nested.helper_ne_none
  unfold Draft.keptBy
  split
  · next s found =>
    have hs := List.mem_of_find?_eq_some found
    have named := List.find?_some found
    simp only [Bool.and_eq_true, beq_iff_eq] at named
    have names := (List.nodup_cons.mp made.nodup_callNames).2
    have regions := List.inj_on_of_nodup_map names (mem_regions_of_helper made hs named.1)
      (mem_regions_of_helper made here has) named.2
    rw [made.scope_unique hs here (congrArg Region.id regions)]
  · next none => simpa [has] using List.find?_eq_none.mp none _ here

/-- Nothing is kept inside loops. -/
theorem keptBelow_eq_zero (outside : ∀ c ∈ d.tree.children, KeepsOutside c) {p q : Spot} {above : List Spot}
    (here : (q :: above, p) ∈ d.scopes)
    (loop : namesAlong (q :: above) ≠ [] ∨ ∃ l body, p.region.helper = some (loopHelper body l)) :
    keptBelow id [.node p.region p.children] = 0 := by
  have root := made.helpers.1
  rw [Draft.scopes] at here
  generalize d.tree = t at outside here root
  obtain ⟨region, children⟩ := t
  rw [Tree.spots] at here
  have listed := (List.mem_cons.mp here).resolve_left (by simp)
  rcases outdoors_spotsAll id outside _ listed with none | ⟨names, kept⟩
  · exact none
  · rcases loop with inside | ⟨l, body, helper⟩
    · have top : region.helper = none := root
      exact absurd (names.trans (by simp [namesAlong, top])) inside
    · cases kept with
      | loop none => exact List.count_eq_zero.mpr (none id _)
      | condition test below =>
        rw [helper] at test
        exact absurd (Option.some.inj test).symm (Render.Regime.testHelper_ne_loopHelper _ _ _ _ _)

end

end TemplateCompiler.Generate

namespace TemplateCompiler.Render

open TemplateCompiler.Code TemplateCompiler.Generate TemplateCompiler.Scope TemplateCompiler.Template

section Price

variable {id : String} {U : Uses} {d : Generate.Draft} (made : d.Made U)
include made

variable {config : Config} {bs : List Block} (shaped : d.Shaped fun L => BlocksShape L config bs)
include shaped

end Price

/-- A handler is bound whenever its evaluation ends well: its value is what the last call gave. -/
def Visit.Binds (engine : Engine) (u : Visit) : Prop :=
  ∀ v, u.result = .ok v → ∃ before args, u.calls = before ++ [.primitive .bind args] ∧
    engine.make .bind args = .ok v

def visitsOf (id : String) (us : List Visit) : List Visit := us.filter fun u => keptKey? u.code = some id

/-- Evaluations of a kept handler, one after the other, with what the context has for it in the end. They
fail without a call until one calls to bind the handler; all later ones give what that call gave. -/
inductive Once (engine : Engine) : List Visit → Option Value → Prop
  | never {us : List Visit} (fails : ∀ u ∈ us, u.calls = [] ∧ ∃ fault, u.result = .error fault) :
      Once engine us none
  | bound {before after : List Visit} {u : Visit} {a v : Value}
      (fails : ∀ u ∈ before, u.calls = [] ∧ ∃ fault, u.result = .error fault)
      (calls : u.calls = [.primitive .bind [a]]) (made : engine.make .bind [a] = .ok v)
      (result : u.result = .ok v) (again : ∀ u ∈ after, u.calls = [] ∧ u.result = .ok v.keep) :
      Once engine (before ++ u :: after) (some v)

/-- What the evaluation of a kept handler does, given what the context had for it before the render. -/
inductive KeptRun (engine : Engine) (memo : Option Value) (id : String) (x : Expr) (w : World) :
    Except Fault Value × World → Prop
  | again {v : Value} (is : memo = some v) : KeptRun engine memo id x w
      (.ok v.keep, { w with visits := w.visits ++ [⟨keptHandler id x, [], .ok v.keep⟩] })
  | fails {fault : Fault} {reads : List String} (is : memo = none) : KeptRun engine memo id x w
      (.error fault, { w with
        reads := reads
        visits := w.visits ++ [⟨boundHandler x, [], .error fault⟩, ⟨keptHandler id x, [], .error fault⟩] })
  | bound {a v : Value} {reads : List String} (is : memo = none) (plain : a.Plain)
      (made : engine.make .bind [a] = .ok v) : KeptRun engine memo id x w
      (.ok ((w.context.get? id).getD v), { w with
        reads := reads
        calls := w.calls ++ [.primitive .bind [a]]
        visits := w.visits ++ [⟨boundHandler x, [.primitive .bind [a]], .ok v⟩,
          ⟨keptHandler id x, [.primitive .bind [a]], .ok ((w.context.get? id).getD v)⟩]
        context := if (w.context.get? id).isSome then w.context else w.context.insert id v })

/-- An engine whose bound handlers count as true. -/
def Engine.BindsTruthy (engine : Engine) : Prop := ∀ a, ∃ v, engine.make .bind [a] = .ok v ∧ v.truthy

section Runs

variable {σ : Stage} {A : Value → Prop} {all : List Node} {engine : Engine} {depth : Nat} {path : List Spot}
  {frames : List Frame}

end Runs

section Steps

variable {engine : Engine} {id name : String} {us : List Visit} {u : Visit} {a v : Value} {x : Expr}
  {calls : List Call} {result : Except Fault Value}

theorem Once.append_fails (h : Once engine us none) (calls : u.calls = [])
    (result : ∃ fault, u.result = .error fault) : Once engine (us ++ [u]) none := by
  cases h with
  | never fails =>
    refine .never fun x hx => ?_
    rcases List.mem_append.mp hx with hx | hx
    · exact fails x hx
    · exact List.mem_singleton.mp hx ▸ ⟨calls, result⟩

theorem Once.append_bound (h : Once engine us none) (calls : u.calls = [.primitive .bind [a]])
    (made : engine.make .bind [a] = .ok v) (result : u.result = .ok v) : Once engine (us ++ [u]) (some v) := by
  cases h with
  | never fails => exact .bound fails calls made result nofun

theorem Once.append_again (h : Once engine us (some v)) (calls : u.calls = [])
    (result : u.result = .ok v.keep) : Once engine (us ++ [u]) (some v) := by
  cases h with
  | @bound before after first a v fails called made given again =>
    rw [List.append_assoc, List.cons_append]
    refine .bound fails called made given fun x hx => ?_
    rcases List.mem_append.mp hx with hx | hx
    · exact again x hx
    · exact List.mem_singleton.mp hx ▸ ⟨calls, result⟩

theorem visitsOf_append (us vs : List Visit) : visitsOf id (us ++ vs) = visitsOf id us ++ visitsOf id vs :=
  List.filter_append ..

theorem visitsOf_bound (vs : List Visit) :
    visitsOf id (⟨boundHandler x, calls, result⟩ :: vs) = visitsOf id vs := by
  rw [visitsOf, List.filter_cons_of_neg (by simp)]
  rfl

theorem visitsOf_kept : visitsOf id [⟨keptHandler name x, calls, result⟩] =
    if name = id then [⟨keptHandler name x, calls, result⟩] else [] := by
  rw [visitsOf, List.filter_singleton, keptKey?_keptHandler]
  by_cases h : name = id <;> simp [h]

/-- What handlers leave in the world, with one key in view: in earlier renders its handler was evaluated as
told, and before this render the context had `memo` for it. -/
def handling (engine : Engine) (id : String) (past : List Visit) (memo : Option Value) : Invariant where
  holds n w := (∀ key v, w.context.get? key = some v → v.Plain ∧ v.truthy) ∧
    (∀ u ∈ w.visits, keptKey? u.code = none → u.Binds engine) ∧
    (n = 0 → w.context.get? id = memo) ∧
    (n ≤ 1 → Once engine (past ++ visitsOf id w.visits) (w.context.get? id))
  more h := ⟨h.1, h.2.1, nofun, fun le => h.2.2.2 (by omega)⟩
  registry h := h

variable {past : List Visit} {memo before : Option Value} {n : Nat} {w : World}

theorem handling_bound (binds : Visit.Binds engine ⟨boundHandler x, calls, result⟩)
    (h : (handling engine id past memo).holds n w) : (handling engine id past memo).holds n
      { w with visits := w.visits ++ [⟨boundHandler x, calls, result⟩] } := by
  refine ⟨h.1, fun y hy free => ?_, h.2.2.1, fun le => ?_⟩
  · rcases List.mem_append.mp hy with hy | hy
    · exact h.2.1 y hy free
    · exact List.mem_singleton.mp hy ▸ binds
  · rw [visitsOf_append, visitsOf_bound]
    simpa [visitsOf] using h.2.2.2 le

/-- What evaluating any kept handler keeps. -/
theorem KeptRun.keeps (honest : engine.Honest) (binds : engine.BindsTruthy)
    {r : Except Fault Value × World} (run : KeptRun engine before name x w r)
    (plain : ∀ v, before = some v → v.Plain)
    (context : ∀ key v, w.context.get? key = some v → v.Plain ∧ v.truthy) :
    (∀ v, r.1 = .ok v → v.Plain) ∧ (∀ key v, r.2.context.get? key = some v → v.Plain ∧ v.truthy) ∧
      (∀ key ≠ name, r.2.context.get? key = w.context.get? key) ∧
      ∃ vs, r.2.visits = w.visits ++ vs ∧ (∀ u ∈ vs, keptKey? u.code = none → u.Binds engine) ∧
        ∀ id ≠ name, visitsOf id vs = [] := by
  have other (id : String) (ne : id ≠ name) (calls : List Call) (result : Except Fault Value) :
      visitsOf id [⟨keptHandler name x, calls, result⟩] = [] := by
    rw [visitsOf_kept, if_neg (Ne.symm ne)]
  cases run with
  | @again v is =>
    refine ⟨fun u hu => ?_, context, fun _ _ => rfl, _, rfl, by simp, fun id ne => other id ne _ _⟩
    cases hu
    exact Value.plain_iff.mpr (Value.holds_keep.mpr (Value.plain_iff.mp (plain v is)))
  | fails is =>
    refine ⟨nofun, context, fun _ _ => rfl, _, rfl, ?_, fun id ne => ?_⟩
    · simp [Visit.Binds]
    · rw [visitsOf_bound, other id ne]
  | @bound a v reads is held made =>
    obtain ⟨v', made', truthy⟩ := binds a
    obtain rfl := Except.ok.inj (made'.symm.trans made)
    have given : v'.Plain := Value.plain_iff.mpr (honest.make _ .bind [a] v'
      (by simpa using Value.plain_iff.mp held) made)
    refine ⟨fun u hu => ?_, fun key u found => ?_, fun key ne => ?_, _, rfl, ?_, fun id ne => ?_⟩
    · cases hu
      cases found : w.context.get? name with
      | none => exact given
      | some old => exact (context name old found).1
    · simp only at found
      split at found
      · exact context key u found
      · rw [Table.get?_insert] at found
        split at found
        · cases found
          exact ⟨given, truthy⟩
        · exact context key u found
    · simp only
      split
      · rfl
      · rw [Table.get?_insert, if_neg (by simpa using ne)]
    · simp only [List.mem_cons, List.not_mem_nil, or_false]
      rintro u (rfl | rfl) free
      · intro v is
        cases is
        exact ⟨[], [a], rfl, made⟩
      · simp at free
    · rw [visitsOf_bound, other id ne]

/-- What evaluating the kept handler in view does. -/
theorem KeptRun.once (past : List Visit) {r : Except Fault Value × World} (run : KeptRun engine before id x w r)
    (h : Once engine (past ++ visitsOf id w.visits) before) (still : w.context.get? id = before) :
    Once engine (past ++ visitsOf id r.2.visits) (r.2.context.get? id) := by
  have kept (calls : List Call) (result : Except Fault Value) :
      visitsOf id [⟨keptHandler id x, calls, result⟩] = [⟨keptHandler id x, calls, result⟩] := by
    rw [visitsOf_kept, if_pos rfl]
  cases run with
  | @again v is =>
    rw [is] at h still
    simp only [visitsOf_append, kept, still, ← List.append_assoc]
    exact h.append_again rfl rfl
  | fails is =>
    rw [is] at h still
    simp only [visitsOf_append, visitsOf_bound, kept, still, ← List.append_assoc]
    exact h.append_fails rfl ⟨_, rfl⟩
  | @bound a v reads is held made =>
    rw [is] at h still
    simp only [visitsOf_append, visitsOf_bound, kept, still, ← List.append_assoc, Option.isSome_none,
      Bool.false_eq_true, if_false, Table.get?_insert, beq_self_eq_true, if_true, Option.getD_none]
    exact h.append_bound rfl made rfl

end Steps

namespace Stage

variable (σ : Stage) (engine : Engine) (id : String) (past : List Visit)

/-- The functions that keep no handler under a key. -/
def spares (p : Spot) : Prop := σ.draft.keptBy id p.region.helperName = 0

/-- All calls are followed, with the handler that is kept under a key in view. -/
def keeping : Regime σ where
  I := handling engine id past (σ.kept.get? id)
  Free := σ.spares id
  spend := σ.draft.spend id
  may _ := True
  packs _ _ _ := True
  Skips _ _ := False

variable {σ engine id past} {config : Config} {root : Node} {path : List Spot} {frames : List Frame} {x : Expr}
  (ready : σ.Ready root.content) (shaped : σ.draft.Shaped fun L => NodesShape L config root.content)
  (outside : ∀ c ∈ σ.draft.tree.children, KeepsOutside c) (honest : engine.Honest)
include ready outside

theorem spares_inside {s : List Spot × Spot} (hs : s ∈ σ.draft.scopes)
    (loop : namesAlong s.1 ≠ [] ∨ ∃ l body, s.2.region.helper = some (loopHelper body l)) :
    σ.spares id s.2 := by
  obtain ⟨_ | ⟨q, above⟩, p⟩ := s
  · rcases loop with inside | ⟨l, body, helper⟩
    · exact absurd rfl inside
    · obtain ⟨loops, nested⟩ := ready.made.nestedAt hs
      cases nested with
      | root number kind none coded => cases none.symm.trans helper
  · rw [spares, keptBy_scope ready.made hs]
    exact keptBelow_eq_zero ready.made outside hs loop

include shaped honest

/-- Evaluating expressions of the template takes back no calls. -/
theorem calls_grow (scene : Scene σ (Agent σ (σ.spares id)) path frames) (depth : Nat)
    (source : (σ.keeping engine id past).Source path x) {w : World}
    (plain : ∀ key v, w.context.get? key = some v → v.Plain) : w.calls.length ≤
      ((evalItems (callWithin engine depth) frames [x.substitute σ.draft.decision]).run.run w).2.calls.length := by
  let R := σ.watching (notesAs (fun cs _ => w.calls.length ≤ cs.length) (Agent σ (σ.spares id))) (σ.spares id)
    fun _ _ _ => True
  obtain ⟨assembled, -⟩ := Regime.assembled (R := R) ready shaped fun _ => trivial
  have sound : R.Sound engine root.content :=
    sound_watching ready honest (lenient_notesAs _ fun vs h => by simp; omega)
      (fun s hs inside => spares_inside ready outside hs (.inl inside))
      (fun _ hw => ⟨by simpa using Nat.le_succ_of_le hw.1, hw.2⟩) (fun hw => hw)
      fun here selects => ⟨assembled here selects, fun _ _ _ _ _ _ _ _ _ _ => trivial⟩
  have met : ∀ y ∈ [x], R.Source path y := fun y hy => List.mem_singleton.mp hy ▸ source
  exact (Regime.keeps_sources sound (sound.follows depth) scene [x] met 0 w
    ⟨Nat.le_refl _, fun key v found => (plain key v found).holds _⟩).1.1

theorem keeps_bound {depth : Nat} (scene : Scene σ (Agent σ (σ.spares id)) path frames)
    (known : .bind ∈ σ.draft.emitter.primitives) (source : (σ.keeping engine id past).Source path x)
    (evaluated : Keeps (σ.keeping engine id past).I 0
      (evalItems (callWithin engine depth) frames [x.substitute σ.draft.decision])
      fun vs => ∀ v ∈ vs, v.Holds (Agent σ (σ.spares id))) :
    Keeps (σ.keeping engine id past).I 0
      (eval (callWithin engine depth) frames (boundHandler (x.substitute σ.draft.decision)))
      (Value.Holds (Agent σ (σ.spares id))) := by
  intro n w hw
  have grows := calls_grow ready shaped outside honest scene depth source fun key v found => (hw.1 key v found).1
  obtain ⟨kept, good⟩ := evaluated n w hw
  rw [eval_boundHandler ready scene known, run_visit (isSite_boundHandler _), run_bind]
  rcases run : (evalItems (callWithin engine depth) frames [x.substitute σ.draft.decision]).run.run w with
    ⟨fault | vs, w'⟩
  · rw [run] at kept
    exact ⟨handling_bound nofun kept, nofun⟩
  · rw [run] at kept good grows
    cases depth with
    | zero => exact ⟨handling_bound nofun kept, nofun⟩
    | succ depth =>
      have called : (callWithin engine (depth + 1) (.primitive .bind) vs []).run.run w' =
          (engine.make .bind vs, { w' with calls := w'.calls ++ [.primitive .bind vs] }) := by
        have value : primitiveValue engine (callWithin engine depth) .bind vs = liftM (engine.make .bind vs) := by
          cases vs <;> rfl
        rw [callWithin, callOnce, value]
        cases engine.make .bind vs <;> rfl
      simp only [called]
      refine ⟨handling_bound (fun v is => ⟨w'.calls.drop w.calls.length, vs, ?_, is⟩) kept, fun v made => ?_⟩
      · exact List.drop_append_of_le_length grows
      · exact honest.make _ .bind vs v (good vs rfl) made

end Stage

section Renders

variable {config : Config} {root : Node} {d : Generate.Draft} {f : RenderFn} {F : Frame} {es : List Event}
  {rs : List Request} {bs : List Block} {engine : Engine} {context : Table Value} {k : Nat} {past : List Visit}
  (loaded : Loaded d f F) (made : d.Made (admitted root.content))
  (shaped : d.Shaped fun L => NodesShape L config root.content)
  (lowered : d.Shaped fun L => BlocksShape L config bs) (issued : d.Issued es rs) (honest : engine.Honest)
  (binds : engine.BindsTruthy)
include loaded made shaped lowered issued honest binds

end Renders

end TemplateCompiler.Render
