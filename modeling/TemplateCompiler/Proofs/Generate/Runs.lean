import TemplateCompiler.Generate.Lowering

/-!
Successful runs of a walk. `Runs m s a t` says that the walk `m`, started in the state `s`, gives `a` and
stops in the state `t`. Each basic step has one lemma that tells all its successful runs, so that a run
of a longer walk is taken apart step by step.
-/

namespace TemplateCompiler.Generate

open TemplateCompiler.Code TemplateCompiler.Scope TemplateCompiler.Template

variable {α β : Type} {s t : WalkState}

def Runs (m : WalkM α) (s : WalkState) (a : α) (t : WalkState) : Prop :=
  m.run.run s = (.ok a, t)

theorem runs_iff_of_ok {m : WalkM α} {a b : α} {u : WalkState} (h : m.run.run s = (.ok a, u)) :
    Runs m s b t ↔ b = a ∧ t = u := by
  unfold Runs
  rw [h]
  constructor
  · intro h
    cases h
    exact ⟨rfl, rfl⟩
  · rintro ⟨rfl, rfl⟩
    rfl

theorem not_runs_of_error {m : WalkM α} {a : α} {e : Failure} {u : WalkState}
    (h : m.run.run s = (.error e, u)) : ¬ Runs m s a t := by
  unfold Runs
  rw [h]
  intro h
  cases h

theorem runs_pure {a b : α} : Runs (pure a : WalkM α) s b t ↔ b = a ∧ t = s := runs_iff_of_ok rfl

theorem not_runs_throw {e : Failure} {a : α} : ¬ Runs (throw e : WalkM α) s a t :=
  not_runs_of_error rfl

theorem runs_bind {m : WalkM α} {f : α → WalkM β} {b : β} :
    Runs (m >>= f) s b t ↔ ∃ a u, Runs m s a u ∧ Runs (f a) u b t := by
  have step : (m >>= f).run.run s =
      match m.run.run s with
      | (.ok a, u) => (f a).run.run u
      | (.error e, u) => (.error e, u) := by
    rw [ExceptT.run_bind, StateT.run_bind]
    rcases m.run.run s with ⟨_ | a, u⟩ <;> rfl
  unfold Runs
  rw [step]
  rcases hm : m.run.run s with ⟨e | a, u⟩
  · constructor
    · intro h
      cases h
    · rintro ⟨a, u', h, -⟩
      cases h
  · constructor
    · intro h
      exact ⟨a, u, rfl, h⟩
    · rintro ⟨a', u', h, h'⟩
      cases h
      exact h'

theorem runs_map {m : WalkM α} {f : α → β} {b : β} :
    Runs (f <$> m) s b t ↔ ∃ a, Runs m s a t ∧ b = f a := by
  rw [map_eq_pure_bind, runs_bind]
  constructor
  · rintro ⟨a, u, h, h'⟩
    obtain ⟨rfl, rfl⟩ := runs_pure.mp h'
    exact ⟨a, h, rfl⟩
  · rintro ⟨a, h, rfl⟩
    exact ⟨a, t, h, runs_pure.mpr ⟨rfl, rfl⟩⟩

theorem runs_get {u : WalkState} : Runs (get : WalkM WalkState) s u t ↔ u = s ∧ t = s :=
  runs_iff_of_ok rfl

theorem runs_set {v : WalkState} {u : PUnit} : Runs (set v : WalkM PUnit) s u t ↔ t = v := by
  have run : (set v : WalkM PUnit).run.run s = (.ok ⟨⟩, v) := rfl
  rw [runs_iff_of_ok run]
  simp

namespace Walk

theorem runs_emit {step : EmitM α} {a : α} :
    Runs (emit step) s a t ↔
      a = (step s.emitter).1 ∧ t = { s with emitter := (step s.emitter).2 } := runs_iff_of_ok rfl

/-- An expression bound in the current scope, with the usages after it. -/
def bound (s : WalkState) (locals : List String) (e : Expr) : Expr × List Usage :=
  Scope.bind s.context.currentId locals e.asWritten s.context.current.region.usages

theorem runs_bindExpr {locals : List String} {e a : Expr} :
    Runs (bindExpr locals e) s a t ↔ a = (bound s locals e).1 ∧
      t = { s with context := s.context.setUsages (bound s locals e).2 } := runs_iff_of_ok rfl

def entered (s : WalkState) (kind : ScopeKind) : WalkState :=
  { s with
    context := s.context.push kind
    log := s.log ++ [.scopeEntered s.context.nextId kind.label] }

theorem runs_push {kind : ScopeKind} {u : Unit} : Runs (push kind) s u t ↔ t = entered s kind := by
  have run : (push kind).run.run s = (.ok (), entered s kind) := rfl
  rw [runs_iff_of_ok run]
  simp

theorem runs_pop {r : Region} :
    Runs pop s r t ↔ ∃ parent outer, s.context.outer = parent :: outer ∧
      r = s.context.current.region ∧
      t = { s with context := { s.context with
        current := { parent with children := parent.children ++ [s.context.current.close] }
        outer := outer } } := by
  rw [pop, runs_bind]
  simp only [runs_get]
  rcases ho : s.context.outer with _ | ⟨parent, outer⟩
  · have hp : s.context.pop = .error (.unplaced .rootScopePopped) := by simp [Context.pop, ho]
    constructor
    · rintro ⟨a, u, ⟨rfl, rfl⟩, h⟩
      rw [hp] at h
      exact absurd h not_runs_throw
    · rintro ⟨parent, outer, h, -⟩
      cases h
  · have hp : s.context.pop = .ok (s.context.current.region,
        { s.context with
          current := { parent with children := parent.children ++ [s.context.current.close] }
          outer := outer }) := by simp [Context.pop, ho]
    constructor
    · rintro ⟨a, u, ⟨rfl, rfl⟩, h⟩
      rw [hp] at h
      obtain ⟨_, v, hset, hpure⟩ := runs_bind.mp h
      obtain ⟨rfl, rfl⟩ := runs_pure.mp hpure
      exact ⟨parent, outer, rfl, rfl, runs_set.mp hset⟩
    · rintro ⟨parent', outer', h, rfl, rfl⟩
      cases h
      refine ⟨s, s, ⟨rfl, rfl⟩, ?_⟩
      rw [hp]
      exact runs_bind.mpr ⟨⟨⟩, _, runs_set.mpr rfl, runs_pure.mpr ⟨rfl, rfl⟩⟩

theorem runs_setHelper {region : Region} {helper : Helper} {e : Expr} :
    Runs (setHelper region helper) s e t ↔ region.id ≠ 0 ∧ e = .own region.helperName ∧
      t = { s with context := (s.context.update region.id fun r =>
        { r with helper := some helper }) } := by
  rw [setHelper, runs_bind]
  simp only [runs_get]
  by_cases h0 : region.id = 0
  · have hs : s.context.setHelper region.id helper =
        .error (.unplaced .rootScopeHelper) := by simp [Context.setHelper, h0]
    constructor
    · rintro ⟨a, u, ⟨rfl, rfl⟩, h⟩
      rw [hs] at h
      exact absurd h not_runs_throw
    · rintro ⟨h, -⟩
      exact absurd h0 h
  · have hs : s.context.setHelper region.id helper = .ok (s.context.update region.id
        fun r => { r with helper := some helper }) := by simp [Context.setHelper, h0]
    constructor
    · rintro ⟨a, u, ⟨rfl, rfl⟩, h⟩
      rw [hs] at h
      obtain ⟨_, v, hset, hpure⟩ := runs_bind.mp h
      obtain ⟨rfl, rfl⟩ := runs_pure.mp hpure
      exact ⟨h0, rfl, runs_set.mp hset⟩
    · rintro ⟨-, rfl, rfl⟩
      refine ⟨s, s, ⟨rfl, rfl⟩, ?_⟩
      rw [hs]
      exact runs_bind.mpr ⟨⟨⟩, _, runs_set.mpr rfl, runs_pure.mpr ⟨rfl, rfl⟩⟩

theorem runs_takeKey {k : Nat} :
    Runs takeKey s k t ↔ k = s.context.nextKey ∧
      t = { s with context := { s.context with nextKey := s.context.nextKey + 1 } } :=
  runs_iff_of_ok rfl

theorem runs_inIteration {b : Bool} :
    Runs inIteration s b t ↔ b = s.context.inIteration ∧ t = s := runs_iff_of_ok rfl

end Walk

end TemplateCompiler.Generate
