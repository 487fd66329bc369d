import TemplateCompiler.Proofs.Render.Scenes

/-!
What all calls of a render keep. A function that is called notes the call, reads its properties and then
evaluates the code that its arguments select; that code calls primitives and further functions. A regime
says which invariant is to be kept, what each part of the code may spend, and which calls need not be
followed because they are accounted for elsewhere. If it is sound for each kind of step, then every call at
every depth keeps the invariant, and its value is one that the code can yield.
-/

namespace TemplateCompiler.Render

open TemplateCompiler.Code TemplateCompiler.Generate TemplateCompiler.Scope TemplateCompiler.Template

/-- Whether the value of a test lets its condition hold. -/
def admits : Modifier → Value → Bool
  | .holds, v => v.truthy
  | .fails, v => !v.truthy
  | .isTrue, v => v.isSame (.bool true)
  | .unknown _, _ => false

theorem truthy_keep (v : Value) : v.keep.truthy = v.truthy := by
  have isEmpty (vs : List Value) : (Value.keepAll vs).isEmpty = vs.isEmpty := by
    cases vs <;> rfl
  cases v <;> simp [Value.keep, Value.truthy, isEmpty]

theorem admits_keep (modifier : Modifier) (v : Value) : admits modifier v.keep = admits modifier v := by
  cases modifier with
  | holds | fails => simp only [admits, truthy_keep]
  | isTrue => cases v <;> simp [admits, Value.keep, Value.isSame]
  | unknown label => rfl

/-- The code that a call of the helper of a scope evaluates. -/
inductive Selects (r : Region) (args : List Value) : Expr → Prop
  | holds {modifier : Modifier} {condition body otherwise : Expr} {v : Value}
      (reads : testExpr? modifier = some condition)
      (helper : r.helper = some (testHelper condition body otherwise)) (is : args = [v])
      (h : admits modifier v) : Selects r args body
  | fails {modifier : Modifier} {condition body otherwise : Expr} {v : Value}
      (reads : testExpr? modifier = some condition)
      (helper : r.helper = some (testHelper condition body otherwise)) (is : args = [v])
      (h : admits modifier v = false) : Selects r args otherwise
  | loop {l : Loop} {body : Expr} (helper : r.helper = some (loopHelper body l)) : Selects r args body

mutual

/-- The values that code for nodes can have, given what is told of the values of tests. -/
inductive Yields (engine : Engine) (told : List Expr → List Value → Prop) : List Tree → Expr → Value → Prop
  | nothing {cs : List Tree} : Yields engine told cs Expr.none .none
  | made {cs : List Tree} {q : Primitive} {exprs : List Expr} {args : List Value} {v : Value}
      (is : engine.make q args = .ok v) : Yields engine told cs (.apply (.own q.localName) exprs) v
  | list {cs : List Tree} {items : List Expr} {vs : List Value} (h : Spreads engine told cs items vs) :
      Yields engine told cs (.list items) (.list vs .fresh)
  | called {cs : List Tree} {c : Tree} {test x : Expr} {args : List Value} {v : Value} (child : c ∈ cs)
      (asked : told [test] args) (selects : Selects c.region args x) (h : Yields engine told c.children x v) :
      Yields engine told cs (.apply (.own c.region.helperName) [test]) v
  | gathered {cs : List Tree} {c : Tree} {items body : Expr} {l : Loop} {results : List Value}
      (child : c ∈ cs) (helper : c.region.helper = some (loopHelper body l))
      (h : ∀ v ∈ results, Yields engine told c.children body v) :
      Yields engine told cs (.apply (.own Primitive.iterator.localName) [items, .own c.region.helperName])
        (engine.gather results)

inductive Spreads (engine : Engine) (told : List Expr → List Value → Prop) :
    List Tree → List Expr → List Value → Prop
  | nil {cs : List Tree} : Spreads engine told cs [] []
  | item {cs : List Tree} {x : Expr} {xs : List Expr} {v : Value} {vs : List Value}
      (whole : x.isStarred = false) (h : Yields engine told cs x v) (rest : Spreads engine told cs xs vs) :
      Spreads engine told cs (x :: xs) (v :: vs)
  | starred {cs : List Tree} {x : Expr} {xs : List Expr} {v : Value} {us vs : List Value}
      (h : Yields engine told cs x v) (items : v.items? = some us) (rest : Spreads engine told cs xs vs) :
      Spreads engine told cs (.starred x :: xs) (us ++ vs)

end

/-- What running code may spend, given what its demands may. -/
def cost (spend : Demand → Nat) (e : Expr) : Nat := ((demands e).map spend).sum

section Cost

variable {spend : Demand → Nat}

theorem cost_flatMap (es : List Expr) :
    ((es.flatMap demands).map spend).sum = (es.map (cost spend)).sum := by
  induction es with
  | nil => rfl
  | cons x es ih => simp [ih, cost]

theorem cost_eq (e : Expr) :
    cost spend e = ((nodeDemands e).map spend).sum + (e.parts.map (cost spend)).sum := by
  rw [cost, demands_eq, List.map_append, List.sum_append, cost_flatMap]

theorem cost_apply (id : String) (args : List Expr) :
    cost spend (.apply (.own id) args) = spend (.call id) +
      ((argumentDemands id args).map spend).sum + (spend (.name id) + (args.map (cost spend)).sum) := by
  rw [cost_eq]
  simp [nodeDemands, callDemands, Expr.apply, Expr.parts, cost_eq (.own id), Nat.add_assoc]

theorem cost_list (items : List Expr) : cost spend (.list items) = (items.map (cost spend)).sum := by
  rw [cost_eq]
  simp [nodeDemands, Expr.parts]

theorem cost_record (entries : List (String × Expr)) :
    cost spend (.record entries) = ((entries.map Prod.snd).map (cost spend)).sum := by
  rw [cost, demands_record, ← cost_flatMap, List.flatMap_map]

theorem cost_starred (x : Expr) : cost spend (.starred x) = cost spend x := by
  rw [cost_eq]
  simp [nodeDemands, Expr.parts]

end Cost

def unstarred : Expr → Expr
  | .starred x => x
  | x => x

section Items

variable {callFn : CallFn} {frames : List Frame} {I : Invariant} {A : Value → Prop} {n : Nat} {e : Expr}

theorem isStarred_eq_false (h : e.isStarred = false) : ∀ x, e ≠ .starred x := by
  rintro x rfl
  cases h

theorem exists_of_isStarred (h : e.isStarred = true) : ∃ x, e = .starred x := by
  cases e <;> first | exact ⟨_, rfl⟩ | cases h

theorem unstarred_of_whole (whole : e.isStarred = false) : unstarred e = e := by
  cases e <;> first | rfl | cases whole

/-- A starred expression has no value of its own. -/
theorem keeps_starred {f : Placeholder → Expr} {Q : Value → Prop} (x : Expr) :
    Keeps I n (eval callFn frames ((Expr.starred x).substitute f)) Q := by
  rw [Expr.substitute, eval, visit_plain rfl]
  · exact Keeps.throw.weaken (Nat.zero_le _)
  all_goals simp

theorem evalItems_append (es fs : List Expr) : evalItems callFn frames (es ++ fs) = (do
    let vs ← evalItems callFn frames es
    return vs ++ (← evalItems callFn frames fs)) := by
  induction es with
  | nil =>
    rw [List.nil_append, evalItems, pure_bind]
    simp
  | cons e es ih =>
    by_cases starred : ∃ x, e = .starred x
    · obtain ⟨x, rfl⟩ := starred
      rw [List.cons_append, evalItems, evalItems, bind_assoc]
      refine congrArg (eval callFn frames x >>= ·) (funext fun v => ?_)
      cases v.items? with
      | none => rfl
      | some items => simp only [ih, bind_assoc, pure_bind, List.append_assoc]
    · rw [List.cons_append, evalItems_cons fun x is => starred ⟨x, is⟩,
        evalItems_cons fun x is => starred ⟨x, is⟩, ih]
      simp

theorem keeps_single {Q : Value → Prop} (whole : e.isStarred = false)
    (h : Keeps I n (eval callFn frames e) Q) :
    Keeps I n (evalItems callFn frames [e]) fun vs => ∃ v, vs = [v] ∧ Q v := by
  have nil : evalItems callFn frames [] = pure [] := by rw [evalItems]
  rw [evalItems_cons (isStarred_eq_false whole), nil]
  exact (h.bind fun v hv => .pure ⟨v, rfl, hv⟩).weaken (Nat.le_of_eq (Nat.add_zero n))

theorem keeps_items {cost : Expr → Nat} {f : Expr → Expr} (es : List Expr)
    (each : ∀ e ∈ es, Keeps I (cost e) (evalItems callFn frames [f e]) fun vs => ∀ v ∈ vs, v.Holds A) :
    Keeps I (es.map cost).sum (evalItems callFn frames (es.map f)) fun vs => ∀ v ∈ vs, v.Holds A := by
  induction es with
  | nil =>
    rw [List.map_nil, List.map_nil, evalItems]
    exact .pure (by simp)
  | cons e es ih =>
    rw [List.map_cons, List.map_cons, List.sum_cons, ← List.singleton_append, evalItems_append]
    refine (each e List.mem_cons_self).bind fun vs hvs => ?_
    refine ((ih fun x hx => each x (List.mem_cons_of_mem e hx)).bind (k := 0) fun us hus => .pure ?_).weaken
      (Nat.le_refl _)
    exact fun v hv => (List.mem_append.mp hv).elim (hvs v) (hus v)

theorem keeps_each {cost : Expr → Nat} {f : Expr → Expr} (es : List Expr)
    (each : ∀ e ∈ es, Keeps I (cost e) (eval callFn frames (f e)) (Value.Holds A)) :
    Keeps I (es.map cost).sum (evalEach callFn frames (es.map f)) fun vs => ∀ v ∈ vs, v.Holds A := by
  induction es with
  | nil =>
    rw [List.map_nil, List.map_nil, evalEach]
    exact .pure (by simp)
  | cons e es ih =>
    rw [List.map_cons, List.map_cons, List.sum_cons, evalEach]
    refine (each e List.mem_cons_self).bind fun v hv => ?_
    refine ((ih fun x hx => each x (List.mem_cons_of_mem e hx)).bind (k := 0) fun vs hvs => .pure ?_).weaken
      (Nat.le_refl _)
    exact List.forall_mem_cons.mpr ⟨hv, hvs⟩

theorem isSite_apply {id : String} (h : id ≠ Primitive.bind.localName) (args : List Expr) :
    isSite (.apply (.own id) args) = false := by
  unfold isSite
  split
  · next is =>
    cases is
    exact beq_eq_false_iff_ne.mpr h
  · next is => cases is
  · rfl

theorem eval_condition {modifier : Modifier} {condition : Expr} {v : Value}
    (reads : testExpr? modifier = some condition) (found : lookup testName frames = some v) :
    ∃ u, eval callFn frames condition = pure u ∧ u.truthy = admits modifier v := by
  cases modifier with
  | holds =>
    cases reads
    exact ⟨v, eval_own found, rfl⟩
  | fails =>
    cases reads
    refine ⟨.bool !v.truthy, ?_, rfl⟩
    rw [eval, visit_plain rfl, eval_own found]
    rfl
  | isTrue =>
    cases reads
    refine ⟨.bool (v.isSame (.bool true)), ?_, rfl⟩
    rw [eval, visit_plain rfl, eval_own found, pure_bind, evalCompare, Expr.bool, eval,
      visit_plain rfl]
    simp only [constantValue, liftM_pure, pure_bind, compareValue]
    cases v.isSame (.bool true) with
    | false => rfl
    | true =>
      rw [if_pos rfl, evalCompare]
      all_goals simp
  | unknown label => cases reads

theorem substitute_condition {modifier : Modifier} {condition : Expr} (f : Placeholder → Expr)
    (reads : testExpr? modifier = some condition) : condition.substitute f = condition := by
  cases modifier <;> cases reads <;> simp [Expr.substitute, Expr.bool]

theorem eval_visited (id : String) (args : List Expr) : eval callFn frames (.apply (.own id) args) =
    visit (.apply (.own id) args) (do
      let f ← eval callFn frames (.own id)
      let vs ← evalItems callFn frames args
      callFn f vs []) := by
  rw [Expr.apply]
  conv_lhs => rw [eval, evalKeywords]
  simp

theorem eval_apply {id : String} (h : id ≠ Primitive.bind.localName)
    (args : List Expr) : eval callFn frames (.apply (.own id) args) = (do
      let f ← eval callFn frames (.own id)
      let vs ← evalItems callFn frames args
      callFn f vs []) := by
  rw [eval_visited, visit_plain (isSite_apply h args)]

end Items

/-- Among the arguments of a primitive that takes children, the children are as told. -/
def PacksAmong (packs : Primitive → List Value → Value → Prop) (q : Primitive) (vs : List Value) : Prop :=
  ∀ n, q.afterChildren = some n → ∃ before v after, vs = before ++ v :: after ∧ after.length = n ∧
    packs q before v

/-- What is to be kept in a render, and at which price. -/
structure Regime (σ : Stage) where
  I : Invariant
  /-- The functions that expressions of the template may get hold of. -/
  Free : Spot → Prop
  spend : Demand → Nat
  /-- The properties that may be read where they are used. -/
  may : String → Prop
  /-- What primitives are given as children, after other arguments. -/
  packs : Primitive → List Value → Value → Prop
  /-- The calls that are not followed. -/
  Skips : Spot → List Value → Prop

namespace Regime

variable {σ : Stage} (R : Regime σ)

/-- The functions that expressions of the template get hold of. -/
abbrev Agents : Value → Prop := Stage.Agent σ R.Free

/-- What expressions of the template meet inside loops with the given names. -/
def meets (locals : List String) : Atom → Prop
  | .name id => id ∈ locals ∨ id ∈ builtinNames
  | .own id => IsLocalName id
  | .read n => R.may n
  | .hole _ | .store _ => True

/-- An expression of the template in the scopes on a path. -/
def Source (path : List Spot) (x : Expr) : Prop :=
  (x.substitute σ.draft.decision).Meets (R.meets (namesAlong path))

def price (p : Spot) : Nat := R.spend (.call p.region.helperName)

/-- The values that items of code have somewhere in a render. -/
def Told (engine : Engine) (es : List Expr) (vs : List Value) : Prop :=
  ∃ path frames depth w, Stage.Scene σ R.Agents path frames ∧
    ((evalItems (callWithin engine depth) frames (es.map (.substitute σ.draft.decision))).run.run w).1 =
      .ok vs

/-- All children in the code are as they are to be. -/
def PacksIn (engine : Engine) (cs : List Tree) (x : Expr) : Prop :=
  ∀ (q : Primitive) (before : List Expr) (children : Expr) (after : List String),
    .apply (.own q.localName) (before ++ children :: after.map .own) ∈ x.nodes →
    q.afterChildren = some after.length → ∀ vs v, R.Told engine before vs →
    Yields engine (R.Told engine) cs children v → R.packs q vs v

structure Fine (engine : Engine) (path : List Spot) (cs : List Tree) (x : Expr) : Prop where
  assembled : Assembled σ.draft.emitter (R.Source path) cs x
  packed : R.PacksIn engine cs x

def Returned (engine : Engine) (p : Spot) (args : List Value) (v : Value) : Prop :=
  v.Holds R.Agents ∧ ∃ x, Selects p.region args x ∧ Yields engine (R.Told engine) p.children x v

variable (engine : Engine)

/-- Calls of helpers that nest at most `depth` deep keep the invariant at their prices. -/
def FollowsHelpers (depth : Nat) (these : Spot → List Value → Prop) : Prop :=
  ∀ {p q : Spot} {above : List Spot} {frames : List Frame} {args : List Value}, these p args →
    (q :: above, p) ∈ σ.draft.scopes → Stage.Scene σ R.Agents (q :: above) frames →
    (∀ v ∈ args, v.Holds R.Agents) →
    Keeps R.I (R.price p) (callWithin engine depth (σ.closure p frames) args [])
      (R.Returned engine p args)

/-- What a regime relies on, for each kind of step. -/
structure Sound (all : List Node) : Prop where
  ready : σ.Ready all
  honest : engine.Honest
  free : ∀ x ∈ σ.draft.scopes, namesAlong x.1 ≠ [] → R.Free x.2
  /-- Calls by expressions of the template spend nothing. -/
  freely : ∀ x ∈ σ.draft.scopes, R.Free x.2 → R.price x.2 = 0
  /-- Functions that are called for each item spend nothing. -/
  loops : ∀ x ∈ σ.draft.scopes, ∀ l body, x.2.region.helper = some (loopHelper body l) → R.price x.2 = 0
  code : ∀ {p q : Spot} {above : List Spot} {args : List Value} {x : Expr},
    (q :: above, p) ∈ σ.draft.scopes → ¬ R.Skips p args → Selects p.region args x →
    R.Fine engine (p :: q :: above) p.children x ∧ cost R.spend x ≤ R.price p
  enter : ∀ {p : Spot} {above : List Spot} {args : List Value} {k : Nat} {w : World},
    (above, p) ∈ σ.draft.scopes → ¬ R.Skips p args → R.I.holds k w →
    R.I.holds k { w with calls := w.calls ++ [.function (σ.draft.code p).name args] }
  hoist : ∀ {p : Spot} {above : List Spot} {args : List Value} {u : Usage} {k : Nat} {w : World},
    (above, p) ∈ σ.draft.scopes → ¬ R.Skips p args → u ∈ p.hoisted → R.I.holds k w →
    R.I.holds k { w with reads := w.reads ++ [u.property] }
  read : ∀ {n : String} {k : Nat} {w : World}, R.may n → R.I.holds k w →
    R.I.holds k { w with reads := w.reads ++ [n] }
  primitive : ∀ {q : Primitive} {vs : List Value} {k : Nat} {w : World},
    PacksAmong R.packs q vs → R.I.holds k w →
    R.I.holds k { w with calls := w.calls ++ [.primitive q vs] }
  bound : ∀ {path : List Spot} {frames : List Frame} {depth : Nat} {x : Expr},
    Stage.Scene σ R.Agents path frames → .bind ∈ σ.draft.emitter.primitives → R.Source path x →
    Keeps R.I 0 (evalItems (callWithin engine depth) frames [x.substitute σ.draft.decision])
      (fun vs => ∀ v ∈ vs, v.Holds R.Agents) →
    Keeps R.I 0 (eval (callWithin engine depth) frames (boundHandler (x.substitute σ.draft.decision)))
      (Value.Holds R.Agents)
  kept : ∀ {path : List Spot} {frames : List Frame} {depth k : Nat} {x : Expr},
    Stage.Scene σ R.Agents path frames → .bind ∈ σ.draft.emitter.primitives →
    k < σ.draft.emitter.memoCount → x.isPlaceholder → R.Source path x →
    Keeps R.I 0 (evalItems (callWithin engine depth) frames [x.substitute σ.draft.decision])
      (fun vs => ∀ v ∈ vs, v.Holds R.Agents) →
    Keeps R.I (R.spend (.handler (memoName k) (.str (memoName k))))
      (eval (callWithin engine depth) frames (keptHandler (memoName k) (x.substitute σ.draft.decision)))
      (Value.Holds R.Agents)
  skip : ∀ depth, R.FollowsHelpers engine depth fun p args => R.Skips p args

/-- Calls that nest at most `depth` deep keep the invariant. -/
structure Follows (depth : Nat) : Prop where
  call : ∀ (f : Value) (args : List Value) (keywords : List (String × Value)), f.Holds R.Agents →
    (∀ v ∈ args, v.Holds R.Agents) → (∀ k ∈ keywords, k.2.Holds R.Agents) →
    Keeps R.I 0 (callWithin engine depth f args keywords) (Value.Holds R.Agents)
  helper : R.FollowsHelpers engine depth fun _ _ => True

theorem closed : Closed R.Agents := by
  refine ⟨fun names values h => ?_, fun h => ?_, fun h => ?_⟩ <;> cases h

variable {R engine} {all : List Node} {depth : Nat} {path : List Spot} {frames : List Frame}

theorem told {es : List Expr} {w : World} {vs : List Value} (scene : Stage.Scene σ R.Agents path frames)
    (h : ((evalItems (callWithin engine depth) frames (es.map (.substitute σ.draft.decision))).run.run w).1 =
      .ok vs) : R.Told engine es vs :=
  ⟨path, frames, depth, w, scene, h⟩

theorem Sound.serving (sound : R.Sound engine all) (follows : R.Follows engine depth)
    (scene : Stage.Scene σ R.Agents path frames) :
    Serving R.Agents R.I (callWithin engine depth) frames (R.meets (namesAlong path)) where
  closed := R.closed
  unbound := fun isLocal => (Stage.ordinary_localName isLocal).primitive .bind rfl
  name id h := by
    refine gives_nameValue fun v found => ?_
    rcases h with loop | builtin
    · exact scene.holds_loopName sound.ready sound.free loop found
    · exact scene.holds_ordinary sound.ready (Stage.ordinary_builtin builtin) found
  own id h := gives_nameValue fun v found =>
    scene.holds_ordinary sound.ready (Stage.ordinary_localName h) found
  read n h := by
    rw [eval_componentMember (scene.lookup_component sound.ready), memberValue]
    refine Keeps.andThen (Q := fun _ => True) (fun k w hw => ⟨sound.read h hw, fun _ _ => trivial⟩) ?_
    exact fun _ _ => .lift fun v is => Stage.holds_field is
  call := follows.call

theorem meets_literal (sound : R.Sound engine all) {x : Expr} (silent : x.occurrences = []) :
    (x.substitute σ.draft.decision).Meets (R.meets (namesAlong path)) := by
  have none : x.Meets fun _ => False := Expr.meets_of_occurrences fun o ho => by
    rw [silent] at ho
    cases ho
  exact none.substitute sound.ready.made.decides (fun _ _ h => h.elim) fun _ h => h.elim

section Data

variable (sound : R.Sound engine all) (follows : R.Follows engine depth)
  (scene : Stage.Scene σ R.Agents path frames)
include sound scene

theorem keeps_own {id : String} (ordinary : Stage.Ordinary id) :
    Keeps R.I 0 (eval (callWithin engine depth) frames (.own id)) (Value.Holds R.Agents) := by
  rw [eval, visit_plain rfl]
  exact .lift (gives_nameValue fun v found => scene.holds_ordinary sound.ready ordinary found)

omit scene in
theorem keeps_make {q : Primitive} {vs : List Value} (other : q ≠ .iterator)
    (packed : PacksAmong R.packs q vs) :
    Keeps R.I 0 (callWithin engine depth (.primitive q) vs []) fun v =>
      engine.make q vs = .ok v := by
  cases depth with
  | zero => exact .throw
  | succ depth =>
    have made : primitiveValue engine (callWithin engine depth) q vs = liftM (engine.make q vs) := by
      cases q <;> first | exact absurd rfl other | rfl
    rw [callWithin, callOnce, made]
    refine Keeps.andThen (Q := fun _ => True) (fun k w hw => ?_) fun _ _ => .lift fun v is => is
    exact ⟨sound.primitive packed hw, fun _ _ => trivial⟩

include follows

theorem keeps_sources (xs : List Expr) (h : ∀ x ∈ xs, R.Source path x) :
    Keeps R.I 0 (evalItems (callWithin engine depth) frames (xs.map (.substitute σ.draft.decision)))
      fun vs => ∀ v ∈ vs, v.Holds R.Agents := by
  have serving := sound.serving follows scene
  refine serving.keeps_items fun e he => ?_
  obtain ⟨x, hx, rfl⟩ := List.mem_map.mp he
  exact h x hx

/-- What is evaluated alone can be an item. Only expressions of the template may be starred. -/
theorem keeps_itemOf {x : Expr} (h : Datum σ.draft.emitter (R.Source path) x)
    (alone : Keeps R.I (cost R.spend x)
      (eval (callWithin engine depth) frames (x.substitute σ.draft.decision)) (Value.Holds R.Agents)) :
    Keeps R.I (cost R.spend x)
      (evalItems (callWithin engine depth) frames [x.substitute σ.draft.decision])
      fun vs => ∀ v ∈ vs, v.Holds R.Agents := by
  have serving := sound.serving follows scene
  have one (whole : (x.substitute σ.draft.decision).isStarred = false) :
      Keeps R.I (cost R.spend x) (evalItems (callWithin engine depth) frames [x.substitute σ.draft.decision])
        fun vs => ∀ v ∈ vs, v.Holds R.Agents :=
    (keeps_single whole alone).mono fun vs ⟨v, is, hv⟩ => by simpa [is] using hv
  have met (meets : (x.substitute σ.draft.decision).Meets (R.meets (namesAlong path))) :
      Keeps R.I (cost R.spend x) (evalItems (callWithin engine depth) frames [x.substitute σ.draft.decision])
        fun vs => ∀ v ∈ vs, v.Holds R.Agents :=
    (serving.keeps_items (by simpa using meets)).weaken (Nat.zero_le _)
  cases h with
  | source h => exact met h
  | literal silent => exact met (meets_literal sound silent)
  | _ => exact one rfl

theorem keeps_datum {x : Expr} (h : Datum σ.draft.emitter (R.Source path) x) :
    Keeps R.I (cost R.spend x)
      (eval (callWithin engine depth) frames (x.substitute σ.draft.decision)) (Value.Holds R.Agents) := by
  have serving := sound.serving follows scene
  have met {e : Expr} (meets : e.Meets (R.meets (namesAlong path))) (n : Nat) :
      Keeps R.I n (eval (callWithin engine depth) frames e) (Value.Holds R.Agents) :=
    (serving.keeps_eval meets).weaken (Nat.zero_le n)
  have constant (c : Constant) : (Expr.constant c).Meets (R.meets (namesAlong path)) :=
    .parts rfl fun _ => List.forall_mem_nil _
  have args {id : String} {xs : List Expr} (data : ∀ x ∈ xs, Datum σ.draft.emitter (R.Source path) x)
      (ih : ∀ x ∈ xs, Keeps R.I (cost R.spend x)
        (eval (callWithin engine depth) frames (x.substitute σ.draft.decision)) (Value.Holds R.Agents)) :
      Keeps R.I (cost R.spend (.apply (.own id) xs))
        (evalItems (callWithin engine depth) frames (xs.map (.substitute σ.draft.decision)))
        fun vs => ∀ v ∈ vs, v.Holds R.Agents := by
    refine (keeps_items _ fun x hx => keeps_itemOf sound follows scene (data x hx) (ih x hx)).weaken ?_
    rw [cost_apply]
    change (xs.map (cost R.spend)).sum ≤ _
    omega
  induction h with
  | source h => exact met h _
  | literal silent => exact met (meets_literal sound silent) _
  | passed h => exact (keeps_own sound scene (sound.ready.ordinary_passed h)).weaken (Nat.zero_le _)
  | @record entries h ih =>
    have keys : ∀ e ∈ (entries.map fun e => Expr.str e.1), e.Meets (R.meets (namesAlong path)) := by
      intro e he
      obtain ⟨entry, -, rfl⟩ := List.mem_map.mp he
      exact constant _
    have values := keeps_each (entries.map Prod.snd) fun e he => by
      obtain ⟨entry, hentry, rfl⟩ := List.mem_map.mp he
      exact ih entry hentry
    have substituted : (Expr.record entries).substitute σ.draft.decision =
        .dict (entries.map fun e => .str e.1) ((entries.map Prod.snd).map (.substitute σ.draft.decision)) := by
      simp [Expr.record, Expr.substitute, Expr.str]
    rw [substituted, cost_record, eval, visit_plain rfl]
    refine Keeps.andThen (serving.keeps_each keys) fun ks _ => ?_
    refine (values.bind fun vs hvs => ?_).weaken (Nat.le_of_eq (Nat.add_zero _))
    exact (Keeps.lift (Q := fun _ => True) fun _ _ => trivial).andThen fun texts _ =>
      .pure (Value.holds_dict.mpr hvs)
  | @flag x h =>
    refine met ?_ _
    refine .parts rfl fun _ y hy => ?_
    simp only [Emit.booleanAttribute, Expr.substitute, Expr.parts, List.mem_cons, List.not_mem_nil,
      or_false] at hy
    rcases hy with rfl | rfl | rfl
    · exact h
    · exact constant _
    · exact constant _
  | @primitive q xs simple known h ih =>
    have other : q ≠ .iterator ∧ q ≠ .bind ∧ q.afterChildren = none := by cases q <;> simp_all [
      Primitive.isSimple, Primitive.afterChildren]
    rw [Expr.substitute_apply, eval_apply fun is => other.2.1 (Primitive.localName_injective is),
      eval_own (scene.lookup_primitive sound.ready known), pure_bind]
    refine ((args h ih).bind fun vs hvs => ?_).weaken (Nat.le_of_eq (Nat.add_zero _))
    refine (keeps_make sound other.1 fun _ place => ?_).mono fun v made =>
      sound.honest.make _ q vs v hvs made
    rw [other.2.2] at place
    cases place
  | @sanitized xs h ih =>
    rw [Expr.substitute_apply, eval_apply (by decide)]
    refine (keeps_own sound scene Stage.ordinary_sanitizer).andThen fun f hf => ?_
    refine ((args h ih).bind fun vs hvs => ?_).weaken (Nat.le_of_eq (Nat.add_zero _))
    exact follows.call f vs [] hf hvs (List.forall_mem_nil _)
  | @bound x known h =>
    exact (sound.bound scene known h (keeps_sources sound follows scene [x] (by simpa using h))).weaken
      (Nat.zero_le _)
  | @kept k x known counted plain h =>
    have evaluated := keeps_sources sound follows scene [x] (by simpa using h)
    refine (sound.kept scene known counted plain h evaluated).weaken ?_
    rw [cost_eq]
    simp [keptHandler, nodeDemands, logicalDemands, kept?, boundHandler, callee?, constant?, own?, Expr.apply, Expr.str]

theorem keeps_item {x : Expr} (h : Datum σ.draft.emitter (R.Source path) x) :
    Keeps R.I (cost R.spend x)
      (evalItems (callWithin engine depth) frames [x.substitute σ.draft.decision])
      fun vs => ∀ v ∈ vs, v.Holds R.Agents :=
  keeps_itemOf sound follows scene h (keeps_datum sound follows scene h)

end Data

theorem PacksIn.part {cs : List Tree} {x y : Expr} (h : R.PacksIn engine cs x) (hy : y ∈ x.parts) :
    R.PacksIn engine cs y := by
  intro q before children after listed
  refine h q before children after ?_
  rw [Expr.nodes_eq]
  exact List.mem_cons_of_mem _ (List.mem_flatMap.mpr ⟨y, hy, listed⟩)

theorem keeps_spread {cs : List Tree} {items : List Expr}
    (whole : ∀ x ∈ items, x.isStarred = false → (x.substitute σ.draft.decision).isStarred = false)
    (each : ∀ x ∈ items, Keeps R.I (cost R.spend x)
      (eval (callWithin engine depth) frames ((unstarred x).substitute σ.draft.decision))
      fun v => v.Holds R.Agents ∧ Yields engine (R.Told engine) cs (unstarred x) v) :
    Keeps R.I (items.map (cost R.spend)).sum
      (evalItems (callWithin engine depth) frames (items.map (.substitute σ.draft.decision)))
      fun vs => (∀ v ∈ vs, v.Holds R.Agents) ∧ Spreads engine (R.Told engine) cs items vs := by
  induction items with
  | nil =>
    rw [List.map_nil, List.map_nil, evalItems]
    exact .pure ⟨List.forall_mem_nil _, .nil⟩
  | cons x items ih =>
    have here := each x List.mem_cons_self
    have later := ih (fun y hy => whole y (List.mem_cons_of_mem x hy))
      fun y hy => each y (List.mem_cons_of_mem x hy)
    rw [List.map_cons, List.map_cons, List.sum_cons]
    cases starred : x.isStarred with
    | true =>
      obtain ⟨y, rfl⟩ := exists_of_isStarred starred
      rw [Expr.substitute, evalItems]
      refine here.bind fun v hv => ?_
      split
      · next us found =>
        refine (later.bind (k := 0) fun vs hvs => .pure ⟨fun u hu => ?_, .starred hv.2 found hvs.2⟩).weaken
          (Nat.le_refl _)
        exact (List.mem_append.mp hu).elim (Value.holds_items hv.1 found u) (hvs.1 u)
      · exact Keeps.throw.weaken (Nat.zero_le _)
    | false =>
      rw [unstarred_of_whole starred] at here
      rw [evalItems_cons (isStarred_eq_false (whole x List.mem_cons_self starred))]
      refine here.bind fun v hv => ?_
      refine (later.bind (k := 0) fun vs hvs => .pure ⟨?_, .item starred hv.2 hvs.2⟩).weaken (Nat.le_refl _)
      exact List.forall_mem_cons.mpr ⟨hv.1, hvs.1⟩

theorem isStarred_substitute {E : Emitter} {src : Expr → Prop} {cs : List Tree} {x : Expr}
    {f : Placeholder → Expr} (h : Assembled E src cs x) (whole : x.isStarred = false) :
    (x.substitute f).isStarred = false := by
  cases h with
  | starred h => cases whole
  | _ => rfl

theorem testHelper_ne_loopHelper (condition body otherwise inside : Expr) (l : Loop) :
    testHelper condition body otherwise ≠ loopHelper inside l := by
  cases l <;> simp [loopHelper, testHelper, iteratorParts]

theorem selects_loop {r : Region} {args : List Value} {x body : Expr} {l : Loop}
    (helper : r.helper = some (loopHelper body l)) (h : Selects r args x) : x = body := by
  cases h with
  | holds reads other is h | fails reads other is h =>
    exact absurd (Option.some.inj (other.symm.trans helper)) (testHelper_ne_loopHelper _ _ _ _ _)
  | @loop l' body' other =>
    rw [helper] at other
    cases l <;> cases l' <;> simp [loopHelper, iteratorParts] at other
    · exact other.2.symm
    · exact other.2.2.symm

theorem testExpr?_injective {modifier other : Modifier} {condition : Expr}
    (h : testExpr? modifier = some condition) (h' : testExpr? other = some condition) : modifier = other := by
  cases modifier <;> cases other <;> cases h <;> cases h' <;> rfl

theorem selects_test {r : Region} {args : List Value} {x condition body otherwise : Expr}
    {modifier : Modifier} (reads : testExpr? modifier = some condition)
    (helper : r.helper = some (testHelper condition body otherwise)) (h : Selects r args x) :
    ∃ v, args = [v] ∧ x = if admits modifier v then body else otherwise := by
  have same {c b o : Expr} (other : r.helper = some (testHelper c b o)) :
      condition = c ∧ body = b ∧ otherwise = o := by
    have helpers := helper.symm.trans other
    simpa [testHelper] using helpers
  cases h with
  | holds reads' other is h =>
    obtain ⟨rfl, rfl, -⟩ := same other
    rw [← testExpr?_injective reads reads'] at h
    exact ⟨_, is, by rw [if_pos h]⟩
  | fails reads' other is h =>
    obtain ⟨rfl, -, rfl⟩ := same other
    rw [← testExpr?_injective reads reads'] at h
    exact ⟨_, is, by rw [if_neg (by simp [h])]⟩
  | loop other => exact absurd (Option.some.inj (helper.symm.trans other)) (testHelper_ne_loopHelper _ _ _ _ _)

theorem keeps_iterate {I : Invariant} {callback : Value → Nat → RunM Value} {Q : Value → Prop}
    {items : List Value} (each : ∀ item ∈ items, ∀ i, Keeps I 0 (callback item i) Q) (i : Nat) :
    Keeps I 0 (iterate callback i items) fun vs => ∀ v ∈ vs, Q v := by
  induction items generalizing i with
  | nil => exact .pure nofun
  | cons item items ih =>
    rw [iterate]
    refine (each item List.mem_cons_self i).andThen fun v hv => ?_
    refine (ih (fun x hx => each x (List.mem_cons_of_mem item hx)) (i + 1)).andThen fun vs hvs => .pure ?_
    exact List.forall_mem_cons.mpr ⟨hv, hvs⟩

section Nodes

variable (sound : R.Sound engine all) {p : Spot} {above : List Spot}
  (follows : ∀ d ≤ depth, R.Follows engine d)
  (scene : Stage.Scene σ R.Agents (p :: above) frames) (reaches : Stage.Reaches σ p frames)
include sound follows scene

omit follows in
theorem keeps_passed {names : List String} (h : ∀ id ∈ names, id ∈ σ.draft.emitter.passed) :
    Keeps R.I 0 (evalItems (callWithin engine depth) frames (names.map .own)) fun vs =>
      vs.length = names.length ∧ ∀ v ∈ vs, v.Holds R.Agents := by
  induction names with
  | nil =>
    rw [List.map_nil, evalItems]
    exact .pure ⟨rfl, List.forall_mem_nil _⟩
  | cons id names ih =>
    rw [List.map_cons, evalItems_cons (by simp)]
    refine (keeps_own sound scene (sound.ready.ordinary_passed (h id List.mem_cons_self))).andThen
      fun v hv => ?_
    refine (ih fun n hn => h n (List.mem_cons_of_mem id hn)).andThen fun vs hvs => .pure ?_
    exact ⟨by simp [hvs.1], List.forall_mem_cons.mpr ⟨hv, hvs.2⟩⟩

omit scene in
theorem keeps_iterator {c : Tree} {l : Loop} {body : Expr} {us : List Value} {callback : Value}
    (here : (above, p) ∈ σ.draft.scopes) (child : c ∈ p.children)
    (scene : Stage.Scene σ R.Agents (p :: above) frames)
    (helper : c.region.helper = some (loopHelper body l)) (good : ∀ u ∈ us, u.Holds R.Agents)
    (is : callback = σ.closure (p.child c) frames ∨ ∃ names values identity,
      callback = .object names values identity) :
    Keeps R.I 0 (callWithin engine depth (.primitive .iterator) (us ++ [callback]) []) fun v =>
      v.Holds R.Agents ∧ ∃ results, v = engine.gather results ∧
        ∀ r ∈ results, Yields engine (R.Told engine) c.children body r := by
  cases depth with
  | zero => exact .throw
  | succ depth =>
    have below := Tree.spots_child here child
    have each (item : Value) (hitem : item.Holds R.Agents) (i last : Nat) :
        Keeps R.I 0 (callWithin engine depth callback
          [item, .int i .fresh, .bool (i == 0), .bool (i == last)] []) fun v =>
            v.Holds R.Agents ∧ Yields engine (R.Told engine) c.children body v := by
      rcases is with rfl | ⟨names, values, identity, rfl⟩
      · have free := sound.loops _ below l body helper
        have told : ∀ v ∈ [item, .int i .fresh, .bool (i == 0), .bool (i == last)],
            v.Holds R.Agents := by simpa using hitem
        have called := (follows depth (Nat.le_succ depth)).helper trivial below scene told
        rw [free] at called
        refine called.mono fun v ⟨hv, x, selects, yields⟩ => ⟨hv, ?_⟩
        exact selects_loop helper selects ▸ yields
      · cases depth with
        | zero => exact .throw
        | succ depth => exact Keeps.lift fun _ is => by cases is
    rw [callWithin, callOnce]
    refine Keeps.andThen (Q := fun _ => True) (fun k w hw => ⟨sound.primitive (fun _ is => by cases is) hw, fun _ _ => trivial⟩)
      fun _ _ => ?_
    rcases us with _ | ⟨items, _ | ⟨u, us⟩⟩
    · exact .throw
    · change Keeps R.I 0 (iteratorValue engine (callWithin engine depth) items callback) _
      unfold iteratorValue
      simp only
      have hitems : (if items.truthy then items else .list [] .fresh).Holds R.Agents := by
        split
        · exact good items List.mem_cons_self
        · simp
      split
      · exact .throw
      · next found =>
        refine (keeps_iterate (fun item hitem i =>
          each item (Value.holds_items hitems found item hitem) i _) 0).andThen fun results hresults => ?_
        refine .pure ⟨sound.honest.gather _ _ fun v hv => (hresults v hv).1, results, rfl, ?_⟩
        exact fun r hr => (hresults r hr).2
    · cases us <;> exact .throw

omit follows in
theorem keeps_primitiveCall {n : Nat} {q : Primitive} {args : List Expr} {Q : List Value → Prop}
    (other : q ≠ .iterator ∧ q ≠ .bind) (known : q ∈ σ.draft.emitter.primitives)
    (evaluated : Keeps R.I n (evalItems (callWithin engine depth) frames args) Q)
    (good : ∀ vs, Q vs → ∀ v ∈ vs, v.Holds R.Agents)
    (packed : ∀ vs, Q vs → PacksAmong R.packs q vs) :
    Keeps R.I n (eval (callWithin engine depth) frames (.apply (.own q.localName) args)) fun v =>
      v.Holds R.Agents ∧ ∃ vs, engine.make q vs = .ok v := by
  rw [eval_apply fun is => other.2 (Primitive.localName_injective is),
    eval_own (scene.lookup_primitive sound.ready known), pure_bind]
  refine (evaluated.bind fun vs hvs => ?_).weaken (Nat.le_of_eq (Nat.add_zero n))
  refine (keeps_make sound other.1 (packed vs hvs)).mono fun v made => ?_
  exact ⟨sound.honest.make _ q vs v (good vs hvs) made, vs, made⟩

theorem keeps_element {q : Primitive} {before : List Expr} {children : Expr} {after : List String}
    (known : q ∈ σ.draft.emitter.primitives)
    (first : ∀ x ∈ before, Datum σ.draft.emitter (R.Source (p :: above)) x)
    (whole : (children.substitute σ.draft.decision).isStarred = false)
    (last : ∀ id ∈ after, id ∈ σ.draft.emitter.passed) (place : q.afterChildren = some after.length)
    (packed : ∀ vs v, R.Told engine before vs → Yields engine (R.Told engine) p.children children v →
      R.packs q vs v)
    (content : Keeps R.I (cost R.spend children)
      (eval (callWithin engine depth) frames (children.substitute σ.draft.decision))
      fun v => v.Holds R.Agents ∧ Yields engine (R.Told engine) p.children children v) :
    Keeps R.I (cost R.spend (.apply (.own q.localName) (before ++ children :: after.map .own)))
      (eval (callWithin engine depth) frames
        ((Expr.apply (.own q.localName) (before ++ children :: after.map .own)).substitute σ.draft.decision))
      fun v => v.Holds R.Agents ∧ ∃ vs, engine.make q vs = .ok v := by
  have now := follows depth (Nat.le_refl depth)
  have other : q ≠ .iterator ∧ q ≠ .bind := by
    constructor <;> rintro rfl <;> cases place
  have owns : (after.map Expr.own).map (Expr.substitute σ.draft.decision) = after.map Expr.own := by
    rw [List.map_map]
    exact List.map_congr_left fun id _ => by simp [Expr.substitute]
  have spent : (before.map (cost R.spend)).sum + (cost R.spend children + 0) ≤
      cost R.spend (.apply (.own q.localName) (before ++ children :: after.map .own)) := by
    rw [cost_apply]
    simp only [List.map_append, List.map_cons, List.sum_append, List.sum_cons]
    omega
  have evaluated : Keeps R.I (cost R.spend (.apply (.own q.localName) (before ++ children :: after.map .own)))
      (evalItems (callWithin engine depth) frames
        ((before ++ children :: after.map .own).map (.substitute σ.draft.decision)))
      fun vs => ∃ bs v as, vs = bs ++ v :: as ∧ as.length = after.length ∧
        (∀ u ∈ vs, u.Holds R.Agents) ∧ R.Told engine before bs ∧
          Yields engine (R.Told engine) p.children children v := by
    rw [List.map_append, List.map_cons, owns, evalItems_append, evalItems_cons (isStarred_eq_false whole)]
    refine Keeps.weaken ?_ spent
    refine ((keeps_items _ fun x hx => keeps_item sound now scene (first x hx)).and
      fun w bs => told scene).bind fun bs ⟨hbs, known⟩ => ?_
    rw [bind_assoc]
    refine content.bind fun v hv => ?_
    rw [bind_assoc]
    refine (keeps_passed sound scene last).andThen fun as has => ?_
    rw [pure_bind]
    refine .pure ⟨bs, v, as, rfl, has.1, ?_, known, hv.2⟩
    simp only [List.mem_append, List.mem_cons]
    rintro u (hu | rfl | hu)
    · exact hbs u hu
    · exact hv.1
    · exact has.2 u hu
  rw [Expr.substitute_apply]
  refine keeps_primitiveCall sound scene other known evaluated ?_ ?_
  · rintro vs ⟨bs, v, as, -, -, good, -⟩
    exact good
  · rintro vs ⟨bs, v, as, rfl, size, -, known, yields⟩ n place'
    exact ⟨bs, v, as, rfl, size.trans (Option.some.inj (place.symm.trans place')), packed bs v known yields⟩

include reaches

theorem keeps_tested {c : Tree} {test : Expr} (child : c ∈ p.children) (h : R.Source (p :: above) test) :
    Keeps R.I (cost R.spend (.apply (.own c.region.helperName) [test]))
      (eval (callWithin engine depth) frames
        ((Expr.apply (.own c.region.helperName) [test]).substitute σ.draft.decision))
      fun v => v.Holds R.Agents ∧
        Yields engine (R.Told engine) p.children (.apply (.own c.region.helperName) [test]) v := by
  have now := follows depth (Nat.le_refl depth)
  have here := scene.scope
  have other : c.region.helperName ≠ Primitive.bind.localName := by
    have named := (Stage.name_child sound.ready.made here child).2
    exact fun is => (is ▸ named).not_plain (isPlainName_primitive _)
  have spent : R.price (p.child c) ≤ cost R.spend (.apply (.own c.region.helperName) [test]) := by
    have same : R.price (p.child c) = R.spend (.call c.region.helperName) := rfl
    rw [cost_apply, same]
    omega
  obtain ⟨f, found, is⟩ := reaches c child
  rw [Expr.substitute_apply, eval_apply other, eval_own found,
    pure_bind]
  refine Keeps.weaken ?_ spent
  refine ((keeps_sources sound now scene [test] (by simpa using h)).and
    fun w vs => told scene).andThen fun vs ⟨hvs, asked⟩ => ?_
  rcases is with rfl | ⟨names, values, identity, rfl⟩
  · refine (now.helper trivial (Tree.spots_child here child) scene hvs).mono fun v hv => ⟨hv.1, ?_⟩
    obtain ⟨x, selects, yields⟩ := hv.2
    exact .called child asked selects yields
  · refine Keeps.weaken ?_ (Nat.zero_le _)
    cases depth with
    | zero => exact .throw
    | succ depth => exact Keeps.lift fun _ is => by cases is

theorem keeps_iterated {c : Tree} {l : Loop} {body items : Expr}
    (known : .iterator ∈ σ.draft.emitter.primitives) (child : c ∈ p.children)
    (helper : c.region.helper = some (loopHelper body l)) (h : R.Source (p :: above) items) :
    Keeps R.I 0
      (eval (callWithin engine depth) frames
        ((Expr.apply (.own Primitive.iterator.localName) [items, .own c.region.helperName]).substitute
          σ.draft.decision))
      fun v => v.Holds R.Agents ∧ Yields engine (R.Told engine) p.children
        (.apply (.own Primitive.iterator.localName) [items, .own c.region.helperName]) v := by
  have now := follows depth (Nat.le_refl depth)
  obtain ⟨f, found, is⟩ := reaches c child
  have last : evalItems (callWithin engine depth) frames [.own c.region.helperName] = pure [f] := by
    rw [evalItems_cons (by simp), eval_own found, pure_bind, evalItems, pure_bind]
  have split : [items, .own c.region.helperName].map (Expr.substitute σ.draft.decision) =
      [items].map (Expr.substitute σ.draft.decision) ++ [.own c.region.helperName] := by
    simp [Expr.substitute]
  rw [Expr.substitute_apply, eval_apply (by decide),
    eval_own (scene.lookup_primitive sound.ready known), pure_bind, split,
    evalItems_append, last, bind_assoc]
  refine (keeps_sources sound now scene [items] (by simpa using h)).andThen fun us hus => ?_
  rw [pure_bind, pure_bind]
  refine (keeps_iterator sound follows scene.scope child scene helper hus is).mono ?_
  rintro v ⟨hv, results, rfl, each⟩
  exact ⟨hv, .gathered child helper each⟩

theorem keeps_assembled {x : Expr} (packed : R.PacksIn engine p.children x)
    (h : Assembled σ.draft.emitter (R.Source (p :: above)) p.children x) :
    Keeps R.I (cost R.spend x)
      (eval (callWithin engine depth) frames ((unstarred x).substitute σ.draft.decision))
      fun v => v.Holds R.Agents ∧ Yields engine (R.Told engine) p.children (unstarred x) v := by
  have now := follows depth (Nat.le_refl depth)
  induction h with
  | nothing =>
    rw [unstarred, Expr.none, Expr.substitute, eval, visit_plain rfl]
    · exact Keeps.weaken (.pure ⟨Value.holds_none, .nothing⟩) (Nat.zero_le _)
    · simp [Expr.none]
  | @leaf q args simple known h =>
    have plain : q ≠ .iterator ∧ q ≠ .bind ∧ q.afterChildren = none := by
      cases q <;> simp_all [Primitive.isSimple, Primitive.afterChildren]
    have evaluated := (keeps_items _ fun x hx => keeps_item sound now scene (h x hx)).weaken
      (show (args.map (cost R.spend)).sum ≤ cost R.spend (.apply (.own q.localName) args) by
        rw [cost_apply]
        omega)
    rw [unstarred, Expr.substitute_apply]
    · refine (keeps_primitiveCall sound scene ⟨plain.1, plain.2.1⟩ known evaluated (fun _ good => good)
        fun _ _ _ place => ?_).mono fun v hv => ⟨hv.1, ?_⟩
      · rw [plain.2.2] at place
        cases place
      · exact .made hv.2.choose_spec
    · simp [Expr.apply]
  | @element q before children after known first content whole last place ih =>
    have inner := ih (packed.part (by simp [Expr.apply, Expr.parts]))
    rw [unstarred_of_whole whole] at inner
    have here := packed q before children after (by rw [Expr.nodes_eq]; exact List.mem_cons_self) place
    refine (keeps_element sound follows scene known first (isStarred_substitute content whole) last place
      here inner).mono fun v hv => ⟨hv.1, ?_⟩
    exact .made hv.2.choose_spec
  | @list items h ih =>
    rw [unstarred, Expr.substitute, Expr.substituteAll_eq_map, eval, visit_plain rfl, cost_list]
    · have each : ∀ x ∈ items, R.PacksIn engine p.children x := fun x hx => packed.part hx
      refine ((keeps_spread (fun x hx => isStarred_substitute (h x hx)) fun x hx =>
        ih x hx (each x hx)).bind fun vs hvs => ?_).weaken (Nat.le_of_eq (Nat.add_zero _))
      exact .pure ⟨Value.holds_list.mpr hvs.1, .list hvs.2⟩
    · simp
  | @starred x h ih =>
    rw [unstarred, cost_starred]
    cases starred : x.isStarred with
    | false =>
      have inner := ih (packed.part (List.mem_singleton_self x))
      rwa [unstarred_of_whole starred] at inner
    | true =>
      obtain ⟨y, rfl⟩ := exists_of_isStarred starred
      exact keeps_starred y
  | tested child reads helper h =>
    rw [unstarred]
    · exact keeps_tested sound follows scene reaches child h
    · simp [Expr.apply]
  | iterated known child helper h =>
    rw [unstarred]
    · exact (keeps_iterated sound follows scene reaches known child helper h).weaken (Nat.zero_le _)
    · simp [Expr.apply]

theorem keeps_code {x : Expr} (fine : R.Fine engine (p :: above) p.children x) :
    Keeps R.I (cost R.spend x)
      (eval (callWithin engine depth) frames (x.substitute σ.draft.decision))
      fun v => v.Holds R.Agents ∧ Yields engine (R.Told engine) p.children x v := by
  have evaluated := keeps_assembled sound follows scene reaches fine.packed fine.assembled
  cases starred : x.isStarred with
  | false => rwa [unstarred_of_whole starred] at evaluated
  | true =>
    obtain ⟨y, rfl⟩ := exists_of_isStarred starred
    exact keeps_starred y

end Nodes

section Calls

variable (sound : R.Sound engine all) {p q : Spot} {above : List Spot}
include sound

theorem keeps_call (helper : R.FollowsHelpers engine depth fun _ _ => True) {f : Value} {args : List Value} {keywords : List (String × Value)} (hf : f.Holds R.Agents)
    (hargs : ∀ v ∈ args, v.Holds R.Agents) (hkeywords : ∀ k ∈ keywords, k.2.Holds R.Agents) :
    Keeps R.I 0 (callWithin engine depth f args keywords) (Value.Holds R.Agents) := by
  have plain (g : Value) (hg : g.Holds R.Agents)
      (is : callWithin engine depth g args keywords = liftM (builtinCall g args keywords)) :
      Keeps R.I 0 (callWithin engine depth g args keywords) (Value.Holds R.Agents) := by
    rw [is]
    exact .lift (gives_builtinCall hg hargs hkeywords)
  cases depth with
  | zero => exact .throw
  | succ depth =>
    cases f with
    | closure name signature body frames =>
      cases keywords with
      | nil =>
        generalize is : Value.closure name signature body frames = g at hf ⊢
        rw [← is, Value.holds_closure, is] at hf
        cases hf with
        | mk here free scene =>
          have called := helper trivial here scene hargs
          rw [sound.freely _ here free] at called
          exact called.mono fun v hv => hv.1
      | cons k keywords => exact plain _ hf rfl
    | primitive q => cases Value.holds_primitive.mp hf
    | contextGet => cases Value.holds_contextGet.mp hf
    | contextSetDefault => cases Value.holds_contextSetDefault.mp hf
    | _ => exact plain _ hf rfl

theorem lookup_test {F : Frame} {condition body otherwise : Expr} {args : List Value} (vs : List Value)
    (frames : List Frame) (here : (q :: above, p) ∈ σ.draft.scopes)
    (helper : p.region.helper = some (testHelper condition body otherwise))
    (entered : bindArguments (σ.draft.code p).signature args = .ok F) :
    ∃ v, args = [v] ∧ lookup testName
      ((F.bindAll (Render.hoists p vs)).bindAll (σ.helpers p) :: frames) = some v.keep := by
  have signature : (σ.draft.code p).signature = ⟨[testName], none⟩ := by
    simp [Draft.code, Function.substitute, Draft.function, helper, testHelper]
  have plain : IsPlainName testName := .inl (by decide)
  have notLocal : testName ∉ (Render.hoists p vs).map Prod.fst := by
    simp only [Render.hoists, List.map_map, List.mem_map, Function.comp_apply]
    rintro ⟨y, hy, is⟩
    exact (Stage.isLocalName_zip sound.ready.made here hy).not_plain (is ▸ plain)
  have notHelper : testName ∉ (σ.helpers p).map Prod.fst := by
    simp only [Stage.helpers, List.map_map, List.mem_map, Function.comp_apply]
    rintro ⟨c, hc, is⟩
    obtain ⟨name, named⟩ := Stage.name_child sound.ready.made here hc
    rw [name] at is
    exact named.not_plain (is ▸ plain)
  rw [signature] at entered
  rcases args with _ | ⟨v, _ | ⟨u, args⟩⟩
  · cases entered
  · refine ⟨v, rfl, lookup_value ?_⟩
    cases entered
    rw [Frame.find?_bindAll_of_notMem notHelper, Frame.find?_bindAll_of_notMem notLocal]
    exact (Frame.find?_bind .empty testName testName (.value v.keep)).trans (if_pos rfl)
  · cases entered

theorem keeps_entered (follows : ∀ d ≤ depth, R.Follows engine d) {args : List Value}
    (here : (q :: above, p) ∈ σ.draft.scopes) (around : Stage.Scene σ R.Agents (q :: above) frames)
    (good : ∀ v ∈ args, v.Holds R.Agents) (followed : ¬ R.Skips p args) :
    Keeps R.I (R.price p) (σ.entered (callWithin engine depth) frames p args) (R.Returned engine p args) := by
  refine Keeps.andThen (Keeps.lift fun F entered => entered) fun F entered => ?_
  refine (Stage.keeps_readAll fun u hu k w hw => sound.hoist here followed hu hw).andThen fun vs reads => ?_
  have namespaces (fields : List (String × Value)) :
      Keeps R.I 0 (callWithin engine depth .namespaceType [] fields) fun v =>
        v = .object (fields.map Prod.fst) (fields.map Prod.snd) .fresh := by
    cases depth with
    | zero => exact .throw
    | succ depth => exact Keeps.lift fun v is => (Except.ok.inj is).symm
  refine (Stage.keeps_gather sound.ready here around entered good reads namespaces).andThen
    fun G ⟨scene, reaches, same⟩ => ?_
  have run {x : Expr} (selects : Selects p.region args x) : Keeps R.I (R.price p)
      (eval (callWithin engine depth) (G :: frames) (x.substitute σ.draft.decision))
      (R.Returned engine p args) := by
    obtain ⟨fine, spent⟩ := sound.code here followed selects
    refine ((keeps_code sound follows scene reaches fine).weaken spent).mono fun v hv => ?_
    exact ⟨hv.1, x, selects, hv.2⟩
  obtain ⟨loops, nested⟩ := sound.ready.made.nestedAt here
  cases nested with
  | @conditional _ _ _ _ modifier condition body otherwise _ child inherits named kind test helper coded =>
    have still : iterator? p = none := by simp [iterator?, helper, testHelper, iteratorOf]
    obtain ⟨v, rfl, found⟩ := lookup_test sound vs frames here helper entered
    rw [← same still] at found
    have result : σ.draft.result p = .conditional condition (body.substitute σ.draft.decision)
        (otherwise.substitute σ.draft.decision) := by
      simp [Draft.result, helper, testHelper, resultOf, Expr.substitute,
        substitute_condition _ test]
    obtain ⟨u, evaluated, holds⟩ := eval_condition test found
    rw [result, eval, visit_plain rfl, evaluated, pure_bind, holds, admits_keep]
    split
    · next h => exact run (.holds test helper rfl h)
    · next h => exact run (.fails test helper rfl (by simpa using h))
  | @loop _ _ _ _ l body _ child inherits uses named kind noted helper coded =>
    have result : σ.draft.result p = body.substitute σ.draft.decision := by
      cases l <;> simp [Draft.result, helper, loopHelper, resultOf]
    rw [result]
    exact run (.loop helper)

theorem callWithin_helper {args : List Value} (here : (q :: above, p) ∈ σ.draft.scopes)
    (around : Stage.Scene σ R.Agents (q :: above) frames) :
    callWithin engine (depth + 1) (σ.closure p frames) args [] =
      (noteCall (.function (σ.draft.code p).name args) >>= fun _ =>
        σ.entered (callWithin engine depth) frames p args) := by
  rw [callWithin, Stage.callOnce_helper sound.ready.made here fun F entered =>
    Stage.lookup_component_entered sound.ready here around entered]

theorem Sound.follows (depth : Nat) : R.Follows engine depth := by
  induction depth using Nat.strongRecOn with
  | ind depth ih =>
    have helper : R.FollowsHelpers engine depth fun _ _ => True := by
      intro p q above frames args _ here around good
      by_cases skipped : R.Skips p args
      · exact sound.skip depth skipped here around good
      · cases depth with
        | zero => exact Keeps.throw.weaken (Nat.zero_le _)
        | succ depth =>
          rw [callWithin_helper sound here around]
          exact Keeps.andThen (Q := fun _ => True)
            (fun k w hw => ⟨sound.enter here skipped hw, fun _ _ => trivial⟩) fun _ _ =>
            keeps_entered sound (fun d hd => ih d (Nat.lt_succ_of_le hd)) here around good skipped
    exact ⟨fun f args keywords hf hargs hkeywords => keeps_call sound helper hf hargs hkeywords, helper⟩

variable (depth) in
theorem Sound.keeps_render (here : ([], p) ∈ σ.draft.scopes) (followed : ¬ R.Skips p σ.given)
    (fine : R.Fine engine [p] p.children σ.draft.root) {k : Nat} {w : World} (start : w.context = σ.kept)
    (hw : R.I.holds k w) :
    R.I.holds (k + cost R.spend σ.draft.root)
        ((callWithin engine (depth + 2) (σ.closure p [σ.outer]) σ.given []).run.run w).2 ∧
      ∀ v, ((callWithin engine (depth + 2) (σ.closure p [σ.outer]) σ.given []).run.run w).1 = .ok v →
        v.Holds R.Agents ∧ Yields engine (R.Told engine) p.children σ.draft.root v := by
  have made := sound.ready.made
  have none : p.region.helper = none := by
    obtain ⟨loops, nested⟩ := made.nestedAt here
    cases nested with
    | root number kind helper coded => exact helper
  have result : σ.draft.result p = σ.draft.root.substitute σ.draft.decision := by
    simp [Draft.result, none]
  have serves : (callWithin engine (depth + 1)).Serves := ⟨engine, callWithin engine depth, rfl⟩
  have body : Keeps R.I (cost R.spend σ.draft.root) (do
      noteCall (.function renderName σ.given)
      let vs ← σ.readAll p
      eval (callWithin engine (depth + 1)) [Frame.empty.bindAll (σ.top p vs), σ.outer]
        (σ.draft.result p)) fun v =>
          v.Holds R.Agents ∧ Yields engine (R.Told engine) p.children σ.draft.root v := by
    refine Keeps.andThen (Q := fun _ => True) (fun k w hw => ⟨?_, fun _ _ => trivial⟩) fun _ _ => ?_
    · have entered := sound.enter here followed hw
      rwa [(made.code_root here).1] at entered
    refine (Stage.keeps_readAll fun u hu k w hw => sound.hoist here followed hu hw).andThen fun vs reads => ?_
    have reaches : Stage.Reaches σ p [Frame.empty.bindAll (σ.top p vs), σ.outer] := by
      intro c hc
      refine ⟨_, Stage.closure_of_find? made here hc ?_, .inl rfl⟩
      refine Stage.find?_top made here vs reads.length_eq.symm (List.Subset.refl _) (Stage.binds_iff.mpr ?_)
      exact (Stage.name_child made here hc).1 ▸ .helper hc
    rw [result]
    exact keeps_code sound (fun d _ => sound.follows d) (.top here reads) reaches fine
  rw [callWithin, Stage.run_render made here serves start]
  exact body k w hw

end Calls

end Regime

end TemplateCompiler.Render
