import TemplateCompiler.Proofs.Generate.Keys
import TemplateCompiler.Proofs.Render.Loading
import TemplateCompiler.Proofs.Render.Running

/-!
Renders in which all children are as told. Handlers make no nodes: evaluating one cannot break an invariant
that is about the calls with children and about what the context keeps. If in the code of every scope all
children that it can yield are as told, then so are the children in all calls of a render.
-/

namespace TemplateCompiler.Render

open TemplateCompiler.Code TemplateCompiler.Generate TemplateCompiler.Scope TemplateCompiler.Template

section Handlers

variable {I : Invariant} {A : Value → Prop} {n : Nat} {e x : Expr} {m : RunM Value} {Q : Value → Prop}

theorem run_visit (site : isSite e) (m : RunM Value) (w : World) : (visit e m).run.run w =
    ((m.run.run w).1, { (m.run.run w).2 with
      visits := (m.run.run w).2.visits ++
        [⟨e, (m.run.run w).2.calls.drop w.calls.length, (m.run.run w).1⟩] }) := by
  have first : (get : RunM World).run.run w = (.ok w, w) := rfl
  have lifted : (ExceptT.lift m.run : RunM (Except Fault Value)).run.run w =
      (.ok (m.run.run w).1, (m.run.run w).2) := rfl
  rw [visit, if_pos site, run_bind, first]
  simp only [run_bind, lifted]
  cases (m.run.run w).1 <;> rfl

/-- An invariant that handlers cannot break. -/
structure Invariant.Lenient (I : Invariant) (A : Value → Prop) : Prop where
  visit : ∀ {k : Nat} {w : World} (v : Visit), I.holds k w → I.holds k { w with visits := w.visits ++ [v] }
  bind : ∀ {k : Nat} {w : World} (vs : List Value), I.holds k w →
    I.holds k { w with calls := w.calls ++ [.primitive .bind vs] }
  kept : ∀ {k : Nat} {w : World} {key : String} {v : Value}, I.holds k w →
    w.context.get? key = some v → v.Holds A
  keep : ∀ {k : Nat} {w : World} {key : String} {v : Value}, v.Holds A → I.holds k w →
    I.holds k { w with context := w.context.insert key v }

theorem Invariant.Lenient.keeps_visit (lenient : I.Lenient A) (h : Keeps I n m Q) :
    Keeps I n (Render.visit e m) Q := by
  by_cases site : isSite e
  · intro k w hw
    obtain ⟨kept, result⟩ := h k w hw
    rw [run_visit site]
    exact ⟨lenient.visit _ kept, result⟩
  · rwa [visit_plain (by simpa using site)]

variable {σ : Stage} {all : List Node} {engine : Engine} {depth : Nat} {path : List Spot}
  {frames : List Frame}

theorem eval_boundHandler (ready : σ.Ready all) (scene : Stage.Scene σ A path frames)
    (known : .bind ∈ σ.draft.emitter.primitives) : eval (callWithin engine depth) frames (boundHandler x) =
      visit (boundHandler x) (do
        let vs ← evalItems (callWithin engine depth) frames [x]
        callWithin engine depth (.primitive .bind) vs []) := by
  refine (eval_visited Primitive.bind.localName [x]).trans ?_
  rw [eval_own (scene.lookup_primitive ready known), pure_bind]
  rfl

theorem Invariant.Lenient.keeps_bound (lenient : I.Lenient A) (honest : engine.Honest) (ready : σ.Ready all)
    (scene : Stage.Scene σ A path frames) (known : .bind ∈ σ.draft.emitter.primitives)
    (evaluated : Keeps I 0 (evalItems (callWithin engine depth) frames [x]) fun vs => ∀ v ∈ vs, v.Holds A) :
    Keeps I 0 (eval (callWithin engine depth) frames (boundHandler x)) (Value.Holds A) := by
  rw [eval_boundHandler ready scene known]
  refine lenient.keeps_visit (evaluated.andThen fun vs hvs => ?_)
  cases depth with
  | zero => exact .throw
  | succ depth =>
    rw [callWithin, callOnce]
    refine Keeps.andThen (Q := fun _ => True) (fun k w hw => ⟨lenient.bind vs hw, fun _ _ => trivial⟩)
      fun _ _ => ?_
    exact Keeps.lift fun v made => honest.make A .bind vs v hvs made

theorem Invariant.Lenient.keeps_setDefault (lenient : I.Lenient A) {v : Value} (hv : v.Holds A)
    (key : String) : Keeps I 0 (setDefault key v) (Value.Holds A) := by
  refine Keeps.andThen (Q := fun w => ∃ k, I.holds k w) ?_ fun w' ⟨k, hw'⟩ => ?_
  · exact fun k w hw => ⟨hw, fun a ha => ⟨k, by cases ha; exact hw⟩⟩
  · split
    · next old found => exact .pure (lenient.kept hw' found)
    · refine Keeps.andThen (Q := fun _ => True) (fun k w hw => ⟨lenient.keep hv hw, fun _ _ => trivial⟩)
        fun _ _ => .pure hv

/-- A handler that is not kept yet is bound and entered. -/
theorem eval_keptHandler (ready : σ.Ready all) (scene : Stage.Scene σ A path frames) {k : Nat}
    (counted : k < σ.draft.emitter.memoCount) :
    eval (callWithin engine depth) frames (keptHandler (memoName k) x) =
      visit (keptHandler (memoName k) x)
        (if (σ.memo (memoName k)).truthy then pure (σ.memo (memoName k)).keep
          else do
            let v ← eval (callWithin engine depth) frames (boundHandler x)
            callWithin engine depth .contextSetDefault [.text (memoName k) .constant, v] []) := by
  have memo : lookup (memoName k) frames = some (σ.memo (memoName k)).keep :=
    scene.lookup_memo ready (List.mem_map_of_mem (List.mem_range.mpr counted))
  have whole : ∀ y, boundHandler x ≠ .starred y := nofun
  have entered : eval (callWithin engine depth) frames
      (.apply (.member (.own contextName) "setdefault") [.str (memoName k), boundHandler x]) = (do
        let v ← eval (callWithin engine depth) frames (boundHandler x)
        callWithin engine depth .contextSetDefault [.text (memoName k) .constant, v] []) := by
    rw [Expr.apply, eval, visit_plain rfl, eval_member (scene.lookup_context ready)]
    change ((pure .contextSetDefault : RunM Value) >>= _) = _
    rw [pure_bind, evalItems_cons (by simp [Expr.str]), eval_str, pure_bind, evalItems_cons whole, evalItems,
      evalKeywords]
    simp only [pure_bind, bind_assoc]
  conv_lhs => rw [keptHandler, eval]
  refine congrArg (visit (keptHandler (memoName k) x)) ?_
  rw [evalLogical, eval_own memo, pure_bind, truthy_keep]
  cases (σ.memo (memoName k)).truthy with
  | true => rfl
  | false =>
    -- the last operand is the value, whether it counts as true or not
    simp only [Bool.false_eq_true, if_false]
    rw [evalLogical, entered]
    refine (bind_congr fun v => ?_).trans (bind_pure _)
    rw [evalLogical]
    cases v.truthy <;> rfl

theorem Invariant.Lenient.keeps_kept (lenient : I.Lenient A) (honest : engine.Honest) (ready : σ.Ready all)
    (scene : Stage.Scene σ A path frames) (known : .bind ∈ σ.draft.emitter.primitives) {k : Nat}
    (counted : k < σ.draft.emitter.memoCount)
    (evaluated : Keeps I 0 (evalItems (callWithin engine depth) frames [x]) fun vs => ∀ v ∈ vs, v.Holds A) :
    Keeps I 0 (eval (callWithin engine depth) frames (keptHandler (memoName k) x)) (Value.Holds A) := by
  rw [eval_keptHandler ready scene counted]
  refine lenient.keeps_visit ?_
  split
  · exact .pure (Value.holds_keep.mpr (ready.holds_memo _))
  · refine (lenient.keeps_bound honest ready scene known evaluated).andThen fun v hv => ?_
    cases depth with
    | zero => exact .throw
    | succ depth => exact lenient.keeps_setDefault hv (memoName k)

end Handlers

/-- The children in a call of a primitive that takes some, after its other arguments. -/
def Call.Packs (packs : Primitive → List Value → Value → Prop) : Call → Prop
  | .primitive q vs => PacksAmong packs q vs
  | .function .. => True

/-- What is noted is as told, and the context keeps values as told. -/
def notesAs (P : List Call → List String → Prop) (A : Value → Prop) : Invariant where
  holds _ w := P w.calls w.reads ∧ ∀ key v, w.context.get? key = some v → v.Holds A
  more := id
  registry := id

theorem lenient_notesAs {P : List Call → List String → Prop} (A : Value → Prop)
    (bind : ∀ {cs reads} vs, P cs reads → P (cs ++ [.primitive .bind vs]) reads) : (notesAs P A).Lenient A where
  visit _ hw := hw
  bind vs hw := ⟨bind vs hw.1, hw.2⟩
  kept hw found := hw.2 _ _ found
  keep {k w key v} hv hw := by
    refine ⟨hw.1, fun other u found => ?_⟩
    rw [Table.get?_insert] at found
    split at found
    · cases found
      exact hv
    · exact hw.2 other u found

theorem packs_append {packs : Primitive → List Value → Value → Prop} {c : Call} {cs : List Call}
    (hc : c.Packs packs) (h : ∀ x ∈ cs, x.Packs packs) : ∀ x ∈ cs ++ [c], x.Packs packs := by
  intro x hx
  rcases List.mem_append.mp hx with old | new
  · exact h x old
  · exact List.mem_singleton.mp new ▸ hc

/-- A call of the helper of a scope enters one of the branches: the scope stands in it, or it is a condition
whose test chooses it. -/
def enters (placed : List Placed) (branches : List Arm) (number : Nat) (args : List Value) : Bool :=
  placed.any fun
    | .scope other directive arms => other == number && (arms.any branches.contains ||
        match directive, args with
        | .condition b, [v] => branches.contains ⟨number, admits b.modifier v⟩
        | _, _ => false)
    | .use .. => false

theorem live_of_outside {placed : List Placed} {branches arms : List Arm} {number : Nat} {args : List Value}
    {directive : Directive} (outside : enters placed branches number args = false)
    (listed : .scope number directive arms ∈ placed) : Live branches arms ∧
      ∀ b v, directive = .condition b → args = [v] → ⟨number, admits b.modifier v⟩ ∉ branches := by
  have here := List.any_eq_false.mp outside _ listed
  simp only [beq_self_eq_true, Bool.true_and, Bool.or_eq_true, not_or, List.any_eq_true, not_exists, not_and,
    List.contains_iff_mem] at here
  refine ⟨here.1, ?_⟩
  rintro b v rfl rfl
  simpa using here.2

namespace Regime

variable {σ : Stage} {R : Regime σ} {all : List Node}

/-- An expression of the template, as it stands in the code, meets what a regime allows. -/
theorem meets_bound (made : σ.draft.Made (admitted all)) {scope : Nat} {locals : List String} {e x : Expr}
    (h : Bound scope locals e x) (may : ∀ site ∈ holes x.occurrences, R.may site.property) :
    (x.substitute σ.draft.decision).Meets (R.meets locals) := by
  have allowed : x.Meets fun a => ∀ site, a = .hole site → R.may site.property :=
    Expr.meets_of_occurrences fun o ho site is =>
      may site (List.mem_filterMap.mpr ⟨o, ho, by simp [Occurrence.hole?, is]⟩)
  refine (h.meets.and allowed).substitute made.decides (fun a _ h => ?_) fun site h => ?_
  · cases a with
    | own id | read n => exact h.1.elim
    | _ => exact h.1
  · rcases made.decided site with is | is | ⟨scope, k, is⟩
    · exact .atom (by rw [is]; rfl) (a := .hole site) trivial
    · exact .atom (by rw [is]; rfl) (a := .read site.property) (h.2 site rfl)
    · exact .atom (by rw [is]; rfl) (a := .own _) ⟨scope, k, rfl⟩

theorem assembled_selected {p : Spot} {above : List Spot} {idle arms : List Arm} {placed : List Placed}
    {args : List Value} {x : Expr}
    (armed : Armed σ.draft.emitter (fun locals y => (y.substitute σ.draft.decision).Meets (R.meets locals)) idle
      placed arms (namesAlong above) (.node p.region p.children))
    (outside : enters placed idle p.region.id args = false) (selects : Selects p.region args x) :
    Assembled σ.draft.emitter (R.Source (p :: above)) p.children x := by
  generalize hp : Scope.Tree.node p.region p.children = t at armed
  cases armed with
  | @condition _ _ r inner later b condition body otherwise listed test helper holds fails below after =>
    obtain ⟨rfl, children⟩ := Scope.Tree.node.inj hp
    have same : namesAlong (p :: above) = namesAlong above := by simp [namesAlong_cons, helper]
    obtain ⟨v, rfl, rfl⟩ := selects_test test helper selects
    obtain ⟨around, own⟩ := live_of_outside outside listed
    have live : Live idle (arms ++ [⟨p.region.id, admits b.modifier v⟩]) :=
      List.forall_mem_append.mpr ⟨around, by simpa using own b v rfl rfl⟩
    unfold Source
    rw [same, children]
    split
    · next admitted => exact holds (admitted ▸ live)
    · next rejected => exact fails (eq_false_of_ne_true rejected ▸ live)
  | @loop _ _ r children l body listed helper inside below =>
    obtain ⟨rfl, children⟩ := Scope.Tree.node.inj hp
    have names : namesAlong (p :: above) = namesAlong above ++ l.names := by simp [namesAlong_cons, helper]
    obtain rfl := selects_loop helper selects
    unfold Source
    rw [names, children]
    exact inside (live_of_outside outside listed).1

/-- The code of all scopes is assembled from expressions of the template, if the properties may be read that
are read outside the idle branches. -/
theorem assembled_outside {config : Config} {root : Node} (ready : σ.Ready root.content)
    (shaped : σ.draft.Shaped fun L => NodesShape L config root.content) (idle : List Arm)
    (may : ∀ locals e arms, .use locals e arms ∈ root.placements → Live idle arms → ∀ {scope x},
      Bound scope locals e x → ∀ site ∈ holes x.occurrences, R.may site.property) :
    (∀ {p q : Spot} {above : List Spot} {args : List Value} {x : Expr}, (q :: above, p) ∈ σ.draft.scopes →
      enters root.placements idle p.region.id args = false → Selects p.region args x →
      Assembled σ.draft.emitter (R.Source (p :: q :: above)) p.children x) ∧
    Assembled σ.draft.emitter (R.Source [σ.draft.outermost]) σ.draft.outermost.children σ.draft.root := by
  have helper : σ.draft.tree.region.helper = none := ready.made.helpers.1
  have heard : ∀ locals e arms, .use locals e arms ∈ root.placements → Live idle arms →
      Sources (fun y => (y.substitute σ.draft.decision).Meets (R.meets locals)) locals e :=
    fun _ _ _ listed live _ _ bound => meets_bound ready.made bound (may _ _ _ listed live bound)
  obtain ⟨top, armed⟩ := shaped.armed helper heard
  refine ⟨fun {p q above args x} here outside selects => ?_, ?_⟩
  · obtain ⟨arms, armed⟩ := armed (q :: above, p) here (by simp)
    exact assembled_selected armed outside selects
  · have names : namesAlong [σ.draft.outermost] = [] := by simp [namesAlong, Draft.outermost, helper]
    unfold Source
    rw [names]
    exact top

/-- The code of all scopes is assembled from expressions of the template, where all properties may be read. -/
theorem assembled {config : Config} {root : Node} (ready : σ.Ready root.content)
    (shaped : σ.draft.Shaped fun L => NodesShape L config root.content) (may : ∀ n, R.may n) :
    (∀ {p q : Spot} {above : List Spot} {args : List Value} {x : Expr}, (q :: above, p) ∈ σ.draft.scopes →
      Selects p.region args x → Assembled σ.draft.emitter (R.Source (p :: q :: above)) p.children x) ∧
    Assembled σ.draft.emitter (R.Source [σ.draft.outermost]) σ.draft.outermost.children σ.draft.root := by
  obtain ⟨all, top⟩ := assembled_outside (R := R) ready shaped [] fun _ _ _ _ _ _ _ _ _ _ => may _
  refine ⟨fun here => all here (List.any_eq_false.mpr fun x _ => ?_), top⟩
  cases x <;> grind

end Regime

section Yielding

variable {engine : Engine} {told : List Expr → List Value → Prop} {cs : List Tree} {v : Value} {vs : List Value}

theorem yields_list {items : List Expr} (h : Yields engine told cs (.list items) v) :
    ∃ vs, v = .list vs .fresh ∧ Spreads engine told cs items vs := by
  generalize hx : Expr.list items = x at h
  cases h with
  | list h =>
    cases hx
    exact ⟨_, rfl, h⟩
  | nothing | made | called | gathered => cases hx

theorem spreads_cons {x : Expr} {xs : List Expr} (whole : x.isStarred = false)
    (h : Spreads engine told cs (x :: xs) vs) :
    ∃ v rest, vs = v :: rest ∧ Yields engine told cs x v ∧ Spreads engine told cs xs rest := by
  cases h with
  | item whole h rest => exact ⟨_, _, rfl, h, rest⟩
  | starred h items rest => cases whole

theorem spreads_starred {x : Expr} {xs : List Expr} (h : Spreads engine told cs (.starred x :: xs) vs) :
    ∃ v us rest, vs = us ++ rest ∧ Yields engine told cs x v ∧ v.items? = some us ∧
      Spreads engine told cs xs rest := by
  cases h with
  | item whole h rest => cases whole
  | starred h items rest => exact ⟨_, _, _, rfl, h, items, rest⟩

theorem spreads_append {xs ys : List Expr} (h : Spreads engine told cs (xs ++ ys) vs) :
    ∃ us ws, vs = us ++ ws ∧ Spreads engine told cs xs us ∧ Spreads engine told cs ys ws := by
  induction xs generalizing vs with
  | nil => exact ⟨[], vs, rfl, .nil, h⟩
  | cons x xs ih =>
    rw [List.cons_append] at h
    cases h with
    | item whole h rest =>
      obtain ⟨us, ws, rfl, first, second⟩ := ih rest
      exact ⟨_, ws, rfl, .item whole h first, second⟩
    | starred h items rest =>
      obtain ⟨us, ws, rfl, first, second⟩ := ih rest
      exact ⟨_, ws, (List.append_assoc ..).symm, .starred h items first, second⟩

theorem length_of_spreads {xs : List Expr} (whole : ∀ x ∈ xs, x.isStarred = false)
    (h : Spreads engine told cs xs vs) : vs.length = xs.length := by
  induction xs generalizing vs with
  | nil =>
    cases h
    rfl
  | cons x xs ih =>
    obtain ⟨v, rest, rfl, -, later⟩ := spreads_cons (whole x List.mem_cons_self) h
    rw [List.length_cons, List.length_cons, ih (fun y hy => whole y (List.mem_cons_of_mem x hy)) later]

variable {σ : Stage} {U : Uses} {p : Spot} {above : List Spot} (made : σ.draft.Made U)
  (here : (above, p) ∈ σ.draft.scopes)
include made here

theorem yields_made {q : Primitive} {args : List Expr} (other : q ≠ .iterator)
    (h : Yields engine told p.children (.apply (.own q.localName) args) v) :
    ∃ vs, engine.make q vs = .ok v := by
  generalize hx : Expr.apply (.own q.localName) args = x at h
  have plain {c : Tree} (child : c ∈ p.children) : c.region.helperName ≠ q.localName := fun is =>
    (is ▸ (Stage.name_child made here child).2).not_plain (isPlainName_primitive q)
  cases h with
  | nothing | list => cases hx
  | @made _ q' exprs vs _ is =>
    simp only [Expr.apply, Expr.call.injEq, Expr.own.injEq] at hx
    exact ⟨vs, Primitive.localName_injective hx.1 ▸ is⟩
  | called child asked selects h =>
    simp only [Expr.apply, Expr.call.injEq, Expr.own.injEq] at hx
    exact absurd hx.1.symm (plain child)
  | gathered child helper h =>
    simp only [Expr.apply, Expr.call.injEq, Expr.own.injEq] at hx
    exact absurd (Primitive.localName_injective hx.1) other

/-- A call of the helper of a condition yields what is selected by the value of the test. -/
theorem yields_tested {c : Tree} {modifier : Modifier} {condition body otherwise test : Expr}
    (child : c ∈ p.children) (reads : testExpr? modifier = some condition)
    (helper : c.region.helper = some (testHelper condition body otherwise))
    (h : Yields engine told p.children (.apply (.own c.region.helperName) [test]) v) :
    ∃ u, told [test] [u] ∧
      Yields engine told c.children (if admits modifier u then body else otherwise) v := by
  generalize hx : Expr.apply (.own c.region.helperName) [test] = x at h
  have named := (Stage.name_child made here child).2
  cases h with
  | nothing | list => cases hx
  | @made _ q exprs vs _ is =>
    simp only [Expr.apply, Expr.call.injEq, Expr.own.injEq] at hx
    exact absurd (isPlainName_primitive q) (hx.1 ▸ named).not_plain
  | @called _ c' test' x args _ child' asked selects h =>
    simp only [Expr.apply, Expr.call.injEq, Expr.own.injEq, List.cons.injEq, and_true] at hx
    obtain ⟨name, rfl⟩ := hx
    have same := Stage.child_unique made here child child' name
    simp only [Spot.child, Spot.mk.injEq] at same
    rw [← same.1] at selects
    rw [← same.2.1] at h
    obtain ⟨u, rfl, rfl⟩ := Regime.selects_test reads helper selects
    exact ⟨u, asked, h⟩
  | gathered child' helper' h =>
    simp only [Expr.apply, Expr.call.injEq, Expr.own.injEq] at hx
    exact absurd (isPlainName_primitive .iterator) (hx.1 ▸ named).not_plain

/-- A call of the iterator yields what it gathers from the helper of the loop. -/
theorem yields_iterated {c : Tree} {l : Loop} {items body : Expr} (child : c ∈ p.children)
    (helper : c.region.helper = some (loopHelper body l))
    (h : Yields engine told p.children
      (.apply (.own Primitive.iterator.localName) [items, .own c.region.helperName]) v) :
    (∃ args, engine.make .iterator args = .ok v) ∨
      ∃ results, v = engine.gather results ∧ ∀ u ∈ results, Yields engine told c.children body u := by
  generalize hx : Expr.apply (.own Primitive.iterator.localName) [items, .own c.region.helperName] = x at h
  cases h with
  | nothing | list => cases hx
  | @made _ q exprs args _ is =>
    simp only [Expr.apply, Expr.call.injEq, Expr.own.injEq] at hx
    exact .inl ⟨args, Primitive.localName_injective hx.1 ▸ is⟩
  | called child asked selects h => simp [Expr.apply] at hx
  | @gathered _ c' _ body' l' results child' helper' h =>
    simp only [Expr.apply, Expr.call.injEq, Expr.own.injEq, List.cons.injEq, and_true, true_and] at hx
    have same := Stage.child_unique made here child child' hx.2
    simp only [Spot.child, Spot.mk.injEq] at same
    rw [← same.1] at helper'
    rw [← same.2.1, Regime.selects_loop helper (.loop helper' : Selects c.region [] body')] at h
    exact .inr ⟨results, rfl, h⟩

theorem called_of_tested {scope : Nat} {locals : List String} {e : Element} {c : Tree}
    {body otherwise x : Expr} {trees : List Tree} (child : c ∈ p.children)
    (tested : Tested scope locals e body otherwise trees x c) (h : Yields engine told p.children x v) :
    ∃ b test y u, e.branch = some b ∧ b.test = some test ∧ Bound scope locals test y ∧ told [y] [u] ∧
      Yields engine told trees (if admits b.modifier u then body else otherwise) v := by
  cases tested with
  | @mk b test condition y x region has asks reads named kind helper bound is =>
    subst is
    obtain ⟨u, told, h⟩ := yields_tested made here child reads helper h
    exact ⟨b, test, y, u, has, asks, bound, told, h⟩

end Yielding

def childNames : List String :=
  [Primitive.flatten, .element, .customElement, .dynamicComponent, .slot].map Primitive.localName

theorem quiet_childNames : Quiet childNames := ⟨by decide, by decide⟩

namespace Regime

variable {σ : Stage} {R : Regime σ} {engine : Engine} {cs : List Tree} {x : Expr}

theorem packsIn_quiet (quiet : x.callsAmong childNames = []) : R.PacksIn engine cs x := by
  intro q before children after listed place
  have named : q.localName ∈ childNames := by
    cases q <;> first | cases place | decide
  have silent := List.filterMap_eq_nil_iff.mp quiet _ listed
  simp [Expr.callAmong, Expr.apply, Expr.ownAmong, named] at silent

theorem packsIn_silent (silent : x.occurrences = []) : R.PacksIn engine cs x :=
  packsIn_quiet (Expr.callsAmong_silent silent)

theorem PacksIn.of_parts (parts : ∀ y ∈ x.parts, R.PacksIn engine cs y)
    (here : ∀ id args, x ≠ .apply (.own id) args) : R.PacksIn engine cs x := by
  intro q before children after listed
  rw [Expr.nodes_eq] at listed
  rcases List.mem_cons.mp listed with is | listed
  · exact absurd is.symm (here _ _)
  · obtain ⟨y, hy, listed⟩ := List.mem_flatMap.mp listed
    exact parts y hy q before children after listed

theorem packsIn_list {items : List Expr} (h : ∀ y ∈ items, R.PacksIn engine cs y) :
    R.PacksIn engine cs (.list items) := .of_parts h nofun

theorem packsIn_starred (h : R.PacksIn engine cs x) : R.PacksIn engine cs (.starred x) :=
  .of_parts (by simpa [Expr.parts] using h) nofun

theorem packsIn_element {q : Primitive} {before : List Expr} {children : Expr} {after : List String}
    (others : ∀ y ∈ before, y.callsAmong childNames = []) (content : R.PacksIn engine cs children)
    (place : q.afterChildren = some after.length)
    (here : ∀ vs v, R.Told engine before vs → Yields engine (R.Told engine) cs children v → R.packs q vs v) :
    R.PacksIn engine cs (.apply (.own q.localName) (before ++ children :: after.map .own)) := by
  intro q' before' children' after' listed place'
  rw [Expr.nodes_eq] at listed
  rcases List.mem_cons.mp listed with is | listed
  · simp only [Expr.apply, Expr.call.injEq, Expr.own.injEq, and_true] at is
    obtain ⟨name, args⟩ := is
    obtain rfl := Primitive.localName_injective name
    have sizes : after'.length = after.length := Option.some.inj (place'.symm.trans place)
    obtain ⟨rfl, tails⟩ := List.append_inj' args (by simp [sizes])
    obtain ⟨rfl, -⟩ := List.cons.inj tails
    exact here
  · obtain ⟨y, hy, listed⟩ := List.mem_flatMap.mp listed
    have own (id : String) : R.PacksIn engine cs (.own id) := packsIn_quiet (Expr.callsAmong_own _ id)
    refine (?_ : R.PacksIn engine cs y) q' before' children' after' listed place'
    simp only [Expr.apply, Expr.parts, List.append_nil, List.mem_cons, List.mem_append, List.mem_map] at hy
    rcases hy with rfl | hy | rfl | ⟨id, -, rfl⟩
    · exact own _
    · exact packsIn_quiet (others y hy)
    · exact content
    · exact own id

/-- The call that makes an element, in which the children are as they are to be. -/
theorem packsIn_elementCall {L : Ledger} {config : Config} {e : Element} {scope number : Nat}
    {locals : List String} {data children : Expr} (shape : DataShape L config e scope locals number data)
    (call : ElementCall L scope locals e data children x) (content : R.PacksIn engine cs children)
    (here : ∀ front vs v, R.Told engine (front ++ [data]) vs → Yields engine (R.Told engine) cs children v →
      R.packs e.maker vs v) : R.PacksIn engine cs x := by
  obtain ⟨front, after, rfl, place, quiet⟩ := form_of_elementCall childNames call
  refine packsIn_element (fun y hy => ?_) content place (here front)
  rcases List.mem_append.mp hy with hy | hy
  · exact quiet y hy
  · rw [List.mem_singleton.mp hy]
    exact calls_dataShape quiet_childNames ⟨by decide, by decide⟩ shape

theorem packsIn_call {id : String} {args : List Expr} (absent : id ∉ childNames)
    (quiet : ∀ y ∈ args, y.callsAmong childNames = []) : R.PacksIn engine cs (.apply (.own id) args) := by
  refine packsIn_quiet ?_
  rw [Expr.callsAmong_apply _ absent, List.flatMap_eq_nil_iff]
  exact quiet

theorem packsIn_tested {U : Uses} {p : Spot} {above : List Spot} (made : σ.draft.Made U)
    (here : (above, p) ∈ σ.draft.scopes) {scope : Nat} {locals : List String} {e : Element} {c : Tree}
    {body otherwise : Expr} {trees : List Tree} (child : c ∈ p.children)
    (tested : Tested scope locals e body otherwise trees x c) : R.PacksIn engine cs x := by
  have named := (Stage.name_child made here child).2
  cases tested with
  | mk has asks reads _ kind helper bound is =>
    subst is
    refine packsIn_call (fun listed => ?_) (by simp [bound.callsAmong])
    obtain ⟨q, -, is⟩ := List.mem_map.mp listed
    exact named.not_plain (is ▸ isPlainName_primitive q)

/-- In a scope and all scopes below it, the children in the code are as they are to be. -/
inductive PacksBelow (R : Regime σ) (engine : Engine) : Tree → Prop
  | node {r : Region} {children : List Tree}
      (here : ∀ args x, Selects r args x → R.PacksIn engine children x)
      (below : ∀ c ∈ children, PacksBelow R engine c) : PacksBelow R engine (.node r children)

theorem packsBelow_tested {scope : Nat} {locals : List String} {e : Element} {c : Tree}
    {body otherwise : Expr} {trees : List Tree} (tested : Tested scope locals e body otherwise trees x c)
    (first : R.PacksIn engine trees body) (second : R.PacksIn engine trees otherwise)
    (below : ∀ c ∈ trees, R.PacksBelow engine c) : R.PacksBelow engine c := by
  cases tested with
  | mk has asks reads named kind helper bound is =>
    refine .node (fun args y selects => ?_) below
    obtain ⟨v, -, rfl⟩ := selects_test reads helper selects
    split
    · exact first
    · exact second

theorem packsBelow_scopes {d : Generate.Draft} (code : ∀ c ∈ d.tree.children, R.PacksBelow engine c) {p q : Spot}
    {above : List Spot} {args : List Value} (here : (q :: above, p) ∈ d.scopes)
    (selects : Selects p.region args x) : R.PacksIn engine p.children x := by
  rw [Draft.scopes] at here
  generalize d.tree = t at code here
  cases t with
  | node region children =>
    rw [Tree.spots] at here
    have listed := (List.mem_cons.mp here).resolve_left (by simp)
    have deeper {r : Region} {cs : List Tree} (h : R.PacksBelow engine (.node r cs)) :
        ∀ c ∈ cs, R.PacksBelow engine c := by
      cases h with
      | node _ below => exact below
    cases Tree.forall_spotsAll (P := fun _ _ t => R.PacksBelow engine t) deeper code _ listed with
    | node here _ => exact here args x selects

end Regime

namespace Stage

variable (σ : Stage) (I : Invariant) (Free : Spot → Prop) (packs : Primitive → List Value → Value → Prop)

/-- All calls are followed, and nothing is spent. -/
def watching : Regime σ where
  I := I
  Free := Free
  spend _ := 0
  may _ := True
  packs := packs
  Skips _ _ := False

/-- All calls are followed, and only their children are looked at. -/
def packing : Regime σ :=
  σ.watching (notesAs (fun cs _ => ∀ c ∈ cs, c.Packs packs) (Agent σ fun _ => True)) (fun _ => True) packs

variable {σ I Free packs} {all : List Node} {engine : Engine}

theorem sound_watching (ready : σ.Ready all) (honest : engine.Honest) (lenient : I.Lenient (Agent σ Free))
    (free : ∀ x ∈ σ.draft.scopes, namesAlong x.1 ≠ [] → Free x.2)
    (note : ∀ {k w c}, c.Packs packs → I.holds k w → I.holds k { w with calls := w.calls ++ [c] })
    (read : ∀ {k w n}, I.holds k w → I.holds k { w with reads := w.reads ++ [n] })
    (code : ∀ {p q : Spot} {above : List Spot} {args : List Value} {x : Expr},
      (q :: above, p) ∈ σ.draft.scopes → Selects p.region args x →
      (σ.watching I Free packs).Fine engine (p :: q :: above) p.children x) :
    (σ.watching I Free packs).Sound engine all where
  ready := ready
  honest := honest
  free := free
  freely _ _ _ := rfl
  loops _ _ _ _ _ := rfl
  code here _ selects := ⟨code here selects, by simp [cost, watching]⟩
  enter _ _ hw := note trivial hw
  hoist _ _ _ hw := read hw
  read _ hw := read hw
  primitive packed hw := note packed hw
  bound scene known _ evaluated := lenient.keeps_bound honest ready scene known evaluated
  kept scene known counted _ _ evaluated := lenient.keeps_kept honest ready scene known counted evaluated
  skip _ _ _ _ _ _ skipped := skipped.elim

end Stage

/-- What a sound regime keeps holds at the end of a render. -/
theorem Loaded.keeps_render {σ : Stage} {R : Regime σ} {f : RenderFn} {all : List Node} {engine : Engine}
    (loaded : Loaded σ.draft f σ.outer) (sound : R.Sound engine all)
    (followed : ¬ R.Skips σ.draft.outermost σ.given)
    (fine : R.Fine engine [σ.draft.outermost] σ.draft.outermost.children σ.draft.root)
    (start : R.I.holds 0 (.start σ.kept)) :
    ∃ r w, f.renderBy engine σ.properties σ.slots σ.kept = ⟨r, w.reads, w.calls, w.visits, w.context⟩ ∧
      R.I.holds (0 + cost R.spend σ.draft.root) w ∧ ∀ v, r = .ok v →
        Yields engine (R.Told engine) σ.draft.tree.children σ.draft.root v := by
  obtain ⟨depth, deep⟩ := loaded.deep
  obtain ⟨holds, result⟩ := sound.keeps_render depth σ.draft.mem_outermost followed fine rfl start
  refine ⟨_, _, ?_, holds, fun v hv => (result v hv).2⟩
  rw [RenderFn.renderBy, loaded.renderThrough_eq sound.ready.made _ rfl, deep]

/-- In a render the children of all calls are as told, and the result is one that the code can yield, if
all children that the code can yield are as told. -/
theorem Loaded.packed {config : Config} {root : Node} {d : Generate.Draft} {f : RenderFn} {F : Frame}
    {properties slots : Table Data} {context : Table Value} {engine : Engine} {σ : Stage}
    {packs : Primitive → List Value → Value → Prop}
    (loaded : Loaded d f F) (made : d.Made (admitted root.content))
    (shaped : d.Shaped fun L => NodesShape L config root.content) (honest : engine.Honest)
    (kept : ∀ key v, context.get? key = some v → v.Plain) (is : σ = ⟨d, F, properties, slots, context⟩)
    (code : ∀ c ∈ d.tree.children, (σ.packing packs).PacksBelow engine c)
    (top : (σ.packing packs).PacksIn engine d.tree.children d.root) :
    (∀ c ∈ (f.renderBy engine properties slots context).calls, c.Packs packs) ∧
      ∀ v, (f.renderBy engine properties slots context).result = .ok v →
        Yields engine ((σ.packing packs).Told engine) d.tree.children d.root v := by
  subst is
  have ready : Stage.Ready ⟨d, F, properties, slots, context⟩ root.content := loaded.ready made kept
  generalize hσ : Stage.mk d F properties slots context = σ at *
  obtain ⟨rfl, rfl, rfl, rfl, rfl⟩ : σ.draft = d ∧ σ.outer = F ∧ σ.properties = properties ∧ σ.slots = slots ∧
    σ.kept = context := by simp [← hσ]
  obtain ⟨assembled, first⟩ := Regime.assembled (R := σ.packing packs) ready shaped fun _ => trivial
  have sound : (σ.packing packs).Sound engine root.content :=
    Stage.sound_watching ready honest (lenient_notesAs _ fun vs h => packs_append nofun h)
      (fun _ _ _ => trivial) (fun hc hw => ⟨packs_append hc hw.1, hw.2⟩) id fun {p q above args x} here selects =>
        ⟨assembled here selects, Regime.packsBelow_scopes code here selects⟩
  obtain ⟨r, w, run, ⟨calls, -⟩, result⟩ := loaded.keeps_render sound id ⟨first, top⟩
    ⟨nofun, fun key v found => (kept key v found).holds _⟩
  rw [run]
  exact ⟨calls, result⟩

end TemplateCompiler.Render
