import TemplateCompiler.Proofs.Generate.Keys
import TemplateCompiler.Proofs.Generate.Unscoping

/-!
The option that scopes references into the same document. Two walks over one template, with the option and
without it, go side by side: their scopes differ only in the scoped references inside helpers, and their
emitters only in the primitive that scopes references.
-/

namespace TemplateCompiler.Scope

open TemplateCompiler.Code

namespace Tree

mutual

theorem map_map (f g : Region → Region) : ∀ t : Tree, (t.map f).map g = t.map (g ∘ f)
  | .node _ children => by rw [map, map, map, mapAll_map f g children]; rfl

theorem mapAll_map (f g : Region → Region) : ∀ ts : List Tree,
    mapAll g (mapAll f ts) = mapAll (g ∘ f) ts
  | [] => rfl
  | t :: ts => by rw [mapAll, mapAll, mapAll, map_map f g t, mapAll_map f g ts]

end

end Tree

namespace Context

variable (f : Region → Region)

theorem map_map (c : Context) (g : Region → Region) : (c.map f).map g = c.map (g ∘ f) := by
  have once (o : OpenScope) : mapOpen g (mapOpen f o) = mapOpen (g ∘ f) o := by
    simp [mapOpen, Tree.map_map]
  simp [map, once]

/-- A property of all scopes, open or closed. -/
def All (Q : Region → Prop) (c : Context) : Prop := ∀ o ∈ c.path, ∀ r ∈ o.close.regions, Q r

variable {f} {Q : Region → Prop} {c : Context}

theorem All.map (h : c.All Q) (keeps : ∀ r, Q r → Q (f r)) : (c.map f).All Q := by
  intro o ho
  have path : (c.map f).path = c.path.map (mapOpen f) := rfl
  obtain ⟨p, hp, rfl⟩ := List.mem_map.mp (path ▸ ho)
  rw [close_mapOpen, Tree.regions_map]
  intro r hr
  obtain ⟨r', hr', rfl⟩ := List.mem_map.mp hr
  exact keeps r' (h p hp r' hr')

theorem mem_regions_enclose {t : Tree} {o : OpenScope} {r : Region} :
    r ∈ (enclose t o).regions ↔ r ∈ o.close.regions ∨ r ∈ t.regions := by
  simp [enclose, OpenScope.close, Tree.regions, Tree.regionsAll_eq_flatMap, or_assoc]

theorem All.tree (h : c.All Q) : ∀ r ∈ c.tree.regions, Q r := by
  have outer (os : List OpenScope) (t : Tree) (ht : ∀ r ∈ t.regions, Q r)
      (hos : ∀ o ∈ os, ∀ r ∈ o.close.regions, Q r) : ∀ r ∈ (os.foldl enclose t).regions, Q r := by
    induction os generalizing t with
    | nil => exact ht
    | cons o os ih =>
      refine ih _ (fun r hr => ?_) fun o' ho' => hos o' (List.mem_cons_of_mem _ ho')
      exact (mem_regions_enclose.mp hr).elim (hos o List.mem_cons_self r) (ht r)
  exact outer _ _ (h _ List.mem_cons_self) fun o ho => h o (List.mem_cons_of_mem _ ho)

end Context

end TemplateCompiler.Scope

namespace TemplateCompiler.Generate

open TemplateCompiler.Code TemplateCompiler.Scope TemplateCompiler.Template

theorem filter_addNew {α : Type} [BEq α] [LawfulBEq α] (q : α → Bool) (xs : List α) (x : α) :
    (Emit.addNew xs x).filter q = if q x then Emit.addNew (xs.filter q) x else xs.filter q := by
  unfold Emit.addNew
  by_cases hx : q x <;> by_cases has : x ∈ xs <;> simp [hx, has, List.filter_append]

/-- The emitters differ in nothing but the primitive that scopes references. -/
structure Emitter.Alike (E E' : Emitter) : Prop where
  same : E' = { E with primitives := E'.primitives }
  primitives : E'.primitives.filter (· ≠ .scopedFragment) = E.primitives.filter (· ≠ .scopedFragment)

theorem Emitter.Alike.call {E E' : Emitter} (h : E.Alike E') (p : Primitive) :
    Emitter.Alike { E with primitives := Emit.addNew E.primitives p }
      { E' with primitives := Emit.addNew E'.primitives p } := by
  refine ⟨?_, ?_⟩
  · rw [h.same]
  · simp only [filter_addNew, h.primitives]

theorem Emitter.Alike.scoped {E E' : Emitter} (h : E.Alike E') :
    Emitter.Alike { E with primitives := Emit.addNew E.primitives .scopedFragment } E' := by
  refine ⟨?_, ?_⟩
  · exact h.same
  · simp only [filter_addNew, h.primitives]
    rfl

structure ConfinedRegion (P : String → Expr → Prop) (r : Region) : Prop where
  named : r.helperName ∉ scopingNames
  body : ConfinedHelper P r

/-- The states of two walks, with the option and without it. -/
structure Alike (P : String → Expr → Prop) (s s' : WalkState) : Prop where
  context : s'.context = s.context.map unscopedRegion
  confined : s.context.All (ConfinedRegion P)
  emitter : s.emitter.Alike s'.emitter

/-- Two walks side by side: where the one with the option succeeds, so does the other, and its result is
known from the first. -/
def Alongside {α β : Type} (P : String → Expr → Prop) (C : α → Prop) (g : α → β) (m : WalkM α)
    (m' : WalkM β) : Prop :=
  ∀ s s' a t, Alike P s s' → Runs m s a t → C a ∧ ∃ t', Runs m' s' (g a) t' ∧ Alike P t t'

abbrev StepAlong {α : Type} (P : String → Expr → Prop) (m : WalkM α) : Prop :=
  Alongside P (fun _ => True) id m m

abbrev ValueAlong (P : String → Expr → Prop) (m m' : WalkM Expr) : Prop :=
  Alongside P (Confined P) (unscoped false) m m'

abbrev EntryAlong (P : String → Expr → Prop) (key : String) (m m' : WalkM Expr) : Prop :=
  Alongside P (fun x => ConfinedEntry P (key, x)) (unscoped false) m m'

section Rules

variable {α β γ δ : Type} {P : String → Expr → Prop} {C : α → Prop} {g : α → β} {D : γ → Prop}
  {k : γ → δ}

theorem Alongside.pure {a : α} {b : β} (h : C a) (is : g a = b) : Alongside P C g (pure a) (pure b) := by
  intro s s' _ t alike run
  obtain ⟨rfl, rfl⟩ := runs_pure.mp run
  exact ⟨h, s', runs_pure.mpr ⟨is, rfl⟩, alike⟩

theorem Alongside.throw {e : Failure} {m' : WalkM β} : Alongside P C g (throw e) m' :=
  fun _ _ _ _ _ run => absurd run not_runs_throw

theorem Alongside.bind {m : WalkM α} {m' : WalkM β} {f : α → WalkM γ} {f' : β → WalkM δ}
    (first : Alongside P C g m m') (next : ∀ a, C a → Alongside P D k (f a) (f' (g a))) :
    Alongside P D k (m >>= f) (m' >>= f') := by
  intro s s' b t alike run
  obtain ⟨a, u, h1, h2⟩ := runs_bind.mp run
  obtain ⟨hc, u', run1, after⟩ := first s s' a u alike h1
  obtain ⟨hd, t', run2, last⟩ := next a hc u u' b t after h2
  exact ⟨hd, t', runs_bind.mpr ⟨_, u', run1, run2⟩, last⟩

theorem Alongside.mono {C' : α → Prop} {m : WalkM α} {m' : WalkM β} (h : Alongside P C g m m')
    (le : ∀ a, C a → C' a) : Alongside P C' g m m' :=
  fun s s' a t alike run => (h s s' a t alike run).imp_left (le a)

theorem ValueAlong.entry {m m' : WalkM Expr} (h : ValueAlong P m m') (key : String) : EntryAlong P key m m' :=
  h.mono fun _ hx => hx.entry key

theorem emit_bind (m : EmitM α) (f : α → EmitM γ) :
    Walk.emit (m >>= f) = Walk.emit m >>= fun a => Walk.emit (f a) := rfl

theorem Alongside.emit {step : EmitM α} {step' : EmitM β} (h : ∀ E E' : Emitter, E.Alike E' →
    C (step E).1 ∧ g (step E).1 = (step' E').1 ∧ (step E).2.Alike (step' E').2) :
    Alongside P C g (Walk.emit step) (Walk.emit step') := by
  intro s s' a t alike run
  obtain ⟨rfl, rfl⟩ := Walk.runs_emit.mp run
  obtain ⟨hc, is, emitter⟩ := h _ _ alike.emitter
  exact ⟨hc, _, Walk.runs_emit.mpr ⟨is, rfl⟩, alike.context, alike.confined, emitter⟩

theorem along_framed {step : EmitM α} (h : ∀ (E : Emitter) ps,
    step { E with primitives := ps } = ((step E).1, { (step E).2 with primitives := ps })) :
    StepAlong P (Walk.emit step) := by
  refine .emit fun E E' alike => ?_
  have kept : (step E).2.primitives = E.primitives := congrArg (·.2.primitives) (h E E.primitives)
  have run := h E E'.primitives
  rw [← alike.same] at run
  rw [run]
  exact ⟨trivial, rfl, rfl, by rw [kept]; exact alike.primitives⟩

theorem localName_not_scoping {p : Primitive} (h : p ≠ .scopedFragment) : p.localName ∉ scopingNames := by
  cases p <;> first | exact absurd rfl h | decide

theorem along_call {p : Primitive} {args args' : List Expr} (other : p ≠ .scopedFragment)
    (h : ∀ x ∈ args, Confined P x) (is : args.map (unscoped false) = args') :
    ValueAlong P (Walk.emit (Emit.call p args))
      (Walk.emit (Emit.call p args')) := by
  have named := localName_not_scoping other
  exact .emit fun E E' alike =>
    ⟨confined_apply named h, (unscoped_apply false named args).trans (by rw [is]; rfl), alike.call p⟩

theorem along_quietCall {p : Primitive} {args : List Expr} (other : p ≠ .scopedFragment)
    (h : args.flatMap (Expr.callsAmong scopingNames) = []) :
    ValueAlong P (Walk.emit (Emit.call p args))
      (Walk.emit (Emit.call p args)) := by
  have quiet : ∀ x ∈ args, Unlinked x := List.flatMap_eq_nil_iff.mp h
  refine along_call other (fun x hx => (quiet x hx).confined) ?_
  exact (List.map_congr_left fun x hx => (quiet x hx).unscoped false).trans (List.map_id' args)

theorem along_same {x : Expr} (h : Unlinked x) :
    ValueAlong P (Pure.pure x) (Pure.pure x) := .pure h.confined (h.unscoped false)

theorem along_sanitized {e : Element} {name : String} {reference : Expr}
    (h : ScopesOnly P reference) (kept : unscoped true reference = reference) :
    ValueAlong P
      (Walk.emit (Emit.sanitizeAttribute e.tag e.namespaceName name reference))
      (Walk.emit (Emit.sanitizeAttribute e.tag e.namespaceName name reference)) := by
  have quiet (text : String) : Unlinked (.str text) := Expr.callsAmong_str _ _
  refine .emit fun E E' alike => ⟨confined_sanitizing ?_, unscoped_sanitizing false ?_, ?_, alike.primitives⟩
  · simpa using ⟨(quiet _).scopesOnly, (quiet _).scopesOnly, (quiet _).scopesOnly, h⟩
  · simpa using ⟨(quiet _).unscoped true, (quiet _).unscoped true, (quiet _).unscoped true, kept⟩
  · change { E' with runtimeHelpers := _ } = _
    rw [alike.same]
    rfl

theorem Stands.unlinked {e x : Expr} (h : Stands e x) : Unlinked x := by
  obtain ⟨scope, locals, bound⟩ := h
  exact bound.callsAmong

theorem along_bindExpr (locals : List String) (e : Expr) :
    Alongside P (Stands e) id (Walk.bindExpr locals e) (Walk.bindExpr locals e) := by
  intro s s' a t alike run
  obtain ⟨rfl, rfl⟩ := Walk.runs_bindExpr.mp run
  have same : Walk.bound s' locals e = Walk.bound s locals e := by
    rw [Walk.bound, Walk.bound, alike.context]
    rfl
  refine ⟨⟨_, locals, _, rfl⟩, _, Walk.runs_bindExpr.mpr ⟨by rw [same]; rfl, rfl⟩, ?_, ?_, alike.emitter⟩
  · rw [same, alike.context]
    rfl
  · intro o ho
    rcases List.mem_cons.mp ho with rfl | ho
    · intro r hr
      have held := alike.confined _ List.mem_cons_self
      rcases List.mem_cons.mp hr with rfl | hr
      · exact ⟨(held _ List.mem_cons_self).named, (held _ List.mem_cons_self).body⟩
      · exact held r (List.mem_cons_of_mem _ hr)
    · exact alike.confined o (List.mem_cons_of_mem _ ho)

theorem isPlainName_scoping : ∀ id ∈ scopingNames, IsPlainName id := by
  simp only [scopingNames, List.forall_mem_cons]
  exact ⟨isPlainName_primitive _, .inl (by decide), List.forall_mem_nil _⟩

theorem along_push {kind : ScopeKind} (named : kind ∈ helperKinds) :
    StepAlong P (Walk.push kind) := by
  intro s s' _ t alike run
  obtain rfl := Walk.runs_push.mp run
  refine ⟨trivial, _, Walk.runs_push.mpr rfl, ?_, ?_, alike.emitter⟩
  · change s'.context.push kind = (s.context.push kind).map unscopedRegion
    rw [alike.context]
    simp [Context.push, Context.map, Context.mapOpen, unscopedRegion]
  · intro o ho
    rcases List.mem_cons.mp ho with rfl | ho
    · intro r hr
      obtain rfl := List.mem_singleton.mp hr
      have helper : IsHelperName (Context.helperName kind s.context.nextId
        s.context.current.children.length) := ⟨kind, named, _, _, rfl⟩
      exact ⟨fun h => helper.not_plain (isPlainName_scoping _ h), fun _ is => by cases is⟩
    · exact alike.confined o ho

theorem along_pop :
    Alongside P (fun r => r.helperName ∉ scopingNames) unscopedRegion Walk.pop Walk.pop := by
  intro s s' r t alike run
  obtain ⟨parent, outer, inside, rfl, rfl⟩ := Walk.runs_pop.mp run
  have around : s'.context.outer =
      Context.mapOpen unscopedRegion parent :: outer.map (Context.mapOpen unscopedRegion) := by
    rw [alike.context, Context.map, inside]
    rfl
  have current : s'.context.current = Context.mapOpen unscopedRegion s.context.current := by
    rw [alike.context]
    rfl
  have held := alike.confined _ List.mem_cons_self
  refine ⟨(held _ List.mem_cons_self).named, _,
    Walk.runs_pop.mpr ⟨_, _, around, by rw [current]; rfl, rfl⟩, ?_, ?_, alike.emitter⟩
  · rw [current, Context.close_mapOpen, alike.context]
    simp [Context.map, Context.mapOpen]
  · have path : ∀ o ∈ parent :: outer, ∀ r ∈ o.close.regions, ConfinedRegion P r := fun o ho =>
      alike.confined o (List.mem_cons_of_mem _ (inside ▸ ho))
    intro o ho
    rcases List.mem_cons.mp ho with rfl | ho
    · intro r hr
      exact (Context.mem_regions_enclose.mp hr).elim (path _ List.mem_cons_self r) (held r)
    · exact path o (List.mem_cons_of_mem _ ho)

theorem along_setHelper {region : Region} {helper : Helper} (h : ∀ s ∈ helper.body, ConfinedStmt P s) :
    Alongside P (· = .own region.helperName) id (Walk.setHelper region helper)
      (Walk.setHelper (unscopedRegion region) (unscopedHelper helper)) := by
  intro s s' x t alike run
  obtain ⟨number, rfl, rfl⟩ := Walk.runs_setHelper.mp run
  refine ⟨rfl, _, Walk.runs_setHelper.mpr ⟨number, rfl, rfl⟩, ?_, ?_, alike.emitter⟩
  · simp only [alike.context, Context.update, Context.map_map]
    congr 1
    funext r
    simp only [Function.comp_apply]
    have id : (unscopedRegion r).id = r.id := rfl
    have id' : (unscopedRegion region).id = region.id := rfl
    rw [id, id']
    split <;> rfl
  · refine alike.confined.map fun r hr => ?_
    split
    · exact ⟨hr.named, fun code is => by cases is; exact h⟩
    · exact hr

theorem along_takeKey : StepAlong P Walk.takeKey := by
  intro s s' n t alike run
  obtain ⟨rfl, rfl⟩ := Walk.runs_takeKey.mp run
  have next : s'.context.nextKey = s.context.nextKey := by
    rw [alike.context]
    rfl
  refine ⟨trivial, _, Walk.runs_takeKey.mpr ⟨next.symm, rfl⟩, ?_, alike.confined, alike.emitter⟩
  rw [next, alike.context]
  rfl

theorem along_inIteration : StepAlong P Walk.inIteration := by
  intro s s' b t alike run
  obtain ⟨rfl, rfl⟩ := Walk.runs_inIteration.mp run
  refine ⟨trivial, _, Walk.runs_inIteration.mpr ⟨?_, rfl⟩, alike⟩
  rw [alike.context]
  simp [Context.inIteration, Context.path, Context.map, Context.mapOpen, unscopedRegion, List.any_map,
    Function.comp_def]

end Rules

/-- What the value of an attribute is, given what stands for expressions. -/
def AttributeGives (R : Expr → Expr → Prop) (a : Attribute) (v : Expr) : Prop :=
  match a.value with
  | .expression (some value) => R value v
  | .text value => v = .str value
  | _ => False

/-- The value of a link, under the name that it has in the table of its element. -/
def LinkOf (R : Expr → Expr → Prop) (e : Element) (key : String) (v : Expr) : Prop :=
  e.tag ∈ ["a", "area"] ∧ e.namespaceName = htmlNamespace ∧
    ∃ a, (key, a) ∈ e.attrs.entries ++ e.props.entries ∧ a.name = "href" ∧ AttributeGives R a v

section Data

variable {P : String → Expr → Prop} {on off : Config} (hon : on.scopeFragments.truthy = true)
  (hoff : off.scopeFragments.truthy = false) {e : Element} {locals : List String}

theorem not_svgUse_of_allows {name : String} (h : allowsFragmentUrl e.tag name e.namespaceName = true) :
    isSvgUseReference e.tag name e.namespaceName = false := by
  simp only [allowsFragmentUrl, Bool.and_eq_true, List.contains_eq_mem, decide_eq_true_eq] at h
  have other : e.tag ≠ "use" := by
    rintro is
    rw [is] at h
    exact absurd h.1.2 (by decide)
  simp [isSvgUseReference, other]

theorem along_scoped {v : Expr} {key : String} (plain : Unlinked v) (allowed : P key v) :
    EntryAlong P key (Walk.emit (Emit.scopedFragment v))
      (Walk.emit (pure v)) :=
  .emit fun _ _ alike =>
    ⟨confinedEntry_scoping plain allowed, (unscoped_scoping v).trans (plain.unscoped false), alike.scoped⟩

theorem along_svgUse {v : Expr} (plain : Unlinked v) (name : String) :
    ValueAlong P
      (Walk.emit do Emit.sanitizeAttribute e.tag e.namespaceName name (← Emit.scopedFragment v))
      (Walk.emit do Emit.sanitizeAttribute e.tag e.namespaceName name (← Emit.scopedFragment v)) := by
  rw [emit_bind]
  refine .bind (C := (· = scoping v)) (g := id) (.emit fun E E' alike => ⟨rfl, rfl, alike.call _⟩) ?_
  rintro _ rfl
  exact along_sanitized (scopesOnly_scoping plain) (unscoped_true_scoping plain)

include hon hoff

theorem along_expressionAttribute {a : Attribute} {key : String} {asAttribute : Bool} {v : Expr}
    (plain : Unlinked v) (allowed : allowsFragmentUrl e.tag a.name e.namespaceName = true → P key v) :
    EntryAlong P key
      (Walk.emit (expressionAttribute on e a.name asAttribute v))
      (Walk.emit (expressionAttribute off e a.name asAttribute v)) := by
  have one : [v].flatMap (Expr.callsAmong scopingNames) = [] := by simpa using plain
  unfold expressionAttribute
  simp only [hon, hoff, Bool.true_and, Bool.false_and, Bool.false_eq_true, if_false]
  split
  · refine (along_same ?_).entry key
    simpa [Unlinked, Emit.booleanAttribute, Expr.none] using plain
  · split
    · exact (along_quietCall (by decide) one).entry key
    · split
      · exact (along_quietCall (by decide) one).entry key
      · by_cases links : allowsFragmentUrl e.tag a.name e.namespaceName = true
        · rw [if_pos links, if_neg (by simp [not_svgUse_of_allows links])]
          exact along_scoped plain (allowed links)
        · rw [if_neg links]
          split
          · exact (along_svgUse plain a.name).entry key
          · exact (along_same plain).entry key

theorem along_textAttribute {a : Attribute} {key : String} {asAttribute : Bool} {value : String}
    (allowed : allowsFragmentUrl e.tag a.name e.namespaceName = true → P key (.str value)) :
    EntryAlong P key
      (Walk.emit (textAttribute on e a.name asAttribute value))
      (Walk.emit (textAttribute off e a.name asAttribute value)) := by
  have plain : Unlinked (.str value) := Expr.callsAmong_str _ _
  have one : [Expr.str value].flatMap (Expr.callsAmong scopingNames) = [] := by simp
  unfold textAttribute
  simp only [hon, hoff, Bool.true_and, Bool.false_and, Bool.false_eq_true, if_false]
  split
  · exact (along_quietCall (by decide) one).entry key
  · split
    · exact (along_same (Expr.callsAmong_constant _ _)).entry key
    · split
      · exact (along_same (Expr.callsAmong_constant _ _)).entry key
      · split
        · exact (along_quietCall (by decide) one).entry key
        · by_cases links : allowsFragmentUrl e.tag a.name e.namespaceName = true
          · simp only [links, not_svgUse_of_allows links, Bool.true_and, Bool.false_eq_true, if_false]
            split
            · exact along_scoped plain (allowed links)
            · exact (along_same plain).entry key
          · simp only [links, Bool.false_and, Bool.false_eq_true, if_false]
            split
            · split
              · exact (along_svgUse plain a.name).entry key
              · exact (along_sanitized plain.scopesOnly (plain.unscoped true)).entry key
            · exact (along_same plain).entry key

theorem along_attributeValue {a : Attribute} {key : String} {asAttribute : Bool}
    (held : (key, a) ∈ e.attrs.entries ++ e.props.entries)
    (links : ∀ key v, LinkOf Stands e key v → P key v) :
    EntryAlong P key
      (attributeValue on e locals asAttribute a) (attributeValue off e locals asAttribute a) := by
  have allowed (v : Expr) (gives : AttributeGives Stands a v)
      (h : allowsFragmentUrl e.tag a.name e.namespaceName = true) : P key v := by
    simp only [allowsFragmentUrl, Bool.and_eq_true, List.contains_eq_mem, decide_eq_true_eq,
      beq_iff_eq] at h
    exact links key v ⟨h.1.2, h.2, a, held, h.1.1, gives⟩
  unfold attributeValue
  cases value : a.value with
  | expression expr =>
    cases expr with
    | none => exact .throw
    | some expr =>
      refine .bind (along_bindExpr locals expr) fun v stands => ?_
      exact along_expressionAttribute hon hoff stands.unlinked
        (allowed v (by simpa [AttributeGives, value] using stands))
  | text value' => exact along_textAttribute hon hoff (allowed _ (by simp [AttributeGives, value]))
  | flag value' =>
    refine (along_same ?_).entry key
    split
    · exact Expr.callsAmong_str _ _
    · exact .of_silent (occurrences_toExpr value')

end Data

section Bag

variable {P : String → Expr → Prop} {on off : Config} {e : Element} {locals : List String}

def unscopedEntries (entries : List (String × Expr)) : List (String × Expr) :=
  entries.map fun e => (e.1, unscoped false e.2)

def ConfinedEntries (P : String → Expr → Prop) (entries : List (String × Expr)) : Prop :=
  ∀ e ∈ entries, ConfinedEntry P e

theorem along_mapEntries {α : Type} {f f' : α → WalkM Expr} {entries : List (String × α)}
    (h : ∀ x ∈ entries,
      EntryAlong P x.1 (f x.2) (f' x.2)) :
    Alongside P (ConfinedEntries P) unscopedEntries (mapEntries f entries) (mapEntries f' entries) := by
  induction entries with
  | nil => exact .pure nofun rfl
  | cons x rest ih =>
    refine .bind (h x List.mem_cons_self) fun y hy => ?_
    refine .bind (ih fun z hz => h z (List.mem_cons_of_mem _ hz)) fun ys hys => ?_
    exact .pure (List.forall_mem_cons.mpr ⟨hy, hys⟩) rfl

theorem along_tableEntry {α : Type} {f f' : α → WalkM Expr} {table : Table α} (name : String)
    (h : ∀ x ∈ table.entries,
      EntryAlong P x.1 (f x.2) (f' x.2)) :
    Alongside P (ConfinedEntries P) unscopedEntries (tableEntry name table f) (tableEntry name table f') := by
  unfold tableEntry
  split
  · exact .pure nofun rfl
  · refine .bind (along_mapEntries h) fun entries confined => .pure ?_ ?_
    · simpa [ConfinedEntries] using (confined_record confined).entry name
    · rw [unscopedEntries, List.map_singleton, unscoped_record]
      rfl

theorem along_boundEntry (name : String) (value : Option Expr) :
    Alongside P (ConfinedEntries P) unscopedEntries (boundEntry name locals value)
      (boundEntry name locals value) := by
  cases value with
  | none => exact .pure nofun rfl
  | some value =>
    refine .bind (along_bindExpr locals value) fun x stands => .pure ?_ ?_
    · simpa [ConfinedEntries] using stands.unlinked.confined.entry name
    · rw [unscopedEntries, List.map_singleton, stands.unlinked.unscoped]
      rfl

theorem along_keyValue (key : Option Expr) :
    ValueAlong P (keyValue locals key) (keyValue locals key) := by
  cases key with
  | none => exact .bind along_takeKey fun number _ => along_same (Expr.callsAmong_constant _ _)
  | some key =>
    refine .bind (along_bindExpr locals key) fun x stands => .bind along_takeKey fun number _ => ?_
    exact along_quietCall (by decide) (by simpa using stands.unlinked)

theorem along_handlerValue (handler : Expr) :
    ValueAlong P (handlerValue locals handler) (handlerValue locals handler) := by
  refine .bind (along_bindExpr locals handler) fun x stands => ?_
  have one : [x].flatMap (Expr.callsAmong scopingNames) = [] := by simpa using stands.unlinked
  have memoized : ValueAlong P (Walk.emit (Emit.memoizedHandler x))
      (Walk.emit (Emit.memoizedHandler x)) := by
    rw [Emit.memoizedHandler, emit_bind]
    refine .bind (along_framed fun E ps => rfl) fun name _ => ?_
    rw [emit_bind, emit_bind]
    refine .bind (C := (· = .apply (.own Primitive.bind.localName) [x])) (g := id)
      (.emit fun E E' alike => ⟨rfl, rfl, alike.call _⟩) ?_
    rintro _ rfl
    refine along_same ?_
    have named : Primitive.bind.localName ∉ scopingNames := by decide
    simpa [Unlinked, Expr.apply, Expr.callsAmong_call, Expr.ownAmong, named] using stands.unlinked
  cases plain : x.isPlaceholder with
  | false =>
    simp only [id, plain, Bool.false_and, Bool.false_eq_true, if_false]
    exact along_quietCall (by decide) one
  | true =>
    simp only [id, plain, Bool.true_and]
    refine .bind along_inIteration fun inside _ => ?_
    cases inside
    · exact memoized
    · exact along_quietCall (by decide) one

theorem along_dataBag (hon : on.scopeFragments.truthy = true) (hoff : off.scopeFragments.truthy = false)
    (links : ∀ key v, LinkOf Stands e key v → P key v) :
    ValueAlong P (dataBag on e locals) (dataBag off e locals) := by
  unfold dataBag
  refine .bind (along_boundEntry _ _) fun className h1 => ?_
  refine .bind (along_tableEntry _ fun x _ => (along_same (Expr.callsAmong_constant _ _)).entry _) fun classMap h2 => ?_
  refine .bind (along_tableEntry _ fun x _ => (along_same (Expr.callsAmong_str _ _)).entry _) fun styleMap h3 => ?_
  refine .bind (along_boundEntry _ _) fun style h4 => ?_
  refine .bind (along_tableEntry _ fun x hx =>
    along_attributeValue hon hoff (List.mem_append_left _ hx) links) fun attrs h5 => ?_
  refine .bind (along_tableEntry _ fun x hx =>
    along_attributeValue hon hoff (List.mem_append_right _ hx) links) fun props h6 => ?_
  refine .bind (along_keyValue _) fun key h7 => ?_
  refine .bind (along_tableEntry _ fun x _ => (along_handlerValue x.2).entry x.1)
    fun handlers h8 => ?_
  have dom : ∀ entry ∈ domEntry e.dom, Unlinked entry.2 := fun x hx => (entries_domEntry e.dom x hx).2
  have domSame : (domEntry e.dom).map (fun x => (x.1, unscoped false x.2)) = domEntry e.dom := by
    conv_rhs => rw [← List.map_id (domEntry e.dom)]
    exact List.map_congr_left fun x hx => Prod.ext rfl ((dom x hx).unscoped false)
  refine .pure (confined_record ?_) ?_
  · have keyed : ConfinedEntries P [("key", key)] := by simpa [ConfinedEntries] using h7.entry "key"
    simp only [ConfinedEntries, List.forall_mem_append] at *
    exact ⟨⟨⟨⟨⟨⟨⟨⟨h1, h2⟩, h3⟩, h4⟩, h5⟩, h6⟩, fun x hx => (dom x hx).confined.entry x.1⟩, keyed⟩, h8⟩
  · rw [unscoped_record]
    simp only [List.map_append, List.map_singleton, domSame, unscopedEntries]

end Bag

def unscopedRendered (r : Rendered) : Rendered := ⟨r.entries.map (unscoped false), r.nested⟩

def ConfinedRendered (P : String → Expr → Prop) (r : Rendered) : Prop := ∀ x ∈ r.entries, Confined P x

section Lowering

variable {P : String → Expr → Prop} {on off : Config} {e : Element} {locals : List String}

theorem single?_unscoped {r : Rendered} (h : ConfinedRendered P r) :
    (unscopedRendered r).single? = r.single?.map (unscoped false) := by
  unfold Rendered.single? unscopedRendered
  obtain ⟨entries, nested⟩ := r
  match entries, h with
  | [], _ => rfl
  | [x], h =>
    have starred := (h x (List.mem_singleton_self x)).isStarred
    simp only [List.map_cons, List.map_nil, starred]
    split <;> rfl
  | x :: y :: rest, _ => rfl

theorem ConfinedRendered.single {r : Rendered} {x : Expr} (h : ConfinedRendered P r)
    (only : r.single? = some x) : Confined P x :=
  h x (by rw [Rendered.entries_of_single? only]; exact List.mem_singleton_self x)

theorem confined_list {items : List Expr} (h : ∀ x ∈ items, Confined P x) : Confined P (.list items) :=
  .node rfl h

theorem along_package {r : Rendered} (h : ConfinedRendered P r) :
    ValueAlong P (package r) (package (unscopedRendered r)) := by
  unfold package
  rw [single?_unscoped h]
  cases nested : r.nested with
  | false => simpa [unscopedRendered, nested] using .pure (confined_list h) (unscoped_list _ _)
  | true =>
    simp only [unscopedRendered, nested, Bool.not_true, Bool.false_eq_true, if_false]
    cases only : r.single? with
    | some x => exact .pure (h.single only) rfl
    | none =>
      refine along_call (by decide) (by simpa using confined_list h) ?_
      rw [List.map_singleton, unscoped_list]

theorem along_fragmentBody {r : Rendered} (h : ConfinedRendered P r) :
    ValueAlong P (fragmentBody r) (fragmentBody (unscopedRendered r)) := by
  unfold fragmentBody
  rw [single?_unscoped h]
  cases only : r.single? with
  | some x => exact .pure (h.single only) rfl
  | none => exact along_package h

theorem along_applyIf {body otherwise otherwise' : Expr} (hb : Confined P body) (ho : Confined P otherwise)
    (is : unscoped false otherwise = otherwise') :
    ValueAlong P (applyIf on e body locals otherwise)
      (applyIf off e (unscoped false body) locals otherwise') := by
  subst is
  unfold applyIf
  cases e.branch with
  | none => exact .throw
  | some branch =>
    cases test : branch.test with
    | none =>
      simp only [test]
      exact .throw
    | some test' =>
      simp only [test]
      cases asks : testExpr? branch.modifier with
      | none => exact .throw
      | some condition =>
        have quiet : Unlinked condition := calls_test (by decide) asks
        have confined : Confined P (.conditional condition body otherwise) :=
          .node rfl (by simpa [Expr.parts] using ⟨quiet.confined, hb, ho⟩)
        have same : testHelper condition (unscoped false body) (unscoped false otherwise) =
            unscopedHelper (testHelper condition body otherwise) := by
          simp [testHelper, unscopedHelper, unscopedStmt, unscoped_conditional, quiet.unscoped]
        simp only [same]
        refine .bind along_pop fun region named => ?_
        refine .bind (along_bindExpr locals test') fun x stands => ?_
        refine .bind (along_setHelper (by simpa [testHelper, ConfinedStmt] using confined)) ?_
        rintro _ rfl
        refine .pure (confined_apply named (by simpa using stands.unlinked.confined)) ?_
        rw [unscoped_apply _ named, List.map_singleton, stands.unlinked.unscoped]
        rfl

theorem along_enterIteration :
    StepAlong P (enterIteration e locals) := by
  unfold enterIteration
  cases e.loop? with
  | none => exact .pure trivial rfl
  | some loop =>
    exact .bind (along_push (by cases loop <;> simp [loopKind, helperKinds])) fun _ _ => .pure trivial rfl

theorem loopHelper_unscoped {body : Expr} (h : Confined P body) (loop : Loop) :
    (∀ s ∈ (loopHelper body loop).body, ConfinedStmt P s) ∧
      loopHelper (unscoped false body) loop = unscopedHelper (loopHelper body loop) := by
  cases loop with
  | each f => simpa [loopHelper, unscopedHelper, unscopedStmt, ConfinedStmt] using h
  | of f =>
    have name : Unlinked (.name f.iterator) := Expr.callsAmong_name _ _
    have value : Unlinked (namespaceValue f.iterator) := calls_namespaceValue (by decide) _
    simpa [loopHelper, unscopedHelper, unscopedStmt, ConfinedStmt, name.unscoped, value.unscoped] using
      ⟨⟨name.confined, value.confined⟩, h⟩

theorem along_applyIteration {body : Expr} (h : Confined P body) :
    ValueAlong P (applyIteration e body locals)
      (applyIteration e (unscoped false body) locals) := by
  unfold applyIteration
  cases e.loop? with
  | none => exact .throw
  | some loop =>
    obtain ⟨confined, same⟩ := loopHelper_unscoped h loop
    simp only [same]
    refine .bind along_pop fun region named => ?_
    refine .bind (along_framed fun E ps => by cases loop <;> rfl) fun _ _ => ?_
    refine .bind (along_setHelper confined) ?_
    rintro _ rfl
    refine .bind (along_bindExpr locals loop.items) fun items stands => ?_
    exact along_quietCall (by decide) (by simpa using stands.unlinked)

theorem along_elementCall {data children : Expr} (hd : Confined P data) (hc : Confined P children) :
    ValueAlong P (elementCall e locals data children)
      (elementCall e locals (unscoped false data) (unscoped false children)) := by
  have str (text : String) : Unlinked (.str text) := Expr.callsAmong_str _ _
  unfold elementCall
  cases e.dynamic with
  | some constructor =>
    refine .bind (along_bindExpr locals constructor) fun x stands => ?_
    refine along_call (by decide) (by simpa using ⟨(str _).confined, stands.unlinked.confined, hd, hc⟩) ?_
    simp [(str _).unscoped, stands.unlinked.unscoped]
  | none =>
    cases e.kind with
    | component reference =>
      simp only [Emit.customElement, emit_bind]
      refine .bind (along_framed fun E ps => ?_) fun name _ => ?_
      · simp only [Emit.component]
        cases E.components.get? reference <;> rfl
      · refine along_call (by decide) (by simpa using ⟨(str _).confined, (unlinked_own _).confined, hd, hc⟩) ?_
        simp [(str _).unscoped, (unlinked_own _).unscoped]
    | slot slotName =>
      simp only [Emit.slot, emit_bind]
      refine .bind (along_framed fun E ps => ?_) fun name _ => ?_
      · simp only [Emit.slotName]
        cases E.slots.get? slotName <;> rfl
      · refine along_call (by decide) (by simpa using ⟨(str _).confined, hd, hc, (unlinked_own _).confined⟩) ?_
        simp [(str _).unscoped, (unlinked_own _).unscoped]
    | plain =>
      refine along_call (by decide) (by simpa using ⟨(str _).confined, hd, hc⟩) ?_
      simp [(str _).unscoped]

def SiblingsAlong (P : String → Expr → Prop) (children children' : Siblings) : Prop :=
  ∀ locals, Alongside P (ConfinedRendered P) unscopedRendered (children locals) (children' locals)

theorem along_rendered {x : Expr} {nested : Bool} (h : Confined P x) :
    Alongside P (ConfinedRendered P) unscopedRendered (pure ⟨[x], nested⟩)
      (pure ⟨[unscoped false x], nested⟩) :=
  .pure (by simpa [ConfinedRendered] using h) rfl

theorem along_starred {x : Expr} {nested : Bool} (h : Confined P x) :
    Alongside P (ConfinedRendered P) unscopedRendered (pure ⟨[.starred x], nested⟩)
      (pure ⟨[.starred (unscoped false x)], nested⟩) := by
  refine .pure ?_ (by simp [unscopedRendered, unscoped_starred])
  simpa [ConfinedRendered] using Confined.node rfl (by simpa [Expr.parts] using h)

theorem unlinked_emptyAs (x : Expr) : Unlinked (emptyAs x) := by
  unfold emptyAs
  split
  · refine .node rfl fun y hy => ?_
    obtain ⟨z, -, rfl⟩ := List.mem_map.mp hy
    exact Expr.callsAmong_constant _ _
  · exact Expr.callsAmong_constant _ _

section Elements

variable (hon : on.scopeFragments.truthy = true) (hoff : off.scopeFragments.truthy = false)
  {children children' : Siblings} (below : SiblingsAlong P children children')

include below

theorem along_lowerConditional :
    SiblingsAlong P (lowerConditional on e children) (lowerConditional off e children') := by
  intro locals
  refine .bind (along_push (by decide)) fun _ _ => .bind (below locals) fun r hr => ?_
  unfold conditionalEntries
  rw [single?_unscoped hr]
  cases only : r.single? with
  | some x =>
    have single := hr.single only
    have empty : Unlinked (if isListValued x then .list [] else emptyAs x) := by
      split
      · exact Expr.callsAmong_list _ []
      · exact unlinked_emptyAs x
    simp only [Option.map_some, single.isListValued, single.emptyAs, bind_assoc, pure_bind]
    exact .bind (along_applyIf single empty.confined (empty.unscoped false)) fun y hy => along_rendered hy
  | none =>
    have empty := unlinked_emptyAs (.list r.entries)
    have list : Expr.list (unscopedRendered r).entries = unscoped false (.list r.entries) :=
      (unscoped_list _ _).symm
    simp only [Option.map_none, list, (confined_list hr).emptyAs, bind_assoc, pure_bind]
    exact .bind (along_applyIf (confined_list hr) empty.confined (empty.unscoped false)) fun y hy =>
      along_starred hy

theorem along_lowerFragment :
    SiblingsAlong P (lowerFragment on e children) (lowerFragment off e children') := by
  intro locals
  have content : SiblingsAlong P (if e.branch.isSome then lowerConditional on e children else children)
      (if e.branch.isSome then lowerConditional off e children' else children') := by
    split
    · exact along_lowerConditional below
    · exact below
  refine .bind along_enterIteration fun inner _ => .bind (content inner) fun r hr => ?_
  cases e.iterates with
  | false => exact .pure hr rfl
  | true =>
    refine .bind (along_fragmentBody hr) fun body hb => ?_
    exact .bind (along_applyIteration hb) fun x hx => along_rendered hx

include hon hoff

theorem along_makeElement (links : ∀ key v, LinkOf Stands e key v → P key v) (locals : List String) :
    ValueAlong P (makeElement on e children locals)
      (makeElement off e children' locals) := by
  refine .bind (along_dataBag hon hoff links) fun data hd => ?_
  refine .bind (below locals) fun r hr => .bind (along_package hr) fun made hm => ?_
  exact along_elementCall hd hm

theorem along_makeConditional (links : ∀ key v, LinkOf Stands e key v → P key v) (locals : List String) :
    ValueAlong P (makeConditional on e children locals)
      (makeConditional off e children' locals) := by
  refine .bind (along_push (by decide)) fun _ _ => ?_
  refine .bind (along_makeElement hon hoff below links locals) fun made hm => ?_
  have empty : Unlinked (if e.isSlot then .list [] else emptyAs made) := by
    split
    · exact Expr.callsAmong_list _ []
    · exact unlinked_emptyAs made
  exact along_applyIf hm empty.confined (by rw [empty.unscoped, hm.emptyAs])

theorem along_lowerElement (links : ∀ key v, LinkOf Stands e key v → P key v) (conditional : Bool) :
    SiblingsAlong P (lowerElement on e conditional children) (lowerElement off e conditional children') := by
  intro locals
  refine .bind along_enterIteration fun inner _ => ?_
  refine .bind (C := Confined P) (g := unscoped false) ?_ fun made hm => ?_
  · cases conditional && e.branch.isSome with
    | true => exact along_makeConditional hon hoff below links inner
    | false => exact along_makeElement hon hoff below links inner
  · cases e.iterates with
    | false => exact along_rendered hm
    | true => exact .bind (along_applyIteration hm) fun x hx => along_rendered hx

theorem along_lowerBranch (links : e.isFragment = false → ∀ key v, LinkOf Stands e key v → P key v)
    (locals : List String) :
    ValueAlong P (lowerBranch on e children locals)
      (lowerBranch off e children' locals) := by
  unfold lowerBranch
  cases fragment : e.isFragment with
  | true => exact .bind (below locals) fun r hr => along_package hr
  | false =>
    refine .bind (along_lowerElement hon hoff below (links fragment) false locals) fun r hr => ?_
    exact along_package hr

end Elements

def LinksAllowed (P : String → Expr → Prop) (es : List Element) : Prop :=
  ∀ e ∈ es, ∀ key v, LinkOf Stands e key v → P key v

theorem LinksAllowed.counted (h : LinksAllowed P e.counted) :
    e.isFragment = false → ∀ key v, LinkOf Stands e key v → P key v := by
  intro plain
  refine h e ?_
  rw [Element.counted, plain]
  exact List.mem_singleton_self e

theorem linksAllowed_append {es fs : List Element} :
    LinksAllowed P (es ++ fs) ↔ LinksAllowed P es ∧ LinksAllowed P fs := List.forall_mem_append

variable (hon : on.scopeFragments.truthy = true) (hoff : off.scopeFragments.truthy = false)

include hon hoff

mutual

theorem along_lower :
    ∀ b : Block, LinksAllowed P b.counted → SiblingsAlong P (lower on b) (lower off b)
  | .text value | .comment value => by
    intro _ locals
    rw [lower, lower]
    exact .bind (along_quietCall (by decide) (by simp)) fun x hx => along_rendered hx
  | .dynamicText value => by
    intro _ locals
    rw [lower, lower]
    refine .bind (along_bindExpr locals value) fun v stands => ?_
    exact .bind (along_quietCall (by decide) (by simpa using stands.unlinked)) fun x hx => along_rendered hx
  | .bare _ => by
    intro _ locals
    rw [lower]
    exact .throw
  | .element e children => by
    intro links locals
    rw [Block.counted, linksAllowed_append] at links
    have below : SiblingsAlong P (lowerAll on children) (lowerAll off children) :=
      along_lowerAll children links.2
    rw [lower, lower]
    cases fragment : e.isFragment with
    | true => exact along_lowerFragment below locals
    | false => exact along_lowerElement hon hoff below (links.1.counted fragment) true locals
  | .chain members => by
    intro links locals
    rw [lower, lower]
    exact .bind (along_lowerChain members links locals) fun x hx => along_starred hx
  | .stray [] => by
    intro _ locals
    rw [lower, lower]
    exact .pure nofun rfl
  | .stray (b :: _) => by
    intro _ locals
    cases b with
    | element e children =>
      rw [lower]
      exact .throw
    | _ =>
      unfold lower
      exact .pure nofun rfl

theorem along_lowerAll : ∀ bs : List Block, LinksAllowed P (Block.countedAll bs) →
    SiblingsAlong P (lowerAll on bs) (lowerAll off bs)
  | [] => by
    intro _ locals
    rw [lowerAll, lowerAll]
    exact .pure nofun rfl
  | b :: bs => by
    intro links locals
    rw [Block.countedAll, linksAllowed_append] at links
    rw [lowerAll, lowerAll]
    refine .bind (along_lower b links.1 locals) fun first hf => ?_
    refine .bind (along_lowerAll bs links.2 locals) fun rest hr => ?_
    exact .pure (List.forall_mem_append.mpr ⟨hf, hr⟩) (by simp [unscopedRendered, Rendered.append])

theorem along_lowerChain : ∀ bs : List Block, LinksAllowed P (Block.countedChain bs) →
    ∀ locals, ValueAlong P (lowerChain on bs locals) (lowerChain off bs locals)
  | .element e children :: rest => by
    intro links locals
    rw [Block.countedChain, linksAllowed_append, linksAllowed_append] at links
    have branch := along_lowerBranch hon hoff (along_lowerAll children links.1.2)
      links.1.1.counted locals
    rw [lowerChain, lowerChain]
    split
    · exact branch
    · next last =>
      rw [if_neg last] at links
      refine .bind (along_push (by decide)) fun _ _ => .bind branch fun body hb => ?_
      refine .bind (along_lowerChain rest links.2 locals) fun otherwise ho => ?_
      exact along_applyIf hb ho rfl
  | [] | .text _ :: _ | .dynamicText _ :: _ | .comment _ :: _ | .bare _ :: _ | .chain _ :: _
  | .stray _ :: _ => by
    intro _ locals
    unfold lowerChain
    exact along_same (Expr.callsAmong_list _ [])

end

theorem along_lowerRoot {children : List Node} (links : LinksAllowed P (Node.countedAll children)) :
    ValueAlong P (lowerRoot on children) (lowerRoot off children) := by
  rw [← countedAll_arrange] at links
  exact .bind (along_lowerAll hon hoff _ links []) fun r hr => along_package hr

end Lowering

/-- The statements of a render function after the one that takes the primitives. -/
def Draft.rest (d : Draft) : List Stmt :=
  List.map (Stmt.substitute d.decision) (d.tree.collect.leading [] ++
    d.emitter.slots.entries.map (fun s => takeEntry s.2 slotSetName s.1) ++
    d.emitter.memoNames.map (fun m => takeEntry m contextName m) ++ [.ret d.root])

theorem Draft.finished_eq (d : Draft) : d.finished =
    .function renderName renderSignature (primitiveStmts d.emitter.primitives ++ d.rest) := by
  rw [Draft.finished, Draft.stmt, Stmt.substitute, Stmt.substituteAll_eq_map, substitute_renderBody,
    renderBody]
  simp [Draft.rest, Function.comp_def]
  rfl

structure Draft.Alike (P : String → Expr → Prop) (d d' : Draft) : Prop where
  tree : d'.tree = d.tree.map unscopedRegion
  helpers : ∀ r ∈ d.tree.regions, ConfinedHelper P r
  emitter : d.emitter.Alike d'.emitter
  confined : Confined P d.root
  root : d'.root = unscoped false d.root

def ScopesLink (R : Expr → Expr → Prop) (es : List Element) (key : String) (v : Expr) : Prop :=
  ∃ e ∈ es, LinkOf R e key v

theorem draft_alike {on off : Config} {root : Node} {d d' : Draft}
    (hon : on.scopeFragments.truthy = true) (hoff : off.scopeFragments.truthy = false)
    (h : draft? on root = some d) (h' : draft? off root = some d') :
    Draft.Alike (ScopesLink Stands (Node.countedAll root.content)) d d' := by
  cases root with
  | element e children =>
    unfold draft? at h h'
    simp only at h h'
    split at h
    · next x s hs =>
      have start : Generate.Alike (ScopesLink Stands (Node.countedAll children)) .initial .initial := by
        refine ⟨rfl, fun o ho r hr => ?_, rfl, rfl⟩
        obtain rfl := List.mem_singleton.mp ho
        obtain rfl := List.mem_singleton.mp hr
        exact ⟨by decide, nofun⟩
      obtain ⟨confined, s', run, alike⟩ := along_lowerRoot hon hoff (fun e he key v link => ⟨e, he, link⟩)
        _ _ x s start hs
      rw [show (lowerRoot off children).run.run .initial = (.ok (unscoped false x), s') from run] at h'
      cases h
      cases h'
      refine ⟨?_, fun r hr => (alike.confined.tree r hr).body, alike.emitter, confined, rfl⟩
      rw [alike.context, Context.tree_map]
    · cases h
  | _ => cases h

theorem takeEntry_unscoped {P : String → Expr → Prop} (name mapping key : String) :
    ConfinedStmt P (takeEntry name mapping key) ∧
      unscopedStmt (takeEntry name mapping key) = takeEntry name mapping key :=
  confinedStmt_quiet rfl (by simp [takeEntry, Stmt.callsAmong, Expr.apply, Expr.callsAmong_call, Expr.ownAmong])

theorem Draft.Alike.decision {P : String → Expr → Prop} {d d' : Draft} (h : d.Alike P d') :
    d'.decision = d.decision := by
  rw [Draft.decision, Draft.decision, h.tree, Tree.collect_unscoped, Tree.decide_unscoped,
    Tree.target_unscoped]

theorem Draft.Alike.leading {P : String → Expr → Prop} {d d' : Draft} (h : d.Alike P d') :
    (∀ s ∈ d.tree.collect.leading [], ConfinedStmt P s) ∧
      d'.tree.collect.leading [] = (d.tree.collect.leading []).map unscopedStmt := by
  rw [h.tree, Tree.collect_unscoped]
  refine leading_unscoped d.tree.collect [] fun r hr => ?_
  have held : r.helper ∈ d.tree.regions.map Region.helper := by
    rw [← Tree.map_helper_collect]
    exact List.mem_map_of_mem hr
  obtain ⟨q, hq, same⟩ := List.mem_map.mp held
  rw [ConfinedHelper, ← same]
  exact h.helpers q hq

theorem Draft.Alike.rest {P Q : String → Expr → Prop} {d d' : Draft} (h : d.Alike P d')
    (avoids : Expr.Avoids scopingNames d.decision)
    (decided : ∀ key v, P key v → Q key (v.substitute d.decision)) :
    (∀ s ∈ d.rest, ConfinedStmt Q s) ∧ d'.rest = d.rest.map unscopedStmt := by
  obtain ⟨leading, leading'⟩ := h.leading
  constructor
  · rw [Draft.rest, List.forall_mem_map]
    intro s hs
    refine ConfinedStmt.substitute avoids decided s ?_
    simp only [List.mem_append, List.mem_map, List.mem_singleton] at hs
    rcases hs with ((hs | ⟨x, -, rfl⟩) | ⟨x, -, rfl⟩) | rfl
    · exact leading s hs
    · exact (takeEntry_unscoped _ _ _).1
    · exact (takeEntry_unscoped _ _ _).1
    · exact h.confined
  · have tables : d'.emitter.slots = d.emitter.slots ∧ d'.emitter.memoNames = d.emitter.memoNames := by
      rw [h.emitter.same]
      exact ⟨rfl, rfl⟩
    rw [Draft.rest, Draft.rest, tables.1, tables.2, h.decision, leading', h.root]
    simp [unscopedStmt, Function.comp_def, unscopedStmt_substitute avoids,
      (takeEntry_unscoped (P := P) _ _ _).2]

/-- The programs of two drafts differ only in scoped references, and those are values of links. -/
structure DifferInScoping (root : Node) (d d' : Draft) (on off : Program) : Prop where
  tree : d'.tree = d.tree.map unscopedRegion
  decided : d'.tree.collect.decide [] = (d.tree.collect.decide []).map unscopedRegion
  hoistings : d'.tree.collect.hoistings [] = d.tree.collect.hoistings []
  emitter : d.emitter.Alike d'.emitter
  render : ∃ rest,
    renderOf on.stmts = some (.function renderName renderSignature
      (primitiveStmts d.emitter.primitives ++ rest)) ∧
    renderOf off.stmts = some (.function renderName renderSignature
      (primitiveStmts d'.emitter.primitives ++ rest.map unscopedStmt)) ∧
    ∀ s ∈ rest, ConfinedStmt (ScopesLink (Decided d) (Node.countedAll root.content)) s

/-- Scoping references is an option of its own: with it and without it, a template has the same scopes,
decisions and tables, and the code differs in the scoped references of links only. -/
theorem scoping_isolated {config : Config} {root : Node} {on off : Compiled}
    (hon : (compile { config with scopeFragments := .bool true } root).1 = .ok on)
    (hoff : (compile { config with scopeFragments := .bool false } root).1 = .ok off) :
    ∃ d d', draft? { config with scopeFragments := .bool true } root = some d ∧
      draft? { config with scopeFragments := .bool false } root = some d' ∧
      DifferInScoping root d d' on.program off.program := by
  obtain ⟨d, hd, render, -⟩ := draft_of_generate (generate_of_compile hon)
  obtain ⟨d', hd', render', -⟩ := draft_of_generate (generate_of_compile hoff)
  have alike := draft_alike rfl rfl hd hd'
  have avoids := (made_of_draft? hd).avoids fun id h => .inl (isPlainName_scoping id h)
  have decided (key : String) (v : Expr) (h : ScopesLink Stands (Node.countedAll root.content) key v) :
      ScopesLink (Decided d) (Node.countedAll root.content) key (v.substitute d.decision) := by
    obtain ⟨e, he, tag, space, a, held, named, gives⟩ := h
    refine ⟨e, he, tag, space, a, held, named, ?_⟩
    unfold AttributeGives at gives ⊢
    split at gives
    · obtain ⟨scope, locals, us, rfl⟩ := gives
      exact ⟨_, (keeps_bind scope locals (Expr.written_asWritten _) us).unbound, rfl⟩
    · rw [gives]
      rfl
    · exact gives
  obtain ⟨confined, rest⟩ := alike.rest avoids decided
  rw [d.finished_eq] at render
  rw [d'.finished_eq, rest] at render'
  refine ⟨d, d', hd, hd', alike.tree, ?_, ?_, alike.emitter, d.rest, render, render', confined⟩
  · rw [alike.tree, Tree.collect_unscoped, Tree.decide_unscoped]
  · rw [alike.tree, Tree.collect_unscoped, Tree.hoistings_unscoped]

/-- Links with a computed and with a written reference, one of them under a condition, beside a reused
drawing. -/
def linkedPage : Node :=
  let href (value : AttributeValue) : Table Attribute := .ofList [("href", ⟨"href", value⟩)]
  .root [
    .element { Element.ofTag "a" with
        attrs := href (.expression (some (.name "target")))
        branch := some ⟨some (.name "target"), .holds, .opening⟩ } [.show (.name "label")],
    .element { Element.ofTag "area" with attrs := href (.text "#top") } [],
    .element { Element.ofTag "use" with namespaceName := svgNamespace, attrs := href (.text "#icon") } []]

theorem linkedPage_isolated : ∃ on off d d',
    (compile { Config.default with scopeFragments := .bool true } linkedPage).1 = .ok on ∧
    (compile { Config.default with scopeFragments := .bool false } linkedPage).1 = .ok off ∧
    DifferInScoping linkedPage d d' on.program off.program := by
  obtain ⟨on, hon⟩ := exists_of_isOk
    (x := (compile { Config.default with scopeFragments := .bool true } linkedPage).1) (by decide +kernel)
  obtain ⟨off, hoff⟩ := exists_of_isOk
    (x := (compile { Config.default with scopeFragments := .bool false } linkedPage).1) (by decide +kernel)
  obtain ⟨d, d', -, -, differ⟩ := scoping_isolated hon hoff
  exact ⟨on, off, d, d', hon, hoff, differ⟩

end TemplateCompiler.Generate
