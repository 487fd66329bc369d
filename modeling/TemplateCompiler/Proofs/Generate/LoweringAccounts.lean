import TemplateCompiler.Proofs.Generate.DataAccounts

/-!
The walk through a template. Every function that lowers a part of a template makes code of the shape that
the part asks for, keeps the accounts of the scope it works in and serves the requests of the part, and so
does the lowering of the whole template.
-/

namespace TemplateCompiler.Generate

open TemplateCompiler.Code TemplateCompiler.Scope TemplateCompiler.Template

theorem Rendered.entries_of_single? {r : Rendered} {e : Expr} (h : r.single? = some e) :
    r.entries = [e] := by
  unfold single? at h
  split at h
  · split at h
    · cases h
    · cases h
      assumption
  · cases h

@[simp] theorem occurrences_emptyAs (e : Expr) : (emptyAs e).occurrences = [] := by
  cases e with
  | list items =>
    simp only [emptyAs, Expr.occurrences, Expr.occurrencesAll_eq_flatMap, List.flatMap_map]
    rw [List.flatMap_eq_nil_iff]
    exact fun _ _ => rfl
  | _ => rfl

theorem occurrences_otherwise (list : Bool) (e : Expr) :
    (if list then Expr.list [] else emptyAs e).occurrences = [] := by
  cases list
  · exact occurrences_emptyAs e
  · rfl

theorem Chosen.silent {e : Element} {r : Rendered} {body otherwise : Expr} {entry : Expr → Expr}
    (h : Chosen e r body otherwise entry) : otherwise.occurrences = [] := by
  cases h with
  | single only => exact occurrences_otherwise _ body
  | several _ => exact occurrences_emptyAs _

/-- What is gathered from code, for a list of nodes from every node in it. -/
structure Gathers {β : Type} (f : Expr → List β) : Prop where
  list : ∀ xs, f (.list xs) = xs.flatMap f
  starred : ∀ x, f (.starred x) = f x
  flatten : ∀ xs E, f (Emit.flatten xs E).1 = xs.flatMap f

section

variable {β : Type} {f : Expr → List β} {L : Ledger} {e : Element} {r : Rendered} {x body otherwise : Expr}
  {entry : Expr → Expr}

theorem Gathers.packed (gathers : Gathers f) (h : Packed L r x) : f x = r.entries.flatMap f := by
  cases h with
  | plain flat => exact gathers.list _
  | single nested only => rw [Rendered.entries_of_single? only, List.flatMap_singleton]
  | flattened nested several emitted =>
    obtain ⟨E, rfl, -⟩ := emitted
    exact gathers.flatten _ E

theorem Gathers.fragmentBody (gathers : Gathers f) (h : FragmentBody L r x) : f x = r.entries.flatMap f := by
  unfold FragmentBody at h
  split at h
  · next single only => rw [h, Rendered.entries_of_single? only, List.flatMap_singleton]
  · exact gathers.packed h

theorem Gathers.chosen (gathers : Gathers f) (h : Chosen e r body otherwise entry) :
    f body = r.entries.flatMap f ∧ f (entry x) = f x := by
  cases h with
  | single only => exact ⟨by rw [Rendered.entries_of_single? only, List.flatMap_singleton], rfl⟩
  | several _ => exact ⟨gathers.list _, gathers.starred x⟩

end

def branchTest (e : Element) : Option Expr := e.branch.bind Branch.test

section Scopes

variable {U : Uses} {loops : List Loop} {locals : List String} {config : Config} {s t u : WalkState}
  {e : Element} {x : Expr} {r : Rendered} {cs : List Tree} {n : Nat} {rs : List Request}
  {P : Ledger → Prop}

theorem inside_conditional (inside : Inside s locals) : Inside (Walk.entered s .conditional) locals := by
  unfold Inside at inside ⊢
  rw [← inside]
  simp [Walk.entered, Context.push, Context.inIteration, Context.path, ScopeKind.isIteration]

theorem inside_loop (l : Loop) : Inside (Walk.entered s (loopKind l)) (locals ++ l.names) := by
  cases l <;> simp [Inside, Walk.entered, Context.push, Context.inIteration, Context.path, loopKind,
    ScopeKind.isIteration, Loop.names]

theorem Named.isHelperName {region : Region} (named : Named region) (kind : region.kind ∈ helperKinds) :
    IsHelperName region.helperName := by
  obtain ⟨k, is⟩ := named
  exact ⟨region.kind, kind, region.id, k, is⟩

theorem demands_test {modifier : Modifier} {condition : Expr} (h : testExpr? modifier = some condition) :
    demands condition = [.name testName] := by
  cases modifier with
  | unknown label => cases h
  | _ =>
    cases h
    simp [demands_eq, nodeDemands, Expr.parts, Expr.bool]

theorem closes_applyIf {body otherwise : Expr} (hn : s.context.Numbered)
    (hu : ∀ y ∈ branchTest e, U.expr loops y)
    (h : Walks U loops (Walk.entered s .conditional) ([body, otherwise].flatMap Expr.occurrences) cs t)
    (hr : Runs (applyIf config e body locals otherwise) t x u) :
    ∃ c, Walks U loops s x.occurrences [c] u ∧ c.region.id = s.context.nextId ∧
      Tested s.context.currentId locals e body otherwise cs x c ∧
      u.context.nextKey = t.context.nextKey ∧ u.emitter = t.emitter := by
  unfold applyIf at hr
  split at hr
  · exact absurd hr not_runs_throw
  · next branch hbranch =>
    split at hr
    · exact absurd hr not_runs_throw
    · next test htest =>
      split at hr
      · exact absurd hr not_runs_throw
      · next condition hc =>
        obtain ⟨region, p, hp, hr⟩ := runs_bind.mp hr
        obtain ⟨bound, q, hq, hr⟩ := runs_bind.mp hr
        obtain ⟨helper, v, hset, hr⟩ := runs_bind.mp hr
        obtain ⟨rfl, rfl⟩ := runs_pure.mp hr
        obtain ⟨hregion, left⟩ := runs_pop_entered h hp
        have tested := Walks.bindExpr (hu test (by simp [branchTest, hbranch, htest])) hq
        obtain ⟨rfl, walks⟩ := walks_close hn h hp tested hset fun hE => by
          subst hregion
          have coded := (coded_closed h (some (testHelper condition body otherwise))).mono hE
          simp only [List.flatMap_cons, List.flatMap_nil, List.append_nil] at coded
          exact .conditional ⟨_, rfl⟩ rfl hc rfl coded fun c hc => (h.lowered c hc).mono hE
        have scope : p.context.currentId = s.context.currentId := by
          rw [left]
          rfl
        obtain ⟨-, -, rfl⟩ := Walk.runs_setHelper.mp hset
        obtain ⟨rfl, rfl⟩ := Walk.runs_bindExpr.mp hq
        refine ⟨_, walks.perm ?_, by rw [hregion]; rfl, ?_, by rw [left]; rfl, by rw [left]⟩
        · simp [Expr.apply, Expr.occurrences]
        · rw [← scope]
          refine .mk hbranch htest hc ?_ ?_ rfl ⟨_, rfl⟩ rfl
          · rw [hregion]
            exact ⟨_, rfl⟩
          · rw [hregion]
            rfl

theorem Tested.whole {scope : Nat} {body otherwise : Expr} {c : Tree}
    (h : Tested scope locals e body otherwise cs x c) : x.isStarred = false := by
  cases h with
  | mk has asks reads named kind helper bound is => exact is ▸ rfl

theorem Issued.conditional {body otherwise : Expr} {c : Tree}
    (h : Issued (Walk.entered s .conditional) t cs [body, otherwise] rs)
    (tested : Tested s.context.currentId locals e body otherwise cs x c) (same : u.emitter = t.emitter) :
    Issued s u [c] [x] rs := by
  obtain ⟨es, issues, requests, code, outside⟩ := h
  cases tested with
  | @mk branch test condition y _ region has asks reads named kind helper bound is =>
    have isHelper : IsHelperName region.helperName := named.isHelperName (by rw [kind]; decide)
    refine ⟨es ++ [.conditional region.helperName],
      same ▸ issues.append (.single (.conditional _ isHelper)), ?_, ?_, ?_⟩
    · rw [List.filterMap_append, requests]
      exact List.append_nil rs
    · have held : regionDemands region = .name testName :: (demands body ++ demands otherwise) := by
        rw [regionDemands, helper]
        simp [testHelper, stmtDemands, demands_test reads]
      have short : argumentDemands region.helperName [y] = [] := argumentDemands_short _ (by simp)
      rw [List.perm_iff_count] at code ⊢
      intro d
      have counts := code d
      simp only [is, List.flatMap_cons, List.flatMap_nil, demands_apply, short, bound.demands,
        treeDemands_node, held, List.flatMap_append, Event.demands, List.count_append, List.count_cons,
        List.count_nil] at counts ⊢
      omega
    · simp only [List.mem_singleton, forall_eq]
      exact .condition helper outside

theorem Walked.applyIf {body otherwise : Expr} (hn : s.context.Numbered)
    (hu : ∀ y ∈ branchTest e, U.expr loops y)
    (h : Walked U loops locals (Walk.entered s .conditional) t cs [body, otherwise] n rs P)
    (hr : Runs (applyIf config e body locals otherwise) t x u) :
    ∃ c, c.region.id = s.context.nextId ∧ Walked U loops locals s u [c] [x] n rs fun L =>
      P L ∧ Tested s.context.currentId locals e body otherwise cs x c := by
  obtain ⟨c, walks, id, tested, key, same⟩ := closes_applyIf hn hu h.walks hr
  have closed : Leaves t u fun _ => True := .quiet (by rw [same]) fun _ _ => trivial
  exact ⟨c, id, {
    walks := by simpa using walks
    key := key.trans h.key
    leaves := fun inside => (Leaves.trans (h.leaves (inside_conditional inside)) closed
      (same ▸ .refl _)).mono fun L both => ⟨both.1, tested⟩
    issued := fun inside => (h.issued (inside_conditional inside)).conditional tested same
    indoors := h.indoors }⟩

theorem grows_noteLoop {C : String → Prop} (l : Loop) (E : Emitter) :
    E.Grows C (noteLoop l E).2 := by
  cases l with
  | each f => exact .refl E
  | of f =>
    exact { Emitter.Grows.refl E with
      usesNamespace := fun _ => rfl, formed := fun h => ⟨h.1, h.2, h.3⟩ }

theorem usesNamespace_noteLoop {l : Loop} {y : Unit} (h : Runs (Walk.emit (noteLoop l)) s y t) :
    ∀ f, l = .of f → t.emitter.usesNamespace := by
  rintro f rfl
  obtain ⟨-, rfl⟩ := Walk.runs_emit.mp h
  rfl

theorem closes_applyIteration {l : Loop} {body : Expr} (hn : s.context.Numbered)
    (hl : e.loop? = some l) (hu : U.loop l ∧ U.expr loops l.items)
    (h : Walks U (l :: loops) (Walk.entered s (loopKind l)) ([body].flatMap Expr.occurrences) cs t)
    (hr : Runs (applyIteration e body locals) t x u) :
    ∃ c, Walks U loops s x.occurrences [c] u ∧ c.region.id = s.context.nextId ∧
      (∀ L : Ledger, u.emitter.Grows Uses.any.component L.emitter →
        Iterated L s.context.currentId locals e body cs x c) ∧
      u.context.nextKey = t.context.nextKey ∧ u.emitter = { (noteLoop l t.emitter).2 with
        primitives := Emit.addNew (noteLoop l t.emitter).2.primitives .iterator } := by
  unfold applyIteration at hr
  rw [hl] at hr
  obtain ⟨region, p, hp, hr⟩ := runs_bind.mp hr
  obtain ⟨_, q, hq, hr⟩ := runs_bind.mp hr
  obtain ⟨helper, v, hset, hr⟩ := runs_bind.mp hr
  obtain ⟨items, w, hitems, hr⟩ := runs_bind.mp hr
  obtain ⟨hregion, left⟩ := runs_pop_entered h hp
  have noted : Walks U loops p [] [] q := Walks.emitUnit (grows_noteLoop l) hq
  obtain ⟨rfl, walks⟩ := walks_close hn h hp noted hset fun hE => by
    subst hregion
    have coded := (coded_closed h (some (loopHelper body l))).mono hE
    rw [List.flatMap_singleton] at coded
    exact .loop hu.1 ⟨_, rfl⟩ rfl (usesNamespace_noteLoop hq) rfl coded fun c hc => (h.lowered c hc).mono hE
  have all := walks.trans (Walks.bindExpr hu.2 hitems)
  have scope : v.context.currentId = s.context.currentId := walks.currentId
  have call : Emits U.component (Emit.iterator items (.own region.helperName))
      (items.occurrences ++ (Expr.own region.helperName).occurrences) := by
    simpa [Emit.iterator, Expr.occurrences] using Emits.call .iterator [items, .own region.helperName]
  have whole := (all.perm List.perm_append_comm).emit call hr
  obtain ⟨rfl, rfl⟩ := Walk.runs_emit.mp hr
  obtain ⟨rfl, rfl⟩ := Walk.runs_bindExpr.mp hitems
  obtain ⟨-, -, rfl⟩ := Walk.runs_setHelper.mp hset
  obtain ⟨-, rfl⟩ := Walk.runs_emit.mp hq
  refine ⟨_, whole, by rw [hregion]; rfl, fun L hL => ?_, by rw [left]; rfl, by rw [left]; rfl⟩
  rw [← scope]
  refine .mk hl ?_ ?_ rfl ⟨_, rfl⟩ ⟨_, rfl, hL⟩
  · rw [hregion]
    exact ⟨_, rfl⟩
  · rw [hregion]
    rfl

theorem Issued.loop {L : Ledger} {body : Expr} {c : Tree} {l : Loop} (hl : e.loop? = some l)
    (h : Issued (Walk.entered s (loopKind l)) t cs [body] rs) (indoors : Indoors rs)
    (iterated : Iterated L s.context.currentId locals e body cs x c)
    (emitter : u.emitter = { (noteLoop l t.emitter).2 with
      primitives := Emit.addNew (noteLoop l t.emitter).2.primitives .iterator }) :
    Issued s u [c] [x] rs := by
  obtain ⟨es, issues, requests, code, -⟩ := h
  have unkept (id : String) (key : Constant) : .handler id key ∉ demands body ++ treeDemands cs := by
    have none := issues.not_kept (requests ▸ indoors) id key
    rw [← code.mem_iff] at none
    simpa using none
  cases iterated with
  | @mk l' y _ region has named kind helper bound emitted =>
    obtain rfl : l' = l := Option.some.inj (has.symm.trans hl)
    have isHelper : IsHelperName region.helperName := by
      refine named.isHelperName ?_
      rw [kind]
      cases l' <;> simp [loopKind, helperKinds]
    have held : regionDemands region = Event.loopDemands l' ++ demands body := by
      rw [regionDemands, helper]
      cases l' <;> simp [loopHelper, stmtDemands, Event.loopDemands]
    refine ⟨es ++ [.loop region.helperName l', .call .iterator],
      issues.append (.cons (.loop _ isHelper l') (.single (emitter ▸ .call _ (by decide) (by decide)))), ?_, ?_,
      ?_⟩
    · rw [List.filterMap_append, requests]
      exact List.append_nil rs
    · have short : argumentDemands Primitive.iterator.localName [y, .own region.helperName] = [] :=
        argumentDemands_short _ (by simp)
      obtain ⟨E, rfl, -⟩ := emitted
      have made : (Emit.iterator y (.own region.helperName) E).1 =
          .apply (.own Primitive.iterator.localName) [y, .own region.helperName] := rfl
      rw [List.perm_iff_count] at code ⊢
      intro d
      have counts := code d
      simp only [made, List.flatMap_cons, List.flatMap_nil, demands_apply, short, bound.demands,
        demands_own, treeDemands_node, held, List.flatMap_append, Event.demands, List.count_append,
        List.count_cons, List.count_nil] at counts ⊢
      omega
    · simp only [List.mem_singleton, forall_eq]
      refine .loop fun id key => ?_
      rw [treeDemands_node, held, List.append_assoc, List.mem_append, not_or]
      refine ⟨?_, unkept id key⟩
      cases l' with
      | each f => simp [Event.loopDemands]
      | of f => simp [Event.loopDemands_of]

theorem Loop.append_names_ne_nil (l : Loop) (locals : List String) : locals ++ l.names ≠ [] := by
  cases l <;> simp [Loop.names]

theorem Walked.applyIteration {l : Loop} {body : Expr} (hn : s.context.Numbered)
    (hl : e.loop? = some l) (hu : U.loop l ∧ U.expr loops l.items)
    (h : Walked U (l :: loops) (locals ++ l.names) (Walk.entered s (loopKind l)) t cs [body] n rs P)
    (hr : Runs (applyIteration e body locals) t x u) :
    ∃ c, c.region.id = s.context.nextId ∧ Walked U loops locals s u [c] [x] n rs fun L =>
      P L ∧ Iterated L s.context.currentId locals e body cs x c := by
  obtain ⟨c, walks, id, iterated, key, emitter⟩ := closes_applyIteration hn hl hu h.walks hr
  have indoors := h.indoors (Loop.append_names_ne_nil l locals)
  have grows : t.emitter.Grows Uses.any.component u.emitter := by
    rw [emitter]
    exact (grows_noteLoop l t.emitter).trans (grows_call .iterator [] _)
  have memo : u.emitter.memoCount = t.emitter.memoCount := by
    rw [emitter]
    cases l <;> rfl
  have closed : Leaves t u fun L => Iterated L s.context.currentId locals e body cs x c :=
    .quiet memo iterated
  exact ⟨c, id, {
    walks := by simpa using walks
    key := key.trans h.key
    leaves := fun _ => Leaves.trans (h.leaves (inside_loop l)) closed grows
    issued := fun _ =>
      (h.issued (inside_loop l)).loop hl indoors (iterated ⟨_, fun _ => none⟩ (.refl _)) emitter
    indoors := fun _ => indoors }⟩

end Scopes

section Elements

variable {U : Uses} {loops : List Loop} {locals : List String} {config : Config} {s t u : WalkState}
  {e : Element} {x : Expr} {r : Rendered} {cs : List Tree} {n : Nat} {rs : List Request}
  {P : Ledger → Prop}

theorem Walked.list {xs : List Expr} (h : Walked U loops locals s t cs xs n rs P) :
    Walked U loops locals s t cs [.list xs] n rs P :=
  h.perm _ (by simp [Expr.occurrences]) (by simp)

theorem Walked.package (h : Walked U loops locals s t cs r.entries n rs P)
    (hr : Runs (package r) t x u) :
    Walked U loops locals s u cs [x] n rs fun L => P L ∧ Packed L r x := by
  unfold Generate.package at hr
  split at hr
  · next flat =>
    obtain ⟨rfl, rfl⟩ := runs_pure.mp hr
    exact h.list.mono fun L made => ⟨made, .plain (by simpa using flat)⟩
  · next nested =>
    have nested : r.nested := by simpa using nested
    split at hr
    · next single hs =>
      obtain ⟨rfl, rfl⟩ := runs_pure.mp hr
      rw [Rendered.entries_of_single? hs] at h
      exact h.mono fun L made => ⟨made, .single nested hs⟩
    · next several =>
      exact (h.list.wrap (.call (by decide) (by decide) _) hr).mono fun L both =>
        ⟨both.1, .flattened nested several both.2⟩

theorem Walked.fragmentBody (h : Walked U loops locals s t cs r.entries n rs P)
    (hr : Runs (fragmentBody r) t x u) :
    Walked U loops locals s u cs [x] n rs fun L => P L ∧ FragmentBody L r x := by
  unfold Generate.fragmentBody at hr
  unfold FragmentBody
  split at hr
  · next single hs =>
    obtain ⟨rfl, rfl⟩ := runs_pure.mp hr
    rw [Rendered.entries_of_single? hs] at h
    exact h.mono fun L made => ⟨made, by simp only [hs]⟩
  · next hs => exact (h.package hr).mono fun L both => ⟨both.1, by simpa only [hs] using both.2⟩

theorem Walked.elementCall {data children : Expr} (hu : ∀ y ∈ e.dynamic, U.expr loops y)
    (hcomponent : ∀ c, e.kind = .component c → U.component c)
    (h : Walked U loops locals s t cs [data, children] n rs P)
    (hr : Runs (elementCall e locals data children) t x u) :
    Walked U loops locals s u cs [x] n (rs ++ e.callRequests) fun L =>
      P L ∧ ElementCall L s.context.currentId locals e data children x := by
  unfold Generate.elementCall at hr
  unfold Element.callRequests
  split at hr
  · next constructor hc =>
    obtain ⟨bound, v, hb, hr⟩ := runs_bind.mp hr
    have all := h.trans (.bindExpr (hu constructor hc) hb)
    rw [h.walks.currentId, List.append_nil, List.append_nil] at all
    have swap {β : Type} (a b c : List β) : (a ++ (b ++ c)).Perm (c ++ (a ++ b)) := by
      rw [← List.append_assoc]
      exact List.perm_append_comm
    have listed := all.perm [.str e.tag, bound, data, children]
      (by simpa [Expr.str, Expr.occurrences] using swap _ _ _) (by simpa using swap _ _ _)
    rw [hc]
    exact (listed.emit (.call (by decide) (by decide) _) hr).mono fun L made =>
      ⟨made.1.1, .dynamic hc made.1.2 made.2⟩
  · next static =>
    rw [static]
    split at hr
    · next reference hk =>
      rw [hk]
      exact (h.emit (.customElement e.tag data children (hcomponent _ hk)) hr).mono fun L made =>
        ⟨made.1, .component static hk made.2⟩
    · next name hk =>
      rw [hk]
      exact (h.emit (.slot name data children) hr).mono fun L made => ⟨made.1, .slot static hk made.2⟩
    · next hk =>
      rw [hk]
      have listed := h.perm [.str e.tag, data, children] (by simp [Expr.str, Expr.occurrences])
        (by simp)
      exact (listed.emit (.call (by decide) (by decide) _) hr).mono fun L made =>
        ⟨made.1, .plain static hk made.2⟩

def innerLoops (loops : List Loop) (e : Element) : List Loop := e.loop?.toList ++ loops

/-- The expressions of an element are in the template under the loops in which they are evaluated. -/
structure ElementUses (U : Uses) (loops : List Loop) (e : Element) : Prop where
  data : ∀ y ∈ dataUses e, U.expr (innerLoops loops e) y
  dynamic : ∀ y ∈ e.dynamic, U.expr (innerLoops loops e) y
  test : ∀ y ∈ branchTest e, U.expr (innerLoops loops e) y
  items : ∀ l ∈ e.loop?, U.loop l ∧ U.expr loops l.items
  component : ∀ c, e.kind = .component c → U.component c

theorem elementUses_any : ElementUses .any loops e :=
  ⟨fun _ _ => trivial, fun _ _ => trivial, fun _ _ => trivial, fun _ _ => ⟨trivial, trivial⟩,
    fun _ _ => trivial⟩

def Lowers (U : Uses) (loops : List Loop) (shape : Ledger → Shape) (elements : Nat)
    (requests : List String → List Request) (siblings : Siblings) : Prop :=
  ∀ locals s r t, s.context.Numbered → Runs (siblings locals) s r t →
    ∃ cs, Walked U loops locals s t cs r.entries elements (requests locals) fun L =>
      shape L s.context.currentId s.context.nextKey locals r cs

/-- The same for what makes one expression. -/
def LowersOne (U : Uses) (loops : List Loop)
    (shape : Ledger → Nat → Nat → List String → Expr → List Tree → Prop) (elements : Nat)
    (requests : List String → List Request) (make : List String → WalkM Expr) : Prop :=
  ∀ locals s x t, s.context.Numbered → Runs (make locals) s x t →
    ∃ cs, Walked U loops locals s t cs [x] elements (requests locals) fun L =>
      shape L s.context.currentId s.context.nextKey locals x cs

/-- What the data and the call of an element request around the requests of its children. -/
def madeRequests (e : Element) (below : List String → List Request) (locals : List String) : List Request :=
  e.dataRequests locals ++ below locals ++ e.callRequests

variable {children : Siblings} {shape : Ledger → Shape} {below : List String → List Request}

theorem lowers_makeElement (hu : ElementUses U loops e)
    (hc : Lowers U (innerLoops loops e) shape n below children) :
    LowersOne U (innerLoops loops e) (fun L => MadeShape L config e (shape L)) (1 + n)
      (madeRequests e below) (makeElement config e children) := by
  intro locals s x t hn hr
  obtain ⟨data, s1, h1, hr⟩ := runs_bind.mp hr
  obtain ⟨r, s2, h2, hr⟩ := runs_bind.mp hr
  obtain ⟨packed, s3, h3, hr⟩ := runs_bind.mp hr
  have bag := walked_dataBag hu.data h1
  obtain ⟨cs, made⟩ := hc locals s1 r s2 (bag.walks.numbered hn) h2
  rw [bag.walks.currentId, bag.key] at made
  exact ⟨cs, ((bag.trans (made.package h3)).elementCall hu.dynamic hu.component hr).mono fun L all =>
    ⟨data, r, packed, all.1.1, all.1.2.1, all.1.2.2, all.2⟩⟩

theorem lowers_make {conditional : Bool} (plain : e.isFragment = false) (hu : ElementUses U loops e)
    (hc : Lowers U (innerLoops loops e) shape n below children) :
    LowersOne U (innerLoops loops e)
      (fun L scope number locals x cs => x.isStarred = false ∧
        (if conditional then ContentShape e (CoreShape L config e (shape L))
          else CoreShape L config e (shape L)) scope number locals ⟨[x], e.isSlot⟩ cs) (1 + n)
      (madeRequests e below)
      ((if conditional && e.branch.isSome then makeConditional else makeElement) config e children) := by
  have core {L : Ledger} {scope number : Nat} {locals : List String} {x : Expr} {cs : List Tree}
      (made : MadeShape L config e (shape L) scope number locals x cs) :
      CoreShape L config e (shape L) scope number locals ⟨[x], e.isSlot⟩ cs := by
    simpa [CoreShape, plain] using made
  intro locals s x t hn hr
  split at hr
  · next asks =>
    obtain ⟨rfl, branch⟩ := Bool.and_eq_true_iff.mp asks
    obtain ⟨_, _, h1, hr⟩ := runs_bind.mp hr
    obtain rfl := Walk.runs_push.mp h1
    obtain ⟨made, s2, h2, hr⟩ := runs_bind.mp hr
    obtain ⟨inner, walked⟩ := lowers_makeElement hu hc locals _ made s2 (hn.push _) h2
    obtain ⟨c, number, all⟩ := (walked.silent (occurrences_otherwise e.isSlot made)).applyIf hn hu.test hr
    refine ⟨[c], all.mono fun L both => ?_⟩
    have single : Rendered.single? ⟨[made], e.isSlot⟩ = some made := Rendered.single?_one both.1.whole
    have chosen := Chosen.single (e := e) single
    simp only [plain, Bool.false_eq_true, if_false] at chosen
    simp only [if_true, ContentShape, branch]
    exact ⟨both.2.whole, _, inner, made, _, id, x, c, core (number ▸ both.1), chosen, both.2, rfl, rfl⟩
  · next asks =>
    obtain ⟨cs, walked⟩ := lowers_makeElement hu hc locals s x t hn hr
    refine ⟨cs, walked.mono fun L made => ⟨made.whole, ?_⟩⟩
    split
    · next is =>
      rw [ContentShape, if_neg (by simpa [is] using asks)]
      exact core made
    · exact core made

theorem runs_enterIteration {inner : List String} :
    Runs (enterIteration e locals) s inner t ↔
      (e.loop? = none ∧ inner = locals ∧ t = s) ∨
      ∃ l, e.loop? = some l ∧ inner = locals ++ l.names ∧ t = Walk.entered s (loopKind l) := by
  unfold enterIteration
  cases hl : e.loop? with
  | none => simp [runs_pure]
  | some l =>
    simp only [runs_bind, runs_pure, Walk.runs_push]
    constructor
    · rintro ⟨_, _, rfl, rfl, rfl⟩
      exact .inr ⟨l, rfl, rfl, rfl⟩
    · rintro (⟨h, -⟩ | ⟨_, h, rfl, rfl⟩)
      · cases h
      · cases h
        exact ⟨(), _, rfl, rfl, rfl⟩

theorem iterates_eq (e : Element) : e.iterates = e.loop?.isSome := by
  unfold Element.iterates Element.loop?
  cases e.forEach <;> cases e.forOf <;> rfl

theorem lowers_lowerElement {conditional : Bool} (plain : e.isFragment = false) (hu : ElementUses U loops e)
    (hc : Lowers U (innerLoops loops e) shape n below children) :
    Lowers U loops (fun L => LoopShape L e (if conditional then ContentShape e (CoreShape L config e (shape L))
        else CoreShape L config e (shape L))) (1 + n)
      (fun locals => madeRequests e below (e.inner locals)) (lowerElement config e conditional children) := by
  intro locals s r t hn hr
  obtain ⟨inner, s1, h1, hr1⟩ := runs_bind.mp hr
  obtain ⟨made, s2, h2, hr2⟩ := runs_bind.mp hr1
  unfold Element.inner LoopShape
  rcases runs_enterIteration.mp h1 with ⟨hl, rfl, rfl⟩ | ⟨l, hl, rfl, rfl⟩
  · simp only [iterates_eq, hl, Option.isSome_none, Bool.false_eq_true, if_false] at hr2
    obtain ⟨rfl, rfl⟩ := runs_pure.mp hr2
    obtain ⟨cs, walked⟩ := lowers_make plain hu hc _ _ _ _ hn h2
    simp only [innerLoops, hl, Option.toList_none, List.nil_append] at walked
    simp only [hl, Option.elim_none, List.append_nil]
    exact ⟨cs, walked.mono fun L both => both.2⟩
  · simp only [iterates_eq, hl, Option.isSome_some, if_true] at hr2
    obtain ⟨called, s3, h3, hr3⟩ := runs_bind.mp hr2
    obtain ⟨rfl, rfl⟩ := runs_pure.mp hr3
    obtain ⟨cs, walked⟩ := lowers_make plain hu hc _ _ _ _ (hn.push _) h2
    simp only [innerLoops, hl, Option.toList_some, List.singleton_append] at walked
    obtain ⟨c, id, all⟩ := walked.applyIteration hn hl (hu.items l hl) h3
    simp only [hl, Option.elim_some]
    exact ⟨[c], all.mono fun L both => ⟨⟨[made], e.isSlot⟩, cs, made, called, c, id ▸ both.1.2,
      by simp [FragmentBody, Rendered.single?_one both.1.1], both.2, rfl, rfl⟩⟩

theorem lowers_lowerConditional (fragment : e.isFragment) (htest : ∀ y ∈ branchTest e, U.expr loops y)
    (hc : Lowers U loops shape n below children) :
    Lowers U loops (fun L => ConditionalShape e (shape L)) n below (lowerConditional config e children) := by
  intro locals s r t hn hr
  obtain ⟨_, _, h1, hr⟩ := runs_bind.mp hr
  obtain rfl := Walk.runs_push.mp h1
  obtain ⟨content, s2, h2, hr⟩ := runs_bind.mp hr
  obtain ⟨entries, s3, h3, hr⟩ := runs_bind.mp hr
  obtain ⟨rfl, rfl⟩ := runs_pure.mp hr
  obtain ⟨inner, walked⟩ := hc locals _ _ _ (hn.push _) h2
  unfold conditionalEntries at h3
  split at h3
  · next single hs =>
    obtain ⟨called, s4, h4, h3⟩ := runs_bind.mp h3
    obtain ⟨rfl, rfl⟩ := runs_pure.mp h3
    rw [Rendered.entries_of_single? hs] at walked
    obtain ⟨c, id, all⟩ :=
      (walked.silent (occurrences_otherwise (isListValued single) single)).applyIf hn htest h4
    have chosen := Chosen.single (e := e) hs
    rw [if_pos fragment] at chosen
    exact ⟨[c], all.mono fun L both =>
      ⟨content, inner, _, _, _, called, c, id ▸ both.1, chosen, both.2, rfl, rfl⟩⟩
  · next hs =>
    obtain ⟨called, s4, h4, h3⟩ := runs_bind.mp h3
    obtain ⟨rfl, rfl⟩ := runs_pure.mp h3
    obtain ⟨c, id, all⟩ := (walked.list.silent (occurrences_emptyAs _)).applyIf hn htest h4
    have starred := all.perm [.starred called] (by simp [Expr.occurrences]) (by simp)
    exact ⟨[c], starred.mono fun L both =>
      ⟨content, inner, _, _, _, called, c, id ▸ both.1, .several hs, both.2, rfl, rfl⟩⟩

theorem lowers_content (fragment : e.isFragment) (htest : ∀ y ∈ branchTest e, U.expr loops y)
    (hc : Lowers U loops shape n below children) :
    Lowers U loops (fun L => ContentShape e (shape L)) n below
      (if e.branch.isSome then lowerConditional config e children else children) := by
  unfold ContentShape
  split
  · exact lowers_lowerConditional fragment htest hc
  · exact hc

theorem lowers_lowerFragment (fragment : e.isFragment) (hu : ElementUses U loops e)
    (hc : Lowers U (innerLoops loops e) shape n below children) :
    Lowers U loops (fun L => LoopShape L e (ContentShape e (shape L))) n
      (fun locals => below (e.inner locals)) (lowerFragment config e children) := by
  intro locals s r t hn hr
  obtain ⟨inner, s1, h1, hr1⟩ := runs_bind.mp hr
  obtain ⟨content, s2, h2, hr2⟩ := runs_bind.mp hr1
  unfold Element.inner LoopShape
  rcases runs_enterIteration.mp h1 with ⟨hl, rfl, rfl⟩ | ⟨l, hl, rfl, rfl⟩
  · simp only [iterates_eq, hl, Option.isSome_none, Bool.false_eq_true, if_false] at hr2
    obtain ⟨rfl, rfl⟩ := runs_pure.mp hr2
    obtain ⟨cs, walked⟩ := lowers_content fragment hu.test hc _ _ _ _ hn h2
    simp only [innerLoops, hl, Option.toList_none, List.nil_append] at walked
    simp only [hl, Option.elim_none, List.append_nil]
    exact ⟨cs, walked⟩
  · simp only [iterates_eq, hl, Option.isSome_some, if_true] at hr2
    obtain ⟨body, s3, h3, hr3⟩ := runs_bind.mp hr2
    obtain ⟨called, s4, h4, hr4⟩ := runs_bind.mp hr3
    obtain ⟨rfl, rfl⟩ := runs_pure.mp hr4
    obtain ⟨cs, walked⟩ := lowers_content fragment hu.test hc _ _ _ _ (hn.push _) h2
    simp only [innerLoops, hl, Option.toList_some, List.singleton_append] at walked
    obtain ⟨c, id, all⟩ := (walked.fragmentBody h3).applyIteration hn hl (hu.items l hl) h4
    simp only [hl, Option.elim_some]
    exact ⟨[c], all.mono fun L both =>
      ⟨content, cs, body, called, c, id ▸ both.1.1, both.1.2, both.2, rfl, rfl⟩⟩

theorem lowers_lowerBranch (hu : ElementUses U loops e)
    (hc : Lowers U (if e.isFragment then loops else innerLoops loops e) shape n below children) :
    LowersOne U loops (fun L => BranchShape L config e (shape L)) ((if e.isFragment then 0 else 1) + n)
      (fun locals => if e.isFragment then below locals else madeRequests e below (e.inner locals))
      (lowerBranch config e children) := by
  intro locals s x t hn hr
  unfold lowerBranch at hr
  unfold BranchShape MemberContent
  cases hf : e.isFragment
  · simp only [hf, Bool.false_eq_true, if_false] at hr hc ⊢
    obtain ⟨r, s1, h1, h2⟩ := runs_bind.mp hr
    obtain ⟨cs, walked⟩ := lowers_lowerElement hf hu hc _ _ _ _ hn h1
    exact ⟨cs, (walked.package h2).mono fun L both => ⟨r, both⟩⟩
  · simp only [hf, if_true, Nat.zero_add] at hr hc ⊢
    obtain ⟨r, s1, h1, h2⟩ := runs_bind.mp hr
    obtain ⟨cs, walked⟩ := hc _ _ _ _ hn h1
    exact ⟨cs, (walked.package h2).mono fun L both => ⟨r, both⟩⟩

end Elements

mutual

/-- The expressions of a block are in the template under the loops in which they are evaluated. -/
def BlockUses (U : Uses) (loops : List Loop) : Block → Prop
  | .text _ | .comment _ | .bare _ => True
  | .dynamicText value => U.expr loops value
  | .element e children => ElementUses U loops e ∧ BlocksUse U (innerLoops loops e) children
  | .chain members | .stray members => MembersUse U loops members

def BlocksUse (U : Uses) (loops : List Loop) : List Block → Prop
  | [] => True
  | b :: bs => BlockUses U loops b ∧ BlocksUse U loops bs

/-- The same for the members of a chain, whose tests stand outside the members. -/
def MembersUse (U : Uses) (loops : List Loop) : List Block → Prop
  | .element e children :: rest =>
    ElementUses U loops e ∧ (∀ y ∈ branchTest e, U.expr loops y) ∧
      BlocksUse U (if e.isFragment then loops else innerLoops loops e) children ∧
      MembersUse U loops rest
  | _ => True

end

mutual

theorem blockUses_any : ∀ (b : Block) (loops : List Loop), BlockUses .any loops b
  | .text _, _ | .dynamicText _, _ | .comment _, _ | .bare _, _ => trivial
  | .element _ children, _ => ⟨elementUses_any, blocksUse_any children _⟩
  | .chain members, loops | .stray members, loops => membersUse_any members loops

theorem blocksUse_any : ∀ (bs : List Block) (loops : List Loop), BlocksUse .any loops bs
  | [], _ => trivial
  | b :: bs, loops => ⟨blockUses_any b loops, blocksUse_any bs loops⟩

theorem membersUse_any :
    ∀ (bs : List Block) (loops : List Loop), MembersUse .any loops bs
  | .element _ children :: rest, loops =>
    ⟨elementUses_any, fun _ _ => trivial, blocksUse_any children _, membersUse_any rest loops⟩
  | [], _ | .text _ :: _, _ | .dynamicText _ :: _, _ | .comment _ :: _, _ | .bare _ :: _, _
  | .chain _ :: _, _ | .stray _ :: _, _ => trivial

end

mutual

theorem lowers_lower (config : Config) {U : Uses} : ∀ (b : Block) {loops : List Loop},
    BlockUses U loops b → Lowers U loops (fun L => BlockShape L config b) b.numbered
      (fun locals => b.requests locals) (lower config b)
  | .text value, loops, _ | .comment value, loops, _ => by
    intro locals s r t hn hr
    obtain ⟨x, s1, h1, h2⟩ := runs_bind.mp hr
    obtain ⟨rfl, rfl⟩ := runs_pure.mp h2
    have start : Walked U loops locals s s [] [] 0 [] fun _ => True := .nil s fun _ => trivial
    exact ⟨[], (start.wrap (.constant (.call (by decide) (by decide) _)) h1).mono fun L both =>
      ⟨x, both.2, rfl, rfl⟩⟩
  | .dynamicText value, loops, hu => by
    intro locals s r t hn hr
    obtain ⟨bound, s1, h1, hr1⟩ := runs_bind.mp hr
    obtain ⟨x, s2, h2, h3⟩ := runs_bind.mp hr1
    obtain ⟨rfl, rfl⟩ := runs_pure.mp h3
    exact ⟨[], ((Walked.bindExpr hu h1).wrap (.call (by decide) (by decide) _) h2).mono fun L both =>
      ⟨bound, x, both.1, both.2, rfl, rfl⟩⟩
  | .bare position, loops, _ => by
    intro locals s r t hn hr
    exact absurd hr not_runs_throw
  | .element e children, loops, ⟨hu, hc⟩ => by
    intro locals s r t hn hr
    have below := lowers_lowerAll config children hc
    rw [lower] at hr
    simp only [BlockShape, ElementShape, Block.numbered, Block.requests, Element.requests]
    cases hf : e.isFragment
    · simp only [hf, Bool.false_eq_true, if_false] at hr ⊢
      exact lowers_lowerElement hf hu below _ _ _ _ hn hr
    · simp only [hf, if_true, Nat.zero_add, CoreShape] at hr ⊢
      exact lowers_lowerFragment hf hu below _ _ _ _ hn hr
  | .chain members, loops, hu => by
    intro locals s r t hn hr
    obtain ⟨x, s1, h1, h2⟩ := runs_bind.mp hr
    obtain ⟨rfl, rfl⟩ := runs_pure.mp h2
    obtain ⟨cs, walked⟩ := lowers_lowerChain config members hu _ _ _ _ hn h1
    simp only [Block.requests]
    exact ⟨cs, (walked.perm [.starred x] (by simp [Expr.occurrences]) (by simp)).mono fun L chain =>
      ⟨x, chain, rfl⟩⟩
  | .stray [], loops, _ => by
    intro locals s r t hn hr
    obtain ⟨rfl, rfl⟩ := runs_pure.mp hr
    exact ⟨[], .nil t fun _ => ⟨rfl, rfl⟩⟩
  | .stray (b :: _), loops, _ => by
    intro locals s r t hn hr
    cases b with
    | element e children => exact absurd hr not_runs_throw
    | _ =>
      obtain ⟨rfl, rfl⟩ := runs_pure.mp hr
      exact ⟨[], .nil t fun _ => ⟨rfl, rfl⟩⟩

theorem lowers_lowerAll (config : Config) {U : Uses} : ∀ (bs : List Block) {loops : List Loop},
    BlocksUse U loops bs → Lowers U loops (fun L => BlocksShape L config bs) (Block.numberedAll bs)
      (fun locals => Block.requestsAll locals bs) (lowerAll config bs)
  | [], loops, _ => by
    intro locals s r t hn hr
    obtain ⟨rfl, rfl⟩ := runs_pure.mp hr
    exact ⟨[], .nil t fun _ => ⟨rfl, rfl⟩⟩
  | b :: bs, loops, ⟨hb, hbs⟩ => by
    intro locals s r t hn hr
    obtain ⟨first, s1, h1, hr1⟩ := runs_bind.mp hr
    obtain ⟨rest, s2, h2, h3⟩ := runs_bind.mp hr1
    obtain ⟨rfl, rfl⟩ := runs_pure.mp h3
    obtain ⟨inner, walked⟩ := lowers_lower config b hb _ _ _ _ hn h1
    obtain ⟨later, walked'⟩ := lowers_lowerAll config bs hbs _ _ _ _ (walked.walks.numbered hn) h2
    rw [walked.walks.currentId, walked.key] at walked'
    exact ⟨inner ++ later, (walked.trans walked').mono fun L both =>
      ⟨first, rest, inner, later, both.1, both.2, rfl, rfl⟩⟩

theorem lowers_lowerChain (config : Config) {U : Uses} : ∀ (members : List Block) {loops : List Loop},
    MembersUse U loops members → LowersOne U loops (fun L => ChainShape L config members)
      (Block.numberedChain members) (fun locals => Block.requestsChain locals members)
      (lowerChain config members)
  | .element e children :: rest, loops, ⟨hu, htest, hc, hrest⟩ => by
    intro locals s x t hn hr
    have below := lowers_lowerAll config children hc
    have same : ∀ locals, (if e.isFragment then Block.requestsAll locals children
        else e.requests (e.inner locals) (Block.requestsAll (e.inner locals) children)) =
        if e.isFragment then Block.requestsAll locals children
        else madeRequests e (fun locals => Block.requestsAll locals children) (e.inner locals) := by
      intro locals
      unfold Element.requests
      split <;> rfl
    rw [lowerChain] at hr
    simp only [ChainShape, Block.numberedChain, Block.requestsChain, same]
    split at hr
    · next hf =>
      simpa only [hf, if_true, Nat.add_zero, List.append_nil] using
        lowers_lowerBranch hu below _ _ _ _ hn hr
    · next hf =>
      obtain ⟨_, _, h1, hr1⟩ := runs_bind.mp hr
      obtain rfl := Walk.runs_push.mp h1
      obtain ⟨body, s1, h2, hr2⟩ := runs_bind.mp hr1
      obtain ⟨otherwise, s2, h3, h4⟩ := runs_bind.mp hr2
      obtain ⟨inner, walked⟩ := lowers_lowerBranch hu below _ _ _ _ (hn.push _) h2
      obtain ⟨later, walked'⟩ :=
        lowers_lowerChain config rest hrest _ _ _ _ (walked.walks.numbered (hn.push _)) h3
      rw [walked.walks.currentId, walked.key] at walked'
      obtain ⟨c, id, all⟩ := (walked.trans walked').applyIf hn htest h4
      simp only [hf, if_false]
      exact ⟨[c], all.mono fun L both =>
        ⟨body, otherwise, inner, later, c, id ▸ both.1.1, id ▸ both.1.2, both.2, rfl⟩⟩
  | [], loops, _ | .text _ :: _, loops, _ | .dynamicText _ :: _, loops, _ | .comment _ :: _, loops, _
  | .bare _ :: _, loops, _ | .chain _ :: _, loops, _ | .stray _ :: _, loops, _ => by
    intro locals s x t hn hr
    obtain ⟨rfl, rfl⟩ := runs_pure.mp hr
    exact ⟨[], .constant rfl fun _ => ⟨rfl, rfl⟩⟩

end

theorem walked_lowerRoot {config : Config} {U : Uses} {children : List Node} {x : Expr} {t : WalkState}
    (hu : BlocksUse U [] (Block.arrange (Block.ofNodes children)))
    (h : Runs (lowerRoot config children) .initial x t) :
    ∃ r cs, Walked U [] [] .initial t cs [x] (Block.numberedAll (Block.arrange (Block.ofNodes children)))
      (Block.requestsAll [] (Block.arrange (Block.ofNodes children))) fun L =>
        BlocksShape L config (Block.arrange (Block.ofNodes children)) 0 0 [] r cs ∧ Packed L r x := by
  obtain ⟨r, s1, h1, h2⟩ := runs_bind.mp h
  obtain ⟨cs, walked⟩ := lowers_lowerAll config _ hu _ _ _ _ Context.numbered_initial h1
  exact ⟨r, cs, walked.package h2⟩

end TemplateCompiler.Generate
