import TemplateCompiler.Proofs.Generate.Issues
import TemplateCompiler.Proofs.Generate.Shapes

/-!
What is known of a part of a walk, and of the walk through the data of an element. `Walked U loops locals s
t cs xs n rs P` says of a part of a walk from `s` to `t` that makes the expressions `xs` and closes the
scopes `cs`: it keeps the accounts, it numbers `n` elements, it makes what `P` tells with respect to every
ledger that knows all that was noted on the way, and it serves the requests `rs`: the expressions together
with the helpers of the closed scopes demand what the emitter issues meanwhile.
-/

namespace TemplateCompiler.Generate

open TemplateCompiler.Code TemplateCompiler.Scope TemplateCompiler.Template

@[simp] theorem occurrences_record (entries : List (String × Expr)) :
    (Expr.record entries).occurrences = entries.flatMap fun entry => entry.2.occurrences := by
  have keys : (entries.map fun e => Expr.str e.1).flatMap Expr.occurrences = [] := by
    rw [List.flatMap_map, List.flatMap_eq_nil_iff]
    exact fun e _ => rfl
  simp [Expr.record, Expr.occurrences, keys, List.flatMap_map]

mutual

@[simp] theorem occurrences_toExpr : ∀ d : Data, d.toExpr.occurrences = []
  | .null | .bool _ | .int _ | .text _ => rfl
  | .float negative _ => by cases negative <;> rfl
  | .list items => by simp [Data.toExpr, Expr.occurrences, occurrences_toExprs items]
  | .record names values => by
    simp [Data.toExpr, Expr.occurrences, occurrences_toExprs values, Expr.str, List.flatMap_map]

theorem occurrences_toExprs : ∀ ds : List Data, (Data.toExprs ds).flatMap Expr.occurrences = []
  | [] => rfl
  | d :: ds => by simp [Data.toExprs, occurrences_toExpr d, occurrences_toExprs ds]

end

theorem demands_of_silent {x : Expr} (h : x.occurrences = []) : demands x = [] :=
  demands_eq_nil fun o ho => by rw [h] at ho; cases ho

theorem Bound.demands {scope : Nat} {locals : List String} {e x : Expr} (h : Bound scope locals e x) :
    Generate.demands x = [] := by
  refine demands_eq_nil fun o ho => ⟨h.not_own o ho, fun n is => ?_⟩
  rcases h.atom ho with ⟨id, other | other⟩ | ⟨site, other⟩ <;> cases is.symm.trans other

def regionDemands (r : Region) : List Demand := r.helper.elim [] fun h => h.body.flatMap stmtDemands

def treeDemands (cs : List Tree) : List Demand := (Tree.regionsAll cs).flatMap regionDemands

theorem treeDemands_append (cs ds : List Tree) :
    treeDemands (cs ++ ds) = treeDemands cs ++ treeDemands ds := by
  simp [treeDemands, Tree.regionsAll_eq_flatMap]

theorem treeDemands_node (r : Region) (cs : List Tree) :
    treeDemands [.node r cs] = regionDemands r ++ treeDemands cs := by
  simp [treeDemands, Tree.regionsAll, Tree.regions]

/-- Handlers are kept only outside the scopes of loops. -/
inductive KeepsOutside : Tree → Prop
  | condition {r : Region} {cs : List Tree} {condition body otherwise : Expr}
      (test : r.helper = some (testHelper condition body otherwise))
      (below : ∀ c ∈ cs, KeepsOutside c) : KeepsOutside (.node r cs)
  | loop {r : Region} {cs : List Tree} (none : ∀ id key, .handler id key ∉ treeDemands [.node r cs]) :
      KeepsOutside (.node r cs)

/-- Between two states the emitter serves the requests, and the expressions together with the helpers of
the closed scopes demand what it serves. -/
def Issued (s t : WalkState) (cs : List Tree) (xs : List Expr) (rs : List Request) : Prop :=
  ∃ es, Issues s.emitter es t.emitter ∧ es.filterMap Event.request? = rs ∧
    (xs.flatMap demands ++ treeDemands cs).Perm (es.flatMap Event.demands) ∧ ∀ c ∈ cs, KeepsOutside c

/-- The walk is inside a loop if there are loop names. -/
def Inside (s : WalkState) (locals : List String) : Prop :=
  s.context.inIteration = !locals.isEmpty

/-- What holds with respect to every ledger that knows what was noted between two states. -/
def Leaves (s t : WalkState) (P : Ledger → Prop) : Prop :=
  ∃ new : List Expr, t.emitter.memoCount = s.emitter.memoCount + new.length ∧
    ∀ L : Ledger, t.emitter.Grows Uses.any.component L.emitter →
      (∀ i y, new[i]? = some y → L.memo (s.emitter.memoCount + i) = some y) → P L

structure Walked (U : Uses) (loops : List Loop) (locals : List String) (s t : WalkState) (cs : List Tree)
    (xs : List Expr) (elements : Nat) (rs : List Request) (P : Ledger → Prop) : Prop where
  walks : Walks U loops s (xs.flatMap Expr.occurrences) cs t
  key : t.context.nextKey = s.context.nextKey + elements
  leaves : Inside s locals → Leaves s t P
  issued : Inside s locals → Issued s t cs xs rs
  indoors : locals ≠ [] → Indoors rs

section

variable {U : Uses} {loops : List Loop} {locals : List String} {s t u : WalkState} {cs ds : List Tree}
  {xs ys : List Expr} {x : Expr} {m n : Nat} {rs qs : List Request} {P Q : Ledger → Prop}

theorem Emitter.Grows.any {C : String → Prop} {E F : Emitter} (h : E.Grows C F) :
    E.Grows Uses.any.component F :=
  { h with references := fun _ _ _ => trivial }

theorem Walks.inside {os : List Occurrence} (h : Walks U loops s os cs t) (inside : Inside s locals) :
    Inside t locals := by
  unfold Inside Context.inIteration Context.path at inside ⊢
  rw [List.any_cons] at inside ⊢
  rw [h.outer, h.region]
  exact inside

theorem Leaves.quiet (same : t.emitter.memoCount = s.emitter.memoCount)
    (h : ∀ L : Ledger, t.emitter.Grows Uses.any.component L.emitter → P L) : Leaves s t P :=
  ⟨[], same, fun L hL _ => h L hL⟩

theorem Leaves.trans (h : Leaves s t P) (h' : Leaves t u Q)
    (grows : t.emitter.Grows Uses.any.component u.emitter) : Leaves s u fun L => P L ∧ Q L := by
  obtain ⟨new, count, holds⟩ := h
  obtain ⟨new', count', holds'⟩ := h'
  refine ⟨new ++ new', by rw [count', count, List.length_append, Nat.add_assoc], fun L hL memo => ⟨?_, ?_⟩⟩
  · refine holds L (grows.trans hL) fun i y hy => memo i y ?_
    have bound : i < new.length := (List.getElem?_eq_some_iff.mp hy).1
    rw [List.getElem?_append_left bound, hy]
  · refine holds' L hL fun i y hy => ?_
    have later := memo (new.length + i) y (by rw [List.getElem?_append_right (Nat.le_add_right _ _),
      Nat.add_sub_cancel_left, hy])
    rw [count, Nat.add_assoc, later]

theorem Leaves.mono (h : Leaves s t P) (hPQ : ∀ L, P L → Q L) : Leaves s t Q := by
  obtain ⟨new, count, holds⟩ := h
  exact ⟨new, count, fun L hL memo => hPQ L (holds L hL memo)⟩

theorem Issued.trans (h : Issued s t cs xs rs) (h' : Issued t u ds ys qs) :
    Issued s u (cs ++ ds) (xs ++ ys) (rs ++ qs) := by
  obtain ⟨es, issues, requests, code, outside⟩ := h
  obtain ⟨fs, issues', requests', code', outside'⟩ := h'
  refine ⟨es ++ fs, issues.append issues', ?_, ?_,
    fun c hc => (List.mem_append.mp hc).elim (outside c) (outside' c)⟩
  · rw [List.filterMap_append, requests, requests']
  · have both := code.append code'
    rw [List.perm_iff_count] at both ⊢
    intro d
    have counts := both d
    simp only [List.flatMap_append, treeDemands_append, List.count_append] at counts ⊢
    omega

theorem Issued.emit {step : EmitM Expr} (h : Issued s t cs xs rs) (spends : Spends step xs qs) :
    Issued s { t with emitter := (step t.emitter).2 } cs [(step t.emitter).1] (rs ++ qs) := by
  obtain ⟨es, issues, requests, code, outside⟩ := h
  obtain ⟨fs, issues', requests', code'⟩ := spends t.emitter
  refine ⟨es ++ fs, issues.append issues', ?_, ?_, outside⟩
  · rw [List.filterMap_append, requests, requests']
  · rw [List.flatMap_singleton, List.flatMap_append]
    refine (code'.append_right _).trans ?_
    rw [List.append_assoc]
    refine (List.perm_append_comm.append_left _).trans ?_
    rw [← List.append_assoc]
    exact code.append_right _

namespace Walked

theorem trans (h : Walked U loops locals s t cs xs m rs P) (h' : Walked U loops locals t u ds ys n qs Q) :
    Walked U loops locals s u (cs ++ ds) (xs ++ ys) (m + n) (rs ++ qs) fun L => P L ∧ Q L where
  walks := by
    rw [List.flatMap_append]
    exact h.walks.trans h'.walks
  key := by rw [h'.key, h.key, Nat.add_assoc]
  leaves inside := (h.leaves inside).trans (h'.leaves (h.walks.inside inside)) h'.walks.emitter.any
  issued inside := (h.issued inside).trans (h'.issued (h.walks.inside inside))
  indoors some := (h.indoors some).append (h'.indoors some)

theorem mono (h : Walked U loops locals s t cs xs n rs P) (hPQ : ∀ L, P L → Q L) :
    Walked U loops locals s t cs xs n rs Q :=
  { h with leaves := fun inside => (h.leaves inside).mono hPQ }

theorem perm (h : Walked U loops locals s t cs xs n rs P) (ys : List Expr)
    (occurrences : (xs.flatMap Expr.occurrences).Perm (ys.flatMap Expr.occurrences))
    (demands : (xs.flatMap demands).Perm (ys.flatMap demands)) :
    Walked U loops locals s t cs ys n rs P :=
  { h with
    walks := h.walks.perm occurrences
    issued := fun inside => by
      obtain ⟨es, issues, requests, code, outside⟩ := h.issued inside
      exact ⟨es, issues, requests, (demands.symm.append_right _).trans code, outside⟩ }

theorem silent (h : Walked U loops locals s t cs xs n rs P) (none : x.occurrences = []) :
    Walked U loops locals s t cs (xs ++ [x]) n rs P :=
  h.perm _ (by simp [none]) (by simp [demands_of_silent none])

theorem nil (s : WalkState) (h : ∀ L, P L) : Walked U loops locals s s [] [] 0 [] P where
  walks := .nil s
  key := rfl
  leaves _ := .quiet rfl fun L _ => h L
  issued _ := ⟨[], .nil _, rfl, .refl _, nofun⟩
  indoors _ := nofun

theorem constant (none : x.occurrences = []) (h : ∀ L, P L) :
    Walked U loops locals s s [] [x] 0 [] P :=
  (Walked.nil s h).silent none

theorem bindExpr {e : Expr} (hu : U.expr loops e) (h : Runs (Walk.bindExpr locals e) s x t) :
    Walked U loops locals s t [] [x] 0 [] fun _ => Bound s.context.currentId locals e x := by
  have walks : Walks U loops s x.occurrences [] t := .bindExpr hu h
  obtain ⟨rfl, rfl⟩ := Walk.runs_bindExpr.mp h
  have bound : Bound s.context.currentId locals e (Walk.bound s locals e).1 := ⟨_, rfl⟩
  exact {
    walks := by simpa using walks
    key := rfl
    leaves := fun _ => .quiet rfl fun _ _ => bound
    issued := fun _ => ⟨[], .nil _, rfl, by simp [bound.demands, treeDemands, Tree.regionsAll], nofun⟩
    indoors := fun _ => nofun }

theorem takeKey {number : Nat} (h : Runs Walk.takeKey s number t) :
    Walked U loops locals s t [] [] 1 [] fun _ => number = s.context.nextKey := by
  obtain ⟨rfl, rfl⟩ := Walk.runs_takeKey.mp h
  exact {
    walks := .idle rfl rfl rfl rfl
    key := rfl
    leaves := fun _ => .quiet rfl fun _ _ => rfl
    issued := fun _ => ⟨[], .nil _, rfl, .refl _, nofun⟩
    indoors := fun _ => nofun }

theorem emit {step : EmitM Expr} (h : Walked U loops locals s t cs xs n rs P)
    (puts : Puts U.component step xs qs) (hr : Runs (Walk.emit step) t x u) :
    Walked U loops locals s u cs [x] n (rs ++ qs) fun L => P L ∧ Emitted L step x := by
  have walks := h.walks.emit puts.emits hr
  obtain ⟨rfl, rfl⟩ := Walk.runs_emit.mp hr
  have grows := (puts.emits.grows t.emitter).any
  have emitted : Leaves t { t with emitter := (step t.emitter).2 } fun L =>
      Emitted L step (step t.emitter).1 := .quiet (puts.quiet _) fun L hL => ⟨_, rfl, hL⟩
  exact {
    walks := by simpa using walks
    key := h.key
    leaves := fun inside => (h.leaves inside).trans emitted grows
    issued := fun inside => (h.issued inside).emit puts.spends
    indoors := fun some => (h.indoors some).append puts.indoors }

theorem wrap {step : EmitM Expr} (h : Walked U loops locals s t cs xs n rs P)
    (puts : Puts U.component step xs []) (hr : Runs (Walk.emit step) t x u) :
    Walked U loops locals s u cs [x] n rs fun L => P L ∧ Emitted L step x :=
  List.append_nil rs ▸ h.emit puts hr

end Walked

end

def attributeUses (a : Attribute) : List Expr :=
  match a.value with
  | .expression value => value.toList
  | _ => []

def dataUses (e : Element) : List Expr :=
  e.className.toList ++ e.style.toList ++ e.attrs.values.flatMap attributeUses ++
    e.props.values.flatMap attributeUses ++ e.key.toList ++ e.handlers.values

section

variable {U : Uses} {loops : List Loop} {locals : List String} {s t : WalkState} {config : Config}
  {e : Element} {x : Expr}

theorem walked_boundEntry {name : String} {value : Option Expr} {entries : List (String × Expr)}
    (hu : ∀ y ∈ value, U.expr loops y) (h : Runs (boundEntry name locals value) s entries t) :
    Walked U loops locals s t [] (entries.map Prod.snd) 0 [] fun _ =>
      BoundShape s.context.currentId locals name value entries := by
  cases value with
  | none =>
    obtain ⟨rfl, rfl⟩ := runs_pure.mp h
    exact .nil t fun _ => rfl
  | some value =>
    obtain ⟨x, s1, hb, h⟩ := runs_bind.mp h
    obtain ⟨rfl, rfl⟩ := runs_pure.mp h
    exact (Walked.bindExpr (hu value rfl) hb).mono fun _ bound => ⟨x, bound, rfl⟩

theorem walked_mapEntries {α : Type} {f : α → WalkM Expr} {value : Ledger → α → Expr → Prop}
    {g : α → List Request} {scope : Nat} {l : List (String × α)} {entries : List (String × Expr)}
    (hf : ∀ a ∈ l, ∀ s x t, s.context.currentId = scope → Runs (f a.2) s x t →
      Walked U loops locals s t [] [x] 0 (g a.2) fun L => value L a.2 x)
    (hs : s.context.currentId = scope) (h : Runs (mapEntries f l) s entries t) :
    Walked U loops locals s t [] (entries.map Prod.snd) 0 (l.flatMap fun a => g a.2) fun L =>
      EntriesShape (value L) l entries := by
  induction l generalizing s entries with
  | nil =>
    obtain ⟨rfl, rfl⟩ := runs_pure.mp h
    exact .nil t fun _ => .nil
  | cons a l ih =>
    obtain ⟨name, a⟩ := a
    obtain ⟨x, s1, hx, h⟩ := runs_bind.mp h
    obtain ⟨rest, s2, hrest, h⟩ := runs_bind.mp h
    obtain ⟨rfl, rfl⟩ := runs_pure.mp h
    have first := hf _ List.mem_cons_self s x s1 hs hx
    have later := ih (fun b hb => hf b (List.mem_cons_of_mem _ hb)) (first.walks.currentId.trans hs) hrest
    exact (first.trans later).mono fun L both => .cons ⟨rfl, both.1⟩ both.2

theorem walked_tableEntry {α : Type} {f : α → WalkM Expr} {value : Ledger → α → Expr → Prop}
    {g : α → List Request} {name : String} {table : Table α} {entries : List (String × Expr)}
    (hf : ∀ a ∈ table.values, ∀ u x v, u.context.currentId = s.context.currentId → Runs (f a) u x v →
      Walked U loops locals u v [] [x] 0 (g a) fun L => value L a x)
    (h : Runs (tableEntry name table f) s entries t) :
    Walked U loops locals s t [] (entries.map Prod.snd) 0 (table.values.flatMap g) fun L =>
      TableShape name table (value L) entries := by
  unfold tableEntry at h
  unfold TableShape
  split at h
  · next empty =>
    obtain ⟨rfl, rfl⟩ := runs_pure.mp h
    have none : table.values = [] := by simpa [Table.values, Table.isEmpty] using empty
    rw [none]
    exact .nil t fun _ => by simp [empty]
  · next filled =>
    obtain ⟨inner, s1, hm, h⟩ := runs_bind.mp h
    obtain ⟨rfl, rfl⟩ := runs_pure.mp h
    have made := walked_mapEntries (fun a ha => hf a.2 (List.mem_map_of_mem ha)) rfl hm
    rw [Table.values, List.flatMap_map]
    refine (made.perm [.record inner] ?_ ?_).mono fun L shape => ?_
    · simp [List.flatMap_map]
    · simp [List.flatMap_map]
    · rw [if_neg filled]
      exact ⟨inner, shape, rfl⟩

theorem walked_quietTable {α : Type} {f : α → WalkM Expr} {value : Ledger → α → Expr → Prop}
    {name : String} {table : Table α} {entries : List (String × Expr)}
    (hf : ∀ a ∈ table.values, ∀ u x v, u.context.currentId = s.context.currentId → Runs (f a) u x v →
      Walked U loops locals u v [] [x] 0 [] fun L => value L a x)
    (h : Runs (tableEntry name table f) s entries t) :
    Walked U loops locals s t [] (entries.map Prod.snd) 0 [] fun L =>
      TableShape name table (value L) entries := by
  have none : table.values.flatMap (fun _ => ([] : List Request)) = [] :=
    List.flatMap_eq_nil_iff.mpr fun _ _ => rfl
  rw [← none]
  exact walked_tableEntry hf h

theorem walked_constantTable {α : Type} {g : α → Expr} (none : ∀ a, (g a).occurrences = [])
    {name : String} {table : Table α} {entries : List (String × Expr)}
    (h : Runs (tableEntry name table fun a => return g a) s entries t) :
    Walked U loops locals s t [] (entries.map Prod.snd) 0 [] fun _ =>
      TableShape name table (fun a y => y = g a) entries := by
  refine walked_quietTable (fun a _ u x v _ hx => ?_) h
  obtain ⟨rfl, rfl⟩ := runs_pure.mp hx
  exact .constant (none a) fun _ => rfl

theorem walked_attributeValue {asAttribute : Bool} {a : Attribute}
    (hu : ∀ y ∈ attributeUses a, U.expr loops y)
    (h : Runs (attributeValue config e locals asAttribute a) s x t) :
    Walked U loops locals s t [] [x] 0 [] fun L =>
      AttributeShape L config e s.context.currentId locals asAttribute a x := by
  obtain ⟨name, ⟨_ | value⟩ | value | value⟩ := a
  · exact absurd h not_runs_throw
  · obtain ⟨bound, s1, hb, h⟩ := runs_bind.mp h
    exact ((Walked.bindExpr (hu value List.mem_cons_self) hb).wrap
      (.expressionAttribute name asAttribute bound) h).mono fun L both => ⟨bound, both.1, both.2⟩
  · exact ((Walked.nil s fun _ => trivial).wrap (.textAttribute name asAttribute value) h).mono
      fun L both => both.2
  · obtain ⟨rfl, rfl⟩ := runs_pure.mp h
    refine .constant ?_ fun _ => rfl
    cases asAttribute <;> simp [Expr.str, Expr.occurrences]

theorem walked_keyValue {key : Option Expr} (hu : ∀ k ∈ key, U.expr loops k)
    (h : Runs (keyValue locals key) s x t) :
    Walked U loops locals s t [] [x] 1 [] fun L =>
      KeyShape L s.context.currentId locals s.context.nextKey key x := by
  cases key with
  | none =>
    obtain ⟨number, s1, hk, h⟩ := runs_bind.mp h
    obtain ⟨rfl, rfl⟩ := runs_pure.mp h
    exact ((Walked.takeKey hk).silent rfl).mono fun _ is => congrArg Expr.nat is
  | some key =>
    obtain ⟨bound, s1, hb, h⟩ := runs_bind.mp h
    obtain ⟨number, s2, hk, h⟩ := runs_bind.mp h
    have first := Walked.bindExpr (hu key rfl) hb
    have taken := (first.trans (.takeKey hk)).perm [.constant (.int number), bound]
      (by simp [Expr.occurrences]) (by simp)
    refine (taken.wrap (.call (by decide) (by decide) _) h).mono fun L all => ⟨bound, all.1.1, ?_⟩
    have number : number = s.context.nextKey := all.1.2.trans first.key
    exact number ▸ all.2

theorem isPlaceholder_bind (scope : Nat) (e : Expr) (us : List Usage) :
    (Scope.bind scope [] e.asWritten us).1.isPlaceholder = memoizes [] e := by
  unfold memoizes
  cases h : e.asWritten with
  | placeholder read => cases e <;> simp [Expr.asWritten] at h
  | call callee args keywords =>
    unfold Scope.bind
    split <;> rfl
  | _ => rfl

theorem demands_bind {y : Expr} (silent : demands y = []) :
    demands (.apply (.own Primitive.bind.localName) [y]) =
      [.call Primitive.bind.localName, .name Primitive.bind.localName] := by
  rw [demands_apply, argumentDemands_short _ (by simp), List.flatMap_singleton, silent]
  rfl

theorem demands_memoized {y : Expr} (silent : demands y = []) (id : String) :
    demands (.logical .or [.own id, .apply (.member (.own contextName) "setdefault")
      [.str id, .apply (.own Primitive.bind.localName) [y]]]) =
      [.handler id (.str id), .name id, .name contextName, .call Primitive.bind.localName,
        .name Primitive.bind.localName] := by
  have kept : demands (.apply (.member (.own contextName) "setdefault")
      [.str id, .apply (.own Primitive.bind.localName) [y]]) =
      [.name contextName, .call Primitive.bind.localName, .name Primitive.bind.localName] := by
    rw [Expr.apply, demands_call, List.flatMap_cons, List.flatMap_singleton, demands_bind silent]
    simp [callDemands]
  rw [demands_logical, List.flatMap_cons, List.flatMap_singleton, kept, demands_own]
  rfl

theorem asked_handler {handler : Expr} (inside : Inside s locals) :
    ((Walk.bound s locals handler).1.isPlaceholder &&
      !(s.context.setUsages (Walk.bound s locals handler).2).inIteration) = memoizes locals handler := by
  have same : (s.context.setUsages (Walk.bound s locals handler).2).inIteration = !locals.isEmpty :=
    inside
  rw [same]
  cases locals with
  | nil =>
    simp only [List.isEmpty_nil, Bool.not_true, Bool.not_false, Bool.and_true]
    exact isPlaceholder_bind s.context.currentId handler _
  | cons name names => simp [memoizes]

theorem walked_handlerValue {handler : Expr} (hu : U.expr loops handler)
    (h : Runs (handlerValue locals handler) s x t) :
    Walked U loops locals s t [] [x] 0 [.handler locals handler] fun L =>
      HandlerShape L s.context.currentId locals handler x := by
  obtain ⟨y, s1, hb, h⟩ := runs_bind.mp h
  obtain ⟨asked, s2, hi, h⟩ := runs_bind.mp h
  obtain ⟨rfl, rfl⟩ := Walk.runs_inIteration.mp hi
  have walks : Walks U loops s y.occurrences [] s2 := .bindExpr hu hb
  obtain ⟨rfl, rfl⟩ := Walk.runs_bindExpr.mp hb
  have bound : Bound s.context.currentId locals handler (Walk.bound s locals handler).1 := ⟨_, rfl⟩
  have indoors : locals ≠ [] → Indoors [.handler locals handler] := fun some names value is => by
    cases List.mem_singleton.mp is
    exact some
  split at h
  · next memo =>
    have whole := walks.emit (Emits.memoizedHandler _) h
    obtain ⟨rfl, rfl⟩ := Walk.runs_emit.mp h
    refine ⟨by simpa using whole, rfl, fun inside => ?_, fun inside => ?_, indoors⟩
    · exact ⟨[_], rfl, fun L hL noted => .memoized (asked_handler inside ▸ memo) bound
        (Bool.and_eq_true_iff.mp memo).1 hL (noted 0 _ rfl)⟩
    · rw [asked_handler inside] at memo
      refine ⟨[.handler locals handler (some s.emitter.memoCount)], .single (.memoized _ memo), rfl, ?_, nofun⟩
      rw [List.flatMap_singleton]
      exact .of_eq (congrArg (· ++ []) (demands_memoized bound.demands _))
  · next memo =>
    have call : Emits U.component (Emit.bind (Walk.bound s locals handler).1)
        (Walk.bound s locals handler).1.occurrences := by
      simpa [Emit.bind] using Emits.call .bind [(Walk.bound s locals handler).1]
    have whole := walks.emit call h
    obtain ⟨rfl, rfl⟩ := Walk.runs_emit.mp h
    refine ⟨by simpa using whole, rfl, fun inside => ?_, fun inside => ?_, indoors⟩ <;>
      rw [asked_handler inside] at memo
    · exact .quiet rfl fun L hL => .bound (by simpa using memo) bound ⟨_, rfl, hL⟩
    · refine ⟨[.handler locals handler none], .single (.bound _ (by simpa using memo)), rfl, ?_, nofun⟩
      rw [List.flatMap_singleton]
      exact .of_eq (congrArg (· ++ []) (demands_bind bound.demands))

theorem occurrences_domEntry (dom : Option String) :
    ∀ entry ∈ domEntry dom, entry.2.occurrences = [] := by
  unfold domEntry
  split <;> simp [Expr.str, Expr.occurrences]

theorem walked_dataBag (hu : ∀ y ∈ dataUses e, U.expr loops y)
    (h : Runs (dataBag config e locals) s x t) :
    Walked U loops locals s t [] [x] 1 (e.dataRequests locals) fun L =>
      DataShape L config e s.context.currentId locals s.context.nextKey x := by
  simp only [dataUses, List.mem_append, List.mem_flatMap, Option.mem_toList, or_assoc] at hu
  obtain ⟨className, s1, h1, h⟩ := runs_bind.mp h
  obtain ⟨classMap, s2, h2, h⟩ := runs_bind.mp h
  obtain ⟨styleMap, s3, h3, h⟩ := runs_bind.mp h
  obtain ⟨style, s4, h4, h⟩ := runs_bind.mp h
  obtain ⟨attrs, s5, h5, h⟩ := runs_bind.mp h
  obtain ⟨props, s6, h6, h⟩ := runs_bind.mp h
  obtain ⟨key, s7, h7, h⟩ := runs_bind.mp h
  obtain ⟨handlers, s8, h8, h⟩ := runs_bind.mp h
  obtain ⟨rfl, rfl⟩ := runs_pure.mp h
  have w1 : Walked U loops locals _ _ _ _ _ _ _ := walked_boundEntry (fun y hy => hu y (by simp_all)) h1
  have w2 := w1.trans (walked_constantTable (fun _ => rfl) h2)
  have w3 := w2.trans (walked_constantTable (fun _ => rfl) h3)
  have w4 := w3.trans (walked_boundEntry (fun y hy => hu y (by simp_all)) h4)
  have w5 := w4.trans (walked_quietTable (fun a ha u x v is hx => is ▸ walked_attributeValue
    (fun y hy => hu y (.inr (.inr (.inl ⟨a, ha, hy⟩)))) hx) h5)
  have w6 := w5.trans (walked_quietTable (fun a ha u x v is hx => is ▸ walked_attributeValue
    (fun y hy => hu y (.inr (.inr (.inr (.inl ⟨a, ha, hy⟩))))) hx) h6)
  have w7 := w6.trans (walked_keyValue (fun y hy => hu y (by simp_all)) h7)
  have w8 := w7.trans (walked_tableEntry
    (fun y hy u x v is hx => is ▸ walked_handlerValue (hu y (by simp_all)) hx) h8)
  rw [w3.walks.currentId, w4.walks.currentId, w5.walks.currentId, w6.walks.currentId,
    w7.walks.currentId, w6.key] at w8
  have requests : e.dataRequests locals = e.handlers.values.flatMap fun y => [.handler locals y] :=
    List.map_eq_flatMap
  have dom {β : Type} {f : Expr → List β} (none : ∀ y : Expr, y.occurrences = [] → f y = []) :
      (domEntry e.dom).flatMap (fun entry => f entry.2) = [] :=
    List.flatMap_eq_nil_iff.mpr fun entry he => none _ (occurrences_domEntry e.dom entry he)
  rw [requests]
  refine (w8.perm _ (.of_eq ?_) (.of_eq ?_)).mono fun L shape => ?_
  · simp [List.flatMap_map, dom (f := Expr.occurrences) fun _ => id]
  · simp [List.flatMap_map, dom (f := demands) fun _ => demands_of_silent]
  · obtain ⟨⟨⟨⟨⟨⟨⟨hc, hm⟩, hsm⟩, hst⟩, ha⟩, hp⟩, hk⟩, ho⟩ := shape
    exact ⟨className, classMap, styleMap, style, attrs, props, key, handlers, hc, hm, hsm, hst, ha, hp, hk,
      ho, rfl⟩

end

end TemplateCompiler.Generate
