import TemplateCompiler.Proofs.Generate.LoweringAccounts

/-!
How lowering fails. The failure of a longer walk is that of its first part that fails, so each function
that lowers a part of a template has one equation for its failure. Entering and leaving scopes never fails,
because every scope that is left was entered. What remains are the faults of the blocks themselves: a bare
node, a branch that no chain takes in, an attribute whose expression is missing.
-/

namespace TemplateCompiler.Generate

open TemplateCompiler.Code TemplateCompiler.Scope TemplateCompiler.Template

def failure? {α : Type} (m : WalkM α) (s : WalkState) : Option Failure :=
  match (m.run.run s).1 with
  | .ok _ => none
  | .error f => some f

section

variable {α β : Type} {s t : WalkState} {m : WalkM α} {f : α → WalkM β} {a : α}

theorem failure?_of_runs (h : Runs m s a t) : failure? m s = none := by
  have run : m.run.run s = (.ok a, t) := h
  simp only [failure?, run]

theorem failure?_eq_none : failure? m s = none ↔ ∃ a t, Runs m s a t := by
  constructor
  · intro h
    rcases hm : m.run.run s with ⟨e | a, t⟩
    · simp [failure?, hm] at h
    · exact ⟨a, t, hm⟩
  · rintro ⟨a, t, h⟩
    exact failure?_of_runs h

@[simp] theorem failure?_pure (a : α) (s : WalkState) : failure? (pure a : WalkM α) s = none := rfl

@[simp] theorem failure?_throw (e : Failure) (s : WalkState) :
    failure? (throw e : WalkM α) s = some e := rfl

/-- The first part that fails decides; the second part is only reached in states that the first part
leaves behind. -/
theorem failure?_bind {o : Option Failure} (h : ∀ a t, Runs m s a t → failure? (f a) t = o) :
    failure? (m >>= f) s = (failure? m s).or o := by
  have step : (m >>= f).run.run s =
      match m.run.run s with
      | (.ok a, u) => (f a).run.run u
      | (.error e, u) => (.error e, u) := by
    rw [ExceptT.run_bind, StateT.run_bind]
    rcases m.run.run s with ⟨_ | a, u⟩ <;> rfl
  rcases hm : m.run.run s with ⟨e | a, u⟩
  · simp only [failure?, step, hm, Option.some_or]
  · rw [← h a u hm]
    simp only [failure?, step, hm, Option.none_or]

theorem failure?_bind_of_runs (h : Runs m s a t) : failure? (m >>= f) s = failure? (f a) t := by
  have only : ∀ b u, Runs m s b u → failure? (f b) u = failure? (f a) t := by
    intro b u hb
    obtain ⟨rfl, rfl⟩ := (runs_iff_of_ok h).mp hb
    rfl
  rw [failure?_bind only, failure?_of_runs h, Option.none_or]

theorem failure?_bind_pure (g : α → β) : failure? (m >>= fun a => pure (g a)) s = failure? m s := by
  rw [failure?_bind fun a t _ => failure?_pure (g a) t, Option.or_none]

end

def Completes {α : Type} (m : WalkM α) : Prop := ∀ s, failure? m s = none

namespace Completes

variable {α β : Type} {m : WalkM α} {f : α → WalkM β}

theorem pure (a : α) : Completes (Pure.pure a : WalkM α) := fun _ => rfl

theorem bind (hm : Completes m) (hf : ∀ a, Completes (f a)) : Completes (m >>= f) := by
  intro s
  rw [failure?_bind fun a t _ => hf a t, hm s, Option.or_none]

theorem emit (step : EmitM α) : Completes (Walk.emit step) := fun _ => rfl

theorem bindExpr (locals : List String) (e : Expr) : Completes (Walk.bindExpr locals e) := fun _ => rfl

theorem package (r : Rendered) : Completes (package r) := by
  unfold Generate.package
  split
  · exact .pure _
  · split
    · exact .pure _
    · exact .emit _

theorem boundEntry (name : String) (locals : List String) (e : Option Expr) :
    Completes (boundEntry name locals e) := by
  cases e with
  | none => exact .pure _
  | some e => exact .bind (.bindExpr locals e) fun _ => .pure _

theorem keyValue (locals : List String) (key : Option Expr) : Completes (keyValue locals key) := by
  have taken : Completes Walk.takeKey := fun _ => rfl
  cases key with
  | none => exact .bind taken fun _ => .pure _
  | some key => exact .bind (.bindExpr locals key) fun _ => .bind taken fun _ => .emit _

theorem handlerValue (locals : List String) (handler : Expr) :
    Completes (handlerValue locals handler) := by
  have asked : Completes Walk.inIteration := fun _ => rfl
  refine .bind (.bindExpr locals handler) fun bound => .bind asked fun inside => ?_
  split
  · exact .emit _
  · exact .emit _

theorem elementCall (e : Element) (locals : List String) (data children : Expr) :
    Completes (elementCall e locals data children) := by
  unfold Generate.elementCall
  split
  · exact .bind (.bindExpr locals _) fun _ => .emit _
  · split <;> exact .emit _

theorem fragmentBody (r : Rendered) : Completes (fragmentBody r) := by
  unfold Generate.fragmentBody
  split
  · exact .pure _
  · exact .package r

end Completes

section Data

variable {α : Type} {s : WalkState} {locals : List String} {config : Config} {e : Element}

def attributeFault? (a : Attribute) : Option Failure :=
  match a.value with
  | .expression none => some .missingPart
  | _ => none

def dataFault? (e : Element) : Option Failure :=
  (e.attrs.values ++ e.props.values).findSome? attributeFault?

theorem failure?_mapEntries {f : α → WalkM Expr} {fault : α → Option Failure}
    (h : ∀ a s, failure? (f a) s = fault a) (l : List (String × α)) :
    failure? (mapEntries f l) s = (l.map Prod.snd).findSome? fault := by
  induction l generalizing s with
  | nil => rfl
  | cons x l ih =>
    obtain ⟨name, value⟩ := x
    rw [mapEntries, failure?_bind fun a t _ => (failure?_bind_pure _).trans ih, h value s]
    cases hv : fault value <;> simp [hv]

theorem failure?_tableEntry {f : α → WalkM Expr} {fault : α → Option Failure}
    (h : ∀ a s, failure? (f a) s = fault a) (name : String) (t : Table α) :
    failure? (tableEntry name t f) s = t.values.findSome? fault := by
  unfold tableEntry
  split
  · next empty =>
    have none : t.entries = [] := List.isEmpty_iff.mp empty
    simp [Table.values, none]
  · rw [failure?_bind_pure]
    exact failure?_mapEntries h t.entries

theorem Completes.tableEntry {f : α → WalkM Expr} (h : ∀ a, Completes (f a)) (name : String)
    (t : Table α) : Completes (tableEntry name t f) := by
  intro s
  have none : ∀ a s, failure? (f a) s = (fun _ : α => Option.none) a := fun a s => h a s
  rw [failure?_tableEntry none]
  simp

theorem failure?_attributeValue (asAttribute : Bool) (a : Attribute) (s : WalkState) :
    failure? (attributeValue config e locals asAttribute a) s = attributeFault? a := by
  obtain ⟨name, ⟨_ | value⟩ | value | value⟩ := a <;> rfl

theorem failure?_dataBag : failure? (dataBag config e locals) s = dataFault? e := by
  have plain {m : WalkM (List (String × Expr))} {k : List (String × Expr) → WalkM Expr}
      {o : Option Failure} {s : WalkState} (hm : Completes m)
      (hk : ∀ x t, failure? (k x) t = o) : failure? (m >>= k) s = o := by
    rw [failure?_bind fun x t _ => hk x t, hm s, Option.none_or]
  unfold dataBag dataFault?
  rw [List.findSome?_append]
  refine plain (.boundEntry _ locals _) fun _ _ => ?_
  refine plain (.tableEntry (fun _ => .pure _) _ _) fun _ _ => ?_
  refine plain (.tableEntry (fun _ => .pure _) _ _) fun _ _ => ?_
  refine plain (.boundEntry _ locals _) fun _ _ => ?_
  rw [failure?_bind, failure?_tableEntry fun a s => failure?_attributeValue true a s]
  intro attrs t _
  rw [failure?_bind, failure?_tableEntry fun a s => failure?_attributeValue false a s, Option.or_none]
  intro props t _
  exact (Completes.bind (.keyValue locals e.key) fun _ =>
    .bind (.tableEntry (fun _ => .handlerValue locals _) _ _) fun _ => .pure _) t

end Data

structure Stays (s t : WalkState) : Prop where
  outer : t.context.outer = s.context.outer
  scope : t.context.currentId = s.context.currentId
  numbered : s.context.Numbered → t.context.Numbered

theorem Walked.stays {U : Uses} {loops : List Loop} {locals : List String} {s t : WalkState} {cs : List Tree}
    {xs : List Expr} {n : Nat} {rs : List Request} {P : Ledger → Prop}
    (h : Walked U loops locals s t cs xs n rs P) : Stays s t :=
  ⟨h.walks.outer, h.walks.currentId, h.walks.numbered⟩

section Scopes

variable {s t : WalkState} {kind : ScopeKind} {locals : List String} {config : Config} {e : Element}

theorem runs_pop_of_entered (hn : s.context.Numbered) (h : Stays (Walk.entered s kind) t) :
    ∃ r p, Runs Walk.pop t r p ∧ r.id ≠ 0 := by
  have outer : t.context.outer = s.context.current :: s.context.outer := h.outer
  refine ⟨_, _, Walk.runs_pop.mpr ⟨_, _, outer, rfl, rfl⟩, ?_⟩
  have first : s.context.current.region.id < s.context.nextId :=
    (hn s.context.current List.mem_cons_self).1
  have number : t.context.current.region.id = s.context.nextId := h.scope
  rw [number]
  exact Nat.ne_of_gt (Nat.lt_of_le_of_lt (Nat.zero_le _) first)

theorem failure?_setHelper {r : Region} (h : r.id ≠ 0) (helper : Helper) :
    failure? (Walk.setHelper r helper) s = none :=
  failure?_of_runs (Walk.runs_setHelper.mpr ⟨h, rfl, rfl⟩)

def Testable (e : Element) : Prop :=
  ∃ branch test condition, e.branch = some branch ∧ branch.test = some test ∧
    testExpr? branch.modifier = some condition

theorem failure?_applyIf {body otherwise : Expr} (hn : s.context.Numbered) (testable : Testable e)
    (h : Stays (Walk.entered s .conditional) t) :
    failure? (applyIf config e body locals otherwise) t = none := by
  obtain ⟨branch, test, condition, hb, ht, hc⟩ := testable
  obtain ⟨r, p, popped, number⟩ := runs_pop_of_entered hn h
  simp only [applyIf, hb, ht, hc]
  rw [failure?_bind_of_runs popped, failure?_bind_of_runs (Walk.runs_bindExpr.mpr ⟨rfl, rfl⟩),
    failure?_bind_pure, failure?_setHelper number]

theorem failure?_applyIteration {l : Loop} {body : Expr} (hn : s.context.Numbered)
    (hl : e.loop? = some l) (h : Stays (Walk.entered s (loopKind l)) t) :
    failure? (applyIteration e body locals) t = none := by
  obtain ⟨r, p, popped, number⟩ := runs_pop_of_entered hn h
  simp only [applyIteration, hl]
  rw [failure?_bind_of_runs popped, failure?_bind_of_runs (Walk.runs_emit.mpr ⟨rfl, rfl⟩),
    failure?_bind_of_runs (Walk.runs_setHelper.mpr ⟨number, rfl, rfl⟩)]
  exact (Completes.bind (.bindExpr _ _) fun _ => .emit _) _

theorem Stays.fragmentBody {r : Rendered} {x : Expr} {u : WalkState} (h : Stays s t)
    (hr : Runs (fragmentBody r) t x u) : Stays s u := by
  have same : u.context = t.context := by
    unfold Generate.fragmentBody package at hr
    repeat' split at hr
    all_goals
      obtain ⟨-, rfl⟩ := runs_pure.mp hr
      rfl
  exact ⟨same ▸ h.outer, same ▸ h.scope, same ▸ h.numbered⟩

end Scopes

def Fails (siblings : Siblings) (o : Option Failure) : Prop :=
  ∀ locals s, s.context.Numbered → failure? (siblings locals) s = o

section Lowering

variable {s t : WalkState} {locals : List String} {config : Config} {e : Element} {bs : List Block}
  {o : Option Failure} {x : Expr}

theorem failure?_makeElement (hn : s.context.Numbered) (hc : Fails (lowerAll config bs) o) :
    failure? (makeElement config e (lowerAll config bs) locals) s = (dataFault? e).or o := by
  unfold makeElement
  rw [failure?_bind (o := o), failure?_dataBag]
  intro data t hd
  have bag : Walked .any [] locals s t [] [data] 1 (e.dataRequests locals) _ :=
    walked_dataBag (fun _ _ => trivial) hd
  rw [failure?_bind (o := none), hc locals t (bag.walks.numbered hn), Option.or_none]
  intro r u _
  exact (Completes.bind (.package r) fun _ => .elementCall e locals data _) u

theorem failure?_makeConditional (hn : s.context.Numbered) (testable : Testable e)
    (hc : Fails (lowerAll config bs) o) :
    failure? (makeConditional config e (lowerAll config bs) locals) s = (dataFault? e).or o := by
  have pushed : Runs (Walk.push .conditional) s () (Walk.entered s .conditional) :=
    Walk.runs_push.mpr rfl
  unfold makeConditional
  rw [failure?_bind_of_runs pushed, failure?_bind (o := none),
    failure?_makeElement (hn.push _) hc, Option.or_none]
  intro made t hm
  have below := lowers_lowerAll config bs (blocksUse_any bs (innerLoops [] e))
  obtain ⟨cs, walked⟩ := lowers_makeElement elementUses_any below _ _ _ _ (hn.push _) hm
  exact failure?_applyIf hn testable walked.stays

theorem failure?_enterIteration {α : Type} {content : List String → WalkM α}
    {finish : α → WalkM Rendered} (hn : s.context.Numbered)
    (fails : ∀ inner s, s.context.Numbered → failure? (content inner) s = o)
    (stays : ∀ inner s x t, s.context.Numbered → Runs (content inner) s x t → Stays s t)
    (still : e.loop? = none → ∀ x, Completes (finish x))
    (leaves : ∀ l, e.loop? = some l → ∀ x t,
      Stays (Walk.entered s (loopKind l)) t → failure? (finish x) t = none) :
    failure? (do finish (← content (← enterIteration e locals))) s = o := by
  cases hl : e.loop? with
  | none =>
    have same : Runs (enterIteration e locals) s locals s :=
      runs_enterIteration.mpr (.inl ⟨hl, rfl, rfl⟩)
    rw [failure?_bind_of_runs same, failure?_bind fun x t _ => still hl x t, fails locals s hn,
      Option.or_none]
  | some l =>
    have enters : Runs (enterIteration e locals) s (locals ++ l.names) (Walk.entered s (loopKind l)) :=
      runs_enterIteration.mpr (.inr ⟨l, hl, rfl, rfl⟩)
    rw [failure?_bind_of_runs enters, failure?_bind (o := none), fails _ _ (hn.push _), Option.or_none]
    intro x t hx
    exact leaves l hl x t (stays _ _ _ _ (hn.push _) hx)

theorem fails_lowerElement {conditional : Bool} (plain : e.isFragment = false)
    (testable : conditional → e.branch.isSome → Testable e) (hc : Fails (lowerAll config bs) o) :
    Fails (lowerElement config e conditional (lowerAll config bs)) ((dataFault? e).or o) := by
  intro locals s hn
  unfold lowerElement
  refine failure?_enterIteration hn (fun inner s hn => ?_) (fun inner s x t hn hx => ?_)
    (fun hl x => ?_) fun l hl x t inside => ?_
  · split
    · next asked =>
      simp only [Bool.and_eq_true] at asked
      exact failure?_makeConditional hn (testable asked.1 asked.2) hc
    · exact failure?_makeElement hn hc
  · have below := lowers_lowerAll config bs (blocksUse_any bs (innerLoops [] e))
    obtain ⟨cs, walked⟩ := lowers_make plain elementUses_any below _ _ _ _ hn hx
    exact walked.stays
  · simp only [iterates_eq, hl, Option.isSome_none, Bool.false_eq_true, if_false]
    exact .pure _
  · simp only [iterates_eq, hl, Option.isSome_some, if_true]
    rw [failure?_bind_pure, failure?_applyIteration hn hl inside]

theorem failure?_conditionalEntries {r : Rendered} (hn : s.context.Numbered) (testable : Testable e)
    (h : Stays (Walk.entered s .conditional) t) :
    failure? (conditionalEntries config e r locals) t = none := by
  unfold conditionalEntries
  split <;> rw [failure?_bind_pure, failure?_applyIf hn testable h]

theorem fails_lowerConditional (testable : Testable e) (hc : Fails (lowerAll config bs) o) :
    Fails (lowerConditional config e (lowerAll config bs)) o := by
  intro locals s hn
  have pushed : Runs (Walk.push .conditional) s () (Walk.entered s .conditional) :=
    Walk.runs_push.mpr rfl
  unfold lowerConditional
  rw [failure?_bind_of_runs pushed, failure?_bind (o := none), hc _ _ (hn.push _), Option.or_none]
  intro r t hr
  obtain ⟨cs, walked⟩ := lowers_lowerAll config bs (blocksUse_any bs []) _ _ _ _ (hn.push _) hr
  rw [failure?_bind_pure, failure?_conditionalEntries hn testable walked.stays]

theorem fails_lowerFragment (fragment : e.isFragment) (testable : e.branch.isSome → Testable e)
    (hc : Fails (lowerAll config bs) o) :
    Fails (lowerFragment config e (lowerAll config bs)) o := by
  intro locals s hn
  unfold lowerFragment
  refine failure?_enterIteration hn (fun inner s hn => ?_) (fun inner s x t hn hx => ?_)
    (fun hl x => ?_) fun l hl x t inside => ?_
  · split
    · exact fails_lowerConditional (testable ‹_›) hc inner s hn
    · exact hc inner s hn
  · have below := lowers_lowerAll config bs (blocksUse_any bs [])
    obtain ⟨cs, walked⟩ := lowers_content fragment (fun _ _ => trivial) below _ _ _ _ hn hx
    exact walked.stays
  · simp only [iterates_eq, hl, Option.isSome_none, Bool.false_eq_true, if_false]
    exact .pure _
  · simp only [iterates_eq, hl, Option.isSome_some, if_true]
    rw [failure?_bind (o := none), Completes.fragmentBody x t, Option.or_none]
    intro body u hb
    rw [failure?_bind_pure, failure?_applyIteration hn hl (inside.fragmentBody hb)]

theorem failure?_lowerBranch (hn : s.context.Numbered) (hc : Fails (lowerAll config bs) o) :
    failure? (lowerBranch config e (lowerAll config bs) locals) s =
      (if e.isFragment then none else dataFault? e).or o := by
  unfold lowerBranch
  cases kind : e.isFragment
  · have element : Fails (lowerElement config e false (lowerAll config bs)) _ :=
      fails_lowerElement kind (by simp) hc
    simp only [Bool.false_eq_true, if_false]
    rw [failure?_bind fun r t _ => Completes.package r t, element locals s hn, Option.or_none]
  · simp only [if_true, Option.none_or]
    rw [failure?_bind fun r t _ => Completes.package r t, hc locals s hn, Option.or_none]

end Lowering

/-- What is wrong with an element by itself. A fragment has no data. -/
def elementFault? (e : Element) : Option Failure := if e.isFragment then none else dataFault? e

/-- The failure of a branch that no chain takes in. -/
def strayFault (config : Config) (e : Element) : Failure :=
  .compile ⟨.strayBranch ((e.branchKind?.map BranchKind.label).getD ""), config.name, e.position⟩

mutual

/-- The first fault of a block, in the order of the template. -/
def blockFault? (config : Config) : Block → Option Failure
  | .text _ | .dynamicText _ | .comment _ => none
  | .bare position => some (.compile ⟨.unsupportedNode, config.name, position⟩)
  | .element e children => (elementFault? e).or (blocksFault? config children)
  | .chain members => membersFault? config members
  | .stray (.element e _ :: _) => some (strayFault config e)
  | .stray _ => none

def blocksFault? (config : Config) : List Block → Option Failure
  | [] => none
  | b :: bs => (blockFault? config b).or (blocksFault? config bs)

def membersFault? (config : Config) : List Block → Option Failure
  | .element e children :: rest =>
    (elementFault? e).or ((blocksFault? config children).or
      (if e.branchKind? = some .fallback then none else membersFault? config rest))
  | _ => none

end

mutual

def BlockTests : Block → Prop
  | .element e children => (e.branch.isSome → Testable e) ∧ BlocksTest children
  | .chain members | .stray members => MembersTest members
  | .text _ | .dynamicText _ | .comment _ | .bare _ => True

def BlocksTest : List Block → Prop
  | [] => True
  | b :: bs => BlockTests b ∧ BlocksTest bs

/-- The same for the members of a chain, of which the last may be without a condition. -/
def MembersTest : List Block → Prop
  | .element e children :: rest =>
    (e.branchKind? ≠ some .fallback → Testable e) ∧ BlocksTest children ∧ MembersTest rest
  | _ => True

end

mutual

theorem fails_lower (config : Config) :
    ∀ b : Block, BlockTests b → Fails (lower config b) (blockFault? config b)
  | .text _, _ | .dynamicText _, _ | .comment _, _ | .bare _, _ | .stray [], _ => fun _ _ _ => rfl
  | .element e children, ⟨testable, below⟩ => by
    have inner := fails_lowerAll config children below
    intro locals s hn
    rw [lower, blockFault?, elementFault?]
    cases kind : e.isFragment
    · exact fails_lowerElement kind (fun _ => testable) inner locals s hn
    · exact fails_lowerFragment kind testable inner locals s hn
  | .chain members, tests => by
    intro locals s hn
    rw [lower, failure?_bind_pure, failure?_lowerChain config members tests hn, blockFault?]
  | .stray (b :: bs), _ => by
    intro locals s hn
    cases b <;> rfl

theorem fails_lowerAll (config : Config) :
    ∀ bs : List Block, BlocksTest bs → Fails (lowerAll config bs) (blocksFault? config bs)
  | [], _ => fun _ _ _ => rfl
  | b :: bs, ⟨first, rest⟩ => by
    intro locals s hn
    rw [lowerAll, failure?_bind (o := blocksFault? config bs), fails_lower config b first locals s hn,
      blocksFault?]
    intro r t hr
    obtain ⟨cs, walked⟩ := lowers_lower config b (blockUses_any b []) _ _ _ _ hn hr
    rw [failure?_bind_pure, fails_lowerAll config bs rest locals t (walked.walks.numbered hn)]

theorem failure?_lowerChain (config : Config) : ∀ (members : List Block) {locals : List String}
    {s : WalkState}, MembersTest members → s.context.Numbered →
    failure? (lowerChain config members locals) s = membersFault? config members
  | .element e children :: rest, locals, s, ⟨testable, below, later⟩, hn => by
    have inner := fails_lowerAll config children below
    rw [lowerChain, membersFault?]
    split
    · rw [failure?_lowerBranch hn inner, Option.or_none, elementFault?]
    · next other =>
      have pushed : Runs (Walk.push .conditional) s () (Walk.entered s .conditional) :=
        Walk.runs_push.mpr rfl
      rw [failure?_bind_of_runs pushed, failure?_bind (o := membersFault? config rest),
        failure?_lowerBranch (hn.push _) inner, elementFault?, Option.or_assoc]
      intro body t hb
      obtain ⟨cs, walked⟩ := lowers_lowerBranch (elementUses_any : ElementUses .any [] e)
        (lowers_lowerAll config children (blocksUse_any children _)) _ _ _ _ (hn.push _) hb
      have numbered := walked.walks.numbered (hn.push _)
      rw [failure?_bind (o := none), failure?_lowerChain config rest later numbered, Option.or_none]
      intro otherwise u ho
      obtain ⟨ds, walked'⟩ := lowers_lowerChain config rest (membersUse_any rest []) _ _ _ _ numbered ho
      exact failure?_applyIf hn (testable other) (walked.trans walked').stays
  | [], _, _, _, _ | .text _ :: _, _, _, _, _ | .dynamicText _ :: _, _, _, _, _
  | .comment _ :: _, _, _, _, _ | .bare _ :: _, _, _, _, _ | .chain _ :: _, _, _, _, _
  | .stray _ :: _, _, _, _, _ => rfl

end

theorem failure?_lowerRoot {config : Config} {children : List Node}
    (tests : BlocksTest (Block.arrange (Block.ofNodes children))) :
    failure? (lowerRoot config children) .initial =
      blocksFault? config (Block.arrange (Block.ofNodes children)) := by
  unfold lowerRoot
  rw [failure?_bind fun r t _ => Completes.package r t,
    fails_lowerAll config _ tests _ _ Context.numbered_initial, Option.or_none]

end TemplateCompiler.Generate
