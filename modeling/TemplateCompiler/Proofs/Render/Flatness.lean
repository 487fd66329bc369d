import TemplateCompiler.Proofs.Generate.Segments
import TemplateCompiler.Proofs.Render.Positions

/-!
Children are flat lists. Siblings are packed as they are if no entry of their code is a list at run time; a
single entry that is a list is taken for the whole, and otherwise all entries are flattened. What an entry is
at run time is told from the nodes: the code of a condition shows no list by itself, so a further condition
around it gives nothing where its test fails, and no empty list. Children are flat lists in all renders if no
such entry, and no slot with a constructor, is taken for the whole.
-/

namespace TemplateCompiler.Template

/-- What an entry of the code for siblings is at run time: a node or nothing in its place; a list, with
whether the code shows it by itself; a list or nothing; a list or a node; or a list that is spread, with
whether there can be lists in it. -/
inductive Entry where
  | node
  | list (shown : Bool)
  | optional
  | unsure
  | spread (nested : Bool)
  deriving DecidableEq

namespace Entry

/-- Whether the entry can bring a list among nodes. -/
def nested : Entry → Bool
  | node => false
  | list _ | optional | unsure => true
  | spread nested => nested

def isSpread : Entry → Bool
  | spread _ => true
  | _ => false

/-- The entry that stands for others under a condition. -/
def under : List Entry → Entry
  | [node] => node
  | [list true] => list false
  | [list false] | [optional] => optional
  | [unsure] => unsure
  | entries => spread (entries.any nested)

def pack (entries : List Entry) : Bool := entries != [optional] && entries != [unsure]

end Entry

/-- The entry of an element without its directives. A constructor makes a node, also for a slot. -/
def Element.entry (e : Element) : Entry :=
  if e.isSlot then (if e.dynamic.isSome then .unsure else .list true) else .node

/-- The entries of an element without its directives, given those of its children. -/
def Element.entries (e : Element) (children : List Entry) : List Entry :=
  if e.isFragment then children else [e.entry]

mutual

def Node.entries : Node → List Entry
  | .element e children =>
    if e.loop?.isSome then [.list true]
    else if e.branch.isSome then [.under (e.entries (Node.entriesAll children))]
    else e.entries (Node.entriesAll children)
  | .text .. | .dynamicText .. | .comment .. => [.node]
  | .bare _ => []

/-- The entries of the code for siblings: all branches of a chain have one in common. -/
def Node.entriesAll : List Node → List Entry
  | [] => []
  | n :: ns =>
    (if n.branchKind? = some .opening ∧ continued ns then [.spread false]
      else if continued (n :: ns) then [] else n.entries) ++ Node.entriesAll ns

end

mutual

/-- Whether in the code for a node all children are packed as lists. -/
def Node.packs : Node → Bool
  | .element e children =>
    (e.isFragment || Entry.pack (Node.entriesAll children)) && Node.packsAll children
  | .text .. | .dynamicText .. | .comment .. | .bare _ => true

/-- `Node.packs` of all, where no branch of a chain is a node at times and a list at others. -/
def Node.packsAll : List Node → Bool
  | [] => true
  | n :: ns =>
    (match n with
      | .element e children =>
        !(e.continues || e.branchKind? == some .opening && continued ns) ||
          e.entries (Node.entriesAll children) != [.unsure]
      | _ => true) && n.packs && Node.packsAll ns

end

end TemplateCompiler.Template

namespace TemplateCompiler.Render

open TemplateCompiler.Code TemplateCompiler.Generate TemplateCompiler.Scope TemplateCompiler.Template

/-- A node, or nothing in its place. -/
def Item (isNode : Value → Prop) (v : Value) : Prop := v = .none ∨ isNode v

/-- A list of nodes, some of them missing. -/
def Flat (isNode : Value → Prop) (v : Value) : Prop :=
  ∃ items identity, v = .list items identity ∧ ∀ u ∈ items, Item isNode u

def nodeMakers : List Primitive := [.element, .customElement, .dynamicComponent, .text, .dynamicText, .comment]

/-- An engine that gives flat lists of nodes, and nodes that are no lists. -/
structure Engine.Flattens (engine : Engine) (isNode : Value → Prop) : Prop where
  unlisted : ∀ items identity, ¬ isNode (.list items identity)
  gather : ∀ results, (∀ v ∈ results, Item isNode v ∨ Flat isNode v) → Flat isNode (engine.gather results)
  lists : ∀ q args v, q.givesList → engine.make q args = .ok v → Flat isNode v
  nodes : ∀ q args v, q ∈ nodeMakers → engine.make q args = .ok v → isNode v

theorem entry_maker (e : Element) : (e.entry = .list true ∧ e.maker = .slot) ∨
    ((e.entry = .node ∨ e.entry = .unsure) ∧
      e.maker ∈ [Primitive.element, .customElement, .dynamicComponent]) := by
  unfold Element.entry Element.maker Element.isSlot
  cases e.dynamic <;> cases e.kind <;> simp

theorem isSlot_of_entry {e : Element} (h : .list true = e.entry) : e.isSlot = true := by
  unfold Element.entry at h
  split at h
  · assumption
  · cases h

theorem not_isSlot_of_entry {e : Element} (h : .node = e.entry) : e.isSlot = false := by
  unfold Element.entry at h
  split at h
  · split at h <;> cases h
  · next plain => simpa using plain

/-- A render with an engine that flattens lists. -/
structure Flattening where
  stage : Stage
  engine : Engine
  isNode : Value → Prop
  all : List Node
  made : stage.draft.Made (admitted all)
  flattens : engine.Flattens isNode

/-- A scope of the code, with the scopes around it. -/
structure Place (σ : Stage) extends Spot where
  above : List Spot
  listed : (above, toSpot) ∈ σ.draft.scopes

def Place.inner {σ : Stage} (p : Place σ) {c : Tree} (child : c ∈ p.children) : Place σ :=
  ⟨p.toSpot.child c, p.toSpot :: p.above, Tree.spots_child p.listed child⟩

namespace Flattening

variable (S : Flattening)

def regime : Regime S.stage := S.stage.packing fun q _ v => q ≠ .flatten → Flat S.isNode v

abbrev Has (p : Place S.stage) (x : Expr) (v : Value) : Prop :=
  Yields S.engine (S.regime.Told S.engine) p.children x v

abbrev Packs (p : Place S.stage) (x : Expr) : Prop := S.regime.PacksIn S.engine p.children x

abbrev Below (cs : List Tree) : Prop := ∀ c ∈ cs, S.regime.PacksBelow S.engine c

def Fits : Entry → Value → Prop
  | .node, v => Item S.isNode v
  | .list _, v => Flat S.isNode v
  | .optional, v => v = .none ∨ Flat S.isNode v
  | .unsure, v => Item S.isNode v ∨ Flat S.isNode v
  | .spread nested, v => nested = false → ∀ us, v.items? = some us → ∀ u ∈ us, Item S.isNode u

structure Stands (p : Place S.stage) (k : Entry) (x : Expr) : Prop where
  starred : x.isStarred = k.isSpread
  shown : isListValued x = decide (k = .list true)
  packed : S.Packs p x
  fits : ∀ v, S.Has p (unstarred x) v → S.Fits k v

/-- Siblings are lowered to entries of the given kinds. -/
structure Listed (kinds : List Entry) (r : Rendered) (p : Place S.stage) : Prop where
  nested : r.nested = kinds.any Entry.nested
  each : List.Forall₂ (S.Stands p) kinds r.entries

/-- The same, and all children in the scopes that are closed on the way are flat. -/
structure Lists (kinds : List Entry) (r : Rendered) (cs : List Tree) (p : Place S.stage) : Prop where
  listed : S.Listed kinds r p
  below : S.Below cs

/-- Code of a branch, whose value is spread, with the scopes in it. -/
structure Joins (x : Expr) (cs : List Tree) (p : Place S.stage) : Prop where
  packed : S.Packs p x
  fits : ∀ v, S.Has p x v → S.Fits (.spread false) v
  below : S.Below cs

variable {S} {p : Place S.stage} {kinds further : List Entry} {r s content : Rendered} {L : Ledger}
  {x body otherwise : Expr} {v : Value} {vs : List Value}

theorem Listed.append (h : S.Listed kinds r p) (h' : S.Listed further s p) :
    S.Listed (kinds ++ further) (r.append s) p where
  nested := by rw [Rendered.append, h.nested, h'.nested, List.any_append]
  each := List.rel_append h.each h'.each

theorem Listed.one {k : Entry} {nested : Bool} (is : nested = k.nested) (h : S.Stands p k x) :
    S.Listed [k] ⟨[x], nested⟩ p where
  nested := by simp [is]
  each := .cons h .nil

theorem Listed.packed (h : S.Listed kinds r p) : ∀ x ∈ r.entries, S.Packs p x := by
  intro x hx
  obtain ⟨k, -, stands⟩ := exists_of_forall₂ h.each hx
  exact stands.packed

theorem Listed.single (h : S.Listed kinds r p) (only : r.single? = some x) :
    ∃ k, kinds = [k] ∧ k.isSpread = false ∧ S.Packs p x ∧ isListValued x = decide (k = .list true) ∧
      ∀ v, S.Has p x v → S.Fits k v := by
  obtain ⟨nested, each⟩ := h
  rw [Rendered.entries_of_single? only] at each
  cases each with
  | cons stands rest =>
    cases rest
    have whole := isStarred_of_single? only
    exact ⟨_, rfl, stands.starred ▸ whole, stands.packed, stands.shown,
      unstarred_of_whole whole ▸ stands.fits⟩

theorem items_of_spreads (flat : kinds.any Entry.nested = false) {xs : List Expr}
    (each : List.Forall₂ (S.Stands p) kinds xs)
    (h : Spreads S.engine (S.regime.Told S.engine) p.children xs vs) : ∀ v ∈ vs, Item S.isNode v := by
  induction each generalizing vs with
  | nil =>
    cases h
    exact nofun
  | @cons k x kinds xs stands each ih =>
    rw [List.any_cons, Bool.or_eq_false_iff] at flat
    have starred := stands.starred
    cases h with
    | item whole h rest =>
      rw [whole] at starred
      have fits := stands.fits _ ((unstarred_of_whole whole).symm ▸ h)
      rw [List.forall_mem_cons]
      refine ⟨?_, ih flat.2 rest⟩
      cases k with
      | node => exact fits
      | list | optional | unsure => cases flat.1
      | spread nested => cases starred
    | starred h items rest =>
      cases k with
      | spread nested =>
        obtain rfl : nested = false := flat.1
        intro v hv
        exact (List.mem_append.mp hv).elim (stands.fits _ h rfl _ items v) (ih flat.2 rest v)
      | _ => cases starred

theorem Fits.itemOrFlat {k : Entry} (whole : k.isSpread = false) (h : S.Fits k v) :
    Item S.isNode v ∨ Flat S.isNode v := by
  cases k with
  | node => exact .inl h
  | list shown => exact .inr h
  | optional => exact h.imp .inl id
  | unsure => exact h
  | spread nested => cases whole

theorem fits_of_flat (h : Flat S.isNode v) : S.Fits (.spread false) v := by
  obtain ⟨items, identity, rfl, each⟩ := h
  intro _ us is
  cases is
  exact each

theorem has_nothing (h : S.Has p Expr.none v) : v = .none := by
  generalize hx : Expr.none = x at h
  cases h with
  | nothing => rfl
  | made | list | called | gathered => cases hx

theorem has_empty (h : S.Has p (.list []) v) : Flat S.isNode v := by
  obtain ⟨vs, rfl, spreads⟩ := yields_list h
  cases spreads
  exact ⟨[], _, rfl, nofun⟩

theorem emptyAs_of_hidden (hidden : isListValued x = false) : emptyAs x = Expr.none := by
  cases x <;> first | rfl | cases hidden

theorem has_otherwise {shows : Bool} (hidden : isListValued x = false)
    (h : S.Has p (if shows then .list [] else emptyAs x) v) : v = .none ∨ Flat S.isNode v := by
  rw [emptyAs_of_hidden hidden] at h
  split at h
  · exact .inr (has_empty h)
  · exact .inl (has_nothing h)

theorem nothing_of_spreads (xs : List Expr)
    (h : Spreads S.engine (S.regime.Told S.engine) p.children (xs.map fun _ => Expr.none) vs) :
    ∀ v ∈ vs, Item S.isNode v := by
  induction xs generalizing vs with
  | nil =>
    cases h
    exact nofun
  | cons x xs ih =>
    obtain ⟨v, rest, rfl, hv, later⟩ := spreads_cons rfl h
    rw [List.forall_mem_cons]
    exact ⟨.inl (has_nothing hv), ih later⟩

/-- Several entries under a condition are spread. -/
theorem under_of_several (h : S.Listed kinds r p) (several : r.single? = none) :
    Entry.under kinds = .spread (kinds.any Entry.nested) := by
  obtain ⟨-, each⟩ := h
  unfold Entry.under
  split <;> first | rfl | skip
  all_goals
    rw [List.forall₂_cons_left_iff] at each
    obtain ⟨x, xs, stands, rest, entries⟩ := each
    obtain rfl := List.forall₂_nil_left_iff.mp rest
    have whole := stands.starred
    simp [Rendered.single?, entries, whole, Entry.isSpread] at several

theorem has_made {q : Primitive} {args : List Expr} (other : q ≠ .iterator)
    (h : S.Has p (.apply (.own q.localName) args) v) : ∃ vs, S.engine.make q vs = .ok v :=
  yields_made S.made p.listed other h

theorem Listed.packsIn (h : S.Listed kinds r p) (packed : Packed L r x) : S.Packs p x := by
  cases packed with
  | plain flat => exact Regime.packsIn_list h.packed
  | single nested only => exact h.packed x (by simp [Rendered.entries_of_single? only])
  | flattened nested several emitted =>
    obtain ⟨E, rfl, -⟩ := emitted
    have none : ∀ y ∈ ([] : List Expr), y.callsAmong childNames = [] := nofun
    have last : Primitive.flatten.afterChildren = some ([] : List String).length := rfl
    exact Regime.packsIn_element none (Regime.packsIn_list h.packed) last fun _ _ _ _ other => absurd rfl other

/-- Packed entries give a flat list, or they are a single entry that is no node. -/
theorem Listed.packed_cases (h : S.Listed kinds r p) (packed : Packed L r x) (hv : S.Has p x v) :
    Flat S.isNode v ∨ ∃ k, kinds = [k] ∧ k.nested ∧ k.isSpread = false ∧ S.Fits k v := by
  cases packed with
  | plain flat =>
    obtain ⟨vs, rfl, spreads⟩ := yields_list hv
    exact .inl ⟨vs, _, rfl, items_of_spreads (h.nested ▸ flat) h.each spreads⟩
  | single nested only =>
    obtain ⟨k, rfl, whole, -, -, fits⟩ := h.single only
    exact .inr ⟨k, rfl, by simpa [h.nested] using nested, whole, fits v hv⟩
  | flattened nested several emitted =>
    obtain ⟨E, rfl, -⟩ := emitted
    obtain ⟨args, is⟩ := has_made (q := .flatten) nofun hv
    exact .inl (S.flattens.lists .flatten args v rfl is)

theorem Listed.flat (h : S.Listed kinds r p) (packs : Entry.pack kinds) (packed : Packed L r x)
    (hv : S.Has p x v) : Flat S.isNode v := by
  rcases h.packed_cases packed hv with flat | ⟨k, rfl, nested, whole, fits⟩
  · exact flat
  · cases k with
    | list shown => exact fits
    | node => cases nested
    | optional | unsure => cases packs
    | spread nested => cases whole

theorem Lists.branch {cs : List Tree} (h : S.Lists kinds r cs p) (sure : kinds ≠ [.unsure])
    (packed : Packed L r x) : S.Joins x cs p := by
  refine ⟨h.listed.packsIn packed, fun v hv => ?_, h.below⟩
  rcases h.listed.packed_cases packed hv with flat | ⟨k, rfl, nested, whole, fits⟩
  · exact fits_of_flat flat
  · cases k with
    | list shown => exact fits_of_flat fits
    | optional =>
      rcases fits with rfl | flat
      · exact fun _ us is => by cases is
      · exact fits_of_flat flat
    | node => cases nested
    | unsure => exact absurd rfl sure
    | spread nested => cases whole

theorem Listed.fragmentBody (h : S.Listed kinds r p) (whole : FragmentBody L r x) :
    S.Packs p x ∧ ∀ v, S.Has p x v → Item S.isNode v ∨ Flat S.isNode v := by
  unfold FragmentBody at whole
  split at whole
  · next only =>
    obtain ⟨k, rfl, single, packed, -, fits⟩ := h.single (whole ▸ only)
    exact ⟨packed, fun v hv => (fits v hv).itemOrFlat single⟩
  · refine ⟨h.packsIn whole, fun v hv => ?_⟩
    rcases h.packed_cases whole hv with flat | ⟨k, rfl, nested, single, fits⟩
    · exact .inr flat
    · exact fits.itemOrFlat single

section Scopes

variable {config : Config} {e : Element} {shape : Shape} {scope number : Nat} {locals : List String}
  {cs trees : List Tree} {c : Tree} {entry : Expr → Expr}

theorem stands_made {data : Expr} (hdata : DataShape L config e scope locals number data)
    (listed : S.Listed kinds r p) (packs : Entry.pack kinds) (packed : Packed L r body)
    (call : ElementCall L scope locals e data body x) : S.Stands p e.entry x := by
  have inside : S.Packs p x := Regime.packsIn_elementCall hdata call (listed.packsIn packed)
    fun _ _ v _ hv _ => listed.flat packs packed hv
  obtain ⟨front, after, rfl, -⟩ := form_of_elementCall [] call
  have shown : isListValued (.apply (.own e.maker.localName) ((front ++ [data]) ++ body :: after.map .own)) =
      listNames.contains e.maker.localName := rfl
  rcases entry_maker e with ⟨entry, maker⟩ | ⟨entry, maker⟩
  · rw [entry]
    rw [maker] at shown inside ⊢
    refine ⟨rfl, shown.trans (by decide), inside, fun v hv => ?_⟩
    obtain ⟨args, is⟩ := has_made (q := .slot) nofun hv
    exact S.flattens.lists .slot args v rfl is
  · have other : e.maker ≠ .iterator := by
      rintro is
      rw [is] at maker
      exact absurd maker (by decide)
    have absent : listNames.contains e.maker.localName = false := by
      simp only [List.mem_cons, List.not_mem_nil, or_false] at maker
      rcases maker with is | is | is <;> rw [is] <;> decide
    have node {v : Value} {xs : List Expr} (hv : S.Has p (.apply (.own e.maker.localName) xs) v) :
        S.isNode v := by
      obtain ⟨args, is⟩ := has_made other hv
      exact S.flattens.nodes _ args v (List.mem_of_mem_take (i := 3) maker) is
    rcases entry with is | is <;> rw [is]
    · exact ⟨rfl, shown.trans absent, inside, fun v hv => .inr (node hv)⟩
    · exact ⟨rfl, shown.trans absent, inside, fun v hv => .inl (.inr (node hv))⟩

theorem has_of_tested (child : c ∈ p.children) (tested : Tested scope locals e body otherwise trees x c)
    (hv : S.Has p x v) : S.Has (p.inner child) body v ∨ S.Has (p.inner child) otherwise v := by
  obtain ⟨b, test, y, u, -, -, -, -, hv⟩ := called_of_tested S.made p.listed child tested hv
  cases tested
  split at hv
  · exact .inl hv
  · exact .inr hv

theorem stands_tested {k : Entry} (child : c ∈ p.children)
    (tested : Tested scope locals e body otherwise trees x c) (whole : k.isSpread = false)
    (hidden : k ≠ .list true) (holds : ∀ v, S.Has (p.inner child) body v → S.Fits k v)
    (fails : ∀ v, S.Has (p.inner child) otherwise v → S.Fits k v) : S.Stands p k x := by
  have named := (Stage.name_child S.made p.listed child).2
  refine ⟨tested.whole.trans whole.symm, ?_, Regime.packsIn_tested S.made p.listed child tested, fun v hv => ?_⟩
  · rw [decide_eq_false hidden]
    cases tested with
    | @mk branch test condition y _ region has asks reads _ kind helper bound is =>
      rw [is]
      change listNames.contains region.helperName = false
      rw [List.contains_eq_mem, decide_eq_false_iff_not]
      intro listed
      obtain ⟨q, -, is⟩ := List.mem_map.mp listed
      exact named.not_plain (is ▸ isPlainName_primitive q)
  · rw [unstarred_of_whole tested.whole] at hv
    exact (has_of_tested child tested hv).elim (holds v) (fails v)

theorem listed_conditional (child : c ∈ p.children) (h : S.Listed kinds content (p.inner child))
    (own : e.isFragment = false → kinds = [e.entry]) (chosen : Chosen e content body otherwise entry)
    (tested : Tested scope locals e body otherwise trees x c) :
    S.Listed [.under kinds] ⟨[entry x], content.nested⟩ p := by
  cases chosen with
  | single only =>
    obtain ⟨k, rfl, whole, packed, shown, holds⟩ := h.single only
    have slot (plain : ¬ e.isFragment) : k = e.entry := (List.cons.inj (own (by simpa using plain))).1
    have opens (list : k = .list true) : (if e.isFragment then isListValued body else e.isSlot) = true := by
      split
      · rw [shown, list]
        rfl
      · next plain => exact isSlot_of_entry (list ▸ slot plain)
    have closed (node : k = .node) : (if e.isFragment then isListValued body else e.isSlot) = false := by
      split
      · rw [shown, node]
        rfl
      · next plain => exact not_isSlot_of_entry (node ▸ slot plain)
    have hidden (other : k ≠ .list true) : isListValued body = false := by
      rw [shown, decide_eq_false other]
    generalize (if e.isFragment then isListValued body else e.isSlot) = shows at tested opens closed
    have nested : content.nested = k.nested := by simp [h.nested]
    cases k with
    | node =>
      refine .one nested (stands_tested child tested rfl nofun holds fun v hv => .inl ?_)
      rw [closed rfl, if_neg Bool.false_ne_true, emptyAs_of_hidden (hidden nofun)] at hv
      exact has_nothing hv
    | list visible =>
      cases visible with
      | true =>
        refine .one nested (stands_tested child tested rfl nofun holds fun v hv => ?_)
        rw [opens rfl, if_pos rfl] at hv
        exact has_empty hv
      | false =>
        exact .one nested (stands_tested child tested rfl nofun (fun v hv => .inr (holds v hv))
          fun v hv => has_otherwise (hidden (by simp)) hv)
    | optional =>
      exact .one nested (stands_tested child tested rfl nofun holds
        fun v hv => has_otherwise (hidden nofun) hv)
    | unsure =>
      exact .one nested (stands_tested child tested rfl nofun holds
        fun v hv => (has_otherwise (hidden nofun) hv).imp .inl id)
    | spread nested => cases whole
  | several several =>
    rw [under_of_several h several]
    have packed : S.Packs p x := Regime.packsIn_tested S.made p.listed child tested
    refine .one h.nested ⟨rfl, rfl, Regime.packsIn_starred packed, fun v hv flat us is => ?_⟩
    rcases has_of_tested child tested hv with hv | hv
    · obtain ⟨vs, rfl, spreads⟩ := yields_list hv
      cases is
      exact items_of_spreads flat h.each spreads
    · obtain ⟨vs, rfl, spreads⟩ := yields_list hv
      cases is
      exact nothing_of_spreads content.entries spreads

theorem stands_iterated (child : c ∈ p.children) (iterated : Iterated L scope locals e body trees x c)
    (results : ∀ v, S.Has (p.inner child) body v → Item S.isNode v ∨ Flat S.isNode v) :
    S.Stands p (.list true) x := by
  cases iterated with
  | @mk l y x region has named kind helper bound emitted =>
    obtain ⟨E, rfl, -⟩ := emitted
    refine ⟨rfl, rfl, Regime.packsIn_call (by decide) ?_, fun v hv => ?_⟩
    · simp [bound.callsAmong, Expr.callsAmong_own]
    · rcases yields_iterated S.made p.listed child helper hv with ⟨args, is⟩ | ⟨vs, rfl, each⟩
      · exact S.flattens.lists .iterator args v rfl is
      · exact S.flattens.gather vs fun u hu => results u (each u hu)

theorem lists_content (own : e.isFragment = false → kinds = [e.entry])
    (below : ∀ {scope r cs} {p : Place S.stage}, shape scope number locals r cs → cs ⊆ p.children →
      S.Lists kinds r cs p)
    (h : ContentShape e shape scope number locals r cs) (within : cs ⊆ p.children) :
    S.Lists (if e.branch.isSome then [.under kinds] else kinds) r cs p := by
  unfold ContentShape at h
  split at h
  · next asks =>
    rw [if_pos asks]
    obtain ⟨content, inner, body, otherwise, entry, x, c, shape, chosen, tested, rfl, rfl⟩ := h
    have child : c ∈ p.children := within List.mem_cons_self
    obtain rfl : c.children = inner := by
      cases tested
      rfl
    obtain ⟨listed, deeper⟩ := below shape (List.Subset.refl (p.inner child).children)
    refine ⟨listed_conditional child listed own chosen tested, ?_⟩
    have first : S.Packs (p.inner child) body := by
      cases chosen with
      | single only => exact listed.packed body (by simp [Rendered.entries_of_single? only])
      | several several => exact Regime.packsIn_list listed.packed
    rw [Below, List.forall_mem_singleton]
    exact Regime.packsBelow_tested tested first (Regime.packsIn_silent chosen.silent) deeper
  · next asks =>
    rw [if_neg asks]
    exact below h within

theorem lists_loop
    (below : ∀ {scope locals r cs} {p : Place S.stage}, shape scope number locals r cs → cs ⊆ p.children →
      S.Lists kinds r cs p)
    (h : LoopShape L e shape scope number locals r cs) (within : cs ⊆ p.children) :
    S.Lists (if e.loop?.isSome then [.list true] else kinds) r cs p := by
  unfold LoopShape at h
  split at h
  · next still =>
    rw [still]
    exact below h within
  · next l has =>
    rw [has]
    obtain ⟨content, inner, body, x, c, shape, whole, iterated, rfl, rfl⟩ := h
    have child : c ∈ p.children := within List.mem_cons_self
    have scopes : inner ⊆ (p.inner child).children := by
      cases iterated
      exact List.Subset.refl inner
    obtain ⟨listed, deeper⟩ := below shape scopes
    obtain ⟨packed, results⟩ := listed.fragmentBody whole
    refine ⟨.one rfl (stands_iterated child iterated results), ?_⟩
    rw [Below, List.forall_mem_singleton]
    cases iterated with
    | mk has named kind helper bound emitted =>
      exact .node (fun args y selects => Regime.selects_loop helper selects ▸ packed) deeper

theorem lists_core (packs : e.isFragment || Entry.pack kinds)
    (below : ∀ {scope number locals r cs} {p : Place S.stage}, shape scope number locals r cs →
      cs ⊆ p.children → S.Lists kinds r cs p)
    (h : CoreShape L config e shape scope number locals r cs) (within : cs ⊆ p.children) :
    S.Lists (e.entries kinds) r cs p := by
  unfold CoreShape at h
  unfold Element.entries
  split at h
  · next fragment =>
    rw [if_pos fragment]
    exact below h within
  · next plain =>
    rw [if_neg plain]
    obtain ⟨x, ⟨data, r, packed, hdata, shape, hpacked, call⟩, rfl⟩ := h
    obtain ⟨listed, deeper⟩ := below shape within
    have packs : Entry.pack kinds := by simpa [plain] using packs
    refine ⟨.one ?_ (stands_made hdata listed packs hpacked call), deeper⟩
    unfold Element.entry
    cases e.isSlot <;> cases e.dynamic <;> rfl

theorem joins_branch (sure : kinds ≠ [.unsure]) (still : e.loop? = none)
    (below : ∀ {r cs}, CoreShape L config e shape scope number locals r cs → cs ⊆ p.children →
      S.Lists kinds r cs p)
    (h : BranchShape L config e shape scope number locals x cs) (within : cs ⊆ p.children) :
    S.Joins x cs p := by
  obtain ⟨r, content, packed⟩ := h
  rw [memberContent_still still] at content
  exact (below content within).branch sure packed

/-- A member of a chain and what follows it. -/
theorem joins_member {after : Following} {rest : Rendered} {others : List Tree} {q : Place S.stage}
    (sure : kinds ≠ [.unsure])
    (below : ∀ {scope r cs} {p : Place S.stage}, CoreShape L config e shape scope number locals r cs →
      cs ⊆ p.children → S.Lists kinds r cs p)
    (next : ∀ {scope otherwise later} {p : Place S.stage}, after scope otherwise later rest others →
      later ⊆ p.children → S.Joins otherwise later p ∧ S.Lists further rest others q)
    (h : MemberShape L config e shape after scope number locals x c rest others) (child : c ∈ p.children) :
    S.Joins x [c] p ∧ S.Lists further rest others q := by
  obtain ⟨still, body, otherwise, inner, later, branch, follows, tested⟩ := h
  obtain ⟨region, trees⟩ := c
  obtain rfl : trees = inner ++ later := by
    cases tested
    rfl
  obtain ⟨first, holds, deeper⟩ := joins_branch (p := p.inner child) sure still below branch
    (List.subset_append_left inner later)
  obtain ⟨⟨second, fails, after⟩, rest⟩ := next (p := p.inner child) follows
    (List.subset_append_right inner later)
  refine ⟨⟨Regime.packsIn_tested S.made p.listed child tested, fun v hv => ?_, ?_⟩, rest⟩
  · exact (has_of_tested child tested hv).elim (holds v) (fails v)
  · rw [Below, List.forall_mem_singleton]
    exact Regime.packsBelow_tested tested first second
      fun c hc => (List.mem_append.mp hc).elim (deeper c) (after c)

end Scopes

theorem listed_leaf {config : Config} {n : Node} {scope number : Nat} {locals : List String}
    (leaf : ∀ e children, n ≠ .element e children) (shape : NodeShape L config n scope number locals r []) :
    S.Listed n.entries r p := by
  have node {q : Primitive} {args : List Expr} (makes : q ∈ nodeMakers) (absent : q.localName ∉ childNames)
      (quiet : ∀ y ∈ args, y.callsAmong childNames = []) (other : q ≠ .iterator)
      (hidden : listNames.contains q.localName = false) :
      S.Listed [.node] ⟨[.apply (.own q.localName) args], false⟩ p := by
    refine .one rfl ⟨rfl, hidden, Regime.packsIn_call absent quiet, fun v hv => .inr ?_⟩
    obtain ⟨vs, is⟩ := has_made other hv
    exact S.flattens.nodes q vs v makes is
  cases n with
  | element e children => exact absurd rfl (leaf e children)
  | bare position => cases shape
  | dynamicText position value =>
    obtain ⟨y, x, bound, ⟨E, rfl, -⟩, rfl, -⟩ := shape
    exact node (by decide) (by decide) (by simp [bound.callsAmong]) nofun (by decide)
  | text position value =>
    obtain ⟨x, ⟨E, rfl, -⟩, rfl, -⟩ := shape
    exact node (by decide) (by decide) (by simp) nofun (by decide)
  | comment position value =>
    obtain ⟨x, ⟨E, rfl, -⟩, rfl, -⟩ := shape
    exact node (by decide) (by decide) (by simp) nofun (by decide)

variable {config : Config} {ns : List Node}

theorem not_continued_of_shape : ∀ {ns : List Node} {scope number : Nat} {locals : List String}
    {r : Rendered} {cs : List Tree}, NodesShape L config ns scope number locals r cs → continued ns = false
  | [], _, _, _, _, _, _ => rfl
  | .element e children :: ns, _, _, _, _, _, shape => by
    rw [NodesShape] at shape
    split at shape
    · next opens => simp [continued, Element.continues, opens.1, BranchKind.continues]
    · obtain ⟨_, _, _, _, ⟨continues, -⟩, -⟩ := shape
      exact continues
  | .text .. :: ns, _, _, _, _, _, shape | .dynamicText .. :: ns, _, _, _, _, _, shape
  | .comment .. :: ns, _, _, _, _, _, shape | .bare _ :: ns, _, _, _, _, _, shape => by
    obtain ⟨_, _, -, later, -⟩ := shape.leaf (by simp)
    simp [continued, not_continued_of_shape later]

theorem continued_of_joined : ∀ {ns : List Node} {o scope number : Nat} {locals : List String}
    {otherwise : Expr} {later others : List Tree} {r : Rendered},
    JoinedShape L config ns o scope number locals otherwise later r others → continued ns
  | .element e children :: ns, _, _, _, _, _, _, _, _, shape => by
    rw [JoinedShape] at shape
    split at shape
    · next last => simp [continued, Element.continues, last, BranchKind.continues]
    · simp [continued, Element.continues, shape.1, BranchKind.continues]
  | .text .. :: ns, _, _, _, _, _, _, _, _, shape | .dynamicText .. :: ns, _, _, _, _, _, _, _, _, shape
  | .comment .. :: ns, _, _, _, _, _, _, _, _, shape | .bare _ :: ns, _, _, _, _, _, _, _, _, shape => by
    obtain ⟨blank, later⟩ := shape.leaf (by simp)
    simp [continued, blank, continued_of_joined later]

variable (S L config ns) in
/-- Siblings, whether they stand apart or continue a chain. -/
structure ListsAll : Prop where
  apart : ∀ {scope number locals r cs} {p : Place S.stage}, NodesShape L config ns scope number locals r cs →
    cs ⊆ p.children → S.Lists (Node.entriesAll ns) r cs p
  joined : ∀ {o scope number locals otherwise later others r} {p q : Place S.stage},
    JoinedShape L config ns o scope number locals otherwise later r others → later ⊆ p.children →
    others ⊆ q.children → S.Joins otherwise later p ∧ S.Lists (Node.entriesAll ns) r others q

theorem ListsAll.leaf {n : Node} (leaf : ∀ e children, n ≠ .element e children)
    (later : S.ListsAll L config ns) : S.ListsAll L config (n :: ns) := by
  have branch : n.branchKind? = none := by
    cases n with
    | element e children => exact absurd rfl (leaf e children)
    | _ => rfl
  refine ⟨fun shape within => ?_, fun shape within inside => ?_⟩
  · obtain ⟨first, rest, own, after, rfl⟩ := shape.leaf leaf
    have entries : Node.entriesAll (n :: ns) = n.entries ++ Node.entriesAll ns := by
      simp [Node.entriesAll, branch, not_continued_of_shape shape]
    obtain ⟨listed, below⟩ := later.apart after within
    exact ⟨entries ▸ (listed_leaf leaf own).append listed, below⟩
  · obtain ⟨blank, shape⟩ := shape.leaf leaf
    have entries : Node.entriesAll (n :: ns) = Node.entriesAll ns := by
      simp [Node.entriesAll, branch, continued_cons, blank, continued_of_joined shape]
    exact entries ▸ later.joined shape within inside

theorem ListsAll.element {e : Element} {children : List Node} (packs : Node.packsAll (.element e children :: ns))
    (inside : S.ListsAll L config children) (later : S.ListsAll L config ns) :
    S.ListsAll L config (.element e children :: ns) := by
  rw [Node.packsAll, Node.packs, Bool.and_eq_true, Bool.and_eq_true, Bool.and_eq_true] at packs
  obtain ⟨⟨sure, packs, -⟩, -⟩ := packs
  have core {scope number locals r cs} {p : Place S.stage}
      (h : CoreShape L config e (NodesShape L config children) scope number locals r cs)
      (within : cs ⊆ p.children) : S.Lists (e.entries (Node.entriesAll children)) r cs p :=
    lists_core packs inside.apart h within
  refine ⟨fun {scope number locals r cs p} shape within => ?_,
    fun {o scope number locals otherwise between others r p q} shape within inner => ?_⟩
  · have continues : continued (.element e children :: ns) = false := not_continued_of_shape shape
    rw [NodesShape] at shape
    split at shape
    · next opens =>
      -- the element opens a chain, so that one entry stands for all its branches
      obtain ⟨x, c, rest, others, member, rfl, rfl⟩ := shape
      obtain ⟨child, withinAfter⟩ := List.cons_subset.mp within
      have entries : Node.entriesAll (.element e children :: ns) = [.spread false] ++ Node.entriesAll ns := by
        rw [Node.entriesAll, if_pos (by exact opens)]
      obtain ⟨⟨packed, fits, below⟩, listed, after⟩ := joins_member (q := p)
        (by simpa [opens.1, opens.2] using sure) core
        (fun joined within => later.joined joined within withinAfter) member child
      exact ⟨entries ▸ Listed.append (.one rfl ⟨rfl, rfl, Regime.packsIn_starred packed, fits⟩) listed,
        List.forall_mem_cons.mpr ⟨below c List.mem_cons_self, after⟩⟩
    · next alone =>
      obtain ⟨first, rest, inner, others, ⟨-, shape⟩, shapeAfter, rfl, rfl⟩ := shape
      obtain ⟨withinHere, withinAfter⟩ := List.append_subset.mp within
      have entries : Node.entriesAll (.element e children :: ns) =
          Node.entries (.element e children) ++ Node.entriesAll ns := by
        rw [Node.entriesAll, if_neg (by exact alone), continues]
        rfl
      obtain ⟨listed, after⟩ := later.apart shapeAfter withinAfter
      obtain ⟨own, below⟩ := lists_loop (fun content => lists_content
        (fun plain => by simp [Element.entries, plain]) core content) shape withinHere
      rw [entries, Node.entries]
      exact ⟨own.append listed, fun c hc => (List.mem_append.mp hc).elim (below c) (after c)⟩
  · have continues : e.continues = true := continued_of_joined shape
    have sure : e.entries (Node.entriesAll children) ≠ [.unsure] := by simpa [continues] using sure
    have entries : Node.entriesAll (.element e children :: ns) = Node.entriesAll ns := by
      have other : ¬ (Node.branchKind? (.element e children) = some .opening ∧ continued ns) := by
        rintro ⟨opens, -⟩
        simp [Element.continues, show e.branchKind? = some .opening from opens,
          BranchKind.continues] at continues
      rw [Node.entriesAll, if_neg other, if_pos (by exact continues), List.nil_append]
    rw [entries]
    rw [JoinedShape] at shape
    split at shape
    · obtain ⟨still, branch, shapeAfter⟩ := shape
      exact ⟨joins_branch sure still core branch within, later.apart shapeAfter inner⟩
    · obtain ⟨-, c, member, rfl⟩ := shape
      refine joins_member sure core (fun follows within => ?_) member (within List.mem_cons_self)
      split at follows
      · exact later.joined follows within inner
      · obtain ⟨rfl, rfl, shapeAfter⟩ := follows
        exact ⟨⟨Regime.packsIn_list (List.forall_mem_nil _), fun v hv => fits_of_flat (has_empty hv),
          List.forall_mem_nil _⟩,
          later.apart shapeAfter inner⟩

theorem listsAll : ∀ {ns : List Node}, Node.packsAll ns → S.ListsAll L config ns
  | [], _ => by
    refine ⟨fun shape _ => ?_, fun shape => by cases shape⟩
    obtain ⟨rfl, rfl⟩ := shape
    exact ⟨⟨rfl, .nil⟩, nofun⟩
  | .text .. :: ns, packs | .dynamicText .. :: ns, packs | .comment .. :: ns, packs | .bare _ :: ns, packs => by
    rw [Node.packsAll, Bool.and_eq_true] at packs
    · exact .leaf (by simp) (listsAll packs.2)
    · simp
  | .element e children :: ns, packs => by
    have parts := packs
    rw [Node.packsAll, Node.packs, Bool.and_eq_true, Bool.and_eq_true, Bool.and_eq_true] at parts
    exact .element packs (listsAll parts.1.2.2) (listsAll parts.2)

end Flattening

/-- In a render the value of the template and all children that are passed on are flat lists, if in the code
for it all children are packed as lists. -/
theorem children_are_flat {config : Config} {root : Node} {compiled : Compiled} {loader : Loader}
    {lib : Load.Library} {modules : Option (Table Load.Entity)} {f : RenderFn} {engine : Engine}
    {properties slots : Table Data} {context : Table Value} {isNode : Value → Prop}
    (h : (compile config root).1 = .ok compiled)
    (load : (loader.load lib compiled modules false).1 = .ok f)
    (packs : Entry.pack (Node.entriesAll root.content) && Node.packsAll root.content)
    (honest : engine.Honest) (flattens : engine.Flattens isNode)
    (kept : ∀ key v, context.get? key = some v → v.Plain) :
    (∀ v, (f.renderBy engine properties slots context).result = .ok v → Flat isNode v) ∧
    ∀ q args, .primitive q args ∈ (f.renderBy engine properties slots context).calls →
      q ∈ [Primitive.element, .customElement, .dynamicComponent, .slot] →
      ∃ before children after, args = before ++ children :: after ∧ q.afterChildren = some after.length ∧
        Flat isNode children := by
  rw [Bool.and_eq_true] at packs
  obtain ⟨d, F, hd, made, loaded⟩ := loaded_of_load h load
  obtain ⟨σ, hσ⟩ : ∃ σ, σ = Stage.mk d F properties slots context := ⟨_, rfl⟩
  have drafted : σ.draft = d := by rw [hσ]
  cases shaped_of_accepted (accepted_of_validate (validate_of_compile h)) hd with
  | @mk L region r cs knows memo tree number numbers shape packed =>
    have children : d.tree.children = cs := by rw [tree, Tree.children]
    have within : cs ⊆ d.outermost.children := by
      rw [Draft.outermost, children]
      exact List.Subset.refl cs
    let S : Flattening := ⟨σ, engine, isNode, root.content, drafted ▸ made, flattens⟩
    let p : Place S.stage := ⟨d.outermost, [], drafted ▸ d.mem_outermost⟩
    obtain ⟨listed, below⟩ := (Flattening.listsAll (S := S) packs.2).apart (p := p) shape within
    rw [← children] at below
    obtain ⟨calls, yields⟩ := loaded.packed made (.mk knows memo tree number numbers shape packed) honest kept
      hσ below (listed.packsIn packed)
    refine ⟨fun v hv => listed.flat packs.1 packed (yields v hv),
      fun q args called takes => ?_⟩
    obtain ⟨n, place⟩ : ∃ n, q.afterChildren = some n := by
      simp only [List.mem_cons, List.not_mem_nil, or_false] at takes
      rcases takes with rfl | rfl | rfl | rfl <;> exact ⟨_, rfl⟩
    obtain ⟨before, v, after, rfl, size, flat⟩ := calls _ called n place
    exact ⟨before, v, after, rfl, size ▸ place, flat (by rintro rfl; exact absurd takes (by decide))⟩

/-- An engine that shows nodes by the names of their primitives. -/
def Engine.naming : Engine where
  gather := Engine.standard.gather
  make q _ := .ok (if q.givesList then .list [.text q.member .constant] .fresh else .text q.member .constant)

theorem Engine.honest_naming : Engine.naming.Honest where
  gather := Engine.honest_standard.gather
  make A q args v _ is := by
    obtain rfl := Except.ok.inj is
    split <;> simp [Value.Holds, Value.agents, Value.agentsAll]

theorem Engine.flattens_naming : Engine.naming.Flattens fun v => ∃ s identity, v = .text s identity where
  unlisted _ _ := by simp
  gather results each := by
    refine ⟨_, _, rfl, fun u hu => ?_⟩
    obtain ⟨v, hv, listed⟩ := List.mem_flatMap.mp hu
    rcases each v hv with (rfl | ⟨s, identity, rfl⟩) | ⟨items, identity, rfl, flat⟩
    · exact .inl (List.mem_singleton.mp listed)
    · exact .inr ⟨s, identity, List.mem_singleton.mp listed⟩
    · exact flat u listed
  lists q args v gives is := by
    obtain rfl := Except.ok.inj is
    rw [if_pos gives]
    exact ⟨_, _, rfl, by simp [Item]⟩
  nodes q args v makes is := by
    obtain rfl := Except.ok.inj is
    have single : ∀ q ∈ nodeMakers, q.givesList = false := by decide
    exact ⟨_, _, if_neg (by simp [single q makes])⟩

/-- A list with an item for each row of `a`, in it a slot if the row holds, or a paragraph. -/
def slotRows : Node :=
  .root [.element { Element.ofTag "ul" with branch := some ⟨some (.name "b"), .holds, .opening⟩ }
      [.element { Element.ofTag "li" with forEach := some ⟨.name "a", "row", none⟩ }
        [.element { Element.ofTag "slot" with
          kind := .slot "", branch := some ⟨some (.name "row"), .holds, .opening⟩ } []]],
    .element { Element.ofTag "p" with branch := some ⟨none, .holds, .fallback⟩ } []]

def twoRows : Table Data :=
  (Table.empty.insert "a" (.list [.bool true, .bool false])).insert "b" (.bool true)

theorem slotRows_children_are_flat :
    (Entry.pack (Node.entriesAll slotRows.content) && Node.packsAll slotRows.content) = true ∧
    ∃ compiled f v, (compile Config.factory slotRows).1 = .ok compiled ∧
      (Loader.empty.load { modules := .empty } compiled none false).1 = .ok f ∧
      (f.renderBy Engine.naming twoRows .empty .empty).result = .ok v ∧
      Flat (fun v => ∃ s identity, v = .text s identity) v := by
  have packs : (Entry.pack (Node.entriesAll slotRows.content) && Node.packsAll slotRows.content) = true := by
    decide +kernel
  obtain ⟨compiled, f, h, load, ok⟩ := loads_of_passes slotRows (fun _ f =>
    (f.renderBy Engine.naming twoRows .empty .empty).result.isOk) (by decide +kernel)
  obtain ⟨v, is⟩ := exists_of_isOk ok
  exact ⟨packs, compiled, f, v, h, load, is, (children_are_flat h load packs Engine.honest_naming
    Engine.flattens_naming fun _ _ found => by cases found).1 v is⟩

/-- A slot under a condition, in a fragment under another condition. -/
def nestedSlot : Node :=
  .root [.element { Element.ofTag "template" with branch := some ⟨some (.name "a"), .holds, .opening⟩ }
    [.element { Element.ofTag "slot" with
      kind := .slot "", branch := some ⟨some (.name "b"), .holds, .opening⟩ } []]]

def Value.isNone : Value → Bool
  | .none => true
  | _ => false

/-- With the outer condition false the template gives nothing, and no list. -/
theorem nestedSlot_gives_nothing : ∃ compiled f, (compile Config.factory nestedSlot).1 = .ok compiled ∧
    (Loader.empty.load { modules := .empty } compiled none false).1 = .ok f ∧
    (f.renderBy Engine.naming (nestedProperties false true) .empty .empty).result = .ok .none := by
  obtain ⟨compiled, f, h, load, gives⟩ := loads_of_passes nestedSlot (fun _ f =>
    (f.renderBy Engine.naming (nestedProperties false true) .empty .empty).result.toOption.any Value.isNone)
    (by decide +kernel)
  cases is : (f.renderBy Engine.naming (nestedProperties false true) .empty .empty).result with
  | error fault =>
    rw [is] at gives
    cases gives
  | ok v =>
    rw [is] at gives
    cases v with
    | none => exact ⟨compiled, f, h, load, is⟩
    | _ => cases gives

end TemplateCompiler.Render
