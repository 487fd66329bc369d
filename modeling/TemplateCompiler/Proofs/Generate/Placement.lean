import TemplateCompiler.Proofs.Code.Meets
import TemplateCompiler.Proofs.Generate.Assembly
import TemplateCompiler.Proofs.Generate.Hygiene

/-!
Where the expressions of a template stand. A condition has two branches: what is under it, and what
continues its chain. The test of a further branch stands in the branch before it where the test fails.
The code of an expression that stands in a branch is in that part of the condition's helper.
-/

namespace TemplateCompiler.Template

open TemplateCompiler.Code TemplateCompiler.Generate

/-- A branch of a condition: the condition by its number, and whether its test holds or fails there. -/
structure Arm where
  condition : Nat
  holds : Bool
  deriving DecidableEq, Repr

inductive Placed where
  /-- A directive with its number and the branches that it stands in, the outermost first. -/
  | scope (number : Nat) (directive : Directive) (arms : List Arm)
  /-- An expression with the loop names around it and the branches that it stands in. -/
  | use (locals : List String) (expr : Expr) (arms : List Arm)

/-- What a part of a template has, given the loop names around it, the branches that it stands in and the
next number. -/
abbrev Placing := List String → List Arm → Nat → List Placed

namespace Element

/-- The expressions that an element is made with. A fragment has only its children. -/
def ownUses (e : Element) : List Expr := if e.isFragment then [] else dataUses e ++ e.dynamic.toList

variable (e : Element) (inner : Placing)

def placedOwn : Placing := fun locals arms next =>
  e.ownUses.map (.use locals · arms) ++ inner locals arms next

/-- Under the condition of an element. A fallback has no test. -/
def placedCondition : Placing := fun locals arms next =>
  match e.conditions with
  | [] => inner locals arms next
  | d :: _ => (branchTest e).toList.map (.use locals · arms) ++
      .scope next d arms :: inner locals (arms ++ [⟨next, true⟩]) (next + 1)

def placedLoop : Placing := fun locals arms next =>
  match e.loop? with
  | none => inner locals arms next
  | some l => .use locals l.items arms :: .scope next (.loop l) arms ::
      inner (locals ++ l.names) arms (next + 1)

def placed : Placing := e.placedLoop (e.placedCondition (e.placedOwn inner))

/-- The branches that an element stands in, given those of its siblings and those of a further branch. -/
def armsAt (arms : List Arm) (before : Option (List Arm)) : List Arm :=
  if e.continues then before.getD arms else arms

end Element

def Node.scopes (n : Node) : Nat := (n.preorder.flatMap Node.directives).length

/-- The branches that a further branch after a node stands in. -/
def Node.armsAfter : Node → Option (List Arm) → List Arm → Nat → Option (List Arm)
  | .element e _, before, arms, next =>
    if e.invites then some (e.armsAt arms before ++ [⟨next + e.loop?.toList.length, false⟩]) else none
  | n, before, _, _ => if n.isBlank then before else none

mutual

def Node.placed : Node → Option (List Arm) → Placing
  | .dynamicText _ value, _, locals, arms, _ => [.use locals value arms]
  | .element e children, before, locals, arms, next =>
    e.placed (Node.placedAll children none) locals (e.armsAt arms before) next
  | .text .., _, _, _, _ | .comment .., _, _, _, _ | .bare _, _, _, _, _ => []

def Node.placedAll : List Node → Option (List Arm) → Placing
  | [], _, _, _, _ => []
  | n :: ns, before, locals, arms, next =>
    n.placed before locals arms next ++
      Node.placedAll ns (n.armsAfter before arms next) locals arms (next + n.scopes)

end

/-- The expressions and directives of a template. -/
def Node.placements (root : Node) : List Placed := Node.placedAll root.content none [] [] 1

theorem length_outlineAll (ns : List Node) (before : Option Nat) (around next : Nat) :
    (Node.outlineAll ns before around next).length =
      ((Node.preorderAll ns).flatMap Node.directives).length := by
  rw [← Node.directives_outlineAll ns before around next, List.length_map]

theorem Node.placedAll_of_not_continued : ∀ {ns : List Node} (before : Option (List Arm))
    (locals : List String) (arms : List Arm) (next : Nat), continued ns = false →
    Node.placedAll ns before locals arms next = Node.placedAll ns none locals arms next
  | [], _, _, _, _, _ => rfl
  | .element e children :: ns, before, locals, arms, next, h => by
    have continues : e.continues = false := h
    simp [Node.placedAll, Node.placed, Node.armsAfter, Element.armsAt, continues]
  | .text position value :: ns, before, locals, arms, next, h => by
    have own (b : Option (List Arm)) : (Node.text position value).placed b locals arms next = [] := rfl
    rw [Node.placedAll, Node.placedAll, own, own, Node.armsAfter, Node.armsAfter]
    · cases blank : (Node.text position value).isBlank
      · rfl
      · rw [continued, blank, Bool.true_and] at h
        · simpa using Node.placedAll_of_not_continued before locals arms _ h
        · simp
    · simp
    · simp
  | .dynamicText _ _ :: _, _, _, _, _, _ | .comment _ _ :: _, _, _, _, _, _
  | .bare _ :: _, _, _, _, _, _ => rfl

theorem Node.placedAll_leaf {n : Node} (leaf : ∀ e children, n ≠ .element e children)
    (ns : List Node) (before : Option (List Arm)) (locals : List String) (arms : List Arm) (next : Nat) :
    Node.placedAll (n :: ns) before locals arms next = n.placed none locals arms next ++
      Node.placedAll ns (if n.isBlank then before else none) locals arms next := by
  cases n with
  | element e children => exact absurd rfl (leaf e children)
  | _ => simp [Node.placedAll, Node.placed, Node.armsAfter, Node.scopes, Node.preorder, Node.directives]

theorem scopes_element (e : Element) (children : List Node) : (Node.element e children).scopes =
    e.directives.length + ((Node.preorderAll children).flatMap Node.directives).length := by
  rw [Node.scopes, Node.preorder, List.flatMap_cons, List.length_append, Node.directives]

end TemplateCompiler.Template

namespace TemplateCompiler.Generate

open TemplateCompiler.Code TemplateCompiler.Scope TemplateCompiler.Template

/-- What expressions of a template meet inside loops with the given names. -/
def withinLoops (locals : List String) : Atom → Prop
  | .name id => id ∈ locals ∨ id ∈ builtinNames
  | .own _ | .read _ => False
  | .hole _ | .store _ => True

theorem Bound.meets {scope : Nat} {locals : List String} {e x : Expr} (h : Bound scope locals e x) :
    x.Meets (withinLoops locals) := by
  have named : x.Meets (plainly locals) := by
    obtain ⟨us, rfl⟩ := h
    exact meets_bind scope locals _ us
  have unmade : x.Meets fun a => (∃ id, a = .name id ∨ a = .store id) ∨ ∃ site, a = .hole site :=
    Expr.meets_of_occurrences fun o ho => h.atom ho
  refine (named.and unmade).mono fun a ⟨plain, is⟩ => ?_
  rcases is with ⟨id, rfl | rfl⟩ | ⟨site, rfl⟩
  · exact plain
  · trivial
  · trivial

def Live (idle arms : List Arm) : Prop := ∀ a ∈ arms, a ∉ idle

/-- The scope of a directive that stands in the given branches and inside loops with the given names,
together with the scopes below it. Where no branch is idle, its code is assembled from expressions as
told. -/
inductive Armed (E : Emitter) (src : List String → Expr → Prop) (idle : List Arm) (all : List Placed) :
    List Arm → List String → Tree → Prop
  | condition {arms : List Arm} {locals : List String} {r : Region} {inner later : List Tree} {b : Branch}
      {condition body otherwise : Expr} (listed : .scope r.id (.condition b) arms ∈ all)
      (test : testExpr? b.modifier = some condition)
      (helper : r.helper = some (testHelper condition body otherwise))
      (holds : Live idle (arms ++ [⟨r.id, true⟩]) → Assembled E (src locals) (inner ++ later) body)
      (fails : Live idle (arms ++ [⟨r.id, false⟩]) → Assembled E (src locals) (inner ++ later) otherwise)
      (below : ∀ c ∈ inner, Armed E src idle all (arms ++ [⟨r.id, true⟩]) locals c)
      (after : ∀ c ∈ later, Armed E src idle all (arms ++ [⟨r.id, false⟩]) locals c) :
      Armed E src idle all arms locals (.node r (inner ++ later))
  | loop {arms : List Arm} {locals : List String} {r : Region} {children : List Tree} {l : Loop}
      {body : Expr} (listed : .scope r.id (.loop l) arms ∈ all)
      (helper : r.helper = some (loopHelper body l))
      (inside : Live idle arms → Assembled E (src (locals ++ l.names)) children body)
      (below : ∀ c ∈ children, Armed E src idle all arms (locals ++ l.names) c) :
      Armed E src idle all arms locals (.node r children)

/-- Code with the scopes that are closed in it, all in the given branches. -/
def InArms (E : Emitter) (src : List String → Expr → Prop) (idle : List Arm) (all : List Placed)
    (arms : List Arm) (locals : List String) (xs : List Expr) (cs : List Tree) : Prop :=
  (Live idle arms → ∀ x ∈ xs, Assembled E (src locals) cs x) ∧
    ∀ c ∈ cs, Armed E src idle all arms locals c

/-- Code of a shape keeps its parts in their branches. -/
def KeepsArms (E : Emitter) (src : List String → Expr → Prop) (idle : List Arm) (all : List Placed)
    (shape : Shape) (placed : Placing) : Prop :=
  ∀ ⦃scope number : Nat⦄ ⦃locals : List String⦄ ⦃r : Rendered⦄ ⦃cs : List Tree⦄ ⦃arms : List Arm⦄
    ⦃next : Nat⦄, shape scope number locals r cs → Consecutive next cs → placed locals arms next ⊆ all →
    InArms E src idle all arms locals r.entries cs

section

variable {E : Emitter} {src : List String → Expr → Prop} {idle : List Arm} {all : List Placed}
  {arms : List Arm} {locals : List String} {xs ys : List Expr} {cs ds : List Tree} {x y : Expr}

theorem InArms.map (ys : List Expr) (h : InArms E src idle all arms locals xs cs)
    (made : (∀ x ∈ xs, Assembled E (src locals) cs x) → ∀ y ∈ ys, Assembled E (src locals) cs y) :
    InArms E src idle all arms locals ys cs :=
  ⟨fun live => made (h.1 live), h.2⟩

theorem InArms.append (h : InArms E src idle all arms locals xs cs)
    (h' : InArms E src idle all arms locals ys ds) :
    InArms E src idle all arms locals (xs ++ ys) (cs ++ ds) := by
  refine ⟨fun live z hz => ?_, fun c hc => (List.mem_append.mp hc).elim (h.2 c) (h'.2 c)⟩
  rcases List.mem_append.mp hz with hz | hz
  · exact (h.1 live z hz).mono (List.subset_append_left cs ds)
  · exact (h'.1 live z hz).mono (List.subset_append_right cs ds)

theorem inArms_nothing (h : Assembled E (src locals) [] x) : InArms E src idle all arms locals [x] [] :=
  ⟨fun _ => by simpa using h, nofun⟩

theorem inArms_nil : InArms E src idle all arms locals [] [] := ⟨nofun, nofun⟩

end

section

variable {E : Emitter} {src : Expr → Prop} {e : Element} {r : Rendered} {cs : List Tree}
  {x body otherwise : Expr} {entry : Expr → Expr}

theorem assembled_emptyAs (x : Expr) : Assembled E src cs (emptyAs x) := by
  unfold emptyAs
  split
  · refine .list fun y hy => ?_
    obtain ⟨z, -, rfl⟩ := List.mem_map.mp hy
    exact .nothing
  · exact .nothing

theorem Chosen.assembled (h : Chosen e r body otherwise entry)
    (entries : ∀ y ∈ r.entries, Assembled E src cs y) : Assembled E src cs body := by
  cases h with
  | single only => exact entries body (by simp [Rendered.entries_of_single? only])
  | several _ => exact .list entries

theorem Chosen.assembled_otherwise (h : Chosen e r body otherwise entry) : Assembled E src cs otherwise := by
  cases h with
  | single only =>
    have empty (list : Bool) : Assembled E src cs (if list then Expr.list [] else emptyAs body) := by
      cases list
      · exact assembled_emptyAs body
      · exact .list nofun
    exact empty _
  | several _ => exact assembled_emptyAs _

theorem Chosen.assembled_entry (h : Chosen e r body otherwise entry) (made : Assembled E src cs x) :
    Assembled E src cs (entry x) := by
  cases h with
  | single only => exact made
  | several _ => exact .starred made

end

section

variable {src : List String → Expr → Prop} {idle : List Arm} {all : List Placed}
  (heard : ∀ locals e arms, .use locals e arms ∈ all → Live idle arms → Sources (src locals) locals e)
  {L : Ledger} {config : Config} {e : Element} {shape : Shape} {inner : Placing}
  {scope number next : Nat} {locals : List String} {x body otherwise : Expr} {cs trees : List Tree}
  {c : Tree} {arms : List Arm}
include heard

theorem arms_tested {inner later : List Tree}
    (tested : Tested scope locals e body otherwise (inner ++ later) x c)
    (other : e.branchKind? ≠ some .fallback) (number : c.region.id = next)
    (listed : (branchTest e).toList.map (.use locals · arms) ++
      e.conditions.map (.scope next · arms) ⊆ all)
    (holds : InArms L.emitter src idle all (arms ++ [⟨next, true⟩]) locals [body] inner)
    (fails : InArms L.emitter src idle all (arms ++ [⟨next, false⟩]) locals [otherwise] later) :
    InArms L.emitter src idle all arms locals [x] [c] := by
  cases tested with
  | @mk branch test condition y x region has asks reads named kind helper bound is =>
    obtain rfl : region.id = next := number
    have asked : branchTest e = some test := by simp [branchTest, has, asks]
    rw [conditions_of_branch has other, asked] at listed
    refine ⟨fun live => ?_, ?_⟩
    · have sources := heard locals test arms (listed (by simp)) live
      simp only [List.mem_singleton, forall_eq, is]
      exact .tested (c := .node region _) (List.mem_singleton_self _) reads helper (sources scope y bound)
    · simp only [List.mem_singleton, forall_eq]
      refine .condition (listed (by simp)) reads helper (fun live => ?_) (fun live => ?_) holds.2 fails.2
      · exact (holds.1 live body (by simp)).mono (List.subset_append_left inner later)
      · exact (fails.1 live otherwise (by simp)).mono (List.subset_append_right inner later)

theorem arms_iterated (iterated : Iterated L scope locals e body trees x c)
    {l : Loop} (is : e.loop? = some l) (number : c.region.id = next)
    (listed : [.use locals l.items arms, .scope next (.loop l) arms] ⊆ all)
    (inside : InArms L.emitter src idle all arms (locals ++ l.names) [body] trees) :
    InArms L.emitter src idle all arms locals [x] [c] := by
  cases iterated with
  | @mk l' y x region has named kind helper bound emitted =>
    obtain rfl : region.id = next := number
    obtain rfl : l = l' := Option.some.inj (is.symm.trans has)
    obtain ⟨E, rfl, grows⟩ := emitted
    refine ⟨fun live => ?_, ?_⟩
    · have sources := heard locals l.items arms (listed (by simp)) live
      simp only [List.mem_singleton, forall_eq]
      exact .iterated (known_of_call grows) (c := .node region _) (List.mem_singleton_self _) helper
        (sources scope y bound)
    · simp only [List.mem_singleton, forall_eq]
      exact .loop (listed (by simp)) helper (fun live => inside.1 live body (by simp)) inside.2

theorem arms_coreShape (hc : KeepsArms L.emitter src idle all shape inner) :
    KeepsArms L.emitter src idle all (CoreShape L config e shape) (e.placedOwn inner) := by
  intro scope number locals r cs arms next h numbers listed
  unfold CoreShape at h
  rw [Element.placedOwn, Element.ownUses] at listed
  split at h
  · next fragment =>
    rw [if_pos fragment] at listed
    exact hc h numbers listed
  · next fragment =>
    obtain ⟨x, ⟨data, r, packed, hdata, below, hpacked, hcall⟩, rfl⟩ := h
    rw [if_neg fragment, List.append_subset] at listed
    obtain ⟨uses, within⟩ := listed
    obtain ⟨entries, armed⟩ := hc below numbers within
    refine ⟨fun live => ?_, armed⟩
    have sources {y : Expr} (hy : y ∈ dataUses e ++ e.dynamic.toList) : Sources (src locals) locals y :=
      heard locals y arms (uses (List.mem_map_of_mem hy)) live
    simp only [List.mem_singleton, forall_eq]
    exact assembled_elementCall (datum_dataShape (fun y hy => sources (List.mem_append_left _ hy)) hdata)
      (assembled_packed (entries live) hpacked) (isStarred_packed hpacked)
      (fun y hy => sources (List.mem_append_right _ (Option.mem_toList.mpr hy))) hcall

theorem arms_contentShape (hc : KeepsArms L.emitter src idle all shape inner)
    (other : e.branchKind? ≠ some .fallback) :
    KeepsArms L.emitter src idle all (ContentShape e shape) (e.placedCondition inner) := by
  intro scope number locals r cs arms next h numbers listed
  unfold ContentShape at h
  unfold Element.placedCondition at listed
  split at h
  · obtain ⟨content, trees, body, otherwise, entry, x, c, below, chosen, tested, rfl, rfl⟩ := h
    obtain ⟨branch, has, -, held⟩ := tested.standsFor
    obtain ⟨region, children⟩ := c
    obtain rfl : children = trees := held
    obtain ⟨number, rest⟩ := consecutive_node numbers
    rw [List.append_nil] at rest
    have conditions := conditions_of_branch has other
    simp only [conditions, List.append_subset, List.cons_subset] at listed
    obtain ⟨tests, here, within⟩ := listed
    have inside := (hc below rest within).map [body] fun entries => by simpa using chosen.assembled entries
    rw [← List.append_nil children] at tested
    have both := arms_tested heard tested other number (by simp [conditions, tests, here]) inside
      (inArms_nothing chosen.assembled_otherwise)
    rw [List.append_nil] at both
    refine both.map _ fun made => ?_
    simpa using chosen.assembled_entry (made x (List.mem_singleton_self x))
  · next asks =>
    rw [conditions_of_no_branch (by simpa using asks)] at listed
    exact hc h numbers listed

theorem arms_elementShape (hc : KeepsArms L.emitter src idle all shape inner)
    (other : e.branchKind? ≠ some .fallback) :
    KeepsArms L.emitter src idle all (ElementShape L config e shape) (e.placed inner) := by
  have content : KeepsArms L.emitter src idle all (ContentShape e (CoreShape L config e shape))
      (e.placedCondition (e.placedOwn inner)) := arms_contentShape heard (arms_coreShape heard hc) other
  intro scope number locals r cs arms next h numbers listed
  unfold ElementShape LoopShape at h
  unfold Element.placed Element.placedLoop at listed
  split at h
  · next still =>
    rw [still] at listed
    exact content h numbers listed
  · next l iterates =>
    obtain ⟨content', trees, body, x, c, below, hbody, iterated, rfl, rfl⟩ := h
    obtain ⟨l', -, -, held⟩ := iterated.standsFor
    obtain ⟨region, children⟩ := c
    obtain rfl : children = trees := held
    obtain ⟨number, rest⟩ := consecutive_node numbers
    rw [List.append_nil] at rest
    simp only [iterates, List.cons_subset] at listed
    obtain ⟨items, here, within⟩ := listed
    have inside := (content below rest within).map [body]
      fun entries => by simpa using assembled_fragmentBody entries hbody
    exact arms_iterated heard iterated iterates number (by simp [items, here]) inside

theorem arms_branchShape (hc : KeepsArms L.emitter src idle all shape inner) (still : e.loop? = none)
    (listed : e.placedOwn inner locals arms next ⊆ all) (numbers : Consecutive next cs)
    (h : BranchShape L config e shape scope number locals x cs) :
    InArms L.emitter src idle all arms locals [x] cs := by
  obtain ⟨r, made, packed⟩ := h
  rw [memberContent_still still] at made
  exact (arms_coreShape heard hc made numbers listed).map _
    fun entries => by simpa using assembled_packed entries packed

end

theorem opening_of_invites {e : Element} (continues : e.continues = false) (invites : e.invites = true) :
    e.branchKind? = some .opening := by
  cases kind : e.branchKind? with
  | none => simp [Element.invites, kind] at invites
  | some k => cases k <;> simp_all [Element.invites, Element.continues, BranchKind.continues]

theorem scopes_alone {L : Ledger} {config : Config} {e : Element} {children : List Node}
    {scope number next : Nat} {locals : List String} {r : Rendered} {cs : List Tree}
    (other : e.branchKind? ≠ some .fallback)
    (here : ElementShape L config e (NodesShape L config children) scope number locals r cs)
    (numbers : Consecutive next cs) : (Node.element e children).scopes = (idsOf cs).length := by
  have outlined := outlines_elementShape (outlinesAll L config children).apart other here numbers
  rw [← length_of_realizes outlined, scopes_element, ← List.length_append,
    ← directives_inside (Node.directives_outlineAll children none), List.length_map]

/-- Siblings keep their parts in their branches, also those that continue a chain. -/
structure ArmsSiblings (src : List String → Expr → Prop) (idle : List Arm) (all : List Placed) (L : Ledger)
    (config : Config) (ns : List Node) : Prop where
  apart : KeepsArms L.emitter src idle all (NodesShape L config ns) (Node.placedAll ns none)
  joined : ∀ ⦃p scope number next : Nat⦄ ⦃locals : List String⦄ ⦃otherwise : Expr⦄
    ⦃later others : List Tree⦄ ⦃rest : Rendered⦄ ⦃arms before : List Arm⦄,
    JoinedShape L config ns p scope number locals otherwise later rest others →
    Consecutive next (later ++ others) → Node.placedAll ns (some before) locals arms next ⊆ all →
    InArms L.emitter src idle all before locals [otherwise] later ∧
      InArms L.emitter src idle all arms locals rest.entries others

theorem arms_following {src : List String → Expr → Prop} {idle : List Arm} {all : List Placed} {L : Ledger}
    {config : Config} {ns : List Node} (h : ArmsSiblings src idle all L config ns)
    {p scope number next : Nat} {locals : List String} {otherwise : Expr} {later others : List Tree}
    {rest : Rendered} {arms before : List Arm}
    (shape : if continued ns then JoinedShape L config ns p scope number locals otherwise later rest others
      else otherwise = .list [] ∧ later = [] ∧ NodesShape L config ns scope number locals rest others)
    (numbers : Consecutive next (later ++ others))
    (listed : Node.placedAll ns (some before) locals arms next ⊆ all) :
    InArms L.emitter src idle all before locals [otherwise] later ∧
      InArms L.emitter src idle all arms locals rest.entries others := by
  split at shape
  · exact h.joined shape numbers listed
  · next apart =>
    obtain ⟨rfl, rfl, shape⟩ := shape
    rw [Node.placedAll_of_not_continued _ _ _ _ (by simpa using apart)] at listed
    exact ⟨inArms_nothing (.list nofun), h.apart shape numbers listed⟩

section

variable {src : List String → Expr → Prop} {idle : List Arm} {all : List Placed}
  (heard : ∀ locals e arms, .use locals e arms ∈ all → Live idle arms → Sources (src locals) locals e)
  {L : Ledger} {config : Config}
include heard

theorem arms_leaf {n : Node} (leaf : ∀ e children, n ≠ .element e children) {scope number next : Nat}
    {locals : List String} {r : Rendered} {arms : List Arm}
    (h : NodeShape L config n scope number locals r [])
    (listed : n.placed none locals arms next ⊆ all) :
    InArms L.emitter src idle all arms locals r.entries [] := by
  refine ⟨fun live x hx => ?_, nofun⟩
  cases n with
  | element e children => exact absurd rfl (leaf e children)
  | bare position => cases h
  | dynamicText position value =>
    obtain ⟨y, z, bound, ⟨E, rfl, grows⟩, rfl, -⟩ := h
    have sources := heard locals value arms (listed (by simp [Node.placed])) live
    obtain rfl := List.mem_singleton.mp hx
    have argument : Datum L.emitter (src locals) y := .source (sources scope y bound)
    exact .leaf (q := .dynamicText) rfl (known_of_call grows) (by simpa using argument)
  | text position value =>
    obtain ⟨z, ⟨E, rfl, grows⟩, rfl, -⟩ := h
    obtain rfl := List.mem_singleton.mp hx
    exact .leaf (q := .text) rfl (known_of_call grows) (by simpa using datum_str value)
  | comment position value =>
    obtain ⟨z, ⟨E, rfl, grows⟩, rfl, -⟩ := h
    obtain rfl := List.mem_singleton.mp hx
    exact .leaf (q := .comment) rfl (known_of_call grows) (by simpa using datum_str value)

theorem armsSiblings_leaf {n : Node} {ns : List Node} (leaf : ∀ e children, n ≠ .element e children)
    (after : ArmsSiblings src idle all L config ns) : ArmsSiblings src idle all L config (n :: ns) where
  apart := by
    intro scope number locals r cs arms next h numbers listed
    obtain ⟨first, rest, here, shape, rfl⟩ := h.leaf leaf
    rw [Node.placedAll_leaf leaf, ite_self, List.append_subset] at listed
    exact (arms_leaf heard leaf here listed.1).append (after.apart shape numbers listed.2)
  joined := by
    intro p scope number next locals otherwise later others rest arms before h numbers listed
    obtain ⟨blank, shape⟩ := h.leaf leaf
    rw [Node.placedAll_leaf leaf, if_pos blank, List.append_subset] at listed
    exact after.joined shape numbers listed.2

theorem arms_member {e : Element} {children ns : List Node} {after : Following}
    {p number next : Nat} {locals : List String} {x : Expr} {c : Tree} {rest : Rendered}
    {others : List Tree} {arms before : List Arm}
    (below : ArmsSiblings src idle all L config children) (other : e.branchKind? ≠ some .fallback)
    (follows : ∀ {q next otherwise later}, after q otherwise later rest others →
      Consecutive next (later ++ others) →
      Node.placedAll ns (some (before ++ [⟨c.region.id, false⟩])) locals arms next ⊆ all →
      InArms L.emitter src idle all (before ++ [⟨c.region.id, false⟩]) locals [otherwise] later ∧
        InArms L.emitter src idle all arms locals rest.entries others)
    (listed : e.placed (Node.placedAll children none) locals before next ++
      Node.placedAll ns (some (before ++ [⟨next, false⟩])) locals arms
        (next + (Node.element e children).scopes) ⊆ all)
    (h : MemberShape L config e (NodesShape L config children) after p number locals x c rest others)
    (numbers : Consecutive next (c :: others)) :
    InArms L.emitter src idle all before locals [x] [c] ∧
      InArms L.emitter src idle all arms locals rest.entries others := by
  obtain ⟨still, body, otherwise, inner, later, branch, following, tested⟩ := h
  obtain ⟨b, has, -, held⟩ := tested.standsFor
  obtain ⟨region, trees⟩ := c
  obtain rfl : trees = inner ++ later := held
  obtain ⟨id, rest⟩ := consecutive_node numbers
  rw [List.append_assoc] at rest
  obtain ⟨first, second⟩ := consecutive_append rest
  have conditions := conditions_of_branch has other
  have counted : (Node.element e children).scopes = 1 + (idsOf inner).length := by
    have outlined := outlines_branchShape (outlinesAll L config children).apart still branch first
    have length := length_of_realizes outlined
    rw [length_outlineAll] at length
    have directives : e.directives.length = 1 := by simp [Element.directives, still, conditions]
    rw [scopes_element, length, directives]
  simp only [Element.placed, Element.placedLoop, still, Element.placedCondition, conditions,
    List.append_subset, List.cons_subset] at listed
  obtain ⟨⟨tests, here, within⟩, following'⟩ := listed
  rw [counted, ← Nat.add_assoc] at following'
  subst id
  obtain ⟨failing, others⟩ := follows following second following'
  have inside := arms_branchShape heard below.apart still within first branch
  have number : (Scope.Tree.node region (inner ++ later)).region.id = region.id := rfl
  exact ⟨arms_tested heard tested other number (by simp [conditions, tests, here]) inside failing, others⟩

theorem armsSiblings : ∀ ns : List Node, ArmsSiblings src idle all L config ns
  | [] => ⟨by
      rintro scope number locals r cs arms next ⟨rfl, rfl⟩ - -
      exact inArms_nil, fun _ _ _ _ _ _ _ _ _ _ _ h => by cases h⟩
  | .text _ _ :: ns | .dynamicText _ _ :: ns | .comment _ _ :: ns | .bare _ :: ns =>
    armsSiblings_leaf heard (by simp) (armsSiblings ns)
  | .element e children :: ns => by
    have below : ArmsSiblings src idle all L config children := armsSiblings children
    have later := armsSiblings ns
    constructor
    · intro scope number locals r cs arms next h numbers listed
      rw [NodesShape] at h
      split at h
      · next chain =>
        obtain ⟨x, c, rest, others, member, rfl, rfl⟩ := h
        have still : e.loop? = none := member.1
        have opens : e.armsAt arms none = arms := by simp [Element.armsAt]
        have invites : e.invites = true := by simp [Element.invites, chain.1]
        rw [Node.placedAll, Node.placed, Node.armsAfter, opens, if_pos invites, still] at listed
        obtain ⟨first, others⟩ := arms_member heard below (by simp [chain.1])
          (fun joined => later.joined joined) listed member numbers
        have spread := first.map [.starred x] fun made => by simpa using .starred (made x (by simp))
        exact spread.append others
      · next alone =>
        obtain ⟨first, rest, inner, others, ⟨continues, here⟩, after, rfl, rfl⟩ := h
        obtain ⟨mine, theirs⟩ := consecutive_append numbers
        have other : e.branchKind? ≠ some .fallback := by
          rintro fallback
          simp [Element.continues, BranchKind.continues, fallback] at continues
        have opens : e.armsAt arms none = arms := by simp [Element.armsAt]
        rw [Node.placedAll, Node.placed, opens, List.append_subset, scopes_alone other here mine] at listed
        have unjoined : Node.placedAll ns ((Node.element e children).armsAfter none arms next) locals arms
            (next + (idsOf inner).length) =
              Node.placedAll ns none locals arms (next + (idsOf inner).length) := by
          rw [Node.armsAfter]
          split
          · next invites =>
            refine Node.placedAll_of_not_continued _ _ _ _ ?_
            simpa [opening_of_invites continues invites] using alone
          · rfl
        rw [unjoined] at listed
        exact (arms_elementShape heard below.apart other here mine listed.1).append
          (later.apart after theirs listed.2)
    · intro p scope number next locals otherwise later' others rest arms before h numbers listed
      rw [JoinedShape] at h
      split at h
      · next fallback =>
        obtain ⟨still, branch, after⟩ := h
        obtain ⟨mine, theirs⟩ := consecutive_append numbers
        have conditions : e.conditions = [] := by
          obtain ⟨b, has, kind⟩ := Option.map_eq_some_iff.mp fallback
          simp [Element.conditions, has, kind]
        have place : e.armsAt arms (some before) = before := by
          simp [Element.armsAt, Element.continues, BranchKind.continues, fallback]
        have uninviting : e.invites = false := by simp [Element.invites, fallback]
        have counted : (Node.element e children).scopes = (idsOf later').length := by
          have length := length_of_realizes
            (outlines_branchShape (outlinesAll L config children).apart still branch mine)
          rw [length_outlineAll] at length
          rw [scopes_element, length]
          simp [Element.directives, still, conditions]
        rw [Node.placedAll, Node.placed, Node.armsAfter, place, uninviting, counted,
          List.append_subset] at listed
        have within : e.placedOwn (Node.placedAll children none) locals before next ⊆ all := by
          simpa [Element.placed, Element.placedLoop, still, Element.placedCondition, conditions]
            using listed.1
        exact ⟨arms_branchShape heard below.apart still within mine branch,
          later.apart after theirs listed.2⟩
      · obtain ⟨alternative, c, member, rfl⟩ := h
        have still : e.loop? = none := member.1
        have place : e.armsAt arms (some before) = before := by
          simp [Element.armsAt, Element.continues, BranchKind.continues, alternative]
        have invites : e.invites = true := by simp [Element.invites, alternative]
        rw [Node.placedAll, Node.placed, Node.armsAfter, place, if_pos invites, still] at listed
        exact arms_member heard below (by simp [alternative])
          (fun following => arms_following later following) listed member numbers

end

def loopNames (h : Helper) : List String :=
  (if h.signature.rest.isSome then h.signature.params else []) ++ h.body.flatMap Stmt.variableNames

/-- The loop variables of the scopes on a path, the outermost first. -/
def namesAlong (path : List Spot) : List String :=
  path.reverse.flatMap fun p => p.region.helper.elim [] loopNames

@[simp] theorem loopNames_testHelper (condition body otherwise : Expr) :
    loopNames (testHelper condition body otherwise) = [] := rfl

@[simp] theorem loopNames_loopHelper (body : Expr) (l : Loop) : loopNames (loopHelper body l) = l.names := by
  cases l <;> simp [loopNames, loopHelper, Stmt.variableNames, Loop.names]

theorem namesAlong_cons (p : Spot) (path : List Spot) :
    namesAlong (p :: path) = namesAlong path ++ p.region.helper.elim [] loopNames := by
  simp [namesAlong]

section

variable {E : Emitter} {src : List String → Expr → Prop} {idle : List Arm} {all : List Placed}

theorem armed_spotsAll {ts : List Tree} {above : List Spot} {inherited : Available}
    (h : ∀ t ∈ ts, ∃ arms, Armed E src idle all arms (namesAlong above) t) :
    ∀ x ∈ Tree.spotsAll above inherited ts,
      ∃ arms, Armed E src idle all arms (namesAlong x.1) (.node x.2.region x.2.children) := by
  refine Tree.forall_spotsAll (P := fun above _ t => ∃ arms, Armed E src idle all arms (namesAlong above) t) ?_ h
  rintro above inherited region children ⟨arms, h⟩ c hc
  cases h with
  | condition listed test helper holds fails below after =>
    rw [namesAlong_cons, helper, Option.elim_some, loopNames_testHelper, List.append_nil]
    exact (List.mem_append.mp hc).elim (fun hc => ⟨_, below c hc⟩) fun hc => ⟨_, after c hc⟩
  | loop listed helper inside below =>
    rw [namesAlong_cons, helper, Option.elim_some, loopNames_loopHelper]
    exact ⟨_, below c hc⟩

end

theorem Draft.Shaped.armed {config : Config} {ns : List Node} {d : Draft}
    {src : List String → Expr → Prop} {idle : List Arm}
    (shaped : d.Shaped fun L => NodesShape L config ns) (top : d.tree.region.helper = none)
    (heard : ∀ locals e arms, .use locals e arms ∈ Node.placedAll ns none [] [] 1 → Live idle arms →
      Sources (src locals) locals e) :
    Assembled d.emitter (src []) d.tree.children d.root ∧ ∀ x ∈ d.scopes, x.1 ≠ [] →
      ∃ arms, Armed d.emitter src idle (Node.placedAll ns none [] [] 1) arms (namesAlong x.1)
        (.node x.2.region x.2.children) := by
  obtain ⟨knows, -, tree, -, numbers, shape, packed⟩ := shaped
  obtain ⟨entries, armed⟩ := (armsSiblings heard ns).apart shape numbers (List.Subset.refl _)
  rw [tree, Tree.region] at top
  refine ⟨?_, fun x hx below => ?_⟩
  · rw [← knows, tree]
    exact assembled_packed (entries nofun) packed
  · rw [Draft.scopes, tree, Tree.spots] at hx
    rcases List.mem_cons.mp hx with rfl | hx
    · exact absurd rfl below
    · refine armed_spotsAll (fun t ht => ⟨[], ?_⟩) x hx
      rw [namesAlong_cons, top, ← knows]
      exact armed t ht

end TemplateCompiler.Generate
