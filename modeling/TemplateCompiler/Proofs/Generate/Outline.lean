import TemplateCompiler.Proofs.Generate.NodeShapes

/-!
The outline of a template: the scopes that its directives ask for. A loop has a scope, and so has every
test; a fallback has none. The scope of an element's test is inside the scope of its loop, and whatever
continues a chain is inside the scope of the branch before it. The scopes of a draft are exactly those of
the outline, numbered in document order.
-/

namespace TemplateCompiler.Template

/-- A directive that has a scope of its own. -/
inductive Directive where
  | loop (l : Loop)
  | condition (branch : Branch)

/-- The conditions of an element that are tested: a fallback is not. -/
def Element.conditions (e : Element) : List Directive :=
  (e.branch.toList.filter (·.kind ≠ .fallback)).map .condition

def Element.directives (e : Element) : List Directive := e.loop?.toList.map .loop ++ e.conditions

def Node.directives : Node → List Directive
  | .element e _ => e.directives
  | .text .. | .dynamicText .. | .comment .. | .bare _ => []

/-- A scope with its number, its directive and the number of the scope around it. -/
structure Outlined where
  number : Nat
  directive : Directive
  around : Nat

/-- The scopes of a part of a template, given the number of the scope around it and the next number. -/
abbrev Outline := Nat → Nat → List Outlined

def Outline.inside (inner : Outline) : List Directive → Outline
  | [], around, next => inner around next
  | d :: ds, around, next => ⟨next, d, around⟩ :: inner.inside ds next (next + 1)

def innermost (around next : Nat) : List Directive → Nat
  | [] => around
  | _ :: ds => innermost next (next + 1) ds

/-- Where an element stands, given the scope around its siblings and the scope of the branch before it. -/
def Element.place (e : Element) (around : Nat) (before : Option Nat) : Nat :=
  if e.continues then before.getD around else around

def Node.branchScope : Node → Option Nat → Nat → Nat → Option Nat
  | .element e _, before, around, next =>
    if e.invites then some (innermost (e.place around before) next e.directives) else none
  | n, before, _, _ => if n.isBlank then before else none

mutual

/-- The scopes of a node, given the scope of a branch before it that it may continue. -/
def Node.outline : Node → Option Nat → Outline
  | .element e children, before, around, next =>
    Outline.inside (Node.outlineAll children none) e.directives (e.place around before) next
  | .text .., _, _, _ | .dynamicText .., _, _, _ | .comment .., _, _, _ | .bare _, _, _, _ => []

def Node.outlineAll : List Node → Option Nat → Outline
  | [], _, _, _ => []
  | n :: ns, before, around, next =>
    n.outline before around next ++
      Node.outlineAll ns (n.branchScope before around next) around
        (next + (n.outline before around next).length)

end

theorem directives_inside {inner : Outline} {ds es : List Directive}
    (h : ∀ around next, (inner around next).map Outlined.directive = es) (around next : Nat) :
    (inner.inside ds around next).map Outlined.directive = ds ++ es := by
  induction ds generalizing around next with
  | nil => exact h around next
  | cons d ds ih => rw [Outline.inside, List.map_cons, ih, List.cons_append]

mutual

theorem Node.directives_outline : ∀ (n : Node) (before : Option Nat) (around next : Nat),
    (n.outline before around next).map Outlined.directive = n.preorder.flatMap Node.directives
  | .element e children, before, around, next => by
    rw [Node.outline, directives_inside (Node.directives_outlineAll children none), Node.preorder,
      List.flatMap_cons, Node.directives]
  | .text _ _, _, _, _ | .dynamicText _ _, _, _, _ | .comment _ _, _, _, _ | .bare _, _, _, _ => rfl

theorem Node.directives_outlineAll : ∀ (ns : List Node) (before : Option Nat) (around next : Nat),
    (Node.outlineAll ns before around next).map Outlined.directive =
      (Node.preorderAll ns).flatMap Node.directives
  | [], _, _, _ => rfl
  | n :: ns, before, around, next => by
    rw [Node.outlineAll, List.map_append, Node.directives_outline n, Node.directives_outlineAll ns,
      Node.preorderAll, List.flatMap_append]

end

theorem Node.outlineAll_of_not_continued : ∀ {ns : List Node} (before : Option Nat) (around next : Nat),
    continued ns = false → Node.outlineAll ns before around next = Node.outlineAll ns none around next
  | [], _, _, _, _ => rfl
  | .element e children :: ns, before, around, next, h => by
    have continues : e.continues = false := h
    simp [Node.outlineAll, Node.outline, Node.branchScope, Element.place, continues]
  | .text position value :: ns, before, around, next, h => by
    have own (b : Option Nat) : (Node.text position value).outline b around next = [] := rfl
    rw [Node.outlineAll, Node.outlineAll, own, own, Node.branchScope, Node.branchScope]
    · cases blank : (Node.text position value).isBlank
      · rfl
      · rw [continued, blank, Bool.true_and] at h
        · simpa using Node.outlineAll_of_not_continued before around next h
        · simp
    · simp
    · simp
  | .dynamicText _ _ :: _, _, _, _, _ | .comment _ _ :: _, _, _, _, _ | .bare _ :: _, _, _, _, _ => rfl

end TemplateCompiler.Template

namespace TemplateCompiler.Scope

/-- Trees whose scopes are numbered one after the other. -/
def Consecutive (next : Nat) (ts : List Tree) : Prop :=
  idsOf ts = List.range' next (idsOf ts).length

theorem consecutive_append {next : Nat} {ts us : List Tree} (h : Consecutive next (ts ++ us)) :
    Consecutive next ts ∧ Consecutive (next + (idsOf ts).length) us := by
  unfold Consecutive at h ⊢
  rw [idsOf_append, List.length_append, ← List.range'_append_1] at h
  exact List.append_inj h (by simp)

theorem consecutive_node {next : Nat} {r : Region} {children ts : List Tree}
    (h : Consecutive next (.node r children :: ts)) :
    r.id = next ∧ Consecutive (next + 1) (children ++ ts) := by
  unfold Consecutive at h ⊢
  rw [idsOf_cons, ← idsOf_append, List.length_cons, List.range'_succ] at h
  exact List.cons.inj h

end TemplateCompiler.Scope

namespace TemplateCompiler.Generate

open TemplateCompiler.Code TemplateCompiler.Scope TemplateCompiler.Template

/-- The scope of a directive: its helper does what the directive asks for. -/
def StandsFor (r : Region) : Directive → Prop
  | .loop l => r.kind = loopKind l ∧ ∃ body, r.helper = some (loopHelper body l)
  | .condition branch => r.kind = .conditional ∧ ∃ condition body otherwise,
      testExpr? branch.modifier = some condition ∧ r.helper = some (testHelper condition body otherwise)

/-- A scope of a draft, with the number of the scope around it, is as outlined. -/
structure Realizes (o : Outlined) (x : Nat × Region) : Prop where
  number : x.2.id = o.number
  around : x.1 = o.around
  directive : StandsFor x.2 o.directive

def Outlines (shape : Shape) (outline : Outline) : Prop :=
  ∀ {scope number : Nat} {locals : List String} {r : Rendered} {cs : List Tree} {next : Nat},
    shape scope number locals r cs → Consecutive next cs →
      List.Forall₂ Realizes (outline scope next) (Tree.entriesAll scope cs)

section

variable {L : Ledger} {config : Config} {e : Element} {shape : Shape} {inner : Outline}
  {scope number next : Nat} {locals : List String} {x body otherwise : Expr} {cs trees : List Tree}
  {c : Tree}

theorem realizes_inside {ds : List Directive} {d : Directive} (directive : StandsFor c.region d)
    (numbers : Consecutive next [c])
    (below : Consecutive (next + 1) c.children → List.Forall₂ Realizes
      (inner.inside ds c.region.id (next + 1)) (Tree.entriesAll c.region.id c.children)) :
    List.Forall₂ Realizes (inner.inside (d :: ds) scope next) (Tree.entriesAll scope [c]) := by
  obtain ⟨region, children⟩ := c
  obtain ⟨id, rest⟩ := consecutive_node numbers
  rw [List.append_nil] at rest
  have inside := below rest
  rw [Tree.region, id] at inside
  rw [Outline.inside, Tree.entriesAll, Tree.entriesAll, Tree.entries, List.append_nil, id]
  exact .cons ⟨id, rfl, directive⟩ inside

theorem Tested.standsFor (h : Tested scope locals e body otherwise trees x c) :
    ∃ branch, e.branch = some branch ∧ StandsFor c.region (.condition branch) ∧ c.children = trees := by
  cases h with
  | mk has asks reads named kind helper bound is =>
    exact ⟨_, has, ⟨kind, _, _, _, reads, helper⟩, rfl⟩

theorem Iterated.standsFor (h : Iterated L scope locals e body trees x c) :
    ∃ l, e.loop? = some l ∧ StandsFor c.region (.loop l) ∧ c.children = trees := by
  cases h with
  | mk has named kind helper bound emitted => exact ⟨_, has, ⟨kind, _, helper⟩, rfl⟩

theorem conditions_of_branch {branch : Branch} (has : e.branch = some branch)
    (other : e.branchKind? ≠ some .fallback) : e.conditions = [.condition branch] := by
  have kind : branch.kind ≠ .fallback := by simpa [Element.branchKind?, has] using other
  simp [Element.conditions, has, kind]

theorem conditions_of_no_branch (absent : e.branch = none) : e.conditions = [] := by
  simp [Element.conditions, absent]

theorem outlines_coreShape (hc : Outlines shape inner) : Outlines (CoreShape L config e shape) inner := by
  intro scope number locals r cs next h numbers
  unfold CoreShape at h
  split at h
  · exact hc h numbers
  · obtain ⟨x, ⟨data, r, packed, -, below, -⟩, -⟩ := h
    exact hc below numbers

theorem outlines_contentShape (hc : Outlines shape inner) (other : e.branchKind? ≠ some .fallback) :
    Outlines (ContentShape e shape) (inner.inside e.conditions) := by
  intro scope number locals r cs next h numbers
  unfold ContentShape at h
  split at h
  · obtain ⟨content, trees, body, otherwise, entry, x, c, below, -, tested, -, rfl⟩ := h
    obtain ⟨branch, has, directive, rfl⟩ := tested.standsFor
    rw [conditions_of_branch has other]
    exact realizes_inside directive numbers fun rest => hc below rest
  · next asks =>
    rw [conditions_of_no_branch (by simpa using asks)]
    exact hc h numbers

theorem outlines_elementShape (hc : Outlines shape inner) (other : e.branchKind? ≠ some .fallback) :
    Outlines (ElementShape L config e shape) (inner.inside e.directives) := by
  intro scope number locals r cs next h numbers
  unfold ElementShape LoopShape at h
  split at h
  · next still =>
    have all := outlines_contentShape (outlines_coreShape hc) other h numbers
    simpa [Element.directives, still] using all
  · next l iterates =>
    obtain ⟨content, trees, body, x, c, below, -, iterated, -, rfl⟩ := h
    obtain ⟨l', same, directive, rfl⟩ := iterated.standsFor
    obtain rfl : l = l' := Option.some.inj (iterates.symm.trans same)
    have all : e.directives = .loop l :: e.conditions := by simp [Element.directives, iterates]
    rw [all]
    exact realizes_inside directive numbers fun rest =>
      outlines_contentShape (outlines_coreShape hc) other below rest

theorem outlines_branchShape (hc : Outlines shape inner) (still : e.loop? = none)
    (h : BranchShape L config e shape scope number locals x cs) (numbers : Consecutive next cs) :
    List.Forall₂ Realizes (inner scope next) (Tree.entriesAll scope cs) := by
  obtain ⟨r, made, -⟩ := h
  rw [memberContent_still still] at made
  exact outlines_coreShape hc made numbers

end

/-- The scopes of siblings are outlined, also of those that continue a chain. -/
structure OutlinesAll (L : Ledger) (config : Config) (ns : List Node) : Prop where
  apart : Outlines (NodesShape L config ns) (Node.outlineAll ns none)
  joined : ∀ {p scope number next : Nat} {locals : List String} {otherwise : Expr}
    {later others : List Tree} {rest : Rendered},
    JoinedShape L config ns p scope number locals otherwise later rest others →
    Consecutive next (later ++ others) →
    List.Forall₂ Realizes (Node.outlineAll ns (some p) scope next)
      (Tree.entriesAll p later ++ Tree.entriesAll scope others)

section

variable {L : Ledger} {config : Config}

theorem length_of_realizes {os : List Outlined} {around : Nat} {cs : List Tree}
    (h : List.Forall₂ Realizes os (Tree.entriesAll around cs)) : os.length = (idsOf cs).length := by
  rw [h.length_eq, idsOf, List.length_map, ← Tree.map_entriesAll around cs, List.length_map]

theorem Node.outline_leaf {n : Node} (leaf : ∀ e children, n ≠ .element e children)
    (ns : List Node) (before : Option Nat) (around next : Nat) :
    Node.outlineAll (n :: ns) before around next =
      Node.outlineAll ns (if n.isBlank then before else none) around next := by
  cases n with
  | element e children => exact absurd rfl (leaf e children)
  | _ => simp [Node.outlineAll, Node.outline, Node.branchScope]

theorem outlinesAll_leaf {n : Node} {ns : List Node} (leaf : ∀ e children, n ≠ .element e children)
    (after : OutlinesAll L config ns) : OutlinesAll L config (n :: ns) where
  apart h numbers := by
    obtain ⟨first, rest, -, shape, -⟩ := h.leaf leaf
    rw [Node.outline_leaf leaf, ite_self]
    exact after.apart shape numbers
  joined h numbers := by
    obtain ⟨blank, shape⟩ := h.leaf leaf
    rw [Node.outline_leaf leaf, if_pos blank]
    exact after.joined shape numbers

/-- What follows a branch is outlined in the scope of the branch if it continues the chain. -/
theorem outlines_following {ns : List Node} (h : OutlinesAll L config ns) {p scope number next : Nat}
    {locals : List String} {otherwise : Expr} {later others : List Tree} {rest : Rendered}
    (shape : if continued ns then JoinedShape L config ns p scope number locals otherwise later rest others
      else otherwise = .list [] ∧ later = [] ∧ NodesShape L config ns scope number locals rest others)
    (numbers : Consecutive next (later ++ others)) :
    List.Forall₂ Realizes (Node.outlineAll ns (some p) scope next)
      (Tree.entriesAll p later ++ Tree.entriesAll scope others) := by
  split at shape
  · exact h.joined shape numbers
  · next apart =>
    obtain ⟨-, rfl, shape⟩ := shape
    rw [Node.outlineAll_of_not_continued _ _ _ (by simpa using apart)]
    exact h.apart shape numbers

theorem outlines_member {e : Element} {children ns : List Node} {after : Following}
    {p scope number next : Nat} {locals : List String} {x : Expr} {c : Tree} {rest : Rendered}
    {others : List Tree} (below : Outlines (NodesShape L config children) (Node.outlineAll children none))
    (other : e.branchKind? ≠ some .fallback)
    (follows : ∀ {q next otherwise later}, after q otherwise later rest others →
      Consecutive next (later ++ others) → List.Forall₂ Realizes (Node.outlineAll ns (some q) scope next)
        (Tree.entriesAll q later ++ Tree.entriesAll scope others))
    (h : MemberShape L config e (NodesShape L config children) after p number locals x c rest others)
    (numbers : Consecutive next (c :: others)) :
    List.Forall₂ Realizes
      (Outline.inside (Node.outlineAll children none) e.directives p next ++
        Node.outlineAll ns (some (innermost p next e.directives)) scope
          (next + (Outline.inside (Node.outlineAll children none) e.directives p next).length))
      (Tree.entries p c ++ Tree.entriesAll scope others) := by
  obtain ⟨still, body, otherwise, inner, later, branch, following, tested⟩ := h
  obtain ⟨b, has, directive, held⟩ := tested.standsFor
  obtain ⟨region, trees⟩ := c
  obtain rfl : trees = inner ++ later := held
  obtain ⟨id, rest⟩ := consecutive_node numbers
  rw [List.append_assoc] at rest
  obtain ⟨first, second⟩ := consecutive_append rest
  have inside := outlines_branchShape below still branch first
  have own : e.directives = [.condition b] := by
    simp [Element.directives, still, conditions_of_branch has other]
  have chained := follows following second
  simp only [Tree.region, id] at inside chained
  have length := length_of_realizes inside
  rw [own, Outline.inside, Outline.inside, innermost, innermost, Tree.entries, id, Tree.entriesAll_append,
    List.cons_append, List.cons_append, List.append_assoc, List.length_cons, length]
  refine .cons ⟨id, rfl, directive⟩ (List.rel_append inside ?_)
  rwa [Nat.add_assoc, Nat.add_comm 1] at chained

theorem outlinesAll (L : Ledger) (config : Config) : ∀ ns : List Node, OutlinesAll L config ns
  | [] => ⟨fun h _ => by
      obtain ⟨rfl, rfl⟩ := h
      exact .nil, fun h => by cases h⟩
  | .text _ _ :: ns | .dynamicText _ _ :: ns | .comment _ _ :: ns | .bare _ :: ns =>
    outlinesAll_leaf (by simp) (outlinesAll L config ns)
  | .element e children :: ns => by
    have below : Outlines (NodesShape L config children) (Node.outlineAll children none) :=
      (outlinesAll L config children).apart
    have later := outlinesAll L config ns
    constructor
    · intro scope number locals r cs next h numbers
      rw [NodesShape] at h
      split at h
      · next chain =>
        obtain ⟨x, c, rest, others, member, rfl, rfl⟩ := h
        have all := outlines_member below (by simp [chain.1]) later.joined member numbers
        simpa [Node.outlineAll, Node.outline, Node.branchScope, Element.place, Element.continues,
          BranchKind.continues, Element.invites, chain.1, Tree.entriesAll] using all
      · next alone =>
        obtain ⟨first, rest, inner, others, ⟨continues, here⟩, after, rfl, rfl⟩ := h
        have other : e.branchKind? ≠ some .fallback := by
          rintro fallback
          simp [Element.continues, BranchKind.continues, fallback] at continues
        obtain ⟨mine, theirs⟩ := consecutive_append numbers
        have own := outlines_elementShape below other here mine
        have place : e.place scope none = scope := by simp [Element.place, continues]
        rw [Node.outlineAll, Node.outline, place, length_of_realizes own, Tree.entriesAll_append]
        refine List.rel_append own ?_
        have unjoined (before : Option Nat) (h : before.isSome → e.branchKind? = some .opening) :
            Node.outlineAll ns before scope (next + (idsOf inner).length) =
              Node.outlineAll ns none scope (next + (idsOf inner).length) := by
          cases before with
          | none => rfl
          | some q =>
            refine Node.outlineAll_of_not_continued _ _ _ ?_
            simpa [h rfl] using alone
        rw [unjoined]
        · exact later.apart after theirs
        · intro has
          rw [Node.branchScope] at has
          split at has
          · next invites =>
            cases hk : e.branchKind? with
            | none => simp [Element.invites, hk] at invites
            | some kind =>
              cases kind <;>
                simp_all [Element.invites, Element.continues, BranchKind.continues]
          · cases has
    · intro p scope number next locals otherwise later' others rest h numbers
      rw [JoinedShape] at h
      split at h
      · next fallback =>
        obtain ⟨still, branch, after⟩ := h
        obtain ⟨mine, theirs⟩ := consecutive_append numbers
        have none : e.directives = [] := by
          obtain ⟨b, has, kind⟩ := Option.map_eq_some_iff.mp fallback
          simp [Element.directives, Element.conditions, still, has, kind]
        have own := outlines_branchShape below still branch mine
        have place : e.place scope (some p) = p := by
          simp [Element.place, Element.continues, BranchKind.continues, fallback]
        have branchless : (Node.element e children).branchScope (some p) scope next = Option.none := by
          simp [Node.branchScope, Element.invites, fallback]
        rw [Node.outlineAll, Node.outline, place, none, Outline.inside, branchless,
          length_of_realizes own]
        exact List.rel_append own (later.apart after theirs)
      · obtain ⟨alternative, c, member, rfl⟩ := h
        have all := outlines_member below (by simp [alternative]) (outlines_following later) member numbers
        simpa [Node.outlineAll, Node.outline, Node.branchScope, Element.place, Element.continues,
          BranchKind.continues, Element.invites, alternative, Tree.entriesAll] using all

end

end TemplateCompiler.Generate
