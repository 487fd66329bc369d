import TemplateCompiler.Proofs.Generate.Accepted
import TemplateCompiler.Proofs.Generate.Arranging
import TemplateCompiler.Proofs.Generate.Draft

/-!
The shape of lowered code along the nodes of a template. Siblings are arranged into chains before they are
lowered; here the shape of the code is told without that step. What follows a tested branch may continue
its chain: then the code of the next branch is what stands where the test fails, and blank text in between
is gone.
-/

namespace TemplateCompiler.Template

mutual

def Node.numbered : Node → Nat
  | .element e children => (if e.isFragment then 0 else 1) + Node.numberedAll children
  | .text .. | .dynamicText .. | .comment .. | .bare _ => 0

def Node.numberedAll : List Node → Nat
  | [] => 0
  | n :: ns => n.numbered + Node.numberedAll ns

end

/-- A fragment has no number of its own. -/
def Element.counted (e : Element) : List Element := if e.isFragment then [] else [e]

def Node.counted : Node → List Element
  | .element e _ => e.counted
  | .text .. | .dynamicText .. | .comment .. | .bare _ => []

def Node.countedAll (ns : List Node) : List Element := (Node.preorderAll ns).flatMap Node.counted

theorem Element.length_counted (e : Element) : e.counted.length = if e.isFragment then 0 else 1 := by
  unfold Element.counted
  split <;> rfl

theorem Node.countedAll_element (e : Element) (children ns : List Node) :
    Node.countedAll (.element e children :: ns) =
      e.counted ++ Node.countedAll children ++ Node.countedAll ns := by
  simp [Node.countedAll, Node.preorder, Node.counted]

theorem Node.length_countedAll : ∀ ns : List Node, (Node.countedAll ns).length = Node.numberedAll ns
  | [] => rfl
  | .text _ _ :: ns | .dynamicText _ _ :: ns | .comment _ _ :: ns | .bare _ :: ns => by
    rw [Node.numberedAll, Node.numbered, ← Node.length_countedAll ns, Nat.zero_add]
    rfl
  | .element e children :: ns => by
    rw [Node.countedAll_element, List.length_append, List.length_append, e.length_counted,
      Node.length_countedAll children, Node.length_countedAll ns, Node.numberedAll, Node.numbered]

end TemplateCompiler.Template

namespace TemplateCompiler.Generate

open TemplateCompiler.Code TemplateCompiler.Scope TemplateCompiler.Template TemplateCompiler.Text Block

/-- What follows a branch whose scope is given: the code where its test fails with the scopes in it, and
the entries of all later siblings with their scopes. -/
abbrev Following := Nat → Expr → List Tree → Rendered → List Tree → Prop

def MemberShape (L : Ledger) (config : Config) (e : Element) (children : Shape) (after : Following)
    (around number : Nat) (locals : List String) (x : Expr) (c : Tree) (rest : Rendered)
    (others : List Tree) : Prop :=
  e.loop? = none ∧ ∃ body otherwise inner later,
    BranchShape L config e children c.region.id number locals body inner ∧
    after c.region.id otherwise later rest others ∧
    Tested around locals e body otherwise (inner ++ later) x c

mutual

def NodeShape (L : Ledger) (config : Config) : Node → Shape
  | .text _ value, _, _, _, r, cs =>
    ∃ x, Emitted L (Emit.text value) x ∧ r = ⟨[x], false⟩ ∧ cs = []
  | .dynamicText _ value, scope, _, locals, r, cs =>
    ∃ y x, Bound scope locals value y ∧ Emitted L (Emit.dynamicText y) x ∧ r = ⟨[x], false⟩ ∧ cs = []
  | .comment _ value, _, _, _, r, cs =>
    ∃ x, Emitted L (Emit.comment value) x ∧ r = ⟨[x], false⟩ ∧ cs = []
  | .bare _, _, _, _, _, _ => False
  | .element e children, scope, number, locals, r, cs =>
    e.continues = false ∧ ElementShape L config e (NodesShape L config children) scope number locals r cs

def NodesShape (L : Ledger) (config : Config) : List Node → Shape
  | [], _, _, _, r, cs => r = .empty ∧ cs = []
  | .element e children :: ns, scope, number, locals, r, cs =>
    if e.branchKind? = some .opening ∧ continued ns then
      ∃ x c rest others,
        MemberShape L config e (NodesShape L config children)
          (fun p => JoinedShape L config ns p scope (number + Node.numbered (.element e children)) locals)
          scope number locals x c rest others ∧
        r = .append ⟨[.starred x], false⟩ rest ∧ cs = c :: others
    else ∃ first rest inner later,
      NodeShape L config (.element e children) scope number locals first inner ∧
      NodesShape L config ns scope (number + Node.numbered (.element e children)) locals rest later ∧
      r = first.append rest ∧ cs = inner ++ later
  | n :: ns, scope, number, locals, r, cs => ∃ first rest inner later,
      NodeShape L config n scope number locals first inner ∧
      NodesShape L config ns scope (number + n.numbered) locals rest later ∧
      r = first.append rest ∧ cs = inner ++ later

def JoinedShape (L : Ledger) (config : Config) : List Node → Nat → Nat → Nat → List String → Expr →
    List Tree → Rendered → List Tree → Prop
  | [], _, _, _, _, _, _, _, _ => False
  | .element e children :: ns, p, scope, number, locals, otherwise, later, rest, others =>
    let number' := number + Node.numbered (.element e children)
    if e.branchKind? = some .fallback then
      e.loop? = none ∧
        BranchShape L config e (NodesShape L config children) p number locals otherwise later ∧
        NodesShape L config ns scope number' locals rest others
    else e.branchKind? = some .alternative ∧ ∃ c,
      MemberShape L config e (NodesShape L config children)
        (fun p otherwise later rest others =>
          if continued ns then
            JoinedShape L config ns p scope number' locals otherwise later rest others
          else otherwise = .list [] ∧ later = [] ∧ NodesShape L config ns scope number' locals rest others)
        p number locals otherwise c rest others ∧
      later = [c]
  | n :: ns, p, scope, number, locals, otherwise, later, rest, others =>
    n.isBlank ∧ JoinedShape L config ns p scope number locals otherwise later rest others

end

section

variable {L : Ledger} {config : Config} {n : Node} {ns : List Node} {p scope number : Nat}
  {locals : List String} {otherwise : Expr} {r : Rendered} {cs later : List Tree}

theorem NodesShape.leaf (leaf : ∀ e children, n ≠ .element e children)
    (h : NodesShape L config (n :: ns) scope number locals r cs) :
    ∃ first rest, NodeShape L config n scope number locals first [] ∧
      NodesShape L config ns scope number locals rest cs ∧ r = first.append rest := by
  have inside {first : Rendered} {inner : List Tree}
      (h : NodeShape L config n scope number locals first inner) : inner = [] := by
    cases n with
    | element e children => exact absurd rfl (leaf e children)
    | bare position => cases h
    | dynamicText position value =>
      obtain ⟨y, x, -, -, -, rfl⟩ := h
      rfl
    | _ =>
      obtain ⟨x, -, -, rfl⟩ := h
      rfl
  have unnumbered : n.numbered = 0 := by
    cases n with
    | element e children => exact absurd rfl (leaf e children)
    | _ => rfl
  rw [NodesShape, unnumbered] at h
  · obtain ⟨first, rest, inner, others, here, after, rfl, rfl⟩ := h
    obtain rfl := inside here
    exact ⟨first, rest, here, after, rfl⟩
  · exact leaf

theorem JoinedShape.leaf (leaf : ∀ e children, n ≠ .element e children)
    (h : JoinedShape L config (n :: ns) p scope number locals otherwise later r cs) :
    n.isBlank ∧ JoinedShape L config ns p scope number locals otherwise later r cs := by
  rw [JoinedShape] at h
  · exact h
  · exact leaf

end

theorem arrange_element (e : Element) (children ns : List Node) :
    arrange (ofNodes (.element e children :: ns)) =
      attach (.element e (arrange (ofNodes children))) (arrange (ofNodes ns)) := by
  simp [arrange_cons, ofNode]

theorem arrange_leaf {n : Node} (leaf : ∀ e children, n ≠ .element e children) (ns : List Node) :
    arrange (ofNodes (n :: ns)) = ofNode n :: arrange (ofNodes ns) := by
  cases n with
  | element e children => exact absurd rfl (leaf e children)
  | _ => simp [arrange_cons, attach, ofNode, Block.branchKind?]

theorem isBlank_ofNode (n : Node) : (ofNode n).isBlank = n.isBlank := by
  cases n <;> simp [ofNode, Block.isBlank, Node.isBlank]

theorem isSome_takeBranches : ∀ ns : List Node,
    (takeBranches (arrange (ofNodes ns))).isSome = continued ns
  | [] => rfl
  | .text position value :: ns => by
    rw [arrange_leaf (by simp), ofNode, takeBranches, continued, ← isSome_takeBranches ns]
    · simp only [Block.isBlank, Node.isBlank]
      by_cases blank : isBlankText value <;> simp [blank]
    · simp
    · simp
  | .dynamicText _ _ :: _ | .comment _ _ :: _ | .bare _ :: _ => rfl
  | .element e children :: ns => by
    have place := attached e (arrange (ofNodes children)) (arrange (ofNodes ns))
    rw [arrange_element, continued]
    generalize attach _ _ = out at place ⊢
    cases place with
    | single plain =>
      cases hk : e.branchKind? with
      | none => simp [Element.continues, hk, takeBranches, Block.isBlank]
      | some kind =>
        obtain ⟨label, rfl⟩ := plain kind hk
        simp [Element.continues, BranchKind.continues, hk, takeBranches, Block.isBlank]
    | alone hk _ | chain hk _ | alternative hk _ | lastAlternative hk _ | fallback hk =>
      simp [Element.continues, BranchKind.continues, hk, takeBranches, Block.isBlank]

mutual

def Block.counted : Block → List Element
  | .text _ | .dynamicText _ | .comment _ | .bare _ => []
  | .element e children => e.counted ++ Block.countedAll children
  | .chain members | .stray members => Block.countedChain members

def Block.countedAll : List Block → List Element
  | [] => []
  | b :: bs => b.counted ++ Block.countedAll bs

def Block.countedChain : List Block → List Element
  | .element e children :: rest =>
    e.counted ++ Block.countedAll children ++
      (if e.branchKind? = some .fallback then [] else Block.countedChain rest)
  | _ => []

end

mutual

theorem Block.length_counted : ∀ b : Block, b.counted.length = b.numbered
  | .text _ | .dynamicText _ | .comment _ | .bare _ => rfl
  | .element e children => by
    rw [Block.counted, Block.numbered, List.length_append, e.length_counted,
      Block.length_countedAll children]
  | .chain members | .stray members => by
    rw [Block.counted, Block.numbered, Block.length_countedChain members]

theorem Block.length_countedAll : ∀ bs : List Block, (Block.countedAll bs).length = Block.numberedAll bs
  | [] => rfl
  | b :: bs => by
    rw [Block.countedAll, Block.numberedAll, List.length_append, Block.length_counted b,
      Block.length_countedAll bs]

theorem Block.length_countedChain : ∀ members : List Block,
    (Block.countedChain members).length = Block.numberedChain members
  | .element e children :: rest => by
    rw [Block.countedChain, Block.numberedChain, List.length_append, List.length_append,
      e.length_counted, Block.length_countedAll children, apply_ite List.length,
      Block.length_countedChain rest]
    rfl
  | [] | .text _ :: _ | .dynamicText _ :: _ | .comment _ :: _ | .bare _ :: _ | .chain _ :: _
  | .stray _ :: _ => rfl

end

theorem countedAll_takeBranches {bs members rest : List Block}
    (taken : takeBranches bs = some (members, rest)) :
    Block.countedAll bs = Block.countedChain members ++ Block.countedAll rest := by
  obtain ⟨blanks, all, rfl⟩ := takeBranches_eq_some.mp taken
  clear taken
  induction blanks with
  | nil => simp [Block.countedAll, Block.counted]
  | cons b blanks ih =>
    have blank := all b List.mem_cons_self
    have later := ih fun c hc => all c (List.mem_cons_of_mem b hc)
    cases b with
    | text value => simpa [Block.countedAll, Block.counted] using later
    | _ => cases blank

theorem countedAll_attached {e : Element} {children bs out : List Block}
    (h : Attached e children bs out) :
    Block.countedAll out = e.counted ++ Block.countedAll children ++ Block.countedAll bs := by
  cases h with
  | single plain => simp [Block.countedAll, Block.counted]
  | alone opens none => simp [Block.countedAll, Block.counted]
  | chain hk taken | alternative hk taken =>
    simp [Block.countedAll, Block.counted, Block.countedChain, hk, countedAll_takeBranches taken]
  | lastAlternative hk none => simp [Block.countedAll, Block.counted, Block.countedChain]
  | fallback hk => simp [Block.countedAll, Block.counted, Block.countedChain]

theorem countedAll_arrange : ∀ ns : List Node,
    Block.countedAll (arrange (ofNodes ns)) = Node.countedAll ns
  | [] => rfl
  | .text _ _ :: ns | .dynamicText _ _ :: ns | .comment _ _ :: ns | .bare _ :: ns => by
    rw [arrange_leaf (by simp), Block.countedAll, countedAll_arrange ns]
    rfl
  | .element e children :: ns => by
    rw [arrange_element, countedAll_attached (attached e _ _), countedAll_arrange children,
      countedAll_arrange ns, Node.countedAll_element]

theorem numberedAll_arrange (ns : List Node) :
    Block.numberedAll (arrange (ofNodes ns)) = Node.numberedAll ns := by
  rw [← Block.length_countedAll, countedAll_arrange, Node.length_countedAll]

section

variable {L : Ledger} {config : Config}

theorem still_of_chain {e : Element} {children ns : List Node}
    (h : Accepted (.element e children :: ns)) {kind : BranchKind} (hk : e.branchKind? = some kind)
    (joined : kind = .opening → continued ns) : e.loop? = none := by
  by_cases opens : kind = .opening
  · obtain ⟨x, taken⟩ := Option.isSome_iff_exists.mp ((isSome_takeBranches ns).trans (joined opens))
    obtain ⟨f, fs, hs, continues⟩ := head_of_takeBranches taken
    have heads := h.heads
    rw [siblingElements, hs] at heads
    have still := (iteratingHead?_cons heads).2 continues (opens ▸ hk)
    rw [iterates_eq] at still
    simpa using still
  · exact h.element.1.not_iterates hk opens

/-- The blocks that siblings are arranged into have the shape of the siblings. -/
structure ShapedAsArranged (L : Ledger) (config : Config) (ns : List Node) : Prop where
  apart : Shape.Within (BlocksShape L config (arrange (ofNodes ns))) (NodesShape L config ns)
  joined : ∀ {members rest : List Block}, takeBranches (arrange (ofNodes ns)) = some (members, rest) →
    ∀ {p scope number : Nat} {locals : List String} {otherwise : Expr} {later others : List Tree}
      {r : Rendered}, ChainShape L config members p number locals otherwise later →
      BlocksShape L config rest scope (number + Block.numberedChain members) locals r others →
      JoinedShape L config ns p scope number locals otherwise later r others

theorem shapedAsArranged_leaf {n : Node} {ns : List Node} (leaf : ∀ e children, n ≠ .element e children)
    (later : ShapedAsArranged L config ns) : ShapedAsArranged L config (n :: ns) where
  apart := by
    intro scope number locals r cs h
    rw [arrange_leaf leaf] at h
    obtain ⟨first, rest, inner, others, here, after, rfl, rfl⟩ := h
    cases n with
    | element e children => exact absurd rfl (leaf e children)
    | bare position => exact absurd here (by simp [ofNode, BlockShape])
    | _ => exact ⟨first, rest, inner, others, by simpa [ofNode, BlockShape, NodeShape] using here,
        later.apart _ _ _ _ _ after, rfl, rfl⟩
  joined := by
    intro members rest taken p scope number locals otherwise inner others r chain after
    rw [arrange_leaf leaf] at taken
    cases n with
    | text position value =>
      rw [ofNode, takeBranches] at taken
      · split at taken
        · next blank => exact ⟨blank, later.joined taken chain after⟩
        · cases taken
      · simp
    | element e children => exact absurd rfl (leaf e children)
    | _ => cases taken

theorem memberShape_of_chain {e : Element} {children members : List Block} {shape : Shape}
    {after : Following} {p number : Nat} {locals : List String} {x : Expr} {cs others : List Tree}
    {rest : Rendered} (within : Shape.Within (BlocksShape L config children) shape)
    (other : e.branchKind? ≠ some .fallback) (still : e.loop? = none)
    (next : ∀ q otherwise later,
      ChainShape L config members q (number + Block.numbered (.element e children)) locals otherwise later →
        after q otherwise later rest others)
    (h : ChainShape L config (.element e children :: members) p number locals x cs) :
    ∃ c, MemberShape L config e shape after p number locals x c rest others ∧ cs = [c] := by
  rw [ChainShape, if_neg other] at h
  obtain ⟨body, otherwise, inner, later, c, branch, chain, tested, rfl⟩ := h
  exact ⟨c, ⟨still, body, otherwise, inner, later, branch.mono within, next _ _ _ chain, tested⟩, rfl⟩

theorem shapedAsArranged (L : Ledger) (config : Config) : ∀ {ns : List Node}, Accepted ns → ShapedAsArranged L config ns
  | [], _ => ⟨fun _ _ _ _ _ h => h, fun taken => by cases taken⟩
  | .text _ _ :: _, h | .dynamicText _ _ :: _, h | .comment _ _ :: _, h | .bare _ :: _, h =>
    shapedAsArranged_leaf (by simp) (shapedAsArranged L config h.cons)
  | .element e children :: ns, h => by
    have below := (shapedAsArranged L config h.element.2).apart
    have later := shapedAsArranged L config h.cons
    have count : Block.numbered (.element e (arrange (ofNodes children))) =
        Node.numbered (.element e children) := by
      rw [Block.numbered, numberedAll_arrange, Node.numbered]
    have chained {number : Nat} {members : List Block} {kind : BranchKind}
        (hk : e.branchKind? = some kind) (other : kind ≠ .fallback) :
        number + Block.numberedChain (.element e (arrange (ofNodes children)) :: members) =
          number + Node.numbered (.element e children) + Block.numberedChain members := by
      have tested : ¬ e.branchKind? = some .fallback := by simpa [hk] using other
      rw [Block.numberedChain, if_neg tested, ← count, Block.numbered]
      omega
    have waits := isSome_takeBranches ns
    have place := attached e (arrange (ofNodes children)) (arrange (ofNodes ns))
    rw [← arrange_element] at place
    generalize hout : arrange (ofNodes (.element e children :: ns)) = out at place
    -- the code of the element where it stays outside chains
    have single (continues : e.continues = false)
        (alone : ¬ (e.branchKind? = some .opening ∧ continued ns))
        (is : out = .element e (arrange (ofNodes children)) :: arrange (ofNodes ns)) :
        ShapedAsArranged L config (.element e children :: ns) := by
      refine ⟨?_, fun taken => by rw [hout, is] at taken; cases taken⟩
      rw [hout, is]
      rintro scope number locals r cs ⟨first, rest, inner, others, here, after, rfl, rfl⟩
      rw [NodesShape, if_neg alone]
      rw [BlockShape] at here
      rw [count] at after
      exact ⟨first, rest, inner, others,
        ⟨continues, within_loopShape (within_contentShape (within_coreShape below)) _ _ _ _ _ here⟩,
        later.apart _ _ _ _ _ after, rfl, rfl⟩
    -- a branch that waits for the chain before it
    have stray {members rest : List Block}
        (is : out = .stray (.element e (arrange (ofNodes children)) :: members) :: rest)
        (joined : ∀ {p scope number : Nat} {locals : List String} {otherwise : Expr}
          {later others : List Tree} {r : Rendered},
          ChainShape L config (.element e (arrange (ofNodes children)) :: members) p number locals otherwise
            later → BlocksShape L config rest scope (number + Block.numberedChain
              (.element e (arrange (ofNodes children)) :: members)) locals r others →
          JoinedShape L config (.element e children :: ns) p scope number locals otherwise later r others) :
        ShapedAsArranged L config (.element e children :: ns) := by
      refine ⟨fun scope number locals r cs shape => ?_, fun taken => ?_⟩
      · rw [hout, is] at shape
        obtain ⟨_, _, _, _, none, -⟩ := shape
        cases none
      · rw [hout, is, takeBranches] at taken
        obtain ⟨rfl, rfl⟩ := Prod.mk.inj (Option.some.inj taken)
        exact joined
    cases place with
    | single plain =>
      refine single ?_ (fun opens => ?_) rfl
      · cases hk : e.branchKind? with
        | none => simp [Element.continues, hk]
        | some kind =>
          obtain ⟨label, rfl⟩ := plain kind hk
          simp [Element.continues, BranchKind.continues, hk]
      · obtain ⟨label, same⟩ := plain _ opens.1
        cases same
    | alone opens none =>
      refine single (by simp [Element.continues, BranchKind.continues, opens]) (fun both => ?_) rfl
      rw [none, both.2] at waits
      cases waits
    | @chain members rest opens taken =>
      have waits : continued ns := by rw [← waits, taken]; rfl
      refine ⟨fun scope number locals r cs shape => ?_, fun taken => by rw [hout] at taken; cases taken⟩
      rw [hout] at shape
      obtain ⟨first, others, inner, trees, ⟨x, chain, rfl⟩, after, rfl, rfl⟩ := shape
      rw [NodesShape, if_pos ⟨opens, waits⟩]
      rw [Block.numbered, chained opens (by simp)] at after
      obtain ⟨c, member, rfl⟩ := memberShape_of_chain below (by simp [opens])
        (still_of_chain h opens fun _ => waits)
        (fun q otherwise l next => later.joined taken (count ▸ next) after) chain
      exact ⟨x, c, others, trees, member, rfl, rfl⟩
    | @alternative members rest continues taken =>
      have waits : continued ns := by rw [← waits, taken]; rfl
      refine stray rfl fun chain after => ?_
      rw [chained continues (by simp)] at after
      rw [JoinedShape, if_neg (by simp [continues])]
      refine ⟨continues, memberShape_of_chain below (by simp [continues])
        (still_of_chain h continues (by simp)) (fun q otherwise l next => ?_) chain⟩
      rw [if_pos waits]
      exact later.joined taken (count ▸ next) after
    | lastAlternative continues none =>
      have waits : ¬ continued ns := by rw [← waits, none]; simp
      refine stray rfl fun chain after => ?_
      rw [chained continues (by simp)] at after
      rw [JoinedShape, if_neg (by simp [continues])]
      refine ⟨continues, memberShape_of_chain below (by simp [continues])
        (still_of_chain h continues (by simp)) (fun q otherwise l next => ?_) chain⟩
      rw [if_neg waits]
      exact ⟨next.1, next.2, later.apart _ _ _ _ _ after⟩
    | fallback ends =>
      refine stray rfl fun chain after => ?_
      rw [ChainShape, if_pos ends] at chain
      rw [Block.numberedChain, if_pos ends, Nat.add_zero] at after
      rw [Block.numbered] at count
      rw [count] at after
      rw [JoinedShape, if_pos ends]
      exact ⟨still_of_chain h ends (by simp), chain.mono below, later.apart _ _ _ _ _ after⟩

end

/-- A draft with a given shape; its scopes are numbered in the order in which they were entered. -/
inductive Draft.Shaped (shape : Ledger → Shape) (d : Draft) : Prop
  | mk {L : Ledger} {root : Region} {r : Rendered} {cs : List Tree} (knows : L.emitter = d.emitter)
      (memo : ∀ k, (L.memo k).isSome ↔ k < d.emitter.memoCount) (tree : d.tree = .node root cs)
      (number : root.id = 0) (numbers : idsOf cs = List.range' 1 (idsOf cs).length)
      (shaped : shape L 0 0 [] r cs) (packed : Packed L r d.root)

theorem Draft.Shaped.mono {shape other : Ledger → Shape} {d : Draft} (h : d.Shaped shape)
    (within : ∀ L, (shape L).Within (other L)) : d.Shaped other := by
  obtain ⟨knows, memo, tree, number, numbers, shaped, packed⟩ := h
  exact ⟨knows, memo, tree, number, numbers, within _ _ _ _ _ _ shaped, packed⟩

theorem shaped_of_draft {config : Config} {root : Node} {d : Draft} (h : draft? config root = some d) :
    d.Shaped fun L => BlocksShape L config (Block.arrange (Block.ofNodes root.content)) := by
  cases root with
  | element e children =>
    obtain ⟨t, r, cs, walked, emitter, tree⟩ := walked_of_draft (blocksUse_any _ _) h
    have walks := walked.walks
    obtain ⟨new, count, holds⟩ := walked.leaves rfl
    obtain ⟨shape, packed⟩ := holds ⟨d.emitter, fun k => new[k]?⟩ (emitter ▸ .refl _) fun i y hy => by
      rw [← hy]
      exact congrArg (new[·]?) (Nat.zero_add i)
    have count : t.emitter.memoCount = new.length := count.trans (Nat.zero_add _)
    refine .mk rfl (fun k => ?_) tree ?_ ?_ shape packed
    · rw [emitter, count]
      simp
    · rw [walks.region]
      rfl
    · rw [walks.numbers, List.length_range']
      rfl
  | _ => cases h

theorem shaped_of_accepted {config : Config} {root : Node} {d : Draft} (accepted : Accepted root.content)
    (h : draft? config root = some d) : d.Shaped fun L => NodesShape L config root.content :=
  (shaped_of_draft h).mono fun L => (shapedAsArranged L config accepted).apart

end TemplateCompiler.Generate
