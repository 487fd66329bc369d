import TemplateCompiler.Proofs.Generate.NodeShapes

/-!
Tallies of lowered code. What is found in the code of a template is told together with the scopes that are
closed in it, the elements that it is for and what they request. Where every step of the lowering keeps such an account, the
code of a whole template does.
-/

namespace TemplateCompiler.Generate

open TemplateCompiler.Code TemplateCompiler.Scope TemplateCompiler.Template

/-- An account of what is found in code, with the elements that the code is for, their requests, the number
of the first of them and the scopes that are closed in the code, that every step of the lowering keeps. -/
structure Tally (L : Ledger) (config : Config) {β : Type} (f : Expr → List β)
    (P : List Element → List Request → Nat → List β → List Tree → Prop) : Prop where
  gathers : Gathers f
  silent : ∀ {x}, x.occurrences = [] → f x = []
  bound : ∀ {scope locals e x}, Bound scope locals e x → f x = []
  leaf : ∀ {p args x}, p ∈ [Primitive.text, .dynamicText, .comment] → Emitted L (Emit.call p args) x →
    f x = args.flatMap f
  empty : ∀ {number}, P [] [] number [] []
  append : ∀ {number es fs rs qs xs ys cs ds}, P es rs number xs cs →
    P fs qs (number + es.length) ys ds → P (es ++ fs) (rs ++ qs) number (xs ++ ys) (cs ++ ds)
  made : ∀ {scope number locals e data children x es rs cs}, DataShape L config e scope locals number data →
    ElementCall L scope locals e data children x → P es rs (number + 1) (f children) cs →
    P (e :: es) (e.dataRequests locals ++ rs ++ e.callRequests) number (f x) cs
  tested : ∀ {scope number locals e body otherwise x c es rs cs},
    Tested scope locals e body otherwise cs x c → P es rs number (f body ++ f otherwise) cs →
    P es rs number (f x) [c]
  iterated : ∀ {scope number locals e body x c es rs cs}, Iterated L scope locals e body cs x c →
    P es rs number (f body) cs → P es rs number (f x) [c]

namespace Tally

section Elements

variable {L : Ledger} {config : Config} {β : Type} {f : Expr → List β}
  {P : List Element → List Request → Nat → List β → List Tree → Prop} {e : Element} {shape : Shape} {es : List Element}
  {rs : List String → List Request}

/-- The account holds of code of a shape, with the requests inside loops that give local names. -/
def Of (f : Expr → List β) (P : List Element → List Request → Nat → List β → List Tree → Prop)
    (shape : Shape) (es : List Element) (rs : List String → List Request) : Prop :=
  ∀ ⦃scope number : Nat⦄ ⦃locals : List String⦄ ⦃r : Rendered⦄ ⦃cs : List Tree⦄,
    shape scope number locals r cs → P es (rs locals) number (r.entries.flatMap f) cs

variable (tally : Tally L config f P) (below : Of f P shape es rs)
include tally below

theorem core : Of f P (CoreShape L config e shape) (e.counted ++ es)
    fun locals => e.requests locals (rs locals) := by
  intro scope number locals r cs h
  unfold CoreShape at h
  beta_reduce
  rw [Element.counted, Element.requests]
  split at h
  · next fragment =>
    rw [if_pos fragment, if_pos fragment]
    exact below h
  · next fragment =>
    obtain ⟨x, ⟨data, r, packed, hdata, inner, hpacked, call⟩, rfl⟩ := h
    rw [if_neg fragment, if_neg fragment, List.flatMap_singleton]
    refine tally.made hdata call ?_
    rw [tally.gathers.packed hpacked]
    exact below inner

theorem content : Of f P (ContentShape e shape) es rs := by
  intro scope number locals r cs h
  unfold ContentShape at h
  split at h
  · obtain ⟨content, inner, body, otherwise, entry, x, c, held, chosen, tested, rfl, rfl⟩ := h
    obtain ⟨whole, same⟩ := tally.gathers.chosen (x := x) chosen
    rw [List.flatMap_singleton, same]
    refine tally.tested tested ?_
    rw [tally.silent chosen.silent, List.append_nil, whole]
    exact below held
  · exact below h

theorem loop : Of f P (LoopShape L e shape) es fun locals => rs (e.inner locals) := by
  intro scope number locals r cs h
  unfold LoopShape at h
  split at h
  · next still =>
    simp only [Element.inner, still, Option.elim, List.append_nil]
    exact below h
  · next l has =>
    obtain ⟨content, inner, body, x, c, held, hbody, iterated, rfl, rfl⟩ := h
    simp only [List.flatMap_singleton, Element.inner, has, Option.elim]
    refine tally.iterated iterated ?_
    rw [tally.gathers.fragmentBody hbody]
    exact below held

theorem branch {scope number : Nat} {locals : List String} {x : Expr} {cs : List Tree}
    (h : BranchShape L config e shape scope number locals x cs) : P (e.counted ++ es)
      (if e.isFragment then rs locals else e.requests (e.inner locals) (rs (e.inner locals))) number (f x)
      cs := by
  obtain ⟨r, made, packed⟩ := h
  rw [tally.gathers.packed packed]
  unfold MemberContent at made
  split at made
  · next fragment =>
    rw [Element.counted, if_pos fragment, if_pos fragment]
    exact below made
  · next fragment =>
    rw [if_neg fragment]
    exact tally.loop (tally.core below) made

end Elements

section Blocks

variable {L : Ledger} {config : Config} {β : Type} {f : Expr → List β}
  {P : List Element → List Request → Nat → List β → List Tree → Prop} (tally : Tally L config f P)
include tally

theorem leaf_empty {p : Primitive} {y x : Expr} {number : Nat} (silent : f y = [])
    (is : p ∈ [Primitive.text, .dynamicText, .comment]) (emitted : Emitted L (Emit.call p [y]) x) :
    P [] [] number ([x].flatMap f) [] := by
  rw [List.flatMap_singleton, tally.leaf is emitted, List.flatMap_singleton, silent]
  exact tally.empty

mutual

theorem block : ∀ b : Block, Of f P (BlockShape L config b) b.counted fun locals => b.requests locals
  | .text value | .comment value => by
    rintro scope number locals r cs ⟨x, emitted, rfl, rfl⟩
    simp only [Block.requests]
    exact tally.leaf_empty (tally.silent rfl) (by decide) emitted
  | .dynamicText value => by
    rintro scope number locals r cs ⟨y, x, bound, emitted, rfl, rfl⟩
    simp only [Block.requests]
    exact tally.leaf_empty (tally.bound bound) (by decide) emitted
  | .bare position => nofun
  | .element e children => by
    intro scope number locals r cs h
    have below : Of f P (BlocksShape L config children) (Block.countedAll children)
      fun locals => Block.requestsAll locals children := blocks children
    rw [BlockShape] at h
    simp only [Block.counted, Block.requests]
    exact tally.loop (tally.content (tally.core below)) h
  | .chain members => by
    rintro scope number locals r cs ⟨x, h, rfl⟩
    simp only [List.flatMap_singleton, tally.gathers.starred, Block.counted, Block.requests]
    exact chain members h
  | .stray (.element _ _ :: _) => nofun
  | .stray [] | .stray (.text _ :: _) | .stray (.dynamicText _ :: _) | .stray (.comment _ :: _)
  | .stray (.bare _ :: _) | .stray (.chain _ :: _) | .stray (.stray _ :: _) => by
    rintro scope number locals r cs ⟨rfl, rfl⟩
    simp only [Block.requests, Block.requestsChain]
    exact tally.empty

theorem blocks : ∀ bs : List Block,
    Of f P (BlocksShape L config bs) (Block.countedAll bs) fun locals => Block.requestsAll locals bs
  | [] => by
    rintro scope number locals r cs ⟨rfl, rfl⟩
    simp only [Block.requestsAll]
    exact tally.empty
  | b :: bs => by
    rintro scope number locals r cs ⟨first, rest, inner, later, here, after, rfl, rfl⟩
    rw [← Block.length_counted] at after
    simp only [Rendered.append, List.flatMap_append, Block.countedAll, Block.requestsAll]
    exact tally.append (block b here) (blocks bs after)

theorem chain : ∀ members : List Block, ∀ {scope number : Nat} {locals : List String} {x : Expr}
    {cs : List Tree}, ChainShape L config members scope number locals x cs →
    P (Block.countedChain members) (Block.requestsChain locals members) number (f x) cs
  | .element e children :: rest => by
    intro h
    have below : Of f P (BlocksShape L config children) (Block.countedAll children)
      fun locals => Block.requestsAll locals children := blocks children
    rw [ChainShape] at h
    rw [Block.countedChain, Block.requestsChain]
    split at h
    · next last =>
      rw [if_pos last, if_pos last, List.append_nil, List.append_nil]
      exact tally.branch below h
    · next last =>
      obtain ⟨body, otherwise, inner, later, c, branch, after, tested, rfl⟩ := h
      rw [← Block.length_counted, Block.counted] at after
      rw [if_neg last, if_neg last]
      exact tally.tested tested (tally.append (tally.branch below branch) (chain rest after))
  | [] | .text _ :: _ | .dynamicText _ :: _ | .comment _ :: _ | .bare _ :: _ | .chain _ :: _
  | .stray _ :: _ => by
    rintro ⟨rfl, rfl⟩
    simp only [tally.gathers.list, Block.requestsChain]
    exact tally.empty

end

end Blocks

end Tally

end TemplateCompiler.Generate
