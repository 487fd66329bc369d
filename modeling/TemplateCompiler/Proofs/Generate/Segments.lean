import TemplateCompiler.Proofs.Generate.NodeShapes

/-!
Siblings fall into segments. A segment is one node, or a chain: an opening branch with the branches that
follow it, each behind blank text at most. Siblings that can be lowered have one such division, and they
are lowered segment by segment; of all siblings only the blank text inside a chain is left out.
-/

namespace TemplateCompiler.Template

namespace Node

def branchKind? : Node → Option BranchKind
  | .element e _ => e.branchKind?
  | _ => none

def continues (n : Node) : Bool := n.branchKind?.any BranchKind.continues

theorem not_isBlank_of_branchKind? {n : Node} {kind : BranchKind} (h : n.branchKind? = some kind) :
    ¬ n.isBlank := by
  cases n with
  | element e children => simp [Node.isBlank]
  | _ => cases h

theorem continues_iff {n : Node} :
    n.continues ↔ n.branchKind? = some .alternative ∨ n.branchKind? = some .fallback := by
  unfold continues
  cases n.branchKind? with
  | none => simp
  | some kind => cases kind <;> simp [BranchKind.continues]

theorem not_isBlank_of_continues {n : Node} (h : n.continues) : ¬ n.isBlank :=
  (continues_iff.mp h).elim not_isBlank_of_branchKind? not_isBlank_of_branchKind?

end Node

theorem continued_cons (n : Node) (ns : List Node) :
    continued (n :: ns) = (n.continues || n.isBlank && continued ns) := by
  cases n <;> simp [continued, Node.continues, Node.branchKind?, Element.continues, Node.isBlank]

/-- A node with the branches that join it, each with what stands before it. -/
structure Segment where
  head : Node
  rest : List (List Node × Node)

namespace Segment

def nodes (s : Segment) : List Node := s.head :: s.rest.flatMap fun p => p.1 ++ [p.2]

/-- The siblings that are lowered. -/
def members (s : Segment) : List Node := s.head :: s.rest.map Prod.snd

/-- A single node that is no further branch, or a chain: an opening branch, further branches of which only
the last may be a fallback, and blank text between them. -/
structure Formed (s : Segment) : Prop where
  head : ¬ s.head.continues
  opens : s.rest ≠ [] → s.head.branchKind? = some .opening
  branches : ∀ p ∈ s.rest, p.2.continues
  order : ∀ p ∈ s.rest.dropLast, p.2.branchKind? = some .alternative
  blank : ∀ p ∈ s.rest, ∀ n ∈ p.1, n.isBlank

end Segment

/-- A division of siblings, in order and without a gap, into single nodes and chains. No chain could be
longer: what follows a segment, blank text aside, does not continue a chain. -/
structure Segmentation (ns : List Node) (segments : List Segment) : Prop where
  nodes : segments.flatMap Segment.nodes = ns
  formed : ∀ s ∈ segments, s.Formed
  longest : ∀ before s after, segments = before ++ s :: after → ¬ continued (after.flatMap Segment.nodes)

theorem not_continued_segments {segments : List Segment} (formed : ∀ s ∈ segments, s.Formed) :
    ¬ continued (segments.flatMap Segment.nodes) := by
  induction segments with
  | nil => simp [continued]
  | cons s segments ih =>
    have here := formed s List.mem_cons_self
    have later := ih fun s hs => formed s (List.mem_cons_of_mem _ hs)
    rw [List.flatMap_cons, Segment.nodes, List.cons_append, continued_cons]
    by_cases blank : s.head.isBlank
    · have alone : s.rest = [] := by
        by_contra more
        exact Node.not_isBlank_of_branchKind? (here.opens more) blank
      simpa [alone, here.head, blank] using later
    · simp [here.head, blank]

section Unique

variable {gap gap' xs ys : List Node} {m m' : Node}

theorem gap_unique (blank : ∀ n ∈ gap, n.isBlank) (blank' : ∀ n ∈ gap', n.isBlank) (hm : ¬ m.isBlank)
    (hm' : ¬ m'.isBlank) (same : gap ++ m :: xs = gap' ++ m' :: ys) : gap = gap' ∧ m = m' ∧ xs = ys := by
  induction gap generalizing gap' with
  | nil =>
    cases gap' with
    | nil => simpa using same
    | cons n gap' =>
      obtain ⟨rfl, -⟩ := List.cons.inj same
      exact absurd (blank' m List.mem_cons_self) hm
  | cons n gap ih =>
    cases gap' with
    | nil =>
      obtain ⟨rfl, -⟩ := List.cons.inj same
      exact absurd (blank n List.mem_cons_self) hm'
    | cons n' gap' =>
      obtain ⟨rfl, later⟩ := List.cons.inj same
      obtain ⟨rfl, rest⟩ := ih (fun n hn => blank n (List.mem_cons_of_mem _ hn))
        (fun n hn => blank' n (List.mem_cons_of_mem _ hn)) later
      exact ⟨rfl, rest⟩

theorem continued_gap (blank : ∀ n ∈ gap, n.isBlank) (hm : m.continues) : continued (gap ++ m :: xs) := by
  induction gap with
  | nil => simp [continued_cons, hm]
  | cons n gap ih =>
    have later := ih fun n hn => blank n (List.mem_cons_of_mem _ hn)
    simp [continued_cons, blank n List.mem_cons_self, later]

/-- The branches that join a node are found in one way, since what follows them continues nothing. -/
theorem rest_unique {rest rest' : List (List Node × Node)}
    (branches : ∀ p ∈ rest, p.2.continues) (blank : ∀ p ∈ rest, ∀ n ∈ p.1, n.isBlank)
    (branches' : ∀ p ∈ rest', p.2.continues) (blank' : ∀ p ∈ rest', ∀ n ∈ p.1, n.isBlank)
    (ends : ¬ continued xs) (ends' : ¬ continued ys)
    (same : (rest.flatMap fun p => p.1 ++ [p.2]) ++ xs = (rest'.flatMap fun p => p.1 ++ [p.2]) ++ ys) :
    rest = rest' ∧ xs = ys := by
  induction rest generalizing rest' with
  | nil =>
    cases rest' with
    | nil => simpa using same
    | cons p rest' =>
      refine absurd ?_ ends
      rw [List.flatMap_nil, List.nil_append, List.flatMap_cons, List.append_assoc, List.append_assoc] at same
      rw [same]
      exact continued_gap (blank' p List.mem_cons_self) (branches' p List.mem_cons_self)
  | cons p rest ih =>
    cases rest' with
    | nil =>
      refine absurd ?_ ends'
      rw [List.flatMap_nil, List.nil_append, List.flatMap_cons, List.append_assoc, List.append_assoc] at same
      rw [← same]
      exact continued_gap (blank p List.mem_cons_self) (branches p List.mem_cons_self)
    | cons p' rest' =>
      simp only [List.flatMap_cons, List.append_assoc, List.singleton_append] at same
      obtain ⟨gap, member, same⟩ := gap_unique (blank p List.mem_cons_self) (blank' p' List.mem_cons_self)
        (Node.not_isBlank_of_continues (branches p List.mem_cons_self))
        (Node.not_isBlank_of_continues (branches' p' List.mem_cons_self)) same
      obtain ⟨rfl, rfl⟩ := ih (fun q hq => branches q (List.mem_cons_of_mem _ hq))
        (fun q hq => blank q (List.mem_cons_of_mem _ hq))
        (fun q hq => branches' q (List.mem_cons_of_mem _ hq))
        (fun q hq => blank' q (List.mem_cons_of_mem _ hq)) same
      exact ⟨by rw [Prod.ext gap member], rfl⟩

theorem formed_unique {segments segments' : List Segment} (formed : ∀ s ∈ segments, s.Formed)
    (formed' : ∀ s ∈ segments', s.Formed)
    (same : segments.flatMap Segment.nodes = segments'.flatMap Segment.nodes) : segments = segments' := by
  induction segments generalizing segments' with
  | nil =>
    cases segments' with
    | nil => rfl
    | cons s' segments' => simp [Segment.nodes] at same
  | cons s segments ih =>
    cases segments' with
    | nil => simp [Segment.nodes] at same
    | cons s' segments' =>
      have later := fun s hs => formed s (List.mem_cons_of_mem _ hs)
      have later' := fun s hs => formed' s (List.mem_cons_of_mem _ hs)
      have here := formed s List.mem_cons_self
      have here' := formed' s' List.mem_cons_self
      rw [List.flatMap_cons, List.flatMap_cons] at same
      obtain ⟨head, same⟩ := List.cons.inj same
      obtain ⟨rest, same⟩ := rest_unique here.branches here.blank here'.branches here'.blank
        (not_continued_segments later) (not_continued_segments later') same
      rw [ih later later' same]
      cases s
      cases s'
      cases head
      cases rest
      rfl

end Unique

end TemplateCompiler.Template

namespace TemplateCompiler.Generate

open TemplateCompiler.Code TemplateCompiler.Template Block

/-- A segment as one block, in which the blank text of a chain is gone. -/
def Segment.block (s : Segment) : Block :=
  match s.rest with
  | [] => ofNode s.head
  | _ => .chain (s.members.map ofNode)

/-- Branches that follow one another; the first may continue a chain. -/
structure Linked (s : Segment) : Prop where
  invites : s.rest ≠ [] →
    s.head.branchKind? = some .opening ∨ s.head.branchKind? = some .alternative
  branches : ∀ p ∈ s.rest, p.2.continues
  order : ∀ p ∈ s.rest.dropLast, p.2.branchKind? = some .alternative
  blank : ∀ p ∈ s.rest, ∀ n ∈ p.1, n.isBlank

/-- What arranging makes of a segment. Branches that no opening branch precedes are stray. -/
def Segment.arranged (s : Segment) : Block :=
  if s.head.continues then .stray (s.members.map ofNode) else Segment.block s

section Arranged

variable {s : Segment} {gap : List Segment} {n : Node}

theorem linked_single (n : Node) : Linked ⟨n, []⟩ :=
  ⟨fun h => absurd rfl h, nofun, nofun, nofun⟩

theorem arranged_single (plain : ¬ n.continues) : Segment.arranged ⟨n, []⟩ = ofNode n := by
  simp [Segment.arranged, Segment.block, plain]

theorem isBlank_arranged (h : (Segment.arranged s).isBlank) : s.rest = [] ∧ s.head.isBlank := by
  unfold Segment.arranged Segment.block at h
  split at h
  · cases h
  · split at h
    · exact ⟨‹_›, isBlank_ofNode s.head ▸ h⟩
    · cases h

theorem continues_of_stray {members : List Block} (h : Segment.arranged s = .stray members) :
    s.head.continues ∧ members = s.members.map ofNode := by
  unfold Segment.arranged Segment.block at h
  split at h
  · exact ⟨‹_›, (Block.stray.inj h).symm⟩
  · split at h
    · cases hn : s.head <;> rw [hn, ofNode] at h <;> cases h
    · cases h

theorem linked_join (blank : ∀ g ∈ gap, g.rest = [] ∧ g.head.isBlank) (continues : s.head.continues)
    (linked : Linked s)
    (invites : n.branchKind? = some .opening ∨ n.branchKind? = some .alternative) :
    Linked ⟨n, (gap.map Segment.head, s.head) :: s.rest⟩ where
  invites _ := invites
  branches := List.forall_mem_cons.mpr ⟨continues, linked.branches⟩
  order := by
    cases hr : s.rest with
    | nil => simp
    | cons p rest =>
      have order := linked.order
      rw [hr] at order
      have inviting := linked.invites (by simp [hr])
      have alternative : s.head.branchKind? = some .alternative :=
        inviting.resolve_left fun opens => by simp [Node.continues, opens, BranchKind.continues] at continues
      rw [List.dropLast_cons_of_ne_nil (by simp)]
      exact List.forall_mem_cons.mpr ⟨alternative, order⟩
  blank := by
    refine List.forall_mem_cons.mpr ⟨fun m hm => ?_, linked.blank⟩
    obtain ⟨g, hg, rfl⟩ := List.mem_map.mp hm
    exact (blank g hg).2

theorem nodes_join (blank : ∀ g ∈ gap, g.rest = [] ∧ g.head.isBlank) :
    Segment.nodes ⟨n, (gap.map Segment.head, s.head) :: s.rest⟩ =
      n :: (gap.flatMap Segment.nodes ++ s.nodes) := by
  have texts : gap.flatMap Segment.nodes = gap.map Segment.head := by
    rw [List.map_eq_flatMap]
    exact List.flatMap_congr fun g hg => by simp [Segment.nodes, (blank g hg).1]
  simp [Segment.nodes, texts]

end Arranged

/-- The blocks are those of segments that make up the siblings. -/
def Arranges (ns : List Node) (bs : List Block) : Prop :=
  ∃ segments : List Segment, segments.flatMap Segment.nodes = ns ∧ (∀ s ∈ segments, Linked s) ∧
    bs = segments.map Segment.arranged

theorem Arranges.single {ns : List Node} {bs : List Block} (h : Arranges ns bs) (n : Node) {b : Block}
    (is : Segment.arranged ⟨n, []⟩ = b) : Arranges (n :: ns) (b :: bs) := by
  obtain ⟨segments, rfl, linked, rfl⟩ := h
  exact ⟨⟨n, []⟩ :: segments, rfl, List.forall_mem_cons.mpr ⟨linked_single n, linked⟩, by rw [← is]; rfl⟩

theorem Arranges.join {ns : List Node} {bs members rest : List Block} (h : Arranges ns bs) {n : Node}
    (invites : n.branchKind? = some .opening ∨ n.branchKind? = some .alternative)
    (taken : takeBranches bs = some (members, rest)) {b : Block}
    (is : (if n.continues then .stray (ofNode n :: members) else .chain (ofNode n :: members)) = b) :
    Arranges (n :: ns) (b :: rest) := by
  obtain ⟨segments, rfl, linked, rfl⟩ := h
  obtain ⟨blanks, blank, parted⟩ := takeBranches_eq_some.mp taken
  obtain ⟨gap, later, rfl, rfl, ends⟩ := List.map_eq_append_iff.mp parted
  obtain ⟨s, after, rfl, stray, rfl⟩ := List.map_eq_cons_iff.mp ends
  obtain ⟨continues, rfl⟩ := continues_of_stray stray
  have texts : ∀ g ∈ gap, g.rest = [] ∧ g.head.isBlank := fun g hg =>
    isBlank_arranged (blank _ (List.mem_map_of_mem hg))
  refine ⟨⟨n, (gap.map Segment.head, s.head) :: s.rest⟩ :: after, ?_, ?_, ?_⟩
  · rw [List.flatMap_cons, nodes_join texts]
    simp
  · exact List.forall_mem_cons.mpr ⟨linked_join texts continues (linked s (by simp)) invites,
      fun s hs => linked s (by simp [hs])⟩
  · rw [← is, List.map_cons]
    rfl

theorem arranges (ns : List Node) : Arranges ns (arrange (ofNodes ns)) := by
  induction ns with
  | nil => exact ⟨[], rfl, nofun, rfl⟩
  | cons n ns ih =>
    cases n with
    | element e children =>
      have block : ofNode (.element e children) = .element e (arrange (ofNodes children)) := by rw [ofNode]
      have place := attached e (arrange (ofNodes children)) (arrange (ofNodes ns))
      rw [arrange_element]
      generalize attach _ _ = out at place ⊢
      cases place with
      | single plain =>
        refine ih.single _ ((arranged_single ?_).trans block)
        cases hk : e.branchKind? with
        | none => simp [Node.continues, Node.branchKind?, hk]
        | some kind =>
          obtain ⟨label, rfl⟩ := plain kind hk
          simp [Node.continues, Node.branchKind?, hk, BranchKind.continues]
      | alone opens =>
        refine ih.single _ ((arranged_single ?_).trans block)
        simp [Node.continues, Node.branchKind?, opens, BranchKind.continues]
      | chain hk taken =>
        exact ih.join (n := .element e children) (.inl hk) taken
          (by simp [Node.continues, Node.branchKind?, hk, BranchKind.continues, block])
      | alternative hk taken =>
        exact ih.join (n := .element e children) (.inr hk) taken
          (by simp [Node.continues, Node.branchKind?, hk, BranchKind.continues, block])
      | lastAlternative hk | fallback hk =>
        refine ih.single _ ?_
        simp [Segment.arranged, Segment.members, Node.continues, Node.branchKind?, hk, BranchKind.continues,
          block]
    | _ =>
      rw [arrange_leaf (by simp)]
      exact ih.single _ (arranged_single (by simp [Node.continues, Node.branchKind?]))

theorem not_continues_of_runs {config : Config} {locals : List String} {segments : List Segment}
    {s t : WalkState} {r : Rendered}
    (h : Runs (lowerAll config (segments.map Segment.arranged) locals) s r t) :
    ∀ x ∈ segments, ¬ x.head.continues := by
  induction segments generalizing s r with
  | nil => nofun
  | cons x segments ih =>
    rw [List.map_cons, lowerAll] at h
    obtain ⟨first, s1, here, h⟩ := runs_bind.mp h
    obtain ⟨later, s2, after, -⟩ := runs_bind.mp h
    obtain rfl : t = s2 := by
      obtain ⟨rest, s3, h3, h4⟩ := runs_bind.mp h
      obtain ⟨-, rfl⟩ := runs_pure.mp h4
      exact (Prod.mk.inj (h3.symm.trans after)).2
    refine List.forall_mem_cons.mpr ⟨fun continues => ?_, ih after⟩
    cases hx : x.head with
    | element e children =>
      rw [Segment.arranged, if_pos continues, Segment.members, hx, List.map_cons, ofNode, lower] at here
      exact not_runs_throw here
    | _ => simp [hx, Node.continues, Node.branchKind?] at continues

/-- Siblings that can be lowered are divided into single nodes and chains in one way, and what is lowered
are these segments without the blank text inside the chains. -/
theorem siblings_segmented {config : Config} {ns : List Node} {locals : List String} {s t : WalkState}
    {r : Rendered} (h : Runs (lowerAll config (arrange (ofNodes ns)) locals) s r t) :
    ∃ segments, Segmentation ns segments ∧ arrange (ofNodes ns) = segments.map Segment.block ∧
      ∀ segments', Segmentation ns segments' → segments' = segments := by
  obtain ⟨segments, rfl, linked, arranged⟩ := arranges ns
  rw [arranged] at h
  have heads := not_continues_of_runs h
  have formed : ∀ x ∈ segments, x.Formed := fun x hx =>
    { head := heads x hx
      opens := fun more => ((linked x hx).invites more).resolve_right fun alternative =>
        heads x hx (Node.continues_iff.mpr (.inl alternative))
      branches := (linked x hx).branches
      order := (linked x hx).order
      blank := (linked x hx).blank }
  refine ⟨segments, ⟨rfl, formed, ?_⟩, ?_, fun segments' other => ?_⟩
  · rintro before x after rfl
    exact not_continued_segments fun y hy => formed y (by simp [hy])
  · rw [arranged]
    exact List.map_congr_left fun x hx => if_neg (heads x hx)
  · exact formed_unique other.formed formed other.nodes

/-- A chain with blank text before it, inside it and behind it, and a condition that a comment parts from
what follows. -/
def partedSiblings : List Node :=
  let blank : Node := .text ⟨0, 0⟩ "\n  "
  let branch (test : Option Expr) (kind : BranchKind) : Node :=
    .element { Element.ofTag "p" with branch := some ⟨test, .holds, kind⟩ } []
  [blank, branch (some (.name "a")) .opening, blank, blank, branch (some (.name "b")) .alternative,
    branch none .fallback, blank, branch (some (.name "c")) .opening, blank, .comment ⟨0, 0⟩ "end"]

theorem exists_runs_of_isOk {α : Type} {m : WalkM α} {s : WalkState} (ok : (m.run.run s).1.isOk) :
    ∃ a t, Runs m s a t := by
  obtain ⟨a, ha⟩ := exists_of_isOk ok
  exact ⟨a, (m.run.run s).2, Prod.ext ha rfl⟩

theorem partedSiblings_segmented :
    ∃ r t, Runs (lowerAll .default (arrange (ofNodes partedSiblings)) []) .initial r t ∧
      ∃ segments, Segmentation partedSiblings segments ∧
        arrange (ofNodes partedSiblings) = segments.map Segment.block ∧
        ∀ segments', Segmentation partedSiblings segments' → segments' = segments := by
  obtain ⟨r, t, run⟩ := exists_runs_of_isOk
    (m := lowerAll .default (arrange (ofNodes partedSiblings)) []) (s := .initial) (by decide +kernel)
  exact ⟨r, t, run, siblings_segmented run⟩

end TemplateCompiler.Generate
