import TemplateCompiler.Proofs.Generate.Accepted
import TemplateCompiler.Proofs.Generate.Arranging
import TemplateCompiler.Proofs.Generate.Completion

/-!
When code for an accepted template can be generated. A node offends if it is bare, if it continues a chain
that no element before it belongs to, or if it is an element with a missing attribute expression.
Generation fails exactly if some node offends, with the failure of the first such node in document order.
-/

namespace TemplateCompiler.Template

open TemplateCompiler.Generate TemplateCompiler.Text

mutual

/-- A node and all nodes below it in document order, each with the siblings before it, the nearest
first. -/
def Node.places (before : List Node) : Node → List (List Node × Node)
  | .element e children => (before, .element e children) :: Node.placesAll [] children
  | .text position value => [(before, .text position value)]
  | .dynamicText position value => [(before, .dynamicText position value)]
  | .comment position value => [(before, .comment position value)]
  | .bare position => [(before, .bare position)]

def Node.placesAll (before : List Node) : List Node → List (List Node × Node)
  | [] => []
  | n :: ns => n.places before ++ Node.placesAll (n :: before) ns

end

/-- The nearest sibling before, blank text aside, is an element that another branch may follow. -/
def followsBranch (before : List Node) : Bool :=
  match before.find? fun n => !n.isBlank with
  | some (.element e _) => e.invites
  | _ => false

/-- The failure of a node by itself, given the siblings before it. -/
def offence? (config : Config) : List Node × Node → Option Failure
  | (_, .bare position) => some (.compile ⟨.unsupportedNode, config.name, position⟩)
  | (before, .element e _) =>
    if e.continues && !followsBranch before then some (strayFault config e) else elementFault? e
  | _ => none

def firstOffence? (config : Config) (ns : List Node) : Option Failure :=
  (Node.placesAll [] ns).findSome? (offence? config)

structure Generable (ns : List Node) : Prop where
  supported : ∀ before position, (before, .bare position) ∉ Node.placesAll [] ns
  joined : ∀ before e children, (before, .element e children) ∈ Node.placesAll [] ns →
    e.continues → followsBranch before
  valued : ∀ before e children, (before, .element e children) ∈ Node.placesAll [] ns →
    e.isFragment = false → ∀ a ∈ e.attrs.values ++ e.props.values, a.value ≠ .expression none

theorem attributeFault?_eq_none {a : Attribute} :
    attributeFault? a = none ↔ a.value ≠ .expression none := by
  unfold attributeFault?
  split
  · next h => simp [h]
  · next h => simpa using h

theorem elementFault?_eq_none {e : Element} : elementFault? e = none ↔
    (e.isFragment = false → ∀ a ∈ e.attrs.values ++ e.props.values, a.value ≠ .expression none) := by
  unfold elementFault? dataFault?
  cases e.isFragment
  · simp only [Bool.false_eq_true, if_false, List.findSome?_eq_none_iff, attributeFault?_eq_none,
      true_implies]
  · simp

theorem offence?_element_eq_none {config : Config} {before : List Node} {e : Element}
    {children : List Node} : offence? config (before, .element e children) = none ↔
      (e.continues → followsBranch before) ∧ elementFault? e = none := by
  rw [offence?]
  cases he : e.continues <;> cases hb : followsBranch before <;> simp

theorem firstOffence?_eq_none {config : Config} {ns : List Node} :
    firstOffence? config ns = none ↔ Generable ns := by
  rw [firstOffence?, List.findSome?_eq_none_iff]
  constructor
  · intro h
    have elements {before e children} (hm : (before, Node.element e children) ∈ Node.placesAll [] ns) :=
      offence?_element_eq_none.mp (h _ hm)
    refine ⟨fun before position hm => ?_, fun before e children hm => (elements hm).1,
      fun before e children hm => elementFault?_eq_none.mp (elements hm).2⟩
    cases h _ hm
  · rintro ⟨supported, joined, valued⟩ ⟨before, n⟩ hm
    cases n with
    | bare position => exact absurd hm (supported before position)
    | element e children =>
      exact offence?_element_eq_none.mpr
        ⟨joined before e children hm, elementFault?_eq_none.mpr (valued before e children hm)⟩
    | _ => rfl

end TemplateCompiler.Template

namespace TemplateCompiler.Generate

open TemplateCompiler.Code TemplateCompiler.Scope TemplateCompiler.Template Block

/-- The first fault of arranged siblings behind an element that another branch may follow. -/
def joinedFault? (config : Config) (bs : List Block) : Option Failure :=
  match takeBranches bs with
  | some (members, rest) => (membersFault? config members).or (blocksFault? config rest)
  | none => blocksFault? config bs

section

variable {config : Config}

theorem joinedFault?_cons {b : Block} {bs : List Block} (stray : ∀ members, b ≠ .stray members)
    (text : b.isBlank = false) : joinedFault? config (b :: bs) = blocksFault? config (b :: bs) := by
  have none : takeBranches (b :: bs) = none := by
    rw [takeBranches]
    · simp [text]
    · exact stray
  simp only [joinedFault?, none]

theorem joinedFault?_blank {b : Block} {bs : List Block} (text : b.isBlank) :
    joinedFault? config (b :: bs) = joinedFault? config bs := by
  cases b with
  | text value =>
    have same : takeBranches (.text value :: bs) = takeBranches bs := by
      rw [takeBranches, if_pos text]
      simp
    unfold joinedFault?
    rw [same]
    cases takeBranches bs with
    | none => simp [blocksFault?, blockFault?]
    | some x => rfl
  | _ => cases text

theorem followsBranch_cons_blank {n : Node} (h : n.isBlank) (before : List Node) :
    followsBranch (n :: before) = followsBranch before := by
  rw [followsBranch, List.find?_cons_of_neg (by simp [h])]
  rfl

theorem followsBranch_cons_element (e : Element) (children before : List Node) :
    followsBranch (.element e children :: before) = e.invites := rfl

/-- The offences of siblings, given those before them, are the faults of the blocks they become. What
stands at their start may continue a chain that the siblings before them began. -/
def OffendsAsArranged (config : Config) (before ns : List Node) : Prop :=
  (Node.placesAll before ns).findSome? (offence? config) =
    if followsBranch before then joinedFault? config (arrange (ofNodes ns))
    else blocksFault? config (arrange (ofNodes ns))

theorem offendsAsArranged_leaf {n : Node} {before ns : List Node}
    (leaf : ∀ e children, n ≠ .element e children)
    (later : OffendsAsArranged config (n :: before) ns) : OffendsAsArranged config before (n :: ns) := by
  have places : n.places before = [(before, n)] := by
    cases n with
    | element e children => exact absurd rfl (leaf e children)
    | _ => simp [Node.places]
  have fault : offence? config (before, n) = blockFault? config (ofNode n) := by
    cases n with
    | element e children => exact absurd rfl (leaf e children)
    | _ => simp [offence?, ofNode, blockFault?]
  have arranged : arrange (ofNodes (n :: ns)) = ofNode n :: arrange (ofNodes ns) := by
    cases n with
    | element e children => exact absurd rfl (leaf e children)
    | _ => simp [arrange_cons, attach, ofNode, Block.branchKind?]
  have blank : (ofNode n).isBlank = n.isBlank := by
    cases n <;> simp [ofNode, Block.isBlank, Node.isBlank]
  unfold OffendsAsArranged at later ⊢
  rw [Node.placesAll, places, List.findSome?_append, later, arranged]
  cases hb : n.isBlank
  · have apart : followsBranch (n :: before) = false := by
      cases n with
      | element e children => exact absurd rfl (leaf e children)
      | _ => simp [followsBranch, hb]
    have other : ∀ members, ofNode n ≠ .stray members := by
      cases n <;> simp [ofNode]
    rw [joinedFault?_cons other (blank.trans hb), apart]
    simp [fault, blocksFault?]
  · have none : blockFault? config (ofNode n) = none := by
      cases n <;> simp_all [Node.isBlank, ofNode, blockFault?]
    rw [followsBranch_cons_blank hb, joinedFault?_blank (blank.trans hb)]
    simp [fault, none, blocksFault?]

theorem fault?_attached {e : Element} {children bs out : List Block} (h : Attached e children bs out)
    (joined : Bool) :
    (if joined then joinedFault? config out else blocksFault? config out) =
      if e.continues && !joined then some (strayFault config e)
      else (elementFault? e).or ((blocksFault? config children).or
        (if e.invites then joinedFault? config bs else blocksFault? config bs)) := by
  cases h with
  | single plain =>
    have continues : e.continues = false := by
      cases hk : e.branchKind? with
      | none => simp [Element.continues, hk]
      | some kind =>
        obtain ⟨label, rfl⟩ := plain kind hk
        simp [Element.continues, BranchKind.continues, hk]
    have invites : e.invites = false := by
      cases hk : e.branchKind? with
      | none => simp [Element.invites, hk]
      | some kind =>
        obtain ⟨label, rfl⟩ := plain kind hk
        simp [Element.invites, hk]
    rw [joinedFault?_cons (by simp) rfl]
    simp [continues, invites, blocksFault?, blockFault?, Option.or_assoc]
  | alone opens none =>
    rw [joinedFault?_cons (by simp) rfl]
    simp [Element.continues, BranchKind.continues, Element.invites, opens, blocksFault?, blockFault?, Option.or_assoc,
      joinedFault?, none]
  | chain opens taken =>
    rw [joinedFault?_cons (by simp) rfl]
    simp [Element.continues, BranchKind.continues, Element.invites, opens, blocksFault?, blockFault?, membersFault?,
      Option.or_assoc, joinedFault?, taken]
  | alternative continues taken =>
    cases joined <;>
      simp [Element.continues, BranchKind.continues, Element.invites, continues, blocksFault?, blockFault?, membersFault?,
        Option.or_assoc, joinedFault?, taken, takeBranches]
  | lastAlternative continues none =>
    cases joined <;>
      simp [Element.continues, BranchKind.continues, Element.invites, continues, blocksFault?, blockFault?, membersFault?,
        Option.or_assoc, joinedFault?, none, takeBranches]
  | fallback ends =>
    cases joined <;>
      simp [Element.continues, BranchKind.continues, Element.invites, ends, blocksFault?, blockFault?, membersFault?,
        Option.or_assoc, joinedFault?, takeBranches]

theorem offendsAsArranged : ∀ ns before : List Node, OffendsAsArranged config before ns
  | [], before => by
    unfold OffendsAsArranged
    cases followsBranch before <;> rfl
  | .text _ _ :: ns, _ => offendsAsArranged_leaf (by simp) (offendsAsArranged ns _)
  | .dynamicText _ _ :: ns, _ => offendsAsArranged_leaf (by simp) (offendsAsArranged ns _)
  | .comment _ _ :: ns, _ => offendsAsArranged_leaf (by simp) (offendsAsArranged ns _)
  | .bare _ :: ns, _ => offendsAsArranged_leaf (by simp) (offendsAsArranged ns _)
  | .element e children :: ns, before => by
    have inner := offendsAsArranged children []
    have later := offendsAsArranged ns (.element e children :: before)
    have start : followsBranch [] = false := rfl
    unfold OffendsAsArranged at inner later ⊢
    rw [followsBranch_cons_element] at later
    have placed : arrange (ofNodes (.element e children :: ns)) =
        attach (.element e (arrange (ofNodes children))) (arrange (ofNodes ns)) := by
      simp [arrange_cons, ofNode]
    rw [placed, fault?_attached (attached e _ _), Node.placesAll, Node.places, List.findSome?_append,
      List.findSome?_cons, inner, later, start]
    rw [offence?]
    cases e.continues <;> cases followsBranch before <;>
      cases elementFault? e <;> simp

theorem firstOffence?_eq (ns : List Node) :
    firstOffence? config ns = blocksFault? config (arrange (ofNodes ns)) := by
  have all : OffendsAsArranged config [] ns := offendsAsArranged ns []
  exact all

end

section Tests

theorem blocksTest_iff {bs : List Block} : BlocksTest bs ↔ ∀ b ∈ bs, BlockTests b := by
  induction bs with
  | nil => simp [BlocksTest]
  | cons b bs ih => simp [BlocksTest, ih]

theorem testable_of_faultless {e : Element} (h : e.Faultless) {kind : BranchKind}
    (hk : e.branchKind? = some kind) (other : kind ≠ .fallback) : Testable e := by
  obtain ⟨branch, hb, rfl⟩ := Option.map_eq_some_iff.mp hk
  have fault := h.branch branch hb
  simp only [Element.branchFault?, Option.orElse_eq_orElse, Option.orElse_eq_or,
    Option.or_eq_none_iff] at fault
  obtain ⟨kindFault, modifier, -⟩ := fault
  have test : ∃ test, branch.test = some test := by
    rw [← Option.isSome_iff_exists]
    cases hkind : branch.kind with
    | fallback => exact absurd hkind other
    | unknown label => simp [hkind] at kindFault
    | opening | alternative =>
      cases ht : branch.test with
      | none => simp [hkind, ht] at kindFault
      | some test => rfl
  have condition : ∃ condition, testExpr? branch.modifier = some condition := by
    cases hm : branch.modifier with
    | unknown label => simp [hm, Modifier.known] at modifier
    | _ => exact ⟨_, rfl⟩
  obtain ⟨test, ht⟩ := test
  obtain ⟨condition, hc⟩ := condition
  exact ⟨branch, test, condition, hb, ht, hc⟩

theorem BlocksTest.takeBranches {bs members rest : List Block} (h : BlocksTest bs)
    (taken : takeBranches bs = some (members, rest)) : MembersTest members ∧ BlocksTest rest := by
  obtain ⟨blanks, -, rfl⟩ := takeBranches_eq_some.mp taken
  rw [blocksTest_iff] at h
  have here : BlockTests (.stray members) := h _ (by simp)
  refine ⟨here, blocksTest_iff.mpr fun b hb => h b (by simp [hb])⟩

theorem blocksTest_arrange : ∀ {ns : List Node}, Accepted ns → BlocksTest (arrange (ofNodes ns))
  | [], _ => trivial
  | .text _ _ :: _, h | .dynamicText _ _ :: _, h | .comment _ _ :: _, h | .bare _ :: _, h =>
    ⟨trivial, blocksTest_arrange h.cons⟩
  | .element e children :: ns, h => by
    obtain ⟨faultless, accepted⟩ := h.element
    have below := blocksTest_arrange accepted
    have later := blocksTest_arrange h.cons
    have member {kind : BranchKind} {members : List Block} (hk : e.branchKind? = some kind)
        (tests : MembersTest members) :
        MembersTest (.element e (arrange (ofNodes children)) :: members) := by
      refine ⟨fun other => testable_of_faultless faultless hk ?_, below, tests⟩
      rintro rfl
      exact other hk
    have alone (other : e.branchKind? ≠ some .fallback) :
        BlockTests (.element e (arrange (ofNodes children))) := by
      refine ⟨fun has => ?_, below⟩
      obtain ⟨branch, hb⟩ := Option.isSome_iff_exists.mp has
      have hk : e.branchKind? = some branch.kind := by simp [Element.branchKind?, hb]
      exact testable_of_faultless faultless hk fun fallback => other (fallback ▸ hk)
    have placed : arrange (ofNodes (.element e children :: ns)) =
        attach (.element e (arrange (ofNodes children))) (arrange (ofNodes ns)) := by
      simp [arrange_cons, ofNode]
    have place := attached e (arrange (ofNodes children)) (arrange (ofNodes ns))
    rw [placed]
    generalize attach _ _ = out at place ⊢
    cases place with
    | single plain =>
      refine ⟨alone fun fallback => ?_, later⟩
      obtain ⟨label, same⟩ := plain _ fallback
      cases same
    | alone opens none => exact ⟨alone (by simp [opens]), later⟩
    | chain opens taken =>
      obtain ⟨members, rest⟩ := later.takeBranches taken
      exact ⟨member opens members, rest⟩
    | alternative continues taken =>
      obtain ⟨members, rest⟩ := later.takeBranches taken
      exact ⟨member continues members, rest⟩
    | lastAlternative continues none => exact ⟨member continues trivial, later⟩
    | fallback ends => exact ⟨member ends trivial, later⟩

end Tests

def rendering (config : Config) (root : Node) : Except Failure Stmt :=
  ((render config root).run.run .initial).1

theorem rendering_eq_error {config : Config} {root : Node} {f : Failure} :
    rendering config root = .error f ↔ failure? (render config root) .initial = some f := by
  unfold rendering failure?
  cases ((render config root).run.run .initial).1 <;> simp

theorem rendering_isOk {config : Config} {root : Node} :
    (∃ stmt, rendering config root = .ok stmt) ↔ failure? (render config root) .initial = none := by
  unfold rendering failure?
  cases ((render config root).run.run .initial).1 <;> simp

theorem failure?_render {config : Config} {root : Node}
    (accepted : root.validate config.name = .ok ()) :
    failure? (render config root) .initial = firstOffence? config root.content := by
  cases root with
  | element e children =>
    have tests := blocksTest_arrange (accepted_of_validate accepted)
    rw [Node.content] at tests ⊢
    rw [render, failure?_bind (o := none), failure?_lowerRoot tests, Option.or_none, firstOffence?_eq]
    intro x t hx
    have drafted : draft? config (.element e children) = some ⟨t.context.tree, t.emitter, x⟩ := by
      have lowered : (lowerRoot config children).run.run .initial = (.ok x, t) := hx
      simp only [draft?, lowered]
    exact failure?_renderFunction (made_of_draft? drafted)
  | _ => cases accepted

/-- A render function that cannot be made ends generation; one that is made is printed. -/
theorem generate_eq (config : Config) (root : Node) : (generate config root).1 =
    match (render config root).run.run .initial with
    | (.error f, _) => .error f
    | (.ok stmt, s) => printed config s.emitter stmt := by
  have step : (program config root).run.run .initial =
      match (render config root).run.run .initial with
      | (.ok stmt, s) => (printed config s.emitter stmt, s)
      | (.error f, s) => (.error f, s) := by
    rw [program, ExceptT.run_bind, StateT.run_bind]
    rcases (render config root).run.run .initial with ⟨f | stmt, s⟩
    · rfl
    · rfl
  have first : (generate config root).1 = ((program config root).run.run .initial).1 := rfl
  rw [first, step]
  rcases (render config root).run.run .initial with ⟨f | stmt, s⟩ <;> rfl

/-- What generation may report about an accepted template. -/
inductive Reportable (config : Config) : Failure → Prop
  | unsupported (position : Position) :
      Reportable config (.compile ⟨.unsupportedNode, config.name, position⟩)
  | stray (label : String) (position : Position) :
      Reportable config (.compile ⟨.strayBranch label, config.name, position⟩)
  | missing : Reportable config .missingPart

theorem reportable_offence {config : Config} {place : List Node × Node} {f : Failure}
    (h : offence? config place = some f) : Reportable config f := by
  obtain ⟨before, n⟩ := place
  cases n with
  | bare position =>
    cases h
    exact .unsupported position
  | element e children =>
    rw [offence?] at h
    split at h
    · cases h
      exact .stray _ _
    · unfold elementFault? dataFault? at h
      split at h
      · cases h
      · obtain ⟨a, -, fault⟩ := List.exists_of_findSome?_eq_some h
        unfold attributeFault? at fault
        split at fault <;> cases fault
        exact .missing
  | _ => cases h

/-- Code for an accepted template can be generated if and only if no node offends. Otherwise generation
reports the first offence in document order, and nothing else; a render function that is made always
becomes the statements of a program. -/
theorem generation_fails_at_first_offence {config : Config} {root : Node}
    (accepted : root.validate config.name = .ok ()) :
    ((∃ stmt, rendering config root = .ok stmt) ↔ Generable root.content) ∧
      (∀ f, rendering config root = .error f ↔ firstOffence? config root.content = some f) ∧
      (∀ f, rendering config root = .error f →
        (generate config root).1 = .error f ∧ Reportable config f) ∧
      ∀ stmt, rendering config root = .ok stmt →
        ∃ emitter, (generate config root).1 = printed config emitter stmt ∧
          ∀ runtime, config.runtimeModule = .text runtime →
            (programStmts config emitter stmt).isOk := by
  have failure := failure?_render accepted
  refine ⟨?_, fun f => ?_, fun f hf => ⟨?_, ?_⟩, fun stmt hs => ?_⟩
  · rw [rendering_isOk, failure, firstOffence?_eq_none]
  · rw [rendering_eq_error, failure]
  · rw [rendering] at hf
    rw [generate_eq]
    rcases hr : (render config root).run.run .initial with ⟨g | stmt, s⟩
    · rw [hr] at hf
      cases hf
      rfl
    · rw [hr] at hf
      cases hf
  · rw [rendering_eq_error, failure] at hf
    obtain ⟨place, -, offends⟩ := List.exists_of_findSome?_eq_some hf
    exact reportable_offence offends
  · rw [rendering] at hs
    rcases hr : (render config root).run.run .initial with ⟨g | stmt', s⟩
    · rw [hr] at hs
      cases hs
    · rw [hr] at hs
      cases hs
      refine ⟨s.emitter, ?_, fun runtime text => ?_⟩
      · rw [generate_eq, hr]
      · unfold programStmts
        rw [text]
        cases config.format <;> rfl

/-- A second branch that text parts from the first, in front of a bare node; it also lacks the expression
of an attribute. -/
def partedChain : Node :=
  .root [.element { Element.ofTag "b" with branch := some ⟨some (.name "wide"), .holds, .opening⟩ } [],
    .text ⟨2, 1⟩ "or",
    .element { Element.ofTag "i" with
      position := ⟨3, 2⟩
      branch := some ⟨none, .holds, .fallback⟩
      attrs := .ofList [("title", ⟨"title", .expression none⟩)] } [],
    .bare ⟨4, 1⟩]

theorem partedChain_reported : partedChain.validate Config.default.name = .ok () ∧
    rendering .default partedChain =
      .error (.compile ⟨.strayBranch "else", .text "template", ⟨3, 2⟩⟩) ∧
    (generate .default partedChain).1 =
      .error (.compile ⟨.strayBranch "else", .text "template", ⟨3, 2⟩⟩) ∧
    ¬ Generable partedChain.content := by
  have accepted : partedChain.validate Config.default.name = .ok () := by rfl
  have first : firstOffence? .default partedChain.content =
      some (.compile ⟨.strayBranch "else", .text "template", ⟨3, 2⟩⟩) := by rfl
  obtain ⟨generable, fails, generates, -⟩ := generation_fails_at_first_offence accepted
  have failed := (fails _).mpr first
  refine ⟨accepted, failed, (generates _ failed).1, fun all => ?_⟩
  obtain ⟨stmt, made⟩ := generable.mpr all
  rw [failed] at made
  cases made

end TemplateCompiler.Generate
