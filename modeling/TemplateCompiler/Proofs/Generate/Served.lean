import TemplateCompiler.Proofs.Generate.NodeShapes
import TemplateCompiler.Proofs.Generate.Tables

/-!
What the functions of a finished render function demand is what the events of the walk brought, each as
often: the events serve the requests of the template, which arranging siblings into chains keeps, and
deciding reads adds local names of properties only.
-/

namespace TemplateCompiler.Generate

open TemplateCompiler.Code TemplateCompiler.Scope TemplateCompiler.Template Block

def allDemands (render : Stmt) : List Demand := (render.functions []).flatMap fun f => functionDemands f.2

theorem collects_stmtDemands : Collects stmtDemands fun b => demands b.2 where
  destructure bs := by
    unfold Stmt.destructure
    split
    · simp [stmtDemands]
    · rw [stmtDemands, demands_tuple, List.flatMap_map]
  function _ _ _ := rfl

namespace Draft.Made

variable {U : Uses} {d : Draft} {x : Demand}

theorem count_leading (p : Spot) (component : x.id ≠ componentName) :
    (p.leading.flatMap stmtDemands).count x = 0 := by
  rw [List.count_eq_zero, collects_stmtDemands.leading, List.mem_flatMap]
  rintro ⟨u, -, hx⟩
  rw [componentMember, demands_member, demands_own, List.mem_singleton] at hx
  exact component (hx ▸ rfl)

/-- The render function demands its parameters and what the code of its nodes demands. -/
theorem count_renderBody (E : Emitter) (p : Spot) (root : Expr)
    (other : x.id ∉ renderSignature.params) :
    ((renderBody E p.leading root).flatMap stmtDemands).count x = (demands root).count x := by
  have entry (name mapping key : String) : stmtDemands (takeEntry name mapping key) = [.name mapping] := by
    simp only [takeEntry, stmtDemands, Expr.apply, demands_call, callDemands, demands_member, demands_own,
      List.flatMap_singleton, demands_str, List.flatMap_nil, List.append_nil, List.nil_append]
  have prelude : ((renderPrelude E p.leading).flatMap stmtDemands).count x = 0 := by
    rw [collects_stmtDemands.renderPrelude, List.count_eq_zero]
    simp only [entry, componentMember, demands_member, demands_own, List.mem_append, List.mem_flatMap,
      List.mem_singleton]
    rintro (((⟨_, -, rfl⟩ | ⟨_, -, rfl⟩) | ⟨_, -, rfl⟩) | ⟨_, -, rfl⟩) <;> exact other (by decide)
  rw [renderBody_eq, List.flatMap_append, List.count_append, prelude, List.flatMap_singleton, Nat.zero_add]
  rfl

theorem count_function (made : d.Made U) {s : List Spot × Spot} (hs : s ∈ d.scopes)
    (other : x.id ∉ renderSignature.params) : (functionDemands (d.function s.2)).count x =
      (regionDemands s.2.region).count x +
        if s.2.region.helper = none then (demands d.root).count x else 0 := by
  have component : x.id ≠ componentName := fun is => other (is ▸ by decide)
  obtain ⟨loops, nested⟩ := made.nested s hs
  cases helper : s.2.region.helper with
  | none =>
    simp only [Draft.function, helper, functionDemands, count_renderBody _ _ _ other, regionDemands,
      Option.elim_none, List.count_nil, if_true, Nat.zero_add]
  | some h =>
    simp only [Draft.function, helper, functionDemands, List.flatMap_append, List.count_append,
      count_leading s.2 component, regionDemands, Option.elim_some, reduceCtorEq, if_false,
      Nat.zero_add, Nat.add_zero]

/-- The functions of a draft demand what the code of its root and the helpers of its scopes demand. -/
theorem count_functions (made : d.Made U) (other : x.id ∉ renderSignature.params) :
    (d.scopes.flatMap fun s => functionDemands (d.function s.2)).count x =
      (demands d.root ++ treeDemands d.tree.children).count x := by
  obtain ⟨root, below⟩ := made.helpers
  let weight (r : Region) : Nat :=
    (regionDemands r).count x + if r.helper = none then (demands d.root).count x else 0
  have scopes : (d.scopes.flatMap fun s => functionDemands (d.function s.2)).count x =
      (d.tree.regions.map weight).sum := by
    rw [← Tree.map_region_spots [] [] d.tree, List.count_flatMap, List.map_map]
    exact congrArg List.sum (List.map_congr_left fun s hs => made.count_function hs other)
  have inner : (Tree.regionsAll d.tree.children).map weight =
      (Tree.regionsAll d.tree.children).map fun r => (regionDemands r).count x := by
    refine List.map_congr_left fun r hr => ?_
    obtain ⟨helper, has, -⟩ := below r hr
    simp [weight, has]
  have first : weight d.tree.region = (demands d.root).count x := by
    simp [weight, root, regionDemands]
  rw [scopes, Tree.regions_eq, List.map_cons, List.sum_cons, first, inner, List.count_append,
    treeDemands, List.count_flatMap]
  rfl

/-- Deciding reads keeps what the functions demand, but for local names of properties. -/
theorem count_finished (made : d.Made U) (other : x.id ∉ renderSignature.params)
    (free : ¬ IsLocalName x.id) : (allDemands d.finished).count x =
      (demands d.root ++ treeDemands d.tree.children).count x := by
  have decided {name : String} (h : ¬ IsLocalName name) (read : Placeholder) :
      d.decision read ≠ .own name := by
    intro is
    rcases made.decided read with e | e | ⟨scope, k, e⟩
    · rw [e] at is
      cases is
    · rw [e, componentMember] at is
      cases is
    · rw [e] at is
      exact h ⟨scope, k, (Expr.own.inj is).symm⟩
  have component : x.id ≠ componentName := fun is => other (is ▸ by decide)
  have kept (f : Function) : (functionDemands (f.substitute d.decision)).count x =
      (functionDemands f).count x :=
    count_functionDemands_substitute made.decides (decided free)
      (fun read p => decided (fun h => h.not_plain (isPlainName_primitive p)) read)
      (decided fun h => h.not_plain (.inl (by decide))) component f
  rw [← made.count_functions other, allDemands, made.functions_finished, List.flatMap_map,
    List.count_flatMap, List.count_flatMap]
  exact congrArg List.sum (List.map_congr_left fun s _ => kept (d.function s.2))

end Draft.Made

section

variable {locals : List String}

theorem requests_chain (members : List Block) :
    Block.requests locals (.chain members) = Block.requestsChain locals members := by
  rw [Block.requests]

theorem requests_stray (members : List Block) :
    Block.requests locals (.stray members) = Block.requestsChain locals members := by
  rw [Block.requests]

theorem requestsAll_takeBranches {bs members rest : List Block}
    (taken : takeBranches bs = some (members, rest)) : Block.requestsAll locals bs =
      Block.requestsChain locals members ++ Block.requestsAll locals rest := by
  obtain ⟨blanks, all, rfl⟩ := takeBranches_eq_some.mp taken
  clear taken
  induction blanks with
  | nil => simp [Block.requestsAll, Block.requests]
  | cons b blanks ih =>
    have blank := all b List.mem_cons_self
    have later := ih fun c hc => all c (List.mem_cons_of_mem b hc)
    cases b with
    | text value => simpa [Block.requestsAll, Block.requests] using later
    | _ => cases blank

theorem requestsChain_cons {e : Element} (still : e.loop? = none) (children members : List Block) :
    Block.requestsChain locals (.element e children :: members) =
      Block.requests locals (.element e children) ++
        (if e.branchKind? = some .fallback then [] else Block.requestsChain locals members) := by
  have inner : e.inner locals = locals := by simp [Element.inner, still]
  rw [Block.requestsChain, Block.requests, inner]
  congr 1
  unfold Element.requests
  split <;> rfl

theorem requestsAll_arrange : ∀ {ns : List Node} {locals : List String}, Accepted ns →
    Block.requestsAll locals (arrange (ofNodes ns)) = Node.requestsAll locals ns
  | [], _, _ => rfl
  | .text _ _ :: _, _, h | .dynamicText _ _ :: _, _, h | .comment _ _ :: _, _, h | .bare _ :: _, _, h => by
    rw [arrange_leaf (by simp), Block.requestsAll, Node.requestsAll, requestsAll_arrange h.cons]
    rfl
  | .element e children :: ns, locals, h => by
    have below : Block.requestsAll (e.inner locals) (arrange (ofNodes children)) =
        Node.requestsAll (e.inner locals) children := requestsAll_arrange h.element.2
    have later : Block.requestsAll locals (arrange (ofNodes ns)) = Node.requestsAll locals ns :=
      requestsAll_arrange h.cons
    have here : Block.requests locals (.element e (arrange (ofNodes children))) =
        Node.requests locals (.element e children) := by
      rw [Block.requests, below, Node.requests]
    have waits := isSome_takeBranches ns
    have place := attached e (arrange (ofNodes children)) (arrange (ofNodes ns))
    rw [arrange_element, Node.requestsAll, ← later, ← here]
    generalize attach _ _ = out at place
    cases place with
    | single _ | alone _ _ => rw [Block.requestsAll]
    | @chain members rest opens taken =>
      have joined : continued ns := by rw [← waits, taken]; rfl
      rw [Block.requestsAll, requests_chain, requestsChain_cons (still_of_chain h opens fun _ => joined),
        requestsAll_takeBranches taken, if_neg (by simp [opens]), List.append_assoc]
    | @alternative members rest continues taken =>
      rw [Block.requestsAll, requests_stray, requestsChain_cons (still_of_chain h continues nofun),
        requestsAll_takeBranches taken, if_neg (by simp [continues]), List.append_assoc]
    | lastAlternative continues none =>
      rw [Block.requestsAll, requests_stray, requestsChain_cons (still_of_chain h continues nofun)]
      simp [Block.requestsChain]
    | fallback ends =>
      rw [Block.requestsAll, requests_stray, requestsChain_cons (still_of_chain h ends nofun)]
      simp [ends]

end

structure Draft.Issued (d : Draft) (es : List Event) (rs : List Request) : Prop where
  issues : Issues .empty es d.emitter
  requests : es.filterMap Event.request? = rs
  demanded : ∀ x : Demand, x.id ∉ renderSignature.params → ¬ IsLocalName x.id →
    (allDemands d.finished).count x = (es.flatMap Event.demands).count x
  outside : ∀ c ∈ d.tree.children, KeepsOutside c

theorem issued_of_draft {config : Config} {e : Element} {children : List Node} {d : Draft}
    (accepted : Accepted children) (h : draft? config (.element e children) = some d) :
    ∃ es, d.Issued es (Node.requestsAll [] children) := by
  have made := made_of_draft? h
  obtain ⟨t, r, cs, walked, emitter, tree⟩ := walked_of_draft (blocksUse_any _ _) h
  obtain ⟨es, issues, requests, code, outside⟩ := walked.issued rfl
  have closed : d.tree.children = cs := by
    rw [tree]
    rfl
  refine ⟨es, emitter ▸ issues, requests.trans (requestsAll_arrange accepted), fun x other free => ?_,
    closed ▸ outside⟩
  rw [made.count_finished other free, ← code.count_eq, closed, List.flatMap_singleton]

theorem issued_of_compile {config : Config} {root : Node} {compiled : Compiled}
    (h : (compile config root).1 = .ok compiled) :
    ∃ d es, draft? config root = some d ∧ renderOf compiled.program.stmts = some d.finished ∧
      programStmts config d.emitter d.finished = .ok compiled.program.stmts ∧
      d.Made (admitted root.content) ∧ d.Issued es (Node.requestsAll [] root.content) := by
  obtain ⟨d, hd, hr, program⟩ := draft_of_generate (generate_of_compile h)
  have accepted := accepted_of_validate (validate_of_compile h)
  cases root with
  | element e children =>
    obtain ⟨es, issued⟩ := issued_of_draft accepted hd
    exact ⟨d, es, hd, hr, program,
      made_of_draft (blocksUse_arrange children accepted (List.Subset.refl _)) hd, issued⟩
  | _ => cases hd

theorem Issues.enters {E F : Emitter} {es : List Event} (h : Issues E es F) {e : Event} (he : e ∈ es) :
    ∃ E F, e.Enters E F := by
  induction h with
  | nil E => cases he
  | cons first rest ih =>
    rcases List.mem_cons.mp he with rfl | he
    · exact ⟨_, _, first⟩
    · exact ih he

theorem Event.Spelled.free {e : Event} (spelled : e.Spelled)
    (references : ∀ tag reference, e.request? = some (.component tag reference) →
      isComponentReference reference)
    {x : Demand} {p : Primitive} (hx : x ∈ e.demands) (caller : x.caller? = some p) :
    x.id ∉ renderSignature.params ∧ ¬ IsLocalName x.id := by
  have headed {name : String} (h : name.toList.head? = some '_') : name ∉ renderSignature.params := by
    have none : ∀ n ∈ renderSignature.params, n.toList.head? ≠ some '_' := by decide
    exact fun hn => none name hn h
  cases x with
  | slot name id =>
    obtain ⟨text, rfl, -⟩ := Event.slot_mem_demands.mp hx
    obtain ⟨k, rfl⟩ := spelled
    refine ⟨headed ?_, fun h => h.not_plain (isPlainName_slot k)⟩
    change (slotLocalName k).toList.head? = _
    rw [toList_slotLocalName]
    rfl
  | component tag id =>
    obtain ⟨text, reference, rfl, -⟩ := Event.component_mem_demands.mp hx
    obtain rfl : id = componentIdentifier reference := spelled
    refine ⟨headed ?_, (jointed_component (references text reference rfl)).not_local⟩
    change (componentIdentifier reference).toList.head? = _
    rw [toList_componentIdentifier]
    rfl
  | _ => cases caller

namespace Draft.Issued

variable {d : Draft} {es : List Event} {rs : List Request} {root : List Node}

theorem mem_iff (issued : d.Issued es rs) {x : Demand} (other : x.id ∉ renderSignature.params)
    (free : ¬ IsLocalName x.id) : x ∈ allDemands d.finished ↔ x ∈ es.flatMap Event.demands := by
  rw [← List.count_pos_iff, issued.demanded x other free, List.count_pos_iff]

theorem call_mem_iff (issued : d.Issued es rs) {name : String} (plain : endsInDigit name = false)
    (other : name ∉ renderSignature.params) :
    .call name ∈ allDemands d.finished ↔ .call name ∈ es.flatMap Event.demands :=
  issued.mem_iff other fun h => h.not_plain (.inl plain)

theorem references (issued : d.Issued es rs) (made : d.Made (admitted root)) {e : Event} (he : e ∈ es)
    (tag reference : String) (asks : e.request? = some (.component tag reference)) :
    isComponentReference reference := by
  refine made.references reference ((issued.issues.components reference).mpr ⟨tag, ?_⟩)
  exact List.mem_filterMap.mpr ⟨e, he, asks⟩

/-- Slots and custom elements of the finished render function are those that were issued. -/
theorem perm_caller (issued : d.Issued es rs) (made : d.Made (admitted root)) {p : Primitive}
    (asks : p = .slot ∨ p = .customElement) :
    ((allDemands d.finished).filter (·.caller? = some p)).Perm
      ((es.flatMap Event.demands).filter (·.caller? = some p)) := by
  refine Generate.perm_caller ?_ ?_ ?_ ?_
  · rw [List.countP_flatMap, List.count_flatMap]
    refine congrArg List.sum (List.map_congr_left fun e he => ?_)
    obtain ⟨E, F, enters⟩ := issued.issues.enters he
    exact enters.count_caller asks
  · refine countP_flatMap_le_count fun f _ => countP_flatMap_le_count fun s _ => ?_
    cases s with
    | assign target value => exact countP_caller_le p value
    | ret value => exact countP_caller_le p value
    | expr value => exact countP_caller_le p value
    | _ => simp [stmtDemands]
  · refine issued.demanded (.call p.localName) ?_ fun h => h.not_plain (isPlainName_primitive p)
    cases p <;> decide
  · intro x hx caller
    obtain ⟨e, he, hx⟩ := List.mem_flatMap.mp hx
    obtain ⟨other, free⟩ := (issued.issues.spelled Emitter.formed_empty e he).free
      (issued.references made he) hx caller
    exact issued.demanded x other free

end Draft.Issued

end TemplateCompiler.Generate
