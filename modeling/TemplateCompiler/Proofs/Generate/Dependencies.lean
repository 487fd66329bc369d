import TemplateCompiler.Proofs.Generate.Components

/-!
The dependencies of a compiled template: the references of its components, each once, in the order in
which the elements end. What encloses a component does not matter, and an element whose constructor is
computed depends on no component.
-/

namespace TemplateCompiler.Template

mutual

/-- The elements of a node, each behind those that it holds. -/
def Node.postorder : Node → List Element
  | .element e children => Node.postorderAll children ++ [e]
  | .text .. | .dynamicText .. | .comment .. | .bare _ => []

def Node.postorderAll : List Node → List Element
  | [] => []
  | n :: ns => n.postorder ++ Node.postorderAll ns

end

/-- The component whose class an element is made with: fragments are not made, and a constructor that is
computed takes the place of the class. -/
def Element.dependency? (e : Element) : Option String :=
  match e.kind with
  | .component reference => if e.isFragment || e.dynamic.isSome then none else some reference
  | _ => none

end TemplateCompiler.Template

namespace TemplateCompiler.Generate

open TemplateCompiler.Template

theorem references_requests (e : Element) (locals : List String) (below : List Request) :
    (e.requests locals below).filterMap Request.reference? =
      below.filterMap Request.reference? ++ e.dependency?.toList := by
  have data : (e.dataRequests locals).filterMap Request.reference? = [] :=
    List.filterMap_eq_nil_iff.mpr fun r hr => by
      obtain ⟨handler, -, rfl⟩ := List.mem_map.mp hr
      rfl
  have call : ¬ e.isFragment → e.callRequests.filterMap Request.reference? = e.dependency?.toList := by
    intro made
    cases hd : e.dynamic <;> cases hk : e.kind <;>
      simp [Element.callRequests, Element.dependency?, Request.reference?, hd, hk, made]
  unfold Element.requests
  split
  · next fragment =>
    have none : e.dependency? = none := by
      unfold Element.dependency?
      split <;> simp [fragment]
    rw [none, Option.toList_none, List.append_nil]
  · next made => rw [List.filterMap_append, List.filterMap_append, data, List.nil_append, call made]

theorem dependencies_postorder (e : Element) (children : List Node) :
    (Node.element e children).postorder.filterMap Element.dependency? =
      (Node.postorderAll children).filterMap Element.dependency? ++ e.dependency?.toList := by
  rw [Node.postorder, List.filterMap_append]
  cases he : e.dependency? <;> simp [he]

mutual

theorem references_node (locals : List String) : ∀ n : Node,
    (n.requests locals).filterMap Request.reference? = n.postorder.filterMap Element.dependency?
  | .element e children => by
    rw [Node.requests, references_requests, references_nodes (e.inner locals) children,
      dependencies_postorder]
  | .text .. | .dynamicText .. | .comment .. | .bare _ => rfl

theorem references_nodes (locals : List String) : ∀ ns : List Node,
    (Node.requestsAll locals ns).filterMap Request.reference? =
      (Node.postorderAll ns).filterMap Element.dependency?
  | [] => rfl
  | n :: ns => by
    rw [Node.requestsAll, Node.postorderAll, List.filterMap_append, List.filterMap_append,
      references_node locals n, references_nodes locals ns]

end

theorem dependencies_root {root : Node} {filename : Data} (h : root.validate filename = .ok ()) :
    root.postorder.filterMap Element.dependency? =
      (Node.postorderAll root.content).filterMap Element.dependency? := by
  cases root with
  | element e children =>
    have plain : e.kind = .plain := by
      by_contra other
      have fault : (Node.element e children).rootFault? = some .rootNotFragment := by
        simp [Node.rootFault?, other]
      simp [Node.validate, Node.firstFault?, fault] at h
    have none : e.dependency? = none := by simp [Element.dependency?, plain]
    rw [dependencies_postorder, none]
    exact List.append_nil _
  | _ => rfl

/-- The dependencies of a compiled template are the components that its elements are made with, in the
order in which the elements end, and each where it is first used. -/
theorem dependencies_in_postorder {config : Config} {root : Node} {compiled : Compiled}
    (h : (compile config root).1 = .ok compiled) :
    compiled.program.dependencies = (root.postorder.filterMap Element.dependency?).eraseDups := by
  obtain ⟨d, es, hd, -, -, -, issued⟩ := issued_of_compile h
  have entered := issued.issues.keys_components
  rw [issued.requests, references_nodes] at entered
  rw [dependencies_of_generate (generate_of_compile h) hd, entered, dependencies_root (validate_of_compile h)]
  change List.foldl Emit.addNew [] _ = _
  rw [Emit.foldl_addNew]
  simp

/-- Components in a conditional fragment, in another branch, in a slot of a loop, and one whose class is
computed. -/
def scatteredPanels : Node :=
  let panel (tag reference : String) : Element :=
    { Element.ofTag tag with kind := .component reference }
  .root [
    .element { Element.ofTag "template" with branch := some ⟨some (.name "ready"), .holds, .opening⟩ }
      [.element (panel "x-outer" "ui:Outer") [.element (panel "x-inner" "ui:Inner") []]],
    .element { panel "x-inner" "ui:Inner" with branch := some ⟨none, .holds, .fallback⟩ } [],
    .element { Element.ofTag "slot" with
        kind := .slot "rows"
        forEach := some ⟨.name "rows", "row", none⟩ }
      [.element (panel "x-row" "ui:Row") [.element (panel "x-outer" "ui:Outer") []]],
    .element { panel "x-any" "ui:Any" with dynamic := some (.name "chosen") }
      [.element (panel "x-last" "ui:Last") []]]

theorem scatteredPanels_in_postorder :
    ∃ compiled, (compile .default scatteredPanels).1 = .ok compiled ∧
      compiled.program.dependencies =
        (scatteredPanels.postorder.filterMap Element.dependency?).eraseDups := by
  have ok : (compile .default scatteredPanels).1.isOk := by decide +kernel
  obtain ⟨compiled, h⟩ := exists_of_isOk ok
  exact ⟨compiled, h, dependencies_in_postorder h⟩

example : (scatteredPanels.postorder.filterMap Element.dependency?).eraseDups =
    ["ui:Inner", "ui:Outer", "ui:Row", "ui:Last"] := by
  decide +kernel

end TemplateCompiler.Generate
