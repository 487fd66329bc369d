import TemplateCompiler.Error
import TemplateCompiler.Text.Identifier
import TemplateCompiler.Text.Word

/-!
The rules that every template has to keep before code is generated for it. Loop names become parameters
of generated functions, so they must be identifiers and must not shadow names that generated code uses.
-/

namespace TemplateCompiler.Template

open TemplateCompiler.Text

/-- Names that generated code binds itself. -/
def reservedNames : List String :=
  ["api", "instance", "slot_set", "context", "modules", "tmpl", "template", "create_template",
    "SimpleNamespace", "sanitize_attribute", "register_template"]

def loopNameFault? (name : String) : Option Cause :=
  if !isIdentifier name || isKeyword name then some (.invalidLoopName name)
  else if name.startsWith "_" || name.startsWith "api_" || reservedNames.contains name then
    some (.reservedLoopName name)
  else none

/-- Letters of the basic alphabet and the underscore start both halves of a component reference. -/
def startsReference (c : Char) : Bool := c.isAlpha || c == '_'

/-- The second half of a component reference: a name, perhaps with one line end after it. -/
def isReferenceName : List Char → Bool
  | c :: rest =>
    startsReference c && (let after := rest.dropWhile isWordChar; after.isEmpty || after == ['\n'])
  | [] => false

/-- `package.module:Class`: word characters and dots, a colon, word characters. -/
def isComponentReference (reference : String) : Bool :=
  match reference.toList with
  | c :: rest =>
    startsReference c &&
      match rest.dropWhile fun d => isWordChar d || d == '.' with
      | ':' :: name => isReferenceName name
      | _ => false
  | [] => false

def Element.branchFault? (e : Element) (branch : Branch) : Option Cause :=
  let label := branch.kind.label
  let kindFault := match branch.kind with
    | .unknown label => some (Cause.unknownDirective label)
    | .fallback => if branch.test.isSome then some .fallbackWithTest else none
    | _ => if branch.test.isNone then some (.testRequired label) else none
  kindFault <|>
    (if Modifier.known.contains branch.modifier then none
      else some (.unknownModifier branch.modifier.label)) <|>
    (if branch.kind ≠ .opening ∧ e.iterates then some (.iteratingBranch label) else none)

def ForEach.fault? (f : ForEach) : Option Cause :=
  loopNameFault? f.item <|>
    match f.index with
    | none => none
    | some index =>
      loopNameFault? index <|>
        if index = f.item then some (.sameItemAndIndex f.item) else none

/-- What is wrong with an element by itself; of several faults the first counts. -/
def Element.fault? (e : Element) : Option Cause :=
  e.branch.bind e.branchFault? <|>
    (if e.forEach.isSome ∧ e.forOf.isSome then some .bothIterations else none) <|>
    e.forEach.bind ForEach.fault? <|>
    e.forOf.bind (fun f => loopNameFault? f.iterator) <|>
    (if e.key.isSome ∧ e.isFragment then some .keyOnFragment else none) <|>
    match e.kind with
    | .component reference =>
      if isComponentReference reference then none else some (.badComponentReference reference)
    | _ => none

def siblingElements : List Node → List Element
  | [] => []
  | .element e _ :: rest => e :: siblingElements rest
  | _ :: rest => siblingElements rest

/-- The first element that opens a chain although it iterates. -/
def iteratingHead? : List Element → Option Element
  | previous :: current :: rest =>
    let joined := match current.branchKind? with
      | none | some .opening => false
      | _ => true
    if joined && previous.branchKind? == some .opening && previous.iterates then some previous
    else iteratingHead? (current :: rest)
  | _ => none

def Node.fault? (isRoot : Bool) : Node → Option (Cause × Position)
  | .element e children =>
    (if isRoot then none else e.fault?.map (·, e.position)) <|>
      (iteratingHead? (siblingElements children)).map
        fun previous => (.iteratingChainHead, previous.position)
  | _ => none

def Node.rootFault? : Node → Option Cause
  | .element e _ =>
    if e.kind ≠ .plain ∨ !e.isFragment then some .rootNotFragment
    else if e.branch.isSome || e.iterates then some .rootWithDirectives
    else none
  | _ => some .rootNotFragment

/-- The first fault of a template: of its root, or of its nodes in document order. -/
def Node.firstFault? (root : Node) : Option (Cause × Position) :=
  root.rootFault?.map (·, root.position) <|>
    root.fault? true <|>
    (root.preorder.tail).findSome? (Node.fault? false)

/-- Accepts a template, or reports its first fault. -/
def Node.validate (root : Node) (filename : Data) : Except CompileError Unit :=
  match root.firstFault? with
  | some (cause, position) => .error ⟨cause, filename, position⟩
  | none => .ok ()

def checkLoopName (name : String) (position : Position) (filename : Data) :
    Except CompileError Unit :=
  match loopNameFault? name with
  | some cause => .error ⟨cause, filename, position⟩
  | none => .ok ()

end TemplateCompiler.Template
