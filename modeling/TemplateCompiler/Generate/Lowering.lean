import TemplateCompiler.Generate.Block
import TemplateCompiler.Generate.DataBag

/-!
From arranged siblings to the expression that renders them. Conditions and iterations become calls of
helper functions, each in a scope of its own.

Siblings give a list of entries and the news whether some entry is a list at run time. A starred entry
stands for a list that is spliced in.
-/

namespace TemplateCompiler.Generate

open TemplateCompiler.Code TemplateCompiler.Scope TemplateCompiler.Template

/-- The entries of siblings, and whether one of them is a list at run time. -/
structure Rendered where
  entries : List Expr
  nested : Bool

namespace Rendered

def empty : Rendered := ⟨[], false⟩

def append (a b : Rendered) : Rendered := ⟨a.entries ++ b.entries, a.nested || b.nested⟩

/-- The only entry, if there is just one and it is not starred. -/
def single? (r : Rendered) : Option Expr :=
  match r.entries with
  | [e] => if e.isStarred then none else some e
  | _ => none

end Rendered

def testName : String := "_t"

/-- What the engine's iterator tells about every item. -/
def iteratorParts : List String := ["value", "index", "first", "last"]

def partName (iterator part : String) : String := iterator ++ "_" ++ part

def namespaceValue (iterator : String) : Expr :=
  .call (.own namespaceTypeName) []
    (iteratorParts.map fun part => .keyword (some part) (.own (partName iterator part)))

/-- One expression for a flat list of all entries. -/
def package (r : Rendered) : WalkM Expr :=
  if !r.nested then return .list r.entries
  else match r.single? with
    | some e => return e
    | none => Walk.emit (Emit.flatten r.entries)

def testExpr? : Modifier → Option Expr
  | .holds => some (.own testName)
  | .fails => some (.unary .not (.own testName))
  | .isTrue => some (.compare (.own testName) [.same] [.bool true])
  | .unknown _ => none

/-- The helper function of a condition: it takes the value of the test. -/
def testHelper (condition body otherwise : Expr) : Helper :=
  ⟨⟨[testName], none⟩, [.ret (.conditional condition body otherwise)]⟩

/-- What stands for an entry whose condition does not hold: nothing, for a list nothing in every place. -/
def emptyAs : Expr → Expr
  | .list items => .list (items.map fun _ => Expr.none)
  | _ => Expr.none

/-- Leaves a conditional scope whose body is `body` and calls its helper with the bound test. -/
def applyIf (config : Config) (e : Element) (body : Expr) (locals : List String)
    (otherwise : Expr) : WalkM Expr := do
  match e.branch with
  | none => throw .missingPart
  | some branch =>
    match branch.test with
    | none => throw .missingPart
    | some test =>
      match testExpr? branch.modifier with
      | none =>
        throw (.compile ⟨.unsupportedModifier branch.modifier.label, config.name, e.position⟩)
      | some condition =>
        let region ← Walk.pop
        let test ← Walk.bindExpr locals test
        let helper ← Walk.setHelper region (testHelper condition body otherwise)
        return .apply helper [test]

def loopKind : Loop → ScopeKind
  | .each _ => .forEach
  | .of _ => .forOf

/-- The helper function of a loop: it takes what the engine's iterator tells about an item. -/
def loopHelper (body : Expr) : Loop → Helper
  | .each f => ⟨⟨Loop.names (.each f), some "_"⟩, [.ret body]⟩
  | .of f =>
    ⟨⟨iteratorParts.map (partName f.iterator), none⟩,
      [.assign (.name f.iterator) (namespaceValue f.iterator), .ret body]⟩

def noteLoop : Loop → EmitM Unit
  | .each _ => return ()
  | .of _ => Emit.needNamespace

/-- The loop names of an element; for an iteration a scope is entered. -/
def enterIteration (e : Element) (locals : List String) : WalkM (List String) := do
  match e.loop? with
  | some loop =>
    Walk.push (loopKind loop)
    return locals ++ loop.names
  | none => return locals

/-- Leaves the scope of an iteration whose body is `body` and calls the iterator. -/
def applyIteration (e : Element) (body : Expr) (locals : List String) : WalkM Expr := do
  match e.loop? with
  | none => throw .missingPart
  | some loop =>
    let region ← Walk.pop
    Walk.emit (noteLoop loop)
    let helper ← Walk.setHelper region (loopHelper body loop)
    let items ← Walk.bindExpr locals loop.items
    Walk.emit (Emit.iterator items helper)

/-- Siblings, given the loop names around them. -/
abbrev Siblings := List String → WalkM Rendered

def elementCall (e : Element) (locals : List String) (data children : Expr) : WalkM Expr := do
  match e.dynamic with
  | some constructor =>
    let constructor ← Walk.bindExpr locals constructor
    Walk.emit (Emit.dynamicElement e.tag constructor data children)
  | none =>
    match e.kind with
    | .component reference => Walk.emit (Emit.customElement e.tag reference data children)
    | .slot name => Walk.emit (Emit.slot name data children)
    | .plain => Walk.emit (Emit.element e.tag data children)

/-- The call for an element with its data and children. The data comes before the children, so that the
key does too. -/
def makeElement (config : Config) (e : Element) (children : Siblings) (locals : List String) :
    WalkM Expr := do
  let data ← dataBag config e locals
  let children ← package (← children locals)
  elementCall e locals data children

def makeConditional (config : Config) (e : Element) (children : Siblings) (locals : List String) :
    WalkM Expr := do
  Walk.push .conditional
  let made ← makeElement config e children locals
  applyIf config e made locals (if e.isSlot then .list [] else emptyAs made)

/-- An element that is no fragment. The condition is left to the chain if the element is a member of
one. -/
def lowerElement (config : Config) (e : Element) (conditional : Bool) (children : Siblings) :
    Siblings := fun locals => do
  let inner ← enterIteration e locals
  let make := if conditional && e.branch.isSome then makeConditional else makeElement
  let made ← make config e children inner
  if e.iterates then return ⟨[← applyIteration e made locals], true⟩
  else return ⟨[made], e.isSlot⟩

/-- The entries of a fragment under its condition, which is tested once for all of them. -/
def conditionalEntries (config : Config) (e : Element) (r : Rendered) (locals : List String) :
    WalkM (List Expr) := do
  match r.single? with
  | some single =>
    let otherwise := if isListValued single then .list [] else emptyAs single
    return [← applyIf config e single locals otherwise]
  | none =>
    let all := Expr.list r.entries
    return [.starred (← applyIf config e all locals (emptyAs all))]

def lowerConditional (config : Config) (e : Element) (children : Siblings) : Siblings := fun locals => do
  Walk.push .conditional
  let r ← children locals
  return ⟨← conditionalEntries config e r locals, r.nested⟩

/-- One expression for what a fragment gives for an item. -/
def fragmentBody (r : Rendered) : WalkM Expr :=
  match r.single? with
  | some single => return single
  | none => package r

def lowerFragment (config : Config) (e : Element) (children : Siblings) : Siblings := fun locals => do
  let inner ← enterIteration e locals
  let content := if e.branch.isSome then lowerConditional config e children else children
  let r ← content inner
  if e.iterates then return ⟨[← applyIteration e (← fragmentBody r) locals], true⟩
  else return r

/-- A member of a chain as one expression for a list. -/
def lowerBranch (config : Config) (e : Element) (children : Siblings) (locals : List String) :
    WalkM Expr := do
  if e.isFragment then package (← children locals)
  else package (← lowerElement config e false children locals)

mutual

def lower (config : Config) : Block → Siblings
  | .text value, _ => do
    return ⟨[← Walk.emit (Emit.text value)], false⟩
  | .dynamicText value, locals => do
    let bound ← Walk.bindExpr locals value
    return ⟨[← Walk.emit (Emit.dynamicText bound)], false⟩
  | .comment value, _ => do
    return ⟨[← Walk.emit (Emit.comment value)], false⟩
  | .bare position, _ => throw (.compile ⟨.unsupportedNode, config.name, position⟩)
  | .element e children, locals =>
    if e.isFragment then lowerFragment config e (lowerAll config children) locals
    else lowerElement config e true (lowerAll config children) locals
  | .chain members, locals => do
    return ⟨[.starred (← lowerChain config members locals)], false⟩
  | .stray [], _ => return .empty
  | .stray (b :: _), _ =>
    match b with
    | .element e _ =>
      let label := (e.branchKind?.map BranchKind.label).getD ""
      throw (.compile ⟨.strayBranch label, config.name, e.position⟩)
    | _ => return .empty

def lowerAll (config : Config) : List Block → Siblings
  | [], _ => return .empty
  | b :: bs, locals => do
    let first ← lower config b locals
    return first.append (← lowerAll config bs locals)

/-- The members of a chain: each further branch stands where the one before it does not hold, and
nothing stands after the last. -/
def lowerChain (config : Config) : List Block → List String → WalkM Expr
  | .element e children :: rest, locals => do
    if e.branchKind? = some .fallback then
      lowerBranch config e (lowerAll config children) locals
    else
      Walk.push .conditional
      let body ← lowerBranch config e (lowerAll config children) locals
      let otherwise ← lowerChain config rest locals
      applyIf config e body locals otherwise
  | _, _ => return .list []

end

/-- The expression for a whole template: the list of what its root holds. -/
def lowerRoot (config : Config) (children : List Node) : WalkM Expr := do
  package (← lowerAll config (Block.arrange (Block.ofNodes children)) [])

end TemplateCompiler.Generate
