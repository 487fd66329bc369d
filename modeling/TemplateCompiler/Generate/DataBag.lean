import TemplateCompiler.Generate.Walk
import TemplateCompiler.Template.AttributeRules
import TemplateCompiler.Text.LetterCase

/-!
The data of an element: a record of its classes, styles, attributes, properties, key and handlers, in a
fixed order. Attributes that name elements, link into the same document or are boolean get special
values.
-/

namespace TemplateCompiler.Generate

open TemplateCompiler.Code TemplateCompiler.Template TemplateCompiler.Text

/-- The value of an attribute that is an expression, once it is bound. -/
def expressionAttribute (config : Config) (e : Element) (name : String) (asAttribute : Bool)
    (bound : Expr) : EmitM Expr := do
  if asAttribute && isBooleanAttribute name e.tag then return Emit.booleanAttribute bound
  else if name = "tabindex" then Emit.tabIndex bound
  else if name = "id" || isIdReferencingAttribute name then Emit.scopedId bound
  else if config.scopeFragments.truthy && allowsFragmentUrl e.tag name e.namespaceName then
    Emit.scopedFragment bound
  else if isSvgUseReference e.tag name e.namespaceName then
    Emit.sanitizeAttribute e.tag e.namespaceName name (← Emit.scopedFragment bound)
  else return bound

def textAttribute (config : Config) (e : Element) (name : String) (asAttribute : Bool)
    (value : String) : EmitM Expr := do
  if name = "id" then Emit.scopedId (.str value)
  else if name = "spellcheck" then return .bool (lowerText value != "false")
  else if !asAttribute && isBooleanAttribute name e.tag then return .bool true
  else if isIdReferencingAttribute name then Emit.scopedId (.str value)
  else if config.scopeFragments.truthy && allowsFragmentUrl e.tag name e.namespaceName &&
      isFragmentOnlyUrl value then
    Emit.scopedFragment (.str value)
  else if isSvgUseReference e.tag name e.namespaceName then
    let reference ←
      if isFragmentOnlyUrl value then Emit.scopedFragment (.str value) else pure (.str value)
    Emit.sanitizeAttribute e.tag e.namespaceName name reference
  else return .str value

/-- The value of an attribute or property. A boolean attribute is present as an empty text. -/
def attributeValue (config : Config) (e : Element) (locals : List String) (asAttribute : Bool)
    (a : Attribute) : WalkM Expr :=
  match a.value with
  | .expression none => throw .missingPart
  | .expression (some value) => do
    let bound ← Walk.bindExpr locals value
    Walk.emit (expressionAttribute config e a.name asAttribute bound)
  | .text value => Walk.emit (textAttribute config e a.name asAttribute value)
  | .flag value => return if asAttribute then .str "" else value.toExpr

/-- Values for all entries of a table, one after the other. -/
def mapEntries {α : Type} (f : α → WalkM Expr) :
    List (String × α) → WalkM (List (String × Expr))
  | [] => return []
  | (name, value) :: rest => do
    let value ← f value
    return (name, value) :: (← mapEntries f rest)

/-- A handler that is a bare property read outside all iterations is bound once for each component. -/
def handlerValue (locals : List String) (handler : Expr) : WalkM Expr := do
  let bound ← Walk.bindExpr locals handler
  if bound.isPlaceholder && !(← Walk.inIteration) then Walk.emit (Emit.memoizedHandler bound)
  else Walk.emit (Emit.bind bound)

def tableEntry {α : Type} (name : String) (t : Table α) (f : α → WalkM Expr) :
    WalkM (List (String × Expr)) := do
  if t.isEmpty then return []
  else return [(name, .record (← mapEntries f t.entries))]

/-- An entry for an expression that may be left out. -/
def boundEntry (name : String) (locals : List String) (e : Option Expr) :
    WalkM (List (String × Expr)) := do
  match e with
  | none => return []
  | some e => return [(name, ← Walk.bindExpr locals e)]

/-- The key of an element: its number, together with its key expression if it has one. -/
def keyValue (locals : List String) (key : Option Expr) : WalkM Expr := do
  match key with
  | none => return .nat (← Walk.takeKey)
  | some key =>
    let bound ← Walk.bindExpr locals key
    let number ← Walk.takeKey
    Walk.emit (Emit.key number bound)

/-- The entry that says how the content of an element is managed. -/
def domEntry : Option String → List (String × Expr)
  | none | some "" => []
  | some dom => [("context", .record [("lwc", .record [("dom", .str dom)])])]

def dataBag (config : Config) (e : Element) (locals : List String) : WalkM Expr := do
  let className ← boundEntry "className" locals e.className
  let classMap ← tableEntry "classMap" e.classMap fun _ => return .bool true
  let styleMap ← tableEntry "styleMap" e.styleMap fun value => return .str value
  let style ← boundEntry "style" locals e.style
  let attrs ← tableEntry "attrs" e.attrs (attributeValue config e locals true)
  let props ← tableEntry "props" e.props (attributeValue config e locals false)
  let key ← keyValue locals e.key
  let handlers ← tableEntry "on" e.handlers (handlerValue locals)
  return .record (className ++ classMap ++ styleMap ++ style ++ attrs ++ props ++ domEntry e.dom ++
    [("key", key)] ++ handlers)

end TemplateCompiler.Generate
