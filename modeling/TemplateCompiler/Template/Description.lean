import TemplateCompiler.Template.Node

/-!
Short descriptions of the parts of a template, one line each.
-/

namespace TemplateCompiler.Template

open TemplateCompiler.Text

/-- How many characters of a text a description shows. -/
def shownLength : Nat := 30

def Attribute.description (a : Attribute) : String :=
  let type := match a.value with
    | .expression _ => "expression"
    | .text _ => "string"
    | .flag _ => "boolean"
  "IRAttribute(name=" ++ a.name ++ ", type=" ++ type ++ ")"

def Branch.description (b : Branch) : String :=
  "IfDirective(kind=" ++ b.kind.label ++ ", modifier=" ++ b.modifier.label ++ ")"

def ForEach.description (f : ForEach) : String :=
  "ForEach(item=" ++ f.item ++ ", index=" ++ f.index.getD "None" ++ ")"

def ForOf.description (f : ForOf) : String := "ForOf(iterator=" ++ f.iterator ++ ")"

def Position.description (p : Position) : String :=
  "line=" ++ toString p.line ++ ", column=" ++ toString p.column

def ElementKind.label : ElementKind → String
  | plain => "IRElement"
  | component _ => "IRComponent"
  | slot _ => "IRSlot"

def Node.description : Node → String
  | .text _ value => "IRText(text=" ++ String.ofList (value.toList.take shownLength) ++ ")"
  | .dynamicText _ _ => "IRText(expression)"
  | .comment position value =>
    "IRComment(" ++ position.description ++ ", value=" ++ quote (.ofString value) ++ ")"
  | .bare position => "IRNode(" ++ position.description ++ ")"
  | .element e children =>
    e.kind.label ++ "(tag=" ++ e.tag ++ ", attrs=" ++ toString e.attrs.size ++ ", props=" ++
      toString e.props.size ++ ", children=" ++ toString children.length ++ ")"

def Element.partDescriptions (e : Element) : List String :=
  e.branch.toList.map Branch.description ++ e.forEach.toList.map ForEach.description ++
    e.forOf.toList.map ForOf.description ++ e.attrs.values.map Attribute.description ++
    e.props.values.map Attribute.description

end TemplateCompiler.Template
