import TemplateCompiler.Template.Description

/-!
The objects that modules hold, and their attributes. Records have their fields as attributes, numbers
their parts, template nodes whatever they were built from.
-/

namespace TemplateCompiler.Load

open TemplateCompiler.Code TemplateCompiler.Template

inductive Entity where
  | node (node : Node)
  | data (value : Data)
  /-- A function without parameters that gives an entity. -/
  | callable (result : Entity)
  /-- The function that sanitizes attribute values. -/
  | sanitizer
  | list (items : List Entity)
  | dict (keys : List String) (values : List Entity)
  /-- Any other object, with the name of its type and its attributes. -/
  | object (typeName : String) (names : List String) (values : List Entity)

namespace Entity

instance : Inhabited Entity := ⟨data .null⟩

def none : Entity := data .null

def text (s : String) : Entity := data (.text s)

def int (n : Int) : Entity := data (.int n)

def bool (b : Bool) : Entity := data (.bool b)

def ofType (typeName : String) : Entity := object typeName [] []

def record (typeName : String) (fields : List (String × Entity)) : Entity :=
  object typeName (fields.map Prod.fst) (fields.map Prod.snd)

def ofTable {α : Type} (f : α → Entity) (t : Table α) : Entity := dict t.keys (t.values.map f)

/-- An entity that may be missing. -/
def ofOption {α : Type} (f : α → Entity) (o : Option α) : Entity := (o.map f).getD none

def ofExpr (e : Expr) : Entity := ofType e.kindName

def typeName : Entity → String
  | node (.text ..) | node (.dynamicText ..) => "IRText"
  | node (.comment ..) => "IRComment"
  | node (.bare _) => "IRNode"
  | node (.element e _) => e.kind.label
  | data .null => "NoneType"
  | data (.bool _) => "bool"
  | data (.int _) => "int"
  | data (.float ..) => "float"
  | data (.text _) => "str"
  | data (.list _) | list _ => "list"
  | data (.record ..) => "Obj"
  | callable _ | sanitizer => "function"
  | dict .. => "dict"
  | object name _ _ => name

end Entity

/-- The parts of a whole number, taken as a fraction and as a complex number. -/
def wholePart? (n : Int) : String → Option Int
  | "real" | "numerator" => some n
  | "imag" => some 0
  | "denominator" => some 1
  | _ => none

def dataAttribute? (value : Data) (name : String) : Option Entity :=
  match value with
  | .bool b => (wholePart? (if b then 1 else 0) name).map .int
  | .int n => (wholePart? n name).map .int
  | .float negative magnitude =>
    match name with
    | "real" => some (.data (.float negative magnitude))
    | "imag" => some (.data (.float false (.finite 0 0)))
    | _ => none
  | .record names values =>
    match (List.zip names values).lookup name with
    | some v => some (.data v)
    | none => if name = "__dict__" then some (.dict names (values.map .data)) else none
  | _ => none

def attributeEntity (a : Attribute) : Entity :=
  let (label, member, value) := match a.value with
    | .expression e => ("expression", "EXPRESSION", Entity.ofOption .ofExpr e)
    | .text s => ("string", "STRING", .text s)
    | .flag value => ("boolean", "BOOLEAN", .data value)
  .record "IRAttribute" [("name", .text a.name), ("value", value),
    ("type", .record "AttributeType" [("value", .text label), ("name", .text member)])]

def branchEntity (b : Branch) : Entity :=
  .record "IfDirective" [("test", .ofOption .ofExpr b.test), ("modifier", .text b.modifier.label),
    ("kind", .text b.kind.label)]

def forEachEntity (f : ForEach) : Entity :=
  .record "ForEach" [("expression", .ofExpr f.items), ("item", .text f.item),
    ("index", .ofOption .text f.index)]

def forOfEntity (f : ForOf) : Entity :=
  .record "ForOf" [("expression", .ofExpr f.items), ("iterator", .text f.iterator)]

def positionAttributes (p : Position) : List (String × Entity) :=
  [("line", .int p.line), ("column", .int p.column)]

def kindAttributes : ElementKind → List (String × Entity)
  | .plain => []
  | .component reference => [("component", .text reference)]
  | .slot name => [("slot_name", .text name)]

def nodeAttributes : Node → List (String × Entity)
  | .text p value => ("value", .text value) :: positionAttributes p
  | .dynamicText p value => ("value", .ofExpr value) :: positionAttributes p
  | .comment p value => ("value", .text value) :: positionAttributes p
  | .bare p => positionAttributes p
  | .element e children =>
    [("tag", .text e.tag), ("namespace", .text e.namespaceName),
      ("children", .list (children.map .node)), ("attrs", .ofTable attributeEntity e.attrs),
      ("props", .ofTable attributeEntity e.props), ("on", .ofTable .ofExpr e.handlers),
      ("class_name", .ofOption .ofExpr e.className), ("class_map", .ofTable .bool e.classMap),
      ("style", .ofOption .ofExpr e.style), ("style_map", .ofTable .text e.styleMap),
      ("if_", .ofOption branchEntity e.branch), ("for_each", .ofOption forEachEntity e.forEach),
      ("for_of", .ofOption forOfEntity e.forOf), ("for_key", .ofOption .ofExpr e.key),
      ("dynamic", .ofOption .ofExpr e.dynamic), ("dom", .ofOption .text e.dom),
      ("is_template", .bool e.isFragment), ("has_iteration", .bool e.iterates)] ++
      kindAttributes e.kind ++ positionAttributes e.position

def ownAttribute? (e : Entity) (name : String) : Option Entity :=
  match e with
  | .data value => dataAttribute? value name
  | .node n => (nodeAttributes n).lookup name
  | .object _ names values => (List.zip names values).lookup name
  | _ => none

def typeEntity (name : String) : Entity := .record "type" [("__name__", .text name)]

/-- An attribute of an entity. Every entity has its type as an attribute. -/
def Entity.attribute? (e : Entity) (name : String) : Option Entity :=
  ownAttribute? e name <|> if name = "__class__" then some (typeEntity e.typeName) else Option.none

end TemplateCompiler.Load
