import TemplateCompiler.Code.Constant

/-!
Expressions of the language that templates are written in and compiled to.

A property read of the component whose place is not decided yet is a `Placeholder`. It names the scope
that recorded the read, the property, the local name the scope would give it, and how many reads of
that property the scope had recorded before. A name that generated code introduces itself is `own`, to
tell it from the names that a template is written with.

`Expr` is one type for every node that can stand inside an expression. Parts that may be left out are
`absent`; keyword arguments, comprehension clauses and the fields of a formatted string are nodes of
their own. All nesting goes through `List Expr`.
-/

namespace TemplateCompiler.Code

/-- A recorded, undecided read of a component property. -/
structure Placeholder where
  scope : Nat
  property : String
  localName : String
  index : Nat
  deriving DecidableEq, Repr

inductive UnaryOp where
  | invert
  | not
  | plus
  | minus
  deriving DecidableEq, Repr

inductive BinaryOp where
  | add
  | sub
  | mul
  | matMul
  | div
  | mod
  | shiftLeft
  | shiftRight
  | bitOr
  | bitXor
  | bitAnd
  | floorDiv
  | pow
  deriving DecidableEq, Repr

inductive LogicalOp where
  | and
  | or
  deriving DecidableEq, Repr

inductive CompareOp where
  | eq
  | notEq
  | lt
  | ltEq
  | gt
  | gtEq
  | same
  | notSame
  | within
  | notWithin
  deriving DecidableEq, Repr

/-- The form of a comprehension that yields single values. -/
inductive Comprehension where
  | list
  | set
  | generator
  deriving DecidableEq, Repr

/-- The parameters of an anonymous function, without their defaults. -/
structure Parameters where
  positionalOnly : List String
  positional : List String
  rest : Option String
  keywordOnly : List String
  keywordRest : Option String
  deriving DecidableEq, Repr

def Parameters.names (p : Parameters) : List String :=
  p.positionalOnly ++ p.positional ++ p.keywordOnly ++ p.rest.toList ++ p.keywordRest.toList

inductive Conversion where
  | str
  | repr
  | ascii
  deriving DecidableEq, Repr

inductive Expr where
  /-- Stands where an optional part is left out. -/
  | absent
  | name (id : String)
  /-- A name that generated code introduces. -/
  | own (id : String)
  | placeholder (read : Placeholder)
  | constant (value : Constant)
  | member (base : Expr) (attr : String)
  | subscript (base index : Expr)
  | slice (lower upper step : Expr)
  /-- `keywords` holds `keyword` nodes; they follow all the positional arguments. -/
  | call (callee : Expr) (args keywords : List Expr)
  /-- A keyword argument, or with no name a spread mapping. -/
  | keyword (param : Option String) (value : Expr)
  | starred (value : Expr)
  | unary (op : UnaryOp) (operand : Expr)
  | binary (op : BinaryOp) (left right : Expr)
  | logical (op : LogicalOp) (operands : List Expr)
  | compare (first : Expr) (ops : List CompareOp) (rest : List Expr)
  | conditional (test body orelse : Expr)
  /-- `keywordDefaults` has an entry for each keyword-only parameter, perhaps `absent`; `defaults`
  belongs to the last positional parameters. -/
  | lambda (params : Parameters) (keywordDefaults defaults : List Expr) (body : Expr)
  | tuple (items : List Expr)
  | list (items : List Expr)
  | set (items : List Expr)
  /-- An `absent` key spreads its value. -/
  | dict (keys values : List Expr)
  | comprehension (form : Comprehension) (element : Expr) (clauses : List Expr)
  | dictComprehension (key value : Expr) (clauses : List Expr)
  /-- One `for` of a comprehension, with its conditions. -/
  | clause (isAsync : Bool) (target iterable : Expr) (conditions : List Expr)
  | named (target : String) (value : Expr)
  | await (value : Expr)
  | yield (value : Expr)
  | yieldFrom (value : Expr)
  /-- A formatted string: text constants and `field` nodes. -/
  | joined (parts : List Expr)
  /-- A replacement field; `spec` is `joined` or `absent`. -/
  | field (value : Expr) (conversion : Option Conversion) (spec : Expr)
  deriving Repr

namespace Expr

instance : Inhabited Expr := ⟨absent⟩

def str (s : String) : Expr := constant (.str s)

def nat (n : Nat) : Expr := constant (.int n)

def none : Expr := constant .none

def bool (b : Bool) : Expr := constant (.bool b)

def apply (callee : Expr) (args : List Expr) : Expr := call callee args []

/-- The name of an expression's kind. Parts that are no expressions of their own have none. -/
def kindName : Expr → String
  | name _ | own _ => "Name"
  | constant _ => "Constant"
  | binary .. => "BinOp"
  | unary .. => "UnaryOp"
  | logical .. => "BoolOp"
  | compare .. => "Compare"
  | call .. => "Call"
  | member .. => "Attribute"
  | subscript .. => "Subscript"
  | conditional .. => "IfExp"
  | lambda .. => "Lambda"
  | tuple .. => "Tuple"
  | list .. => "List"
  | dict .. => "Dict"
  | set .. => "Set"
  | comprehension .list .. => "ListComp"
  | comprehension .set .. => "SetComp"
  | comprehension .generator .. => "GeneratorExp"
  | dictComprehension .. => "DictComp"
  | named .. => "NamedExpr"
  | yield .. => "Yield"
  | yieldFrom .. => "YieldFrom"
  | await .. => "Await"
  | joined .. => "JoinedStr"
  | _ => ""

def record (entries : List (String × Expr)) : Expr :=
  dict (entries.map fun e => str e.1) (entries.map Prod.snd)

def isStarred : Expr → Bool
  | starred _ => true
  | _ => false

def isPlaceholder : Expr → Bool
  | placeholder _ => true
  | _ => false

mutual

def substitute (f : Placeholder → Expr) : Expr → Expr
  | absent => absent
  | name id => name id
  | own id => own id
  | placeholder read => f read
  | constant value => constant value
  | member base attr => member (base.substitute f) attr
  | subscript base index => subscript (base.substitute f) (index.substitute f)
  | slice lower upper step => slice (lower.substitute f) (upper.substitute f) (step.substitute f)
  | call callee args keywords =>
    call (callee.substitute f) (substituteAll f args) (substituteAll f keywords)
  | keyword param value => keyword param (value.substitute f)
  | starred value => starred (value.substitute f)
  | unary op operand => unary op (operand.substitute f)
  | binary op left right => binary op (left.substitute f) (right.substitute f)
  | logical op operands => logical op (substituteAll f operands)
  | compare first ops rest => compare (first.substitute f) ops (substituteAll f rest)
  | conditional test body orelse =>
    conditional (test.substitute f) (body.substitute f) (orelse.substitute f)
  | lambda params keywordDefaults defaults body =>
    lambda params (substituteAll f keywordDefaults) (substituteAll f defaults) (body.substitute f)
  | tuple items => tuple (substituteAll f items)
  | list items => list (substituteAll f items)
  | set items => set (substituteAll f items)
  | dict keys values => dict (substituteAll f keys) (substituteAll f values)
  | comprehension form element clauses =>
    comprehension form (element.substitute f) (substituteAll f clauses)
  | dictComprehension key value clauses =>
    dictComprehension (key.substitute f) (value.substitute f) (substituteAll f clauses)
  | clause isAsync target iterable conditions =>
    clause isAsync (target.substitute f) (iterable.substitute f) (substituteAll f conditions)
  | named target value => named target (value.substitute f)
  | await value => await (value.substitute f)
  | yield value => yield (value.substitute f)
  | yieldFrom value => yieldFrom (value.substitute f)
  | joined parts => joined (substituteAll f parts)
  | field value conversion spec => field (value.substitute f) conversion (spec.substitute f)

def substituteAll (f : Placeholder → Expr) : List Expr → List Expr
  | [] => []
  | e :: es => e.substitute f :: substituteAll f es

end

mutual

/-- Every placeholder, from left to right in the order of the parts of a node. -/
def placeholders : Expr → List Placeholder
  | placeholder read => [read]
  | absent | name _ | own _ | constant _ => []
  | member base _ => base.placeholders
  | subscript base index => base.placeholders ++ index.placeholders
  | slice lower upper step => lower.placeholders ++ upper.placeholders ++ step.placeholders
  | call callee args keywords =>
    callee.placeholders ++ placeholdersAll args ++ placeholdersAll keywords
  | keyword _ value => value.placeholders
  | starred value => value.placeholders
  | unary _ operand => operand.placeholders
  | binary _ left right => left.placeholders ++ right.placeholders
  | logical _ operands => placeholdersAll operands
  | compare first _ rest => first.placeholders ++ placeholdersAll rest
  | conditional test body orelse => test.placeholders ++ body.placeholders ++ orelse.placeholders
  | lambda _ keywordDefaults defaults body =>
    placeholdersAll keywordDefaults ++ placeholdersAll defaults ++ body.placeholders
  | tuple items => placeholdersAll items
  | list items => placeholdersAll items
  | set items => placeholdersAll items
  | dict keys values => placeholdersAll keys ++ placeholdersAll values
  | comprehension _ element clauses => element.placeholders ++ placeholdersAll clauses
  | dictComprehension key value clauses =>
    key.placeholders ++ value.placeholders ++ placeholdersAll clauses
  | clause _ target iterable conditions =>
    target.placeholders ++ iterable.placeholders ++ placeholdersAll conditions
  | named _ value => value.placeholders
  | await value => value.placeholders
  | yield value => value.placeholders
  | yieldFrom value => value.placeholders
  | joined parts => placeholdersAll parts
  | field value _ spec => value.placeholders ++ spec.placeholders

def placeholdersAll : List Expr → List Placeholder
  | [] => []
  | e :: es => e.placeholders ++ placeholdersAll es

end

mutual

/-- Every name that occurs, whether it is read or bound there. -/
def names : Expr → List String
  | name id | own id => [id]
  | absent | placeholder _ | constant _ => []
  | member base _ => base.names
  | subscript base index => base.names ++ index.names
  | slice lower upper step => lower.names ++ upper.names ++ step.names
  | call callee args keywords => callee.names ++ namesAll args ++ namesAll keywords
  | keyword _ value => value.names
  | starred value => value.names
  | unary _ operand => operand.names
  | binary _ left right => left.names ++ right.names
  | logical _ operands => namesAll operands
  | compare first _ rest => first.names ++ namesAll rest
  | conditional test body orelse => test.names ++ body.names ++ orelse.names
  | lambda _ keywordDefaults defaults body =>
    namesAll keywordDefaults ++ namesAll defaults ++ body.names
  | tuple items => namesAll items
  | list items => namesAll items
  | set items => namesAll items
  | dict keys values => namesAll keys ++ namesAll values
  | comprehension _ element clauses => element.names ++ namesAll clauses
  | dictComprehension key value clauses => key.names ++ value.names ++ namesAll clauses
  | clause _ target iterable conditions => target.names ++ iterable.names ++ namesAll conditions
  | named target value => target :: value.names
  | await value => value.names
  | yield value => value.names
  | yieldFrom value => value.names
  | joined parts => namesAll parts
  | field value _ spec => value.names ++ spec.names

def namesAll : List Expr → List String
  | [] => []
  | e :: es => e.names ++ namesAll es

end

mutual

/-- The expression as a template writes it: undecided reads and names of generated code are plain
names. Nothing changes in an expression that was read from a source. -/
def asWritten : Expr → Expr
  | absent => absent
  | name id => name id
  | own id => name id
  | placeholder read => name read.property
  | constant value => constant value
  | member base attr => member base.asWritten attr
  | subscript base index => subscript base.asWritten index.asWritten
  | slice lower upper step => slice lower.asWritten upper.asWritten step.asWritten
  | call callee args keywords => call callee.asWritten (asWrittenAll args) (asWrittenAll keywords)
  | keyword param value => keyword param value.asWritten
  | starred value => starred value.asWritten
  | unary op operand => unary op operand.asWritten
  | binary op left right => binary op left.asWritten right.asWritten
  | logical op operands => logical op (asWrittenAll operands)
  | compare first ops rest => compare first.asWritten ops (asWrittenAll rest)
  | conditional test body orelse => conditional test.asWritten body.asWritten orelse.asWritten
  | lambda params keywordDefaults defaults body =>
    lambda params (asWrittenAll keywordDefaults) (asWrittenAll defaults) body.asWritten
  | tuple items => tuple (asWrittenAll items)
  | list items => list (asWrittenAll items)
  | set items => set (asWrittenAll items)
  | dict keys values => dict (asWrittenAll keys) (asWrittenAll values)
  | comprehension form element clauses =>
    comprehension form element.asWritten (asWrittenAll clauses)
  | dictComprehension key value clauses =>
    dictComprehension key.asWritten value.asWritten (asWrittenAll clauses)
  | clause isAsync target iterable conditions =>
    clause isAsync target.asWritten iterable.asWritten (asWrittenAll conditions)
  | named target value => named target value.asWritten
  | await value => await value.asWritten
  | yield value => yield value.asWritten
  | yieldFrom value => yieldFrom value.asWritten
  | joined parts => joined (asWrittenAll parts)
  | field value conversion spec => field value.asWritten conversion spec.asWritten

def asWrittenAll : List Expr → List Expr
  | [] => []
  | e :: es => e.asWritten :: asWrittenAll es

end

@[simp] theorem substituteAll_eq_map (f : Placeholder → Expr) (es : List Expr) :
    substituteAll f es = es.map (substitute f) := by
  induction es with
  | nil => simp [substituteAll]
  | cons e es ih => simp [substituteAll, ih]

@[simp] theorem placeholdersAll_eq_flatMap (es : List Expr) :
    placeholdersAll es = es.flatMap placeholders := by
  induction es with
  | nil => simp [placeholdersAll]
  | cons e es ih => simp [placeholdersAll, ih]

@[simp] theorem namesAll_eq_flatMap (es : List Expr) : namesAll es = es.flatMap names := by
  induction es with
  | nil => simp [namesAll]
  | cons e es ih => simp [namesAll, ih]

@[simp] theorem asWrittenAll_eq_map (es : List Expr) : asWrittenAll es = es.map asWritten := by
  induction es with
  | nil => simp [asWrittenAll]
  | cons e es ih => simp [asWrittenAll, ih]

end Expr

end TemplateCompiler.Code
