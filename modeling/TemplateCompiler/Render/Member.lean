import TemplateCompiler.Render.Value

/-!
The functions that values carry as attributes. They are known by name: reading one gives a value that is
true, has no length and is no number.
-/

namespace TemplateCompiler.Render

def commonMembers : List String :=
  ["__delattr__", "__dir__", "__eq__", "__format__", "__ge__", "__getattribute__", "__getstate__",
    "__gt__", "__hash__", "__init__", "__init_subclass__", "__le__", "__lt__", "__ne__", "__new__",
    "__reduce__", "__reduce_ex__", "__repr__", "__setattr__", "__sizeof__", "__str__",
    "__subclasshook__"]

def numberMembers : List String :=
  ["__abs__", "__add__", "__bool__", "__ceil__", "__divmod__", "__float__", "__floor__",
    "__floordiv__", "__getnewargs__", "__int__", "__mod__", "__mul__", "__neg__", "__pos__", "__pow__",
    "__radd__", "__rdivmod__", "__rfloordiv__", "__rmod__", "__rmul__", "__round__", "__rpow__",
    "__rsub__", "__rtruediv__", "__sub__", "__truediv__", "__trunc__", "as_integer_ratio",
    "conjugate"]

def wholeMembers : List String :=
  ["__and__", "__index__", "__invert__", "__lshift__", "__or__", "__rand__", "__rlshift__", "__ror__",
    "__rrshift__", "__rshift__", "__rxor__", "__xor__", "bit_count", "bit_length", "from_bytes",
    "to_bytes"]

def fractionMembers : List String := ["__getformat__", "fromhex", "hex", "is_integer"]

def sequenceMembers : List String :=
  ["__add__", "__contains__", "__getitem__", "__iter__", "__len__", "__mul__", "__rmul__", "count",
    "index"]

def textMembers : List String :=
  ["__getnewargs__", "__mod__", "__rmod__", "capitalize", "casefold", "center", "encode", "endswith",
    "expandtabs", "find", "format", "format_map", "isalnum", "isalpha", "isascii", "isdecimal",
    "isdigit", "isidentifier", "islower", "isnumeric", "isprintable", "isspace", "istitle", "isupper",
    "join", "ljust", "lower", "lstrip", "maketrans", "partition", "removeprefix", "removesuffix",
    "replace", "rfind", "rindex", "rjust", "rpartition", "rsplit", "rstrip", "split", "splitlines",
    "startswith", "strip", "swapcase", "title", "translate", "upper", "zfill"]

def listMembers : List String :=
  ["__class_getitem__", "__delitem__", "__iadd__", "__imul__", "__reversed__", "__setitem__", "append",
    "clear", "copy", "extend", "insert", "pop", "remove", "reverse", "sort"]

def mappingMembers : List String :=
  ["__class_getitem__", "__contains__", "__delitem__", "__getitem__", "__ior__", "__iter__", "__len__",
    "__or__", "__reversed__", "__ror__", "__setitem__", "clear", "copy", "fromkeys", "get", "items",
    "keys", "pop", "popitem", "setdefault", "update", "values"]

namespace Value

def members : Value → List String
  | none => "__bool__" :: commonMembers
  | bool _ | int .. => wholeMembers ++ numberMembers ++ commonMembers
  | float .. => fractionMembers ++ numberMembers ++ commonMembers
  | text .. => textMembers ++ sequenceMembers ++ commonMembers
  | list .. => listMembers ++ sequenceMembers ++ commonMembers
  | tuple .. => ["__class_getitem__", "__getnewargs__"] ++ sequenceMembers ++ commonMembers
  | dict .. => mappingMembers ++ commonMembers
  | _ => commonMembers

def typeName : Value → String
  | none => "NoneType"
  | bool _ => "bool"
  | int .. => "int"
  | float .. => "float"
  | text .. => "str"
  | list .. => "list"
  | tuple .. => "tuple"
  | dict .. => "dict"
  | object _ _ (.given _) => "Obj"
  | object .. => "SimpleNamespace"
  | _ => "builtin_function_or_method"

/-- Values that may change have no hash function. -/
def isHashed : Value → Bool
  | list .. | dict .. => false
  | _ => true

/-- An attribute that does not depend on the contents of a value: its type or one of its functions. -/
def member? (v : Value) (attr : String) : Option Value :=
  if attr = "__class__" then some (builtin v.typeName)
  else if attr = "__hash__" && !v.isHashed then some none
  else if v.members.contains attr then some (method attr)
  else Option.none

@[simp] theorem member?_class (v : Value) : v.member? "__class__" = some (builtin v.typeName) := rfl

end Value

end TemplateCompiler.Render
