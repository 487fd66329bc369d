import TemplateCompiler.Scope.Usage

/-!
Binding an expression to the component. Every name that is not local becomes a recorded property read.
Parameters of anonymous functions and targets of comprehensions are local in the whole of their
expression. A call keeps the built-in functions that it names as its callee or directly as arguments.
-/

namespace TemplateCompiler.Scope

open TemplateCompiler.Code

def builtinNames : List String :=
  ["ArithmeticError", "AssertionError", "AttributeError", "BaseException", "BaseExceptionGroup",
    "BlockingIOError", "BrokenPipeError", "BufferError", "BytesWarning", "ChildProcessError",
    "ConnectionAbortedError", "ConnectionError", "ConnectionRefusedError", "ConnectionResetError",
    "DeprecationWarning", "EOFError", "Ellipsis", "EncodingWarning", "EnvironmentError", "Exception",
    "ExceptionGroup", "False", "FileExistsError", "FileNotFoundError", "FloatingPointError",
    "FutureWarning", "GeneratorExit", "IOError", "ImportError", "ImportWarning", "IndentationError",
    "IndexError", "InterruptedError", "IsADirectoryError", "KeyError", "KeyboardInterrupt",
    "LookupError", "MemoryError", "ModuleNotFoundError", "NameError", "None", "NotADirectoryError",
    "NotImplemented", "NotImplementedError", "OSError", "OverflowError", "PendingDeprecationWarning",
    "PermissionError", "ProcessLookupError", "RecursionError", "ReferenceError", "ResourceWarning",
    "RuntimeError", "RuntimeWarning", "StopAsyncIteration", "StopIteration", "SyntaxError",
    "SyntaxWarning", "SystemError", "SystemExit", "TabError", "TimeoutError", "True", "TypeError",
    "UnboundLocalError", "UnicodeDecodeError", "UnicodeEncodeError", "UnicodeError",
    "UnicodeTranslateError", "UnicodeWarning", "UserWarning", "ValueError", "Warning",
    "ZeroDivisionError", "__build_class__", "__debug__", "__doc__", "__import__", "__loader__",
    "__name__", "__package__", "__spec__", "abs", "aiter", "all", "anext", "any", "ascii", "bin",
    "bool", "breakpoint", "bytearray", "bytes", "callable", "chr", "classmethod", "compile", "complex",
    "copyright", "credits", "delattr", "dict", "dir", "divmod", "enumerate", "eval", "exec", "exit",
    "filter", "float", "format", "frozenset", "getattr", "globals", "hasattr", "hash", "help", "hex",
    "id", "input", "int", "isinstance", "issubclass", "iter", "len", "license", "list", "locals",
    "map", "max", "memoryview", "min", "next", "object", "oct", "open", "ord", "pow", "print",
    "property", "quit", "range", "repr", "reversed", "round", "set", "setattr", "slice", "sorted",
    "staticmethod", "str", "sum", "super", "tuple", "type", "vars", "zip"]

/-- A name that a call leaves alone: built in and not local. -/
def isKeptName (locals : List String) : Expr → Bool
  | .name id => builtinNames.contains id && !locals.contains id
  | _ => false

def clauseNames : List Expr → List String
  | [] => []
  | .clause _ target _ _ :: rest => target.names ++ clauseNames rest
  | _ :: rest => clauseNames rest

abbrev BindM := StateM (List Usage)

def readProperty (scope : Nat) (property : String) : BindM Expr := fun usages =>
  let (read, usages) := recordRead scope property usages
  (.placeholder read, usages)

mutual

def bind (scope : Nat) (locals : List String) : Expr → BindM Expr
  | .name id => if locals.contains id then pure (.name id) else readProperty scope id
  | .absent => pure .absent
  | .own id => pure (.own id)
  | .placeholder read => pure (.placeholder read)
  | .constant value => pure (.constant value)
  | .member base attr => do
    return .member (← bind scope locals base) attr
  | .subscript base index => do
    let base ← bind scope locals base
    return .subscript base (← bind scope locals index)
  | .slice lower upper step => do
    let lower ← bind scope locals lower
    let upper ← bind scope locals upper
    return .slice lower upper (← bind scope locals step)
  | .call callee args keywords => do
    let callee ← if isKeptName locals callee then pure callee else bind scope locals callee
    let args ← bindArguments scope locals args
    return .call callee args (← bindArguments scope locals keywords)
  | .keyword param value => do
    return .keyword param (← bind scope locals value)
  | .starred value => do
    return .starred (← bind scope locals value)
  | .unary op operand => do
    return .unary op (← bind scope locals operand)
  | .binary op left right => do
    let left ← bind scope locals left
    return .binary op left (← bind scope locals right)
  | .logical op operands => do
    return .logical op (← bindAll scope locals operands)
  | .compare first ops rest => do
    let first ← bind scope locals first
    return .compare first ops (← bindAll scope locals rest)
  | .conditional test body orelse => do
    let test ← bind scope locals test
    let body ← bind scope locals body
    return .conditional test body (← bind scope locals orelse)
  | .lambda params keywordDefaults defaults body => do
    let locals := locals ++ params.names
    let keywordDefaults ← bindAll scope locals keywordDefaults
    let defaults ← bindAll scope locals defaults
    return .lambda params keywordDefaults defaults (← bind scope locals body)
  | .tuple items => do
    return .tuple (← bindAll scope locals items)
  | .list items => do
    return .list (← bindAll scope locals items)
  | .set items => do
    return .set (← bindAll scope locals items)
  | .dict keys values => do
    let keys ← bindAll scope locals keys
    return .dict keys (← bindAll scope locals values)
  | .comprehension form element clauses => do
    let locals := locals ++ clauseNames clauses
    let element ← bind scope locals element
    return .comprehension form element (← bindAll scope locals clauses)
  | .dictComprehension key value clauses => do
    let locals := locals ++ clauseNames clauses
    let key ← bind scope locals key
    let value ← bind scope locals value
    return .dictComprehension key value (← bindAll scope locals clauses)
  | .clause isAsync target iterable conditions => do
    let iterable ← bind scope locals iterable
    return .clause isAsync target iterable (← bindAll scope locals conditions)
  | .named target value => do
    return .named target (← bind scope locals value)
  | .await value => do
    return .await (← bind scope locals value)
  | .yield value => do
    return .yield (← bind scope locals value)
  | .yieldFrom value => do
    return .yieldFrom (← bind scope locals value)
  | .joined parts => do
    return .joined (← bindAll scope locals parts)
  | .field value conversion spec => do
    let value ← bind scope locals value
    return .field value conversion (← bind scope locals spec)

def bindAll (scope : Nat) (locals : List String) : List Expr → BindM (List Expr)
  | [] => pure []
  | e :: es => do
    let e ← bind scope locals e
    return e :: (← bindAll scope locals es)

/-- Binds the arguments of a call, but for built-in names. -/
def bindArguments (scope : Nat) (locals : List String) : List Expr → BindM (List Expr)
  | [] => pure []
  | .keyword param value :: es => do
    let value ← if isKeptName locals value then pure value else bind scope locals value
    return .keyword param value :: (← bindArguments scope locals es)
  | e :: es => do
    let e ← if isKeptName locals e then pure e else bind scope locals e
    return e :: (← bindArguments scope locals es)

end

end TemplateCompiler.Scope
