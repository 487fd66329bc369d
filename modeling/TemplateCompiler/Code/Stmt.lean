import TemplateCompiler.Code.Print

/-!
Statements of generated code and their text. Bodies are indented by four blanks. An empty line stands
before a function definition unless it is the first thing in the text.
-/

namespace TemplateCompiler.Code

/-- The parameters of a generated function: names, and perhaps one that takes all further arguments. -/
structure Signature where
  params : List String
  rest : Option String
  deriving DecidableEq, Repr

namespace Signature

def text (s : Signature) : String := commas (s.params ++ s.rest.toList.map ("*" ++ ·))

def names (s : Signature) : List String := s.params ++ s.rest.toList

end Signature

inductive Stmt where
  | assign (target value : Expr)
  | ret (value : Expr)
  | expr (value : Expr)
  /-- Names of a module, each perhaps under another name. -/
  | importFrom (moduleName : String) (names : List (String × Option String))
  | function (name : String) (signature : Signature) (body : List Stmt)
  deriving Repr

namespace Stmt

/-- Binds several names at once: one name by a plain assignment, more through a tuple. -/
def destructure (bindings : List (String × Expr)) : Stmt :=
  match bindings with
  | [(target, value)] => assign (.own target) value
  | _ => assign (.tuple (bindings.map fun b => .own b.1)) (.tuple (bindings.map Prod.snd))

def importedText : String × Option String → String
  | (name, none) => name
  | (name, some other) => name ++ " as " ++ other

mutual

/-- The lines of a statement; a function definition starts with an empty line. -/
def lines : Stmt → Except Unprintable (List String)
  | assign target value => do
    let target ← target.print false .tuple
    let value ← value.print false .test
    return [target ++ " = " ++ value]
  | ret value => do
    let value ← value.print false .test
    return ["return " ++ value]
  | expr value => do
    let value ← value.print false .yield
    return [value]
  | importFrom moduleName names =>
    return ["from " ++ moduleName ++ " import " ++ commas (names.map importedText)]
  | function name signature body => do
    let body ← linesAll body
    let indented := body.map fun line => if line.isEmpty then "" else "    " ++ line
    return "" :: ("def " ++ name ++ "(" ++ signature.text ++ "):") :: indented

def linesAll : List Stmt → Except Unprintable (List String)
  | [] => .ok []
  | s :: rest => do
    let first ← s.lines
    let others ← linesAll rest
    return first ++ others

end

def text (stmts : List Stmt) : Except Unprintable String := do
  match ← linesAll stmts with
  | "" :: lines => return "\n".intercalate lines
  | lines => return "\n".intercalate lines

end Stmt

end TemplateCompiler.Code
