import TemplateCompiler.Directory
import TemplateCompiler.Text.Identifier
import TemplateCompiler.Text.NormalForm

/-!
Scripts of assignments. Names are taken in their normal form, so that two spellings of a name are one
variable, and the last assignment to a variable counts.
-/

namespace TemplateCompiler

open TemplateCompiler.Text

inductive ScriptFault where
  /-- A line starts with a blank. -/
  | indented
  /-- The target of an assignment is no name. -/
  | badTarget
  deriving DecidableEq, Repr

def variableOf (target : String) : Except ScriptFault String :=
  let cs := target.toList
  match cs with
  | [] | ' ' :: _ | '\t' :: _ => .error .indented
  | _ =>
    if !isIdentifierChars cs || isKeyword target || target == "__debug__" then .error .badTarget
    else .ok (String.ofList (normalName cs))

def variablesOf (assignments : Table Data) : Except ScriptFault (Table Data) := do
  let pairs ← assignments.entries.mapM fun (target, value) => return (← variableOf target, value)
  return .ofList pairs

end TemplateCompiler
