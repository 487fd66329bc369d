import TemplateCompiler.Code.Read
import TemplateCompiler.Error

/-!
Expressions as they stand in templates: read from their source, with an error that names the source and
the place of the node.
-/

namespace TemplateCompiler.Template

open TemplateCompiler.Code

def readExpression (source : String) (position : Position) : Except Failure Located :=
  match readExpr source with
  | .ok located => .ok located
  | .error .nullCharacter => .error .nullCharacter
  | .error .malformed =>
    .error (.compile ⟨.malformedExpression source, .text "", position⟩)

def sourceLine (position : Position) (line : Nat) : Int :=
  if 0 < position.line then line + (position.line - 1) else line

end TemplateCompiler.Template
