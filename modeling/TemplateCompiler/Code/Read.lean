import TemplateCompiler.Code.Read.Grammar
import TemplateCompiler.Code.Token.Scan
import TemplateCompiler.Text.Blank

/-!
Reading an expression from its source text. Blanks around the text do not count.
-/

namespace TemplateCompiler.Code

open TemplateCompiler.Text

inductive ReadError where
  /-- The text holds the character with code 0. -/
  | nullCharacter
  | malformed
  deriving DecidableEq, Repr

/-- The expression that a text spells, with the lines that it covers in the trimmed text. -/
def readExpr (source : String) : Except ReadError Located :=
  let cs := trimChars source.toList
  if cs.contains '\x00' then .error .nullCharacter
  else match Scan.scan cs >>= Read.all (2 * cs.length + 2) with
    | some located => .ok located
    | none => .error .malformed

end TemplateCompiler.Code
