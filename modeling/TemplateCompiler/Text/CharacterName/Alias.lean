import TemplateCompiler.Text.Ranges

/-!
Further names of characters: corrections, and the names and abbreviations of control and format
characters.
-/

namespace TemplateCompiler.Text

/-- An entry has the distance of a character from the one before it, and its names. -/
def readAliases (last : Nat) : List (List Char) → List (List Char × Nat)
  | [] => []
  | entry :: rest =>
    match entry.splitOnP (· == ',') with
    | gap :: names => names.map (·, last + hexValue gap) ++ readAliases (last + hexValue gap) rest
    | [] => readAliases last rest

/-- Further names with the characters that they name. -/
def nameAliases : Thunk (List (List Char × Nat)) :=
  .mk fun _ => readAliases 0 (CharacterTable.nameAlias.line.splitOnP (· == '&'))

end TemplateCompiler.Text
