import TemplateCompiler.Text.Ranges

/-!
Word characters: letters, digits and other numerals of any script (Unicode 14), and the underscore.
-/

namespace TemplateCompiler.Text

def alphanumericTable : Thunk Ranges := CharacterTable.ranges .alphanumeric

def isWordChar (c : Char) : Bool :=
  if c.toNat < 128 then c.isAlphanum || c == '_' else alphanumericTable.get.contains c.toNat

end TemplateCompiler.Text
