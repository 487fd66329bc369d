import TemplateCompiler.Text.Ranges

/-!
Printable code points. A control, format, surrogate, private-use or unassigned code point is not
printable, nor is a separator other than the plain space; the table follows the Unicode standard,
version 14.
-/

namespace TemplateCompiler.Text

def printableTable : Thunk Ranges := CharacterTable.ranges .printable

def isPrintable (code : Nat) : Bool :=
  if code < 128 then 32 ≤ code && code < 127 else printableTable.get.contains code

end TemplateCompiler.Text
