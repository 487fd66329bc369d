import TemplateCompiler.Text.Ranges

/-!
Identifiers of the expression language: an identifier starts with a letter or an underscore and goes
on with letters, digits, marks and connectors, each class as the Unicode standard, version 14, lists
it. Below U+0080 the classes are the usual ones; the tables hold the rest.
-/

namespace TemplateCompiler.Text

/-- Code points from U+0080 on that may start an identifier. -/
def identifierStartTable : Thunk Ranges := CharacterTable.ranges .identifierStart

/-- Code points from U+0080 on that may continue an identifier but not start it. -/
def identifierPartTable : Thunk Ranges := CharacterTable.ranges .identifierPart

def isIdentifierStart (c : Char) : Bool :=
  if c.toNat < 128 then c.isAlpha || c == '_' else identifierStartTable.get.contains c.toNat

def isIdentifierContinue (c : Char) : Bool :=
  if c.toNat < 128 then c.isAlphanum || c == '_'
  else identifierStartTable.get.contains c.toNat || identifierPartTable.get.contains c.toNat

/-- A nonempty run of identifier characters that starts with a start character. -/
def isIdentifierChars : List Char → Bool
  | [] => false
  | c :: cs => isIdentifierStart c && cs.all isIdentifierContinue

def isIdentifier (s : String) : Bool := isIdentifierChars s.toList

@[simp] theorem isIdentifierChars_nil : isIdentifierChars [] = false := rfl

@[simp] theorem isIdentifierChars_cons (c : Char) (cs : List Char) :
    isIdentifierChars (c :: cs) = (isIdentifierStart c && cs.all isIdentifierContinue) := rfl

def keywords : List String :=
  ["False", "None", "True", "and", "as", "assert", "async", "await", "break", "class", "continue",
    "def", "del", "elif", "else", "except", "finally", "for", "from", "global", "if", "import", "in",
    "is", "lambda", "nonlocal", "not", "or", "pass", "raise", "return", "try", "while", "with", "yield"]

def isKeyword (s : String) : Bool := keywords.contains s

end TemplateCompiler.Text
