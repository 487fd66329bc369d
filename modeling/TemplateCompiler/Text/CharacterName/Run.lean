import TemplateCompiler.Text.Ranges

/-!
Names of characters in a row, written down in short: every name leaves out the words that it shares with
the name before it, at its start and at its end.
-/

namespace TemplateCompiler.Text

def wordsOf (cs : List Char) : List (List Char) := cs.splitOnP (· == ' ')

/-- The marks of entries. The place of a mark is the number of words that a name shares with the name before
it. -/
def shareMarks : List Char := [',', ';', ':', '.', '+', '*', '~', '^', '=', '&']

/-- The names of the characters from `first` on. An entry has the number of shared words and then the words that
the name does not share. A slash after them says that the name goes on like the name before it; an entry without
words stands for a character without a name. -/
structure NameRun where
  first : Nat
  entries : List (Nat × List Char)

namespace NameRun

/-- The entries of a text with their numbers of shared words. The text is given backwards; the letters
`word` and the entries `after` follow it. -/
def entriesOf (word : List Char) (after : List (Nat × List Char)) : List Char → List (Nat × List Char)
  | [] => after
  | c :: before =>
    match shareMarks.idxOf? c with
    | some shared => entriesOf [] ((shared, word) :: after) before
    | none => entriesOf (c :: word) after before

/-- The run of a line: the number of its first character and the entries, each with a mark before it. -/
def ofLine (line : List Char) : NameRun :=
  let (first, text) := line.span fun c => !shareMarks.contains c
  ⟨hexValue first, entriesOf [] [] text.reverse⟩

/-- The words of a name whose entry is given, after a name with the words `previous`. -/
def unshare (previous : List (List Char)) (shared : Nat) (text : List Char) : List (List Char) :=
  if text.isEmpty then previous
  else if text.getLast? == some '/' then
    let words := wordsOf text.dropLast
    previous.take shared ++ words ++ previous.drop (shared + words.length)
  else previous.take shared ++ wordsOf text

/-- The place of a name among entries that follow a name with the words `previous`. -/
def placeAfter? (name previous : List (List Char)) : List (Nat × List Char) → Option Nat
  | [] => none
  | (shared, text) :: rest =>
    let words := unshare previous shared text
    if !text.isEmpty && words == name then some 0
    else (placeAfter? name words rest).map (· + 1)

def codeOf? (r : NameRun) (name : List (List Char)) : Option Nat :=
  (placeAfter? name [] r.entries).map (r.first + ·)

@[simp] theorem unshare_nil (previous : List (List Char)) (shared : Nat) :
    unshare previous shared [] = previous := rfl

@[simp] theorem placeAfter?_nil (name previous : List (List Char)) :
    placeAfter? name previous [] = none := rfl

end NameRun

end TemplateCompiler.Text
