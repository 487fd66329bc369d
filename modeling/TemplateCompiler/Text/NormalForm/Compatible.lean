import TemplateCompiler.Text.Ranges

/-!
Identifier characters that stand for other characters, such as ligatures, wide forms and presentation
forms (Unicode 14), apart from those that are composed of two parts.
-/

namespace TemplateCompiler.Text

/-- Characters of a range stand for those of another range or all for the same characters. -/
structure Compatible where
  first : Nat
  last : Nat
  meaning : List Nat
  /-- By how much the meaning moves from one character to the next. -/
  step : Nat

/-- A meaning with the number of further characters and the step between their meanings. -/
def readMeaning (text : List Char) : List Nat × Nat × Nat :=
  let meaning := text.takeWhile fun c => c != '+' && c != '*'
  let codes := (meaning.splitOnP (· == '.')).map hexValue
  match text.drop meaning.length with
  | '+' :: more => (codes, hexValue more, 1)
  | '*' :: more => (codes, hexValue more, 0)
  | _ => (codes, 0, 0)

/-- Each entry is `gap:meaning` in hexadecimal, where the gap is the distance from the last character
before it; a gap of one is left out. Points divide the characters of a meaning. Behind a plus sign stands
how many more characters have the meanings that follow, behind a star how many more have the same one. -/
def readCompatibles (last : Nat) : List (List Char) → List Compatible
  | [] => []
  | entry :: rest =>
    let (gap, text) := match entry.splitOnP (· == ':') with
      | [gap, text] => (hexValue gap, text)
      | _ => (1, entry)
    let (meaning, more, step) := readMeaning text
    ⟨last + gap, last + gap + more, meaning, step⟩ :: readCompatibles (last + gap + more) rest

def compatibles : Thunk (List Compatible) := .mk fun _ => readCompatibles 0 CharacterTable.compatible.entries

def Compatible.meaningOf (c : Compatible) (code : Nat) : List Nat :=
  c.meaning.map (· + c.step * (code - c.first))

end TemplateCompiler.Text
