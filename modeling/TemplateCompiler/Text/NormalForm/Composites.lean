import TemplateCompiler.Text.Ranges

/-!
Identifier characters that are composed of a first character and a second one, which is mostly a mark
(Unicode 14). Composed syllables, which are given by arithmetic, are not in the table.
-/

namespace TemplateCompiler.Text

structure Composite where
  whole : Nat
  first : Nat
  second : Nat

/-- Each entry is `gap:first.second` in hexadecimal, where the gap is the distance from the whole before
it. A gap of one is left out, and so is the first part if it is that of the entry before. -/
def readComposites (before : Composite) : List (List Char) → List Composite
  | [] => []
  | entry :: rest =>
    let (gap, parts) := match entry.splitOnP (· == ':') with
      | [gap, parts] => (hexValue gap, parts)
      | _ => (1, entry)
    let first := parts.takeWhile (· != '.')
    let second := (parts.dropWhile (· != '.')).drop 1
    let composite : Composite :=
      ⟨before.whole + gap, if first.isEmpty then before.first else hexValue first, hexValue second⟩
    composite :: readComposites composite rest

def composites : Thunk (List Composite) := .mk fun _ => readComposites ⟨0, 0, 0⟩ CharacterTable.composite.entries

end TemplateCompiler.Text
