import TemplateCompiler.Decimal.Shortest
import TemplateCompiler.Text.Quoted

/-!
Constants of the expression language and their text.
-/

namespace TemplateCompiler.Code

open TemplateCompiler.Text TemplateCompiler.Decimal

inductive Constant where
  | none
  | bool (value : Bool)
  | ellipsis
  | int (value : Int)
  | float (value : Binary)
  | imaginary (value : Binary)
  /-- A text; `marked` keeps the `u` in front of its first literal. -/
  | text (value : CodePoints) (marked : Bool)
  | bytes (value : List Nat)
  deriving DecidableEq, Repr

namespace Constant

def str (s : String) : Constant := text (.ofString s) false

/-- Whole numbers and truth values need a blank before an attribute's point. -/
def isWhole : Constant → Bool
  | bool _ | int _ => true
  | _ => false

/-- A whole number is written with at most this many digits. -/
def maxDigits : Nat := 4300

/-- No text exists for a whole number with too many digits. -/
def render? : Constant → Option String
  | none => some "None"
  | bool true => some "True"
  | bool false => some "False"
  | ellipsis => some "..."
  | int value =>
    if (Nat.toDigits 10 value.natAbs).length ≤ maxDigits then some (toString value) else Option.none
  | float value => some (value.text .point)
  | imaginary value => some (value.text .bare ++ "j")
  | text value marked => some ((if marked then "u" else "") ++ quote value)
  | bytes value => some (quoteBytes value)

@[simp] theorem str_injective {s t : String} : str s = str t ↔ s = t := by
  constructor
  · intro h
    simp only [str, text.injEq, and_true] at h
    exact CodePoints.ofString_injective h
  · rintro rfl
    rfl

end Constant

end TemplateCompiler.Code
