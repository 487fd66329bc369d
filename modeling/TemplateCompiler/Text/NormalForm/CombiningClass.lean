import TemplateCompiler.Text.Ranges

/-!
The combining classes of identifier characters (Unicode 14). Marks of one class keep their order, marks
of different classes are sorted by it; a character of class zero is no mark that could be moved.
-/

namespace TemplateCompiler.Text

structure ClassRange where
  first : Nat
  last : Nat
  cls : Nat

/-- Each entry is a range behind the one before it, a colon and a class in hexadecimal. -/
def readClassRanges (last : Nat) : List (List Char) → List ClassRange
  | [] => []
  | entry :: rest =>
    match entry.splitOnP (· == ':') with
    | [range, cls] =>
      let (first, last) := readRange last range
      ⟨first, last, hexValue cls⟩ :: readClassRanges last rest
    | _ => readClassRanges last rest

def classRanges : Thunk (List ClassRange) := .mk fun _ => readClassRanges 0 CharacterTable.combiningClass.entries

def combiningClass (code : Nat) : Nat :=
  match classRanges.get.find? fun r => r.first ≤ code && code ≤ r.last with
  | some r => r.cls
  | none => 0

end TemplateCompiler.Text
