import TemplateCompiler.Text.CharacterTable

/-!
Sets of code points, written as ascending ranges in hexadecimal and read once. An entry tells how far its
first code point is from the last one of the entry before it and, behind a plus sign, how many more code
points follow.
-/

namespace TemplateCompiler.Text

/-- A set of code points as a list of inclusive ranges. -/
structure Ranges where
  ranges : List (Nat × Nat)

namespace Ranges

def contains (r : Ranges) (code : Nat) : Bool :=
  r.ranges.any fun (lo, hi) => lo ≤ code && code ≤ hi

@[simp] theorem contains_nil (code : Nat) : contains ⟨[]⟩ code = false := rfl

@[simp] theorem contains_cons (lo hi : Nat) (rest : List (Nat × Nat)) (code : Nat) :
    contains ⟨(lo, hi) :: rest⟩ code =
      ((decide (lo ≤ code) && decide (code ≤ hi)) || contains ⟨rest⟩ code) := rfl

end Ranges

/-- The value of a hexadecimal digit; `none` for any other character. -/
def hexDigit? (c : Char) : Option Nat :=
  if '0' ≤ c ∧ c ≤ '9' then some (c.toNat - '0'.toNat)
  else if 'a' ≤ c ∧ c ≤ 'f' then some (c.toNat - 'a'.toNat + 10)
  else if 'A' ≤ c ∧ c ≤ 'F' then some (c.toNat - 'A'.toNat + 10)
  else none

/-- The number that hexadecimal digits denote; other characters count as zero. -/
def hexValue (cs : List Char) : Nat :=
  cs.foldl (fun n c => 16 * n + (hexDigit? c).getD 0) 0

/-- The range that an entry tells, behind the code point `last`. -/
def readRange (last : Nat) (entry : List Char) : Nat × Nat :=
  match entry.splitOnP (· == '+') with
  | [gap, more] => (last + hexValue gap, last + hexValue gap + hexValue more)
  | _ => (last + hexValue entry, last + hexValue entry)

def readRanges (last : Nat) : List (List Char) → List (Nat × Nat)
  | [] => []
  | entry :: rest =>
    let range := readRange last entry
    range :: readRanges range.2 rest

def CharacterTable.ranges (t : CharacterTable) : Thunk Ranges := .mk fun _ => ⟨readRanges 0 t.entries⟩

end TemplateCompiler.Text
