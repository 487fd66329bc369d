import TemplateCompiler.Decimal.Binary

/-!
The shortest decimal that reads back as a given binary number, and its text. Of the decimals with the
fewest digits the one nearest to the number is taken, of two equally near ones the even one. The text is positional when the point falls at
most four places before the first digit or within the first sixteen, and has an exponent otherwise.
-/

namespace TemplateCompiler.Decimal

/-- The open or closed interval of fractions that round to one number, over a common denominator. -/
structure Interval where
  low : Nat
  value : Nat
  high : Nat
  den : Nat
  closed : Bool

/-- The fractions that round to `mantissa * 2 ^ exponent`. Below a power of two the gap is half as
wide. -/
def Interval.of (mantissa : Nat) (exponent : Int) : Interval :=
  let halfGap := if mantissa = Nat.pow 2 52 ∧ -1074 < exponent then 1 else 2
  let scale := if 0 ≤ exponent then Nat.pow 2 exponent.toNat else 1
  let den := if 0 ≤ exponent then 4 else 4 * Nat.pow 2 (-exponent).toNat
  ⟨(4 * mantissa - halfGap) * scale, 4 * mantissa * scale, (4 * mantissa + 2) * scale, den,
    mantissa % 2 = 0⟩

def Interval.holds (i : Interval) (n : Nat) (k : Int) : Bool :=
  let (point, unit) :=
    if 0 ≤ k then (n * Nat.pow 10 k.toNat * i.den, 1) else (n * i.den, Nat.pow 10 (-k).toNat)
  if i.closed then i.low * unit ≤ point && point ≤ i.high * unit
  else i.low * unit < point && point < i.high * unit

/-- The value over the grid `10 ^ k`, as a fraction. -/
def Interval.onGrid (i : Interval) (k : Int) : Nat × Nat :=
  if 0 ≤ k then (i.value, i.den * Nat.pow 10 k.toNat) else (i.value * Nat.pow 10 (-k).toNat, i.den)

/-- The neighbour of the value on the grid `10 ^ k` that rounds to it, the nearer one of two and the even
one if both are equally near. -/
def Interval.hit? (i : Interval) (k : Int) : Option Nat :=
  let (num, den) := i.onGrid k
  let below := num / den
  let above := below + 1
  match i.holds below k, i.holds above k with
  | true, true => some (Binary.roundDiv num den)
  | true, false => some below
  | false, true => some above
  | false, false => none

/-- Tries finer and finer grids, at most `steps` of them. -/
def Interval.search (i : Interval) : Nat → Int → Nat × Int
  | 0, k => (i.value / i.den, k)
  | steps + 1, k =>
    match i.hit? k with
    | some n => if n = 0 then i.search steps (k - 1) else (n, k)
    | none => i.search steps (k - 1)

/-- Drops trailing zeros, at most `steps` of them. -/
def dropZeros : Nat → Nat → Int → Nat × Int
  | 0, n, k => (n, k)
  | steps + 1, n, k => if n ≠ 0 ∧ n % 10 = 0 then dropZeros steps (n / 10) (k + 1) else (n, k)

/-- The grid on which the value has at most one digit. -/
def Interval.coarsest (i : Interval) : Int :=
  if i.den ≤ i.value then (Nat.toDigits 10 (i.value / i.den)).length
  else 1 - (Nat.toDigits 10 (i.den / i.value)).length

/-- The shortest decimal `n * 10 ^ k` for a positive number. -/
def shortest (mantissa : Nat) (exponent : Int) : Nat × Int :=
  let i := Interval.of mantissa exponent
  let (n, k) := i.search 24 i.coarsest
  dropZeros 24 n k

/-- How a number's text ends when it has no fraction. -/
inductive Whole where
  | point
  | bare
  deriving DecidableEq, Repr

def positional (digits : List Char) (place : Int) (whole : Whole) : List Char :=
  if place ≤ 0 then '0' :: '.' :: List.replicate (-place).toNat '0' ++ digits
  else if place.toNat < digits.length then
    digits.take place.toNat ++ '.' :: digits.drop place.toNat
  else
    digits ++ List.replicate (place.toNat - digits.length) '0' ++
      match whole with
      | .point => ['.', '0']
      | .bare => []

/-- An exponent with its sign and at least two digits. -/
def exponentText (e : Int) : List Char :=
  let digits := Nat.toDigits 10 e.natAbs
  'e' :: (if e < 0 then '-' else '+') :: (if digits.length < 2 then '0' :: digits else digits)

def scientific (digits : List Char) (e : Int) : List Char :=
  match digits with
  | [] => exponentText e
  | [d] => d :: exponentText e
  | d :: rest => d :: '.' :: rest ++ exponentText e

/-- The text of a number. Infinity is written as a literal that is too large. -/
def Binary.text (whole : Whole) : Binary → String
  | infinite => "1e309"
  | finite mantissa exponent =>
    if mantissa = 0 then match whole with
      | .point => "0.0"
      | .bare => "0"
    else
      let (n, k) := shortest mantissa exponent
      let digits := Nat.toDigits 10 n
      let place : Int := digits.length + k
      String.ofList <|
        if -4 < place ∧ place ≤ 16 then positional digits place whole
        else scientific digits (place - 1)

end TemplateCompiler.Decimal
