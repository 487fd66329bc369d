/-!
Nonnegative binary floating-point numbers of 53 bits, and the one nearest to a decimal. A finite number
is `mantissa * 2 ^ exponent` with a mantissa below `2 ^ 53` and an exponent of at least -1074; a tie
between two neighbours goes to the even mantissa.
-/

namespace TemplateCompiler.Decimal

inductive Binary where
  | finite (mantissa : Nat) (exponent : Int)
  | infinite
  deriving DecidableEq, Repr

namespace Binary

def isZero : Binary → Bool
  | finite mantissa _ => mantissa == 0
  | infinite => false

/-- `num / den` to the nearest natural number, ties to even. -/
def roundDiv (num den : Nat) : Nat :=
  let quotient := num / den
  let twice := 2 * (num % den)
  if twice < den then quotient
  else if den < twice then quotient + 1
  else quotient + quotient % 2

def scaled (num den : Nat) (q : Int) : Nat × Nat :=
  if 0 ≤ q then (num, den * Nat.pow 2 q.toNat) else (num * Nat.pow 2 (-q).toNat, den)

def ofFraction (num den : Nat) : Binary :=
  let guess : Int := (Nat.log2 num : Int) - Nat.log2 den - 53
  let (n, d) := scaled num den guess
  let fitted := if n / d < Nat.pow 2 53 then guess else guess + 1
  let q := max fitted (-1074)
  let (n, d) := scaled num den q
  let m := roundDiv n d
  let (m, q) := if m = Nat.pow 2 53 then (Nat.pow 2 52, q + 1) else (m, q)
  if 971 < q then infinite else finite m q

/-- The number nearest to `digits * 10 ^ exponent`. Magnitudes beyond every number are settled without
computing the power. -/
def ofDecimal (digits : Nat) (exponent : Int) : Binary :=
  let size : Int := (Nat.toDigits 10 digits).length + exponent
  if digits = 0 ∨ size < -330 then finite 0 0
  else if 310 < size then infinite
  else if 0 ≤ exponent then ofFraction (digits * Nat.pow 10 exponent.toNat) 1
  else ofFraction digits (Nat.pow 10 (-exponent).toNat)

end Binary

end TemplateCompiler.Decimal
