import TemplateCompiler.Decimal.Binary

/-!
Numbers of both kinds on one scale: whole numbers and binary fractions, which are all multiples of the
smallest fraction, and the two infinities. On the scale they are compared exactly.
-/

namespace TemplateCompiler.Decimal

inductive Extended where
  /-- A multiple of `2 ^ (-1074)`. -/
  | multiple (count : Int)
  | infinity (negative : Bool)
  deriving DecidableEq, Repr

namespace Extended

def ofInt (n : Int) : Extended := multiple (n * Nat.pow 2 1074)

def ofBinary (negative : Bool) : Binary → Extended
  | .finite mantissa exponent =>
    let count : Int := mantissa * Nat.pow 2 (exponent + 1074).toNat
    multiple (if negative then -count else count)
  | .infinite => infinity negative

def order : Extended → Extended → Ordering
  | multiple a, multiple b => Ord.compare a b
  | infinity a, infinity b => if a = b then .eq else if a then .lt else .gt
  | infinity a, multiple _ => if a then .lt else .gt
  | multiple _, infinity b => if b then .gt else .lt

@[simp] theorem order_self (a : Extended) : a.order a = .eq := by
  cases a <;> simp [order]

end Extended

end TemplateCompiler.Decimal
