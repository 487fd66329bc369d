import TemplateCompiler.Code.Constant

/-!
Number literals. A scanner takes the characters from a literal's start and gives the constant and what
follows it, or nothing if the characters are no literal. Digits may be grouped by single underscores. A
letter right after a literal is an error, unless it starts a word that can follow an operand.
-/

namespace TemplateCompiler.Code.Number

open TemplateCompiler.Decimal TemplateCompiler.Text

def isDigitOf (base : Nat) (c : Char) : Bool :=
  match hexDigit? c with
  | some value => value < base
  | none => false

/-- Takes the digits of `base` that follow a digit, with single underscores between them. Fails on an
underscore that no digit follows. -/
def takeMoreDigits (base : Nat) : List Char → Option (List Char × List Char)
  | [] => some ([], [])
  | c :: rest =>
    if isDigitOf base c then (takeMoreDigits base rest).map fun (ds, after) => (c :: ds, after)
    else if c = '_' then
      match rest with
      | d :: more =>
        if isDigitOf base d then (takeMoreDigits base more).map fun (ds, after) => (d :: ds, after)
        else none
      | [] => none
    else some ([], c :: rest)

def takeDigits (base : Nat) : List Char → Option (List Char × List Char)
  | [] => none
  | c :: rest =>
    if isDigitOf base c then (takeMoreDigits base rest).map fun (ds, after) => (c :: ds, after)
    else none

def digitsValue (base : Nat) (ds : List Char) : Nat :=
  ds.foldl (fun n c => base * n + (hexDigit? c).getD 0) 0

/-- A character that could go on as an identifier. -/
def isWordStart (c : Char) : Bool := c.isAlphanum || c == '_' || 128 ≤ c.toNat

/-- The words that may follow a number without a blank. -/
def followers : List (List Char) :=
  ["and", "else", "for", "if", "in", "is", "or", "not"].map String.toList

/-- What follows a literal does not run on from it. -/
def endsCleanly (rest : List Char) : Bool :=
  match rest with
  | [] => true
  | c :: _ => !isWordStart c || followers.any (·.isPrefixOf rest)

def finish (value : Constant) (rest : List Char) : Option (Constant × List Char) :=
  if endsCleanly rest then some (value, rest) else none

/-- A literal in another base, after its two-character mark. -/
def takeBased (base : Nat) (cs : List Char) : Option (Constant × List Char) := do
  let digits := match cs with
    | '_' :: more => more
    | _ => cs
  let (ds, rest) ← takeDigits base digits
  finish (.int (digitsValue base ds)) rest

def decimalValue (whole fraction : List Char) (exponent : Int) : Binary :=
  .ofDecimal (digitsValue 10 (whole ++ fraction)) (exponent - fraction.length)

/-- The last part of a literal that has a fraction or an exponent: an imaginary mark or nothing. -/
def finishFloat (value : Binary) (rest : List Char) : Option (Constant × List Char) :=
  match rest with
  | 'j' :: more | 'J' :: more => finish (.imaginary value) more
  | _ => finish (.float value) rest

/-- A signed exponent, after the letter. `none` if no digit follows; a sign without a digit is an
error, told apart by the outer result. -/
def takeExponent (cs : List Char) : Option (Option (Int × List Char)) :=
  match cs with
  | '+' :: more => (takeDigits 10 more).map fun (ds, rest) => some ((digitsValue 10 ds : Int), rest)
  | '-' :: more => (takeDigits 10 more).map fun (ds, rest) => some (-(digitsValue 10 ds : Int), rest)
  | _ =>
    match cs with
    | c :: _ =>
      if c.isDigit then
        (takeDigits 10 cs).map fun (ds, rest) => some ((digitsValue 10 ds : Int), rest)
      else some none
    | [] => some none

/-- The digits of a fraction, perhaps none. -/
def takeTail (cs : List Char) : Option (List Char × List Char) :=
  match cs with
  | c :: _ => if c.isDigit then takeDigits 10 cs else some ([], cs)
  | [] => some ([], [])

/-- What follows the whole part and the fraction of a literal that has a point. -/
def finishPoint (whole fraction rest : List Char) : Option (Constant × List Char) :=
  match rest with
  | 'e' :: more | 'E' :: more =>
    match takeExponent more with
    | some (some (exponent, after)) => finishFloat (decimalValue whole fraction exponent) after
    | some none => finish (.float (decimalValue whole fraction 0)) rest
    | none => none
  | _ => finishFloat (decimalValue whole fraction 0) rest

/-- The digits start with a zero and denote more than zero. -/
def hasLeadingZero (whole : List Char) : Bool := whole.head? == some '0' && whole.any (· != '0')

/-- A whole number. It has no leading zero unless it is zero, and at most so many digits. Digits with a
leading zero are read as a decimal fraction where `loose` allows them. -/
def finishWhole (loose : Bool) (whole rest : List Char) : Option (Constant × List Char) :=
  if hasLeadingZero whole then
    if loose then finish (.float (decimalValue whole [] 0)) rest else none
  else if Constant.maxDigits < whole.length ∧ whole.any (· != '0') then none
  else finish (.int (digitsValue 10 whole)) rest

/-- A decimal literal after its whole part. The letter that could start an exponent may also start the
word that follows the literal; leading zeros are let through there. -/
def afterWhole (whole rest : List Char) : Option (Constant × List Char) :=
  match rest with
  | '.' :: more => do
    let (fraction, after) ← takeTail more
    finishPoint whole fraction after
  | 'e' :: more | 'E' :: more =>
    match takeExponent more with
    | some (some (exponent, after)) => finishFloat (decimalValue whole [] exponent) after
    | some none => finishWhole true whole rest
    | none => none
  | 'j' :: more | 'J' :: more => finish (.imaginary (decimalValue whole [] 0)) more
  | _ => finishWhole false whole rest

/-- A literal that starts with a digit. -/
def take (cs : List Char) : Option (Constant × List Char) :=
  match cs with
  | '0' :: 'x' :: more | '0' :: 'X' :: more => takeBased 16 more
  | '0' :: 'o' :: more | '0' :: 'O' :: more => takeBased 8 more
  | '0' :: 'b' :: more | '0' :: 'B' :: more => takeBased 2 more
  | _ => do
    let (whole, rest) ← takeDigits 10 cs
    afterWhole whole rest

/-- A literal that starts with a point and a digit, after the point. -/
def takeFraction (cs : List Char) : Option (Constant × List Char) := do
  let (fraction, rest) ← takeTail cs
  finishPoint [] fraction rest

end TemplateCompiler.Code.Number
