import TemplateCompiler.Text.CodePoints
import TemplateCompiler.Text.Printable

/-!
Quoted texts. `quote` is the usual form: single quotes, unless the text holds a single quote and no
double one, with a backslash before the quote and the backslash itself and escapes for whatever is not
printable. `spell` is the form for places where backslashes are to be avoided: it looks for a kind of
quotes that the text does not hold.
-/

namespace TemplateCompiler.Text

def hexPadded (width n : Nat) : List Char :=
  let digits := Nat.toDigits 16 n
  List.replicate (width - digits.length) '0' ++ digits

def numericEscape (code : Nat) : List Char :=
  if code < 0x100 then '\\' :: 'x' :: hexPadded 2 code
  else if code < 0x10000 then '\\' :: 'u' :: hexPadded 4 code
  else '\\' :: 'U' :: hexPadded 8 code

/-- A code point as it stands between quotes: backslashes and whatever is not printable are escaped. -/
def escaped (code : Nat) : List Char :=
  if code = '\\'.toNat then ['\\', '\\']
  else if code = '\n'.toNat then ['\\', 'n']
  else if code = '\r'.toNat then ['\\', 'r']
  else if code = '\t'.toNat then ['\\', 't']
  else if isPrintable code then [Char.ofNat code]
  else numericEscape code

/-- The quote character for a text: a double quote only if the text holds a single quote and no double
quote. -/
def quoteChar (codes : List Nat) : Char :=
  if codes.contains '\''.toNat && !codes.contains '"'.toNat then '"' else '\''

def quotedBody (delimiter : Char) (codes : List Nat) : List Char :=
  codes.flatMap fun code =>
    if code = delimiter.toNat then ['\\', delimiter] else escaped code

def quoteChars (t : CodePoints) : List Char :=
  let delimiter := quoteChar t.codes
  delimiter :: quotedBody delimiter t.codes ++ [delimiter]

def quote (t : CodePoints) : String := String.ofList (quoteChars t)

def escapedByte (delimiter : Char) (byte : Nat) : List Char :=
  if byte = delimiter.toNat then ['\\', delimiter]
  else if byte = '\\'.toNat then ['\\', '\\']
  else if byte = '\n'.toNat then ['\\', 'n']
  else if byte = '\r'.toNat then ['\\', 'r']
  else if byte = '\t'.toNat then ['\\', 't']
  else if 32 ≤ byte && byte < 127 then [Char.ofNat byte]
  else '\\' :: 'x' :: hexPadded 2 byte

def quoteBytes (bytes : List Nat) : String :=
  let delimiter := quoteChar bytes
  String.ofList ('b' :: delimiter :: bytes.flatMap (escapedByte delimiter) ++ [delimiter])

/-- The four kinds of quotes around a literal. -/
inductive QuoteKind where
  | single
  | double
  | tripleDouble
  | tripleSingle
  deriving DecidableEq, Repr

namespace QuoteKind

def char : QuoteKind → Char
  | single | tripleSingle => '\''
  | double | tripleDouble => '"'

def chars : QuoteKind → List Char
  | single => ['\'']
  | double => ['"']
  | tripleDouble => ['"', '"', '"']
  | tripleSingle => ['\'', '\'', '\'']

def isTriple : QuoteKind → Bool
  | single | double => false
  | tripleDouble | tripleSingle => true

/-- Every kind, in order of preference. -/
def all : List QuoteKind := [single, double, tripleDouble, tripleSingle]

end QuoteKind

/-- A code point in a literal that avoids backslashes. Line feeds and tabs stay as they are unless
`special` asks for their escapes. -/
def escapedSparingly (special : Bool) (code : Nat) : List Char :=
  if !special && (code = '\n'.toNat || code = '\t'.toNat) then [Char.ofNat code] else escaped code

/-- Puts a backslash before the last character. -/
def escapeLast (cs : List Char) : List Char :=
  match cs.reverse with
  | [] => []
  | c :: rest => (c :: '\\' :: rest).reverse

def occursIn (needle : List Char) : List Char → Bool
  | [] => needle.isEmpty
  | c :: cs => needle.isPrefixOf (c :: cs) || occursIn needle cs

/-- The body of a literal for `t` and the kinds of quotes, out of `kinds`, that can stand around it.
When none can, the body is that of the usual form, with the kind that its quote belongs to. -/
def spellBody (t : CodePoints) (kinds : List QuoteKind) (special : Bool) :
    List Char × List QuoteKind :=
  let body := t.codes.flatMap (escapedSparingly special)
  let usable := kinds.filter fun k =>
    (!body.contains '\n' || k.isTriple) && !occursIn k.chars body
  match usable with
  | [] =>
    let delimiter := quoteChar t.codes
    let fallback : QuoteKind := if delimiter = '"' then .double else .single
    (quotedBody delimiter t.codes, [(kinds.find? (·.char == delimiter)).getD fallback])
  | _ =>
    match body.getLast? with
    | none => (body, usable)
    | some last =>
      let sorted := usable.filter (·.char != last) ++ usable.filter (·.char == last)
      match sorted with
      | k :: _ => if k.char = last then (escapeLast body, sorted) else (body, sorted)
      | [] => (body, sorted)

/-- The literal for a text where backslashes are to be avoided. -/
def spell (t : CodePoints) : List Char :=
  let (body, kinds) := spellBody t QuoteKind.all false
  let delimiter := (kinds.head?.getD .single).chars
  delimiter ++ body ++ delimiter

end TemplateCompiler.Text
