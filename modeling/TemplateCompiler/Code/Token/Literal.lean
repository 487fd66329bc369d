import TemplateCompiler.Text.CharacterName
import TemplateCompiler.Text.CodePoints

/-!
The bodies of string and byte literals: where a body ends, and what its escapes stand for. A backslash
before any character without a meaning of its own stays in the text.
-/

namespace TemplateCompiler.Code.Literal

open TemplateCompiler.Text

/-- Takes the body of a literal up to its closing quotes and gives what follows them. `triple` literals
end at three quotes in a row and may hold line ends; in others a line end needs a backslash. -/
def takeBody (delimiter : Char) (triple : Bool) : List Char → Option (List Char × List Char)
  | [] => none
  | '\\' :: c :: rest => (takeBody delimiter triple rest).map fun (body, after) =>
      ('\\' :: c :: body, after)
  | c :: rest =>
    if c = '\n' ∧ !triple then none
    else if c = delimiter then
      if triple then
        match rest with
        | d :: e :: after =>
          if d = delimiter ∧ e = delimiter then some ([], after)
          else (takeBody delimiter triple rest).map fun (body, after) => (c :: body, after)
        | _ => none
      else some ([], rest)
    else (takeBody delimiter triple rest).map fun (body, after) => (c :: body, after)

/-- A literal after its prefix: the body and what follows the closing quotes. -/
def takeQuoted (delimiter : Char) (rest : List Char) : Option (List Char × List Char) :=
  match rest with
  | d :: e :: more =>
    if d = delimiter ∧ e = delimiter then takeBody delimiter true more
    else takeBody delimiter false rest
  | _ => takeBody delimiter false rest

def octalDigit? (c : Char) : Option Nat :=
  if '0' ≤ c ∧ c ≤ '7' then some (c.toNat - '0'.toNat) else none

def simpleEscape? : Char → Option Nat
  | '\\' => some 0x5c
  | '\'' => some 0x27
  | '"' => some 0x22
  | 'a' => some 0x07
  | 'b' => some 0x08
  | 'f' => some 0x0c
  | 'n' => some 0x0a
  | 'r' => some 0x0d
  | 't' => some 0x09
  | 'v' => some 0x0b
  | _ => none

def hexNumber? (cs : List Char) : Option Nat :=
  if cs.all fun c => (hexDigit? c).isSome then some (hexValue cs) else none

/-- Reads up to three octal digits, the first of them given. -/
def octalEscape (first : Nat) (rest : List Char) : Nat × Nat :=
  match rest with
  | c :: more =>
    match octalDigit? c with
    | some second =>
      match more with
      | d :: _ =>
        match octalDigit? d with
        | some third => (64 * first + 8 * second + third, 2)
        | none => (8 * first + second, 1)
      | [] => (8 * first + second, 1)
    | none => (first, 0)
  | [] => (first, 0)

def bracedName? : List Char → Option (List Char)
  | '\x7b' :: rest =>
    let name := rest.takeWhile (· != '\x7d')
    if name.length < rest.length then some name else none
  | _ => none

/-- Decodes the escapes of a text. The first argument counts characters that an escape has already
taken. -/
def decodeText : Nat → List Char → Option (List Nat)
  | _, [] => some []
  | skip + 1, _ :: rest => decodeText skip rest
  | 0, '\\' :: rest =>
    match rest with
    | [] => some [0x5c]
    | '\n' :: _ => decodeText 1 rest
    | 'x' :: more => do
      let code ← if 2 ≤ more.length then hexNumber? (more.take 2) else none
      (decodeText 3 rest).map (code :: ·)
    | 'u' :: more => do
      let code ← if 4 ≤ more.length then hexNumber? (more.take 4) else none
      (decodeText 5 rest).map (code :: ·)
    | 'U' :: more => do
      let code ← if 8 ≤ more.length then hexNumber? (more.take 8) else none
      if code ≤ 0x10ffff then (decodeText 9 rest).map (code :: ·) else none
    | 'N' :: more => do
      let name ← bracedName? more
      let code ← codeOfName? name
      (decodeText (name.length + 3) rest).map (code :: ·)
    | c :: more =>
      match octalDigit? c with
      | some first =>
        let (code, used) := octalEscape first more
        (decodeText (used + 1) rest).map (code :: ·)
      | none =>
        match simpleEscape? c with
        | some code => (decodeText 1 rest).map (code :: ·)
        | none => (decodeText 1 rest).map fun codes => 0x5c :: c.toNat :: codes
  | 0, c :: rest => (decodeText 0 rest).map (c.toNat :: ·)

/-- Decodes the escapes of a byte literal, whose characters are all ASCII. -/
def decodeBytes : Nat → List Char → Option (List Nat)
  | _, [] => some []
  | skip + 1, _ :: rest => decodeBytes skip rest
  | 0, '\\' :: rest =>
    match rest with
    | [] => some [0x5c]
    | '\n' :: _ => decodeBytes 1 rest
    | 'x' :: more => do
      let code ← if 2 ≤ more.length then hexNumber? (more.take 2) else none
      (decodeBytes 3 rest).map (code :: ·)
    | c :: more =>
      match octalDigit? c with
      | some first =>
        let (code, used) := octalEscape first more
        (decodeBytes (used + 1) rest).map (code % 256 :: ·)
      | none =>
        match simpleEscape? c with
        | some code => (decodeBytes 1 rest).map (code :: ·)
        | none => (decodeBytes 1 rest).map fun codes => 0x5c :: c.toNat :: codes
  | 0, c :: rest => (decodeBytes 0 rest).map (c.toNat :: ·)

def textOf? (raw : Bool) (body : List Char) : Option (List Nat) :=
  if raw then some (body.map Char.toNat) else decodeText 0 body

/-- The bytes that the body of a literal stands for; only ASCII characters may stand in it. -/
def bytesOf? (raw : Bool) (body : List Char) : Option (List Nat) :=
  if body.all (·.toNat < 128) then
    if raw then some (body.map Char.toNat) else decodeBytes 0 body
  else none

/-- The marks in front of a literal's quotes. -/
structure Marks where
  bytes : Bool := false
  unicode : Bool := false
  raw : Bool := false
  format : Bool := false
  deriving DecidableEq

def Marks.add? (m : Marks) (c : Char) : Option Marks :=
  if (c = 'b' ∨ c = 'B') ∧ !(m.bytes || m.unicode || m.format) then some { m with bytes := true }
  else if (c = 'u' ∨ c = 'U') ∧ !(m.bytes || m.unicode || m.raw || m.format) then
    some { m with unicode := true }
  else if (c = 'r' ∨ c = 'R') ∧ !(m.raw || m.unicode) then some { m with raw := true }
  else if (c = 'f' ∨ c = 'F') ∧ !(m.format || m.bytes || m.unicode) then
    some { m with format := true }
  else none

/-- The marks, the quote character and what follows it, if a literal starts here. -/
def takeMarks (m : Marks) : List Char → Option (Marks × Char × List Char)
  | [] => none
  | c :: rest =>
    if c = '\'' ∨ c = '"' then some (m, c, rest)
    else match m.add? c with
      | some marks => takeMarks marks rest
      | none => none

end TemplateCompiler.Code.Literal
