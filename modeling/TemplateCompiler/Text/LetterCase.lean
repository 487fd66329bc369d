import TemplateCompiler.Text.Ranges

/-!
Letter case beyond ASCII (Unicode 14): which code points are upper case, lower case or title case, and
the lower-case form of a text. A capital sigma at the end of a word becomes a final sigma.
-/

namespace TemplateCompiler.Text

def upperTable : Thunk Ranges := CharacterTable.ranges .upper

def lowerTable : Thunk Ranges := CharacterTable.ranges .lower

def titleTable : Thunk Ranges := CharacterTable.ranges .title

/-- Code points that word-final position looks through. -/
def caseIgnorableTable : Thunk Ranges := CharacterTable.ranges .caseIgnorable

def isUpperChar (c : Char) : Bool :=
  if c.toNat < 128 then c.isUpper else upperTable.get.contains c.toNat

def isLowerChar (c : Char) : Bool :=
  if c.toNat < 128 then c.isLower else lowerTable.get.contains c.toNat

def isTitleChar (c : Char) : Bool := 128 ≤ c.toNat && titleTable.get.contains c.toNat

def isCasedChar (c : Char) : Bool := isUpperChar c || isLowerChar c || isTitleChar c

/-- Some letter is upper case, and none is lower case or title case. -/
def isUpperText (s : String) : Bool :=
  s.toList.any isUpperChar && s.toList.all fun c => !isLowerChar c && !isTitleChar c

/-- Code points from U+0080 on with a lower-case form: first, last, step and distance. -/
structure LowerRun where
  first : Nat
  last : Nat
  step : Nat
  distance : Int

def readLowerRun (entry : List Char) : Option LowerRun :=
  match entry.splitOnP (· == ':') with
  | [first, last, step, '-' :: distance] =>
    some ⟨hexValue first, hexValue last, hexValue step, -(hexValue distance : Int)⟩
  | [first, last, step, distance] =>
    some ⟨hexValue first, hexValue last, hexValue step, hexValue distance⟩
  | _ => none

def lowerRuns : Thunk (List LowerRun) := .mk fun _ => CharacterTable.lowerRun.entries.filterMap readLowerRun

def LowerRun.holds (r : LowerRun) (code : Nat) : Bool :=
  r.first ≤ code && code ≤ r.last && (code - r.first) % r.step == 0

/-- The lower-case form of one character, apart from its place in a word. -/
def lowerChar (c : Char) : List Char :=
  if c.toNat < 128 then [c.toLower]
  else if c.toNat = 0x130 then ['i', Char.ofNat 0x307]
  else match lowerRuns.get.find? (·.holds c.toNat) with
    | some run => [Char.ofNat (c.toNat + run.distance).toNat]
    | none => [c]

/-- A cased letter comes first once ignorable characters are passed over. -/
def startsCased (cs : List Char) : Bool :=
  match cs.dropWhile fun c => caseIgnorableTable.get.contains c.toNat with
  | [] => false
  | c :: _ => isCasedChar c

/-- Lower-cases `rest`; `before` holds what precedes it, last character first. -/
def lowerChars (before : List Char) : List Char → List Char
  | [] => []
  | c :: rest =>
    let lowered :=
      if c.toNat = 0x3a3 then
        if startsCased before && !startsCased rest then [Char.ofNat 0x3c2] else [Char.ofNat 0x3c3]
      else lowerChar c
    lowered ++ lowerChars (c :: before) rest

def lowerText (s : String) : String := String.ofList (lowerChars [] s.toList)

end TemplateCompiler.Text
