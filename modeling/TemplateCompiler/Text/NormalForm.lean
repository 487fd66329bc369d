import TemplateCompiler.Text.NormalForm.CombiningClass
import TemplateCompiler.Text.NormalForm.Compatible
import TemplateCompiler.Text.NormalForm.Composites

/-!
The compatibility normal form of identifiers. Two spellings of an identifier are the same identifier if
their normal forms are equal. To find it, every character is divided into what it stands for, the marks
behind each letter are sorted, and letters are joined with their marks again.
-/

namespace TemplateCompiler.Text

/-!
Composed syllables stand in a block by leading consonant, vowel and trailing consonant.
-/

def firstSyllable : Nat := 0xac00
def firstLeading : Nat := 0x1100
def firstVowel : Nat := 0x1161
/-- The code before the first trailing consonant. -/
def noTrailing : Nat := 0x11a7
def leadingCount : Nat := 19
def vowelCount : Nat := 21
/-- The trailing consonants, and that there is none. -/
def trailingCount : Nat := 28

def isSyllable (code : Nat) : Bool :=
  firstSyllable ≤ code && code < firstSyllable + leadingCount * vowelCount * trailingCount

def syllableLetters (code : Nat) : List Nat :=
  let index := code - firstSyllable
  let pair := index / trailingCount
  let trailing := index % trailingCount
  [firstLeading + pair / vowelCount, firstVowel + pair % vowelCount] ++
    if trailing = 0 then [] else [noTrailing + trailing]

/-- The syllable of a leading consonant and a vowel, or of such a syllable and a trailing consonant. -/
def joinSyllable? (first second : Nat) : Option Nat :=
  if firstLeading ≤ first ∧ first < firstLeading + leadingCount ∧
      firstVowel ≤ second ∧ second < firstVowel + vowelCount then
    some (firstSyllable +
      ((first - firstLeading) * vowelCount + (second - firstVowel)) * trailingCount)
  else if isSyllable first ∧ (first - firstSyllable) % trailingCount = 0 ∧
      noTrailing < second ∧ second < noTrailing + trailingCount then
    some (first + (second - noTrailing))
  else none

/-- What a character stands for. Composed characters nest at most `depth` deep. -/
def divideWithin : Nat → Nat → List Nat
  | 0, code => [code]
  | depth + 1, code =>
    match composites.get.find? (·.whole == code) with
    | some c => divideWithin depth c.first ++ divideWithin depth c.second
    | none =>
      match compatibles.get.find? fun c => c.first ≤ code && code ≤ c.last with
      | some c => c.meaningOf code
      | none => [code]

/-- What a character stands for, in parts that cannot be divided further. -/
def divide (code : Nat) : List Nat :=
  if code < 128 then [code]
  else if isSyllable code then syllableLetters code
  else divideWithin 4 code

/-- Puts a character in front of sorted ones, behind the marks of smaller classes. -/
def insertMark (code : Nat) : List Nat → List Nat
  | [] => [code]
  | c :: rest =>
    if combiningClass c ≠ 0 ∧ combiningClass c < combiningClass code then c :: insertMark code rest
    else code :: c :: rest

def sortMarks (codes : List Nat) : List Nat := codes.foldr insertMark []

def join? (first second : Nat) : Option Nat :=
  joinSyllable? first second <|>
    (composites.get.find? fun c => c.first == first && c.second == second).map Composite.whole

/-- Joins a letter with the marks and letters that follow it. `kept` holds the marks that stay apart,
the last one first; a mark behind one of its own or a higher class cannot be joined. -/
def joinFrom (letter : Nat) (kept : List Nat) : List Nat → List Nat
  | [] => letter :: kept.reverse
  | c :: rest =>
    let blocked := kept.head?.any fun last => combiningClass c ≤ combiningClass last
    match if blocked then none else join? letter c with
    | some whole => joinFrom whole kept rest
    | none =>
      if combiningClass c = 0 then letter :: kept.reverse ++ joinFrom c [] rest
      else joinFrom letter (c :: kept) rest

def joinAll : List Nat → List Nat
  | [] => []
  | c :: rest => if combiningClass c = 0 then joinFrom c [] rest else c :: joinAll rest

def normalCodes (codes : List Nat) : List Nat :=
  if codes.all (· < 128) then codes else joinAll (sortMarks (codes.flatMap divide))

def normalName (cs : List Char) : List Char :=
  if cs.all (·.toNat < 128) then cs else (normalCodes (cs.map Char.toNat)).map Char.ofNat

@[simp] theorem length_insertMark (code : Nat) (codes : List Nat) :
    (insertMark code codes).length = codes.length + 1 := by
  induction codes with
  | nil => rfl
  | cons c rest ih =>
    unfold insertMark
    split <;> simp [ih]

@[simp] theorem length_sortMarks (codes : List Nat) : (sortMarks codes).length = codes.length := by
  induction codes with
  | nil => rfl
  | cons c rest ih =>
    change (insertMark c (sortMarks rest)).length = _
    simp [ih]

theorem normalName_of_ascii (cs : List Char) (h : ∀ c ∈ cs, c.toNat < 128) : normalName cs = cs := by
  have hall : cs.all (·.toNat < 128) = true := by simpa using h
  simp only [normalName, hall, if_true]

end TemplateCompiler.Text
