import TemplateCompiler.Text.CharacterName.Alias
import TemplateCompiler.Text.CharacterName.Rows
import TemplateCompiler.Text.CharacterName.Run

/-!
Characters by their names (Unicode 14). Most names stand in tables; ideographs, Hangul syllables and
some other series have names that follow a rule. Letters of a name from the tables may be large or small,
unified ideographs and syllables have large letters only.
-/

namespace TemplateCompiler.Text

/-- The names that stand in tables. They are unpacked when the first one is looked up. -/
def nameRuns : Thunk (List NameRun) :=
  .mk fun _ => ((Packed.unpack 295238 packedNames).splitOnP (· == '\n')).map .ofLine

def afterStart? (start : String) (cs : List Char) : Option (List Char) :=
  let start := start.toList
  if start.isPrefixOf cs then some (cs.drop start.length) else none

def largeHex? (cs : List Char) : Option Nat :=
  if !cs.isEmpty && cs.all fun c => (hexDigit? c).isSome && c == c.toUpper then some (hexValue cs)
  else none

def unifiedIdeographs : Ranges := ⟨[
  (0x3400, 0x4dbf), (0x4e00, 0x9fff), (0x20000, 0x2a6df), (0x2a700, 0x2b738), (0x2b740, 0x2b81d),
  (0x2b820, 0x2cea1), (0x2ceb0, 0x2ebe0), (0x30000, 0x3134a)]⟩

/-- A unified ideograph by its number, of four or five digits. -/
def ideographCode? (name : List Char) : Option Nat := do
  let digits ← afterStart? "CJK UNIFIED IDEOGRAPH-" name
  let code ← largeHex? digits
  if (digits.length = 4 ∨ digits.length = 5) ∧ unifiedIdeographs.contains code then some code
  else none

/-- The series of characters whose names end in their number. -/
def numberedSeries : List (String × Ranges) := [
  ("CJK COMPATIBILITY IDEOGRAPH-", ⟨[(0xf900, 0xfa6d), (0xfa70, 0xfad9), (0x2f800, 0x2fa1d)]⟩),
  ("KHITAN SMALL SCRIPT CHARACTER-", ⟨[(0x18b00, 0x18cd5)]⟩),
  ("NUSHU CHARACTER-", ⟨[(0x1b170, 0x1b2fb)]⟩)]

/-- A character of a series by its number, written without needless zeros. -/
def numberedCode? (name : List Char) : Option Nat :=
  numberedSeries.findSome? fun (start, ranges) => do
    let digits ← afterStart? start name
    let code ← largeHex? digits
    if digits.head? ≠ some '0' ∧ ranges.contains code then some code else none

def decimal? (cs : List Char) : Option Nat :=
  if !cs.isEmpty && cs.all Char.isDigit then some (cs.foldl (fun n c => 10 * n + (c.toNat - '0'.toNat)) 0)
  else none

/-- A component of Tangut ideographs, counted from one with three digits. -/
def componentCode? (name : List Char) : Option Nat := do
  let digits ← afterStart? "TANGUT COMPONENT-" name
  let place ← decimal? digits
  if digits.length = 3 ∧ 1 ≤ place ∧ place ≤ 768 then some (0x18800 + place - 1) else none

def selectorCode? (name : List Char) : Option Nat := do
  let digits ← afterStart? "VS" name
  let place ← decimal? digits
  if digits.head? = some '0' then none
  else if place ≤ 16 then some (0xfe00 + place - 1)
  else if place ≤ 256 then some (0xe0100 + place - 17)
  else none

/-- The consonants that a Hangul syllable starts with. -/
def hangulInitials : List String :=
  ["G", "GG", "N", "D", "DD", "R", "M", "B", "BB", "S", "SS", "", "J", "JJ", "C", "K", "T", "P", "H"]

def hangulVowels : List String :=
  ["A", "AE", "YA", "YAE", "EO", "E", "YEO", "YE", "O", "WA", "WAE", "OE", "YO", "U", "WEO", "WE",
    "WI", "YU", "EU", "YI", "I"]

/-- The consonants that a Hangul syllable ends with. -/
def hangulFinals : List String :=
  ["", "G", "GG", "GS", "N", "NJ", "NH", "D", "L", "LG", "LM", "LB", "LS", "LT", "LP", "LH", "M",
    "B", "BS", "S", "SS", "NG", "J", "C", "K", "T", "P", "H"]

/-- Takes the longest of the parts that a text starts with: its place and what follows it. -/
def takePart? (parts : List String) (cs : List Char) : Option (Nat × List Char) :=
  let fitting := parts.zipIdx.filter fun (part, _) => part.toList.isPrefixOf cs
  let longest := fitting.foldl (fun best p =>
    match best with
    | some (b : String × Nat) => if b.1.length < p.1.length then some p else best
    | none => some p) none
  longest.map fun (part, place) => (place, cs.drop part.length)

/-- A Hangul syllable by the names of its parts. -/
def syllableCode? (name : List Char) : Option Nat := do
  let (initial, rest) ← takePart? hangulInitials (← afterStart? "HANGUL SYLLABLE " name)
  let (vowel, rest) ← takePart? hangulVowels rest
  let (final, rest) ← takePart? hangulFinals rest
  if rest.isEmpty then some (0xac00 + (initial * 21 + vowel) * 28 + final) else none

/-- The character that has a name from a table, in large letters. -/
def tabledCode? (name : List Char) : Option Nat :=
  let words := wordsOf name
  nameRuns.get.findSome? (·.codeOf? words) <|> nameAliases.get.lookup name

def codeOfName? (name : List Char) : Option Nat :=
  let large := name.map Char.toUpper
  if name.isEmpty then none
  else if (afterStart? "CJK UNIFIED IDEOGRAPH-" name).isSome then ideographCode? name
  else if (afterStart? "HANGUL SYLLABLE " name).isSome then syllableCode? name
  else numberedCode? large <|> componentCode? large <|> selectorCode? large <|> tabledCode? large

@[simp] theorem codeOfName?_nil : codeOfName? [] = none := rfl

end TemplateCompiler.Text
