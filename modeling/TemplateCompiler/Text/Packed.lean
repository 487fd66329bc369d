/-!
Packed texts. A packed text is one long number, given by its digits. Reading narrows a range around the number:
each bit of the text divides the range in the proportion of the chances of the bit, which are predicted from the
text before it. What was predicted is then compared with the bit, so that predictions get better on the way.
-/

namespace TemplateCompiler.Text.Packed

/-- The symbols of texts. A symbol is read as six bits. -/
def symbols : Array Char :=
  "\n ABCDEFGHIJKLMNOPQRSTUVWXYZ0123456789abcdef-/,;:.+*~^=&".toList.toArray

/-- The digits of packed texts. -/
def digits : List Char :=
  "0123456789ABCDEFGHIJKLMNOPQRSTUVWXYZabcdefghijklmnopqrstuvwxyz!#$%&()*+,.:;<=>?@[]^_|~".toList

def base : Nat := digits.length

/-- Ranges below it are widened. -/
def narrow : Nat := Nat.pow base 5

/-- Values of the logistic function, of 4096, at equal distances. -/
def chances : Array Nat := #[1, 2, 3, 6, 10, 16, 27, 45, 73, 120, 194, 310, 488, 747, 1101, 1546, 2047, 2549,
  2994, 3348, 3607, 3785, 3901, 3975, 4024, 4050, 4068, 4079, 4085, 4089, 4092, 4093, 4094]

def chance (evidence : Int) : Nat :=
  let x := (max (-2047) (min 2047 evidence) + 2048).toNat
  (chances.getD (x / 128) 0 * (128 - x % 128) + chances.getD (x / 128 + 1) 0 * (x % 128) + 64) / 128

/-- The least evidence for each chance. -/
def evidences : Array Int :=
  (List.range 4095).foldl (fun (t : Array Int) (n : Nat) =>
    let x : Int := n - 2047
    t ++ Array.replicate (chance x + 1 - t.size) x) #[]

/-- What is known while a text is read. -/
structure State where
  /-- The digits that were not read yet. -/
  rest : List Nat
  /-- The place of the number in the range. -/
  place : Nat
  range : Nat
  /-- For each circumstance four times the chance of a bit, of 65536, and how often it was met, at most three
  times. -/
  cells : Array Nat
  /-- How much each of the circumstances tells. -/
  weights : Array Int

/-- How many circumstances are considered for a bit. -/
def width : Nat := 6

def State.start (packed : List Nat) : State := {
  rest := packed.drop 6
  place := (packed.take 6).foldl (fun n d => base * n + d) 0
  range := Nat.pow base 6
  cells := .replicate 0x400000 (4 * 32768)
  weights := .replicate (64 * width) 16384 }

/-- Widens a narrow range by reading further digits. -/
def widen : List Nat → Nat → Nat → List Nat × Nat × Nat
  | [], place, range => ([], place, range)
  | d :: rest, place, range =>
    if range < narrow then widen rest (base * place + d) (base * range) else (d :: rest, place, range)

/-- What a cell tells about the next bit. -/
def told (cell : Nat) : Int := if cell % 4 = 0 then 0 else evidences.getD (cell / 64) 2047

/-- The evidence of the cells in the given places, whose weights stand from `k` on. -/
def weigh (cells : Array Nat) (weights : Array Int) : List Nat → Nat → Int → Int
  | [], _, sum => sum / 65536
  | i :: places, k, sum =>
    weigh cells weights places (k + 1) (sum + told (cells.getD i 0) * weights.getD k 0)

def adjust (bit : Bool) (cell : Nat) : Nat :=
  let chance : Int := cell / 4
  let moved := chance + ((if bit then 65535 else 0) - chance) * 2 / (2 * (cell % 4) + 3)
  4 * (max 32 (min 65503 moved)).toNat + min 3 (cell % 4 + 1)

/-- Cells and weights after a bit, whose chance was wrong by `error`. -/
def learn (bit : Bool) (error : Int) : List Nat → Nat → Array Nat → Array Int → Array Nat × Array Int
  | [], _, cells, weights => (cells, weights)
  | i :: places, k, cells, weights =>
    let cell := cells.getD i 0
    learn bit error places (k + 1) (cells.setIfInBounds i (adjust bit cell))
      (weights.setIfInBounds k (weights.getD k 0 + error * told cell / 2048))

/-- Reads a bit. The bits of the symbol before it are given as a number, and the places of the cells for its
circumstances. -/
def State.bit (s : State) (before : Nat) (places : List Nat) : Bool × State :=
  let expected := chance (weigh s.cells s.weights places (width * before) 0)
  let bound := s.range / 4096 * max 1 (min 4095 expected)
  let bit := s.place < bound
  let (place, range) := if bit then (s.place, bound) else (s.place - bound, s.range - bound)
  let (rest, place, range) := widen s.rest place range
  let (cells, weights) :=
    learn bit ((if bit then 4096 else 0) - expected) places (width * before) s.cells s.weights
  (bit, { rest, place, range, cells, weights })

def mix (h n : UInt32) : UInt32 := 773 * h + n + 1

/-- The place of the cell for a circumstance and the bits of the symbol before the bit. -/
def cellOf (h before : UInt32) : Nat := (((64 * h + before) * 2654435761 : UInt32) >>> 10).toNat

def State.bits (hs : List UInt32) : Nat → State → Nat → Nat × State
  | 0, s, before => (before, s)
  | n + 1, s, before =>
    let (bit, s) := s.bit before (hs.map (cellOf · before.toUInt32))
    s.bits hs n (2 * before + bit.toNat)

/-- What predictions go by: the symbols before, the last first, those of the entry backwards, the symbols of the
entry before it from the same place on, and the word that is being read. -/
structure Past where
  recent : List UInt32
  entry : List UInt32
  above : List UInt32
  word : UInt32

def Past.start : Past := ⟨[], [], [], 0⟩

def Past.hints (p : Past) : List UInt32 :=
  let c (n : Nat) : UInt32 := p.recent.getD n 0
  let two := mix (mix 1 (c 0)) (c 1)
  let three := mix two (c 2)
  let place := mix (mix 3 (p.above.headD 63)) p.entry.length.toUInt32
  [mix 1 (c 0), two, three, mix (mix three (c 3)) (c 4), p.word, place].mapIdx fun k h => mix h k.toUInt32

/-- Line ends and the marks behind the slash start a new entry. -/
def startsEntry (symbol : UInt32) : Bool := symbol = 0 || 45 < symbol

def Past.next (p : Past) (symbol : UInt32) : Past :=
  let recent := symbol :: p.recent.take 4
  if startsEntry symbol then ⟨recent, [symbol], p.entry.reverse.drop 1, 0⟩
  else ⟨recent, symbol :: p.entry, p.above.drop 1, if symbol = 1 then 0 else mix p.word symbol⟩

def read : Nat → State → Past → List Char → List Char
  | 0, _, _, text => text.reverse
  | n + 1, s, p, text =>
    let (bits, s) := s.bits p.hints 6 1
    let symbol := bits - 64
    read n s (p.next symbol.toUInt32) (symbols.getD symbol ' ' :: text)

/-- The text of the given length that digits stand for. Line ends between them have no meaning. -/
def unpack (length : Nat) (packed : String) : List Char :=
  read length (.start (packed.toList.filterMap digits.idxOf?)) .start []

end TemplateCompiler.Text.Packed
