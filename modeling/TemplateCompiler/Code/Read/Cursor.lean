import TemplateCompiler.Code.Token

/-!
Readers of token lists. A reader may fail, and then it has consumed nothing that matters to its caller.
The cursor remembers the line on which the last consumed token ends, so that a rule can say which lines
it covers.
-/

namespace TemplateCompiler.Code

/-- An expression and the lines that it covers. -/
structure Located where
  expr : Expr
  firstLine : Nat
  lastLine : Nat
  deriving Repr

namespace Read

structure Cursor where
  rest : List Token
  lastLine : Nat

abbrev Reader := StateT Cursor Option

def isSymbol (text : String) : Lexeme → Bool
  | .symbol s => s == text
  | _ => false

def isWord (keyword : String) : Lexeme → Bool
  | .word w => w == keyword
  | _ => false

def peek : Reader (Option Lexeme) := fun c => some (c.rest.head?.map Token.lexeme, c)

def peekSecond : Reader (Option Lexeme) := fun c => some ((c.rest[1]?).map Token.lexeme, c)

def next : Reader Lexeme
  | ⟨[], _⟩ => none
  | ⟨t :: rest, _⟩ => some (t.lexeme, ⟨rest, t.lastLine⟩)

def line : Reader Nat := fun c => some ((c.rest.head?.map Token.firstLine).getD c.lastLine, c)

/-- How many tokens are left, a bound for every loop. -/
def remaining : Reader Nat := fun c => some (c.rest.length, c)

def sees (p : Lexeme → Bool) : Reader Bool := do
  return (← peek).any p

/-- Consumes the next lexeme if it satisfies `p`, and says whether it did. -/
def accept (p : Lexeme → Bool) : Reader Bool := do
  if ← sees p then
    let _ ← next
    return true
  else return false

def expect (p : Lexeme → Bool) : Reader Unit := do
  guard (p (← next))

def name : Reader String := do
  match ← next with
  | .name id => return id
  | _ => failure

/-- A node from line `first` to the end of the last consumed token. -/
def spanning (first : Nat) (expr : Expr) : Reader Located := fun c =>
  some (⟨expr, first, c.lastLine⟩, c)

/-- Items divided by commas up to a closing symbol, which is not consumed. A comma may end them. -/
def itemsUntil {α : Type} (closing : String) (item : Reader α) : Nat → Reader (List α)
  | 0 => return []
  | fuel + 1 => do
    if ← sees (isSymbol closing) then return []
    else
      let first ← item
      if ← accept (isSymbol ",") then return first :: (← itemsUntil closing item fuel)
      else return [first]

/-- `itemsUntil` with a bound that is large enough. -/
def items {α : Type} (closing : String) (item : Reader α) : Reader (List α) := do
  itemsUntil closing item (← remaining)

def whileSeen {α : Type} (p : Lexeme → Bool) (item : Reader α) : Nat → Reader (List α)
  | 0 => return []
  | fuel + 1 => do
    if ← sees p then
      let first ← item
      return first :: (← whileSeen p item fuel)
    else return []

end Read

end TemplateCompiler.Code
