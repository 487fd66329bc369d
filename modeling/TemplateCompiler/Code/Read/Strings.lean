import TemplateCompiler.Code.Token

/-!
Neighbouring string literals form one value. Texts and formatted strings join to one formatted string,
whose neighbouring texts are one text; byte strings join only with byte strings.
-/

namespace TemplateCompiler.Code.Read

open TemplateCompiler.Text

/-- Joins neighbouring texts and drops empty ones. -/
def joinTexts : List Expr → List Expr
  | [] => []
  | .constant (.text value marked) :: rest =>
    match joinTexts rest with
    | .constant (.text more _) :: others =>
      .constant (.text ⟨value.codes ++ more.codes⟩ marked) :: others
    | others => if value.codes.isEmpty then others else .constant (.text value marked) :: others
  | e :: rest => e :: joinTexts rest

mutual

/-- The parts of a formatted string, given a reader for the expressions of its fields. -/
def piece (field : List Token → Option Expr) : Piece → Option Expr
  | .literal codes => some (.constant (.text ⟨codes⟩ false))
  | .field tokens conversion none => do
    return .field (← field tokens) conversion .absent
  | .field tokens conversion (some spec) => do
    return .field (← field tokens) conversion (.joined (joinTexts (← pieces field spec)))

def pieces (field : List Token → Option Expr) : List Piece → Option (List Expr)
  | [] => some []
  | p :: rest => do
    let first ← piece field p
    return first :: (← pieces field rest)

end

def isString : Lexeme → Bool
  | .text .. | .bytes .. | .formatted .. => true
  | _ => false

def allBytes? : List Lexeme → Option (List Nat)
  | [] => some []
  | .bytes values :: rest => (allBytes? rest).map (values ++ ·)
  | _ :: _ => none

def allPieces? : List Lexeme → Option (List Piece)
  | [] => some []
  | .text codes _ :: rest => (allPieces? rest).map (.literal codes :: ·)
  | .formatted parts :: rest => (allPieces? rest).map (parts ++ ·)
  | _ :: _ => none

def allCodes? : List Lexeme → Option (List Nat)
  | [] => some []
  | .text codes _ :: rest => (allCodes? rest).map (codes ++ ·)
  | _ :: _ => none

/-- The value of neighbouring literals; the first one decides on the mark. -/
def concatenate (field : List Token → Option Expr) (literals : List Lexeme) : Option Expr :=
  match allCodes? literals, allBytes? literals with
  | some codes, _ =>
    let marked := match literals with
      | .text _ marked :: _ => marked
      | _ => false
    some (.constant (.text ⟨codes⟩ marked))
  | none, some values => some (.constant (.bytes values))
  | none, none => do
    return .joined (joinTexts (← pieces field (← allPieces? literals)))

end TemplateCompiler.Code.Read
