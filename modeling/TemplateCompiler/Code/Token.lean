import TemplateCompiler.Code.Expr

/-!
Tokens of the expression language. A token knows the lines that it starts and ends on. The replacement
fields of a formatted string hold the tokens of their expressions.
-/

namespace TemplateCompiler.Code

open TemplateCompiler.Text

mutual

inductive Token where
  | mk (lexeme : Lexeme) (firstLine lastLine : Nat)

inductive Lexeme where
  | name (id : String)
  | word (keyword : String)
  | number (value : Constant)
  | text (codes : List Nat) (marked : Bool)
  | bytes (values : List Nat)
  | formatted (pieces : List Piece)
  | symbol (text : String)

inductive Piece where
  | literal (codes : List Nat)
  | field (tokens : List Token) (conversion : Option Conversion) (spec : Option (List Piece))

end

namespace Token

def lexeme : Token → Lexeme
  | mk lexeme _ _ => lexeme

def firstLine : Token → Nat
  | mk _ line _ => line

def lastLine : Token → Nat
  | mk _ _ line => line

end Token

end TemplateCompiler.Code
