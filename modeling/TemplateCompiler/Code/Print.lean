import TemplateCompiler.Code.Expr

/-!
The text of an expression. Every node has a level of binding strength and every place asks for one; a
node that binds less strongly than its place asks for stands in parentheses.

Inside the replacement fields of a formatted string no backslash may appear, so texts there are spelled
with whatever quotes avoid it.
-/

namespace TemplateCompiler.Code

open TemplateCompiler.Text

/-- Binding strength, from weakest to strongest. -/
abbrev Level := Nat

namespace Level

def named : Level := 1
def tuple : Level := 2
def yield : Level := 3
def test : Level := 4
def or : Level := 5
def and : Level := 6
def not : Level := 7
def compare : Level := 8
def bitOr : Level := 9
def bitXor : Level := 10
def bitAnd : Level := 11
def shift : Level := 12
def sum : Level := 13
def term : Level := 14
def factor : Level := 15
def power : Level := 16
def await : Level := 17
def atom : Level := 18

/-- One step stronger; an atom is as strong as it gets. -/
def next (l : Level) : Level := min (l + 1) atom

end Level

namespace UnaryOp

def symbol : UnaryOp → String
  | invert => "~"
  | not => "not "
  | plus => "+"
  | minus => "-"

def level : UnaryOp → Level
  | not => .not
  | _ => .factor

end UnaryOp

namespace BinaryOp

def symbol : BinaryOp → String
  | add => "+"
  | sub => "-"
  | mul => "*"
  | matMul => "@"
  | div => "/"
  | mod => "%"
  | shiftLeft => "<<"
  | shiftRight => ">>"
  | bitOr => "|"
  | bitXor => "^"
  | bitAnd => "&"
  | floorDiv => "//"
  | pow => "**"

def level : BinaryOp → Level
  | add | sub => .sum
  | mul | matMul | div | mod | floorDiv => .term
  | shiftLeft | shiftRight => .shift
  | bitOr => .bitOr
  | bitXor => .bitXor
  | bitAnd => .bitAnd
  | pow => .power

/-- The levels asked of the two operands; only a power groups to the right. -/
def operandLevels (op : BinaryOp) : Level × Level :=
  match op with
  | pow => (op.level.next, op.level)
  | _ => (op.level, op.level.next)

end BinaryOp

namespace LogicalOp

def symbol : LogicalOp → String
  | and => "and"
  | or => "or"

def level : LogicalOp → Level
  | and => .and
  | or => .or

end LogicalOp

def CompareOp.symbol : CompareOp → String
  | eq => "=="
  | notEq => "!="
  | lt => "<"
  | ltEq => "<="
  | gt => ">"
  | gtEq => ">="
  | same => "is"
  | notSame => "is not"
  | within => "in"
  | notWithin => "not in"

def Conversion.letter : Conversion → Char
  | str => 's'
  | repr => 'r'
  | ascii => 'a'

inductive Unprintable where
  | tooManyDigits
  | backslashInField
  deriving DecidableEq, Repr

/-- Parentheses where the place asks for more than the node gives. -/
def enclose (required own : Level) (text : String) : String :=
  if own < required then "(" ++ text ++ ")" else text

def commas (texts : List String) : String := ", ".intercalate texts

/-- Items with commas; a single item keeps a comma behind it. -/
def itemsText : List String → String
  | [text] => text ++ ","
  | texts => commas texts

def parameterTexts (names : List String) (defaults : List (Option String)) : List String :=
  names.zipWith (fun param default? =>
    match default? with
    | some text => param ++ "=" ++ text
    | none => param) defaults

/-- The parameter list of an anonymous function. `defaults` belongs to the last positional
parameters, `keywordDefaults` to the keyword-only ones in turn. -/
def Parameters.text (p : Parameters) (keywordDefaults : List (Option String))
    (defaults : List String) : String :=
  let count := p.positionalOnly.length + p.positional.length
  let padded := List.replicate (count - defaults.length) none ++ defaults.map some
  let positional := parameterTexts (p.positionalOnly ++ p.positional) padded
  let slash := if p.positionalOnly.isEmpty then [] else ["/"]
  let star := match p.rest with
    | some param => ["*" ++ param]
    | none => if p.keywordOnly.isEmpty then [] else ["*"]
  let keywordRest := match p.keywordRest with
    | some param => ["**" ++ param]
    | none => []
  commas (positional.take p.positionalOnly.length ++ slash ++
    positional.drop p.positionalOnly.length ++ star ++
    parameterTexts p.keywordOnly keywordDefaults ++ keywordRest)

/-- Braces are doubled in the literal parts of a formatted string. -/
def doubleBraces (codes : List Nat) : List Nat :=
  codes.flatMap fun code =>
    if code = '\x7b'.toNat ∨ code = '\x7d'.toNat then [code, code] else [code]

/-- A part of a formatted string: its text before quoting, and whether it is literal. -/
structure FormatPart where
  codes : List Nat
  isLiteral : Bool

/-- Spells the parts one after the other, each with the kinds of quotes that the part before it has
left. -/
def spellParts (kinds : List QuoteKind) : List FormatPart → List Char × List QuoteKind
  | [] => ([], kinds)
  | part :: parts =>
    let (body, left) := spellBody ⟨part.codes⟩ kinds part.isLiteral
    let (rest, final) := spellParts left parts
    (body ++ rest, final)

/-- A formatted string outside of any replacement field. The quotes are of the first kind that the last
part has left. -/
def formattedText (parts : List FormatPart) : String :=
  let (body, kinds) := spellParts QuoteKind.all parts
  let delimiter := (kinds.head?.getD .single).chars
  String.ofList ('f' :: delimiter ++ body ++ delimiter)

namespace Expr

def constantText (spare : Bool) (value : Constant) : Except Unprintable String :=
  match spare, value with
  | true, .text codes marked => .ok ((if marked then "u" else "") ++ String.ofList (spell codes))
  | _, _ => match value.render? with
    | some text => .ok text
    | Option.none => .error .tooManyDigits

mutual

/-- The text of an expression at a place that asks for `required`. A replacement field has a text only
inside its formatted string. -/
def print (spare : Bool) (required : Level) : Expr → Except Unprintable String
  | absent => .ok ""
  | name id | own id => .ok id
  | placeholder read => .ok ("$" ++ read.localName)
  | constant value => constantText spare value
  | member base attr => do
    let text ← base.print spare .atom
    match base with
    | constant value => return text ++ (if value.isWhole then " ." else ".") ++ attr
    | _ => return text ++ "." ++ attr
  | subscript base index => do
    let baseText ← base.print spare .atom
    let indexText ← index.print spare (match index with
      | tuple _ => .tuple
      | _ => .test)
    return baseText ++ "[" ++ indexText ++ "]"
  | slice lower upper step => do
    let lowerText ← lower.print spare .test
    let upperText ← upper.print spare .test
    let stepText ← step.print spare .test
    let tail := match step with
      | absent => ""
      | _ => ":" ++ stepText
    return lowerText ++ ":" ++ upperText ++ tail
  | call callee args keywords => do
    let calleeText ← callee.print spare .atom
    let argTexts ← printAll spare .test args
    let keywordTexts ← printAll spare .test keywords
    return calleeText ++ "(" ++ commas (argTexts ++ keywordTexts) ++ ")"
  | keyword param value => do
    let text ← value.print spare .test
    match param with
    | some id => return id ++ "=" ++ text
    | Option.none => return "**" ++ text
  | starred value => do
    return "*" ++ (← value.print spare .bitOr)
  | unary op operand => do
    return enclose required op.level (op.symbol ++ (← operand.print spare op.level))
  | binary op left right => do
    let leftText ← left.print spare op.operandLevels.1
    let rightText ← right.print spare op.operandLevels.2
    return enclose required op.level (leftText ++ " " ++ op.symbol ++ " " ++ rightText)
  | logical op operands => do
    let texts ← printRising spare op.level operands
    return enclose required op.level ((" " ++ op.symbol ++ " ").intercalate texts)
  | compare first ops rest => do
    let firstText ← first.print spare Level.compare.next
    let restTexts ← printAll spare Level.compare.next rest
    let tail := ops.zipWith (fun op text => " " ++ op.symbol ++ " " ++ text) restTexts
    return enclose required .compare (firstText ++ String.join tail)
  | conditional test body orelse => do
    let bodyText ← body.print spare Level.test.next
    let testText ← test.print spare Level.test.next
    let orelseText ← orelse.print spare .test
    return enclose required .test (bodyText ++ " if " ++ testText ++ " else " ++ orelseText)
  | lambda params keywordDefaults defaults body => do
    let keywordTexts ← printOptional spare keywordDefaults
    let defaultTexts ← printAll spare .test defaults
    let bodyText ← body.print spare .test
    let paramText := params.text keywordTexts defaultTexts
    let head := if paramText.isEmpty then "lambda: " else "lambda " ++ paramText ++ ": "
    return enclose required .test (head ++ bodyText)
  | tuple items => do
    let text := itemsText (← printAll spare .test items)
    return if items.isEmpty then "()" else enclose required .tuple text
  | list items => do
    return "[" ++ commas (← printAll spare .test items) ++ "]"
  | set items => do
    let texts ← printAll spare .test items
    return if items.isEmpty then "\x7b*()\x7d" else "\x7b" ++ commas texts ++ "\x7d"
  | dict keys values => do
    let keyTexts ← printOptional spare keys
    return "\x7b" ++ commas (← printEntries spare keyTexts values) ++ "\x7d"
  | comprehension form element clauses => do
    let elementText ← element.print spare .test
    let body := elementText ++ String.join (← printAll spare .test clauses)
    return match form with
      | .list => "[" ++ body ++ "]"
      | .set => "\x7b" ++ body ++ "\x7d"
      | .generator => "(" ++ body ++ ")"
  | dictComprehension key value clauses => do
    let keyText ← key.print spare .test
    let valueText ← value.print spare .test
    let clauseTexts ← printAll spare .test clauses
    return "\x7b" ++ keyText ++ ": " ++ valueText ++ String.join clauseTexts ++ "\x7d"
  | clause isAsync target iterable conditions => do
    let targetText ← target.print spare .tuple
    let iterableText ← iterable.print spare Level.test.next
    let conditionTexts ← printAll spare Level.test.next conditions
    return (if isAsync then " async for " else " for ") ++ targetText ++ " in " ++ iterableText ++
      String.join (conditionTexts.map (" if " ++ ·))
  | named target value => do
    return enclose required .named (target ++ " := " ++ (← value.print spare .atom))
  | await value => do
    return enclose required .await ("await " ++ (← value.print spare .atom))
  | yield value => do
    let text ← value.print spare .atom
    return enclose required .yield (match value with
      | absent => "yield"
      | _ => "yield " ++ text)
  | yieldFrom value => do
    return enclose required .yield ("yield from " ++ (← value.print spare .atom))
  | joined parts => do
    let parts ← formatParts parts
    if spare then
      return String.ofList ('f' :: spell ⟨parts.flatMap FormatPart.codes⟩)
    else
      return formattedText parts
  | field _ _ _ => .ok ""

def printAll (spare : Bool) (required : Level) : List Expr → Except Unprintable (List String)
  | [] => .ok []
  | e :: es => do
    let text ← e.print spare required
    let texts ← printAll spare required es
    return text :: texts

/-- The operands of a logical operator: each place asks for one step more than the one before. -/
def printRising (spare : Bool) (level : Level) : List Expr → Except Unprintable (List String)
  | [] => .ok []
  | e :: es => do
    let text ← e.print spare level.next
    let texts ← printRising spare level.next es
    return text :: texts

/-- `none` where the expression is absent. -/
def printOptional (spare : Bool) : List Expr → Except Unprintable (List (Option String))
  | [] => .ok []
  | e :: es => do
    let text ← e.print spare .test
    let texts ← printOptional spare es
    match e with
    | absent => return Option.none :: texts
    | _ => return some text :: texts

/-- The entries of a mapping display, given the texts of the keys. -/
def printEntries (spare : Bool) (keys : List (Option String)) :
    List Expr → Except Unprintable (List String)
  | [] => .ok []
  | value :: values => do
    let entry ← match keys.head?.join with
      | some key => do pure (key ++ ": " ++ (← value.print spare .test))
      | Option.none => do pure ("**" ++ (← value.print spare .bitOr))
    let entries ← printEntries spare keys.tail values
    return entry :: entries

def formatPart : Expr → Except Unprintable FormatPart
  | constant (.text value _) => .ok ⟨doubleBraces value.codes, true⟩
  | field value conversion spec => do
    let text ← value.print true Level.test.next
    if text.contains '\\' then .error .backslashInField
    else
      let gap := if text.startsWith "\x7b" then " " else ""
      let mark := match conversion with
        | some c => "!" ++ String.singleton c.letter
        | Option.none => ""
      let specPart ← formatPart spec
      let colon := match spec with
        | absent => ""
        | _ => ":"
      return ⟨(CodePoints.ofString ("\x7b" ++ gap ++ text ++ mark ++ colon)).codes ++
        specPart.codes ++ ['\x7d'.toNat], false⟩
  | joined parts => do
    let parts ← formatParts parts
    return ⟨parts.flatMap FormatPart.codes, false⟩
  | _ => .ok ⟨[], true⟩

def formatParts : List Expr → Except Unprintable (List FormatPart)
  | [] => .ok []
  | e :: es => do
    let part ← formatPart e
    let parts ← formatParts es
    return part :: parts

end

def text (e : Expr) : Except Unprintable String := e.print false .test

end Expr

end TemplateCompiler.Code
