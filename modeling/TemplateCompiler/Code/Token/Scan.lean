import TemplateCompiler.Code.Token
import TemplateCompiler.Code.Token.Literal
import TemplateCompiler.Code.Token.Number
import TemplateCompiler.Text.Identifier
import TemplateCompiler.Text.NormalForm

/-!
The tokens of a source text. Blanks and comments separate tokens. Inside brackets a line end is a
blank; outside it ends the expression. Empty lines and comments may come before and after. A backslash
joins two lines. The replacement fields of a formatted string are scanned as if they stood in parentheses.
-/

namespace TemplateCompiler.Code.Scan

open TemplateCompiler.Text

/-- Brackets nest at most this deep. -/
def maxDepth : Nat := 200

def unifyLineEnds : List Char → List Char
  | '\r' :: '\n' :: rest => '\n' :: unifyLineEnds rest
  | c :: rest => (if c = '\r' then '\n' else c) :: unifyLineEnds rest
  | [] => []

/-- The symbols of the language; a longer one comes before its beginnings. -/
def symbols : List (List Char) :=
  ["**=", "//=", ">>=", "<<=", "...", "!=", "%=", "&=", "**", "*=", "+=", "-=", "->", "//", "/=", ":=",
    "<<", "<=", "<>", "==", ">=", ">>", "@=", "^=", "|=", "%", "&", "(", ")", "*", "+", ",", "-", ".",
    "/", ":", ";", "<", "=", ">", "@", "[", "]", "^", "\x7b", "|", "\x7d", "~"].map String.toList

def isOpening (c : Char) : Bool := c == '(' || c == '[' || c == '\x7b'

def isClosing (c : Char) : Bool := c == ')' || c == ']' || c == '\x7d'

def bracketsMatch (opening closing : Char) : Bool :=
  (opening == '(' && closing == ')') || (opening == '[' && closing == ']') ||
    (opening == '\x7b' && closing == '\x7d')

def isInlineBlank (c : Char) : Bool := c == ' ' || c == '\t' || c == '\x0c'

def isNameChar (c : Char) : Bool := c.isAlphanum || c == '_' || 128 ≤ c.toNat

/-- A keyword, or a name in normal form; `none` if the run of characters is no identifier. -/
def nameLexeme? (cs : List Char) : Option Lexeme :=
  let text := String.ofList cs
  if isKeyword text then some (.word text)
  else if isIdentifierChars cs then some (.name (String.ofList (normalName cs)))
  else none

/-- Only blanks, comments and joined lines follow. -/
def onlyTrivia : Bool → List Char → Bool
  | _, [] => true
  | true, c :: rest => onlyTrivia (c != '\n') rest
  | false, '\\' :: rest =>
    match rest with
    | '\n' :: more => !more.isEmpty && onlyTrivia false more
    | _ => false
  | false, c :: rest =>
    if c = '#' then onlyTrivia true rest
    else (isInlineBlank c || c = '\n') && onlyTrivia false rest

/-- What a line has shown before its first token. -/
structure Margin where
  indented : Bool := false
  /-- A line that this one was joined to was indented. -/
  joinedIndented : Bool := false
  comment : Bool := false

/-- Passes over empty lines and comments and gives the line of the first token. That token must not be
indented. -/
def passMargin (line : Nat) (m : Margin) : List Char → Option (Nat × List Char)
  | [] => some (line, [])
  | c :: rest =>
    if c = '\n' then passMargin (line + 1) {} rest
    else if m.comment then passMargin line m rest
    else if c = '#' then passMargin line { m with comment := true } rest
    else if isInlineBlank c then passMargin line { m with indented := c != '\x0c' } rest
    else if c = '\\' then
      match rest with
      | '\n' :: more =>
        if more.isEmpty then none
        else passMargin (line + 1) { m with joinedIndented := m.joinedIndented || m.indented } more
      | _ => none
    else if m.indented || m.joinedIndented then none
    else some (line, c :: rest)

inductive LiteralEnd where
  /-- After a doubled brace, of which one belongs to the literal. -/
  | doubled (rest : List Char)
  /-- At a brace or at the end. -/
  | stop (rest : List Char)

/-- Takes literal characters of a formatted string, escapes still undecoded. Braces may be doubled at
the outermost level only. `inName` says that the characters belong to the name in a named escape. -/
def takeLiteral (raw outer inName : Bool) : List Char → Option (List Char × LiteralEnd)
  | [] => some ([], .stop [])
  | c :: rest =>
    let go (inName : Bool) :=
      (takeLiteral raw outer inName rest).map fun (body, after) => (c :: body, after)
    if inName then go (c != '\x7d')
    else if c = '\\' ∧ !raw then
      match rest with
      | 'N' :: more =>
        (takeLiteral raw outer (more.head? == some '\x7b') more).map fun (body, after) =>
          (c :: 'N' :: body, after)
      | d :: more =>
        if d = '\x7b' ∨ d = '\x7d' then go false
        else (takeLiteral raw outer false more).map fun (body, after) => (c :: d :: body, after)
      | [] => go false
    else if c = '\x7b' ∨ c = '\x7d' then
      if outer then
        if rest.head? = some c then some ([c], .doubled rest.tail)
        else if c = '\x7d' then none
        else some ([], .stop (c :: rest))
      else some ([], .stop (c :: rest))
    else go false

/-- The string literal around a place in a replacement field. -/
inductive Inside where
  | nothing
  | single (delimiter : Char)
  | triple (delimiter : Char)
  deriving DecidableEq, Repr

/-- Takes the expression of a replacement field. It ends at a conversion mark, a colon, an equals sign
or a closing brace that is inside no string and no bracket. Backslashes and comments may not occur.
The next `skip` characters were looked at before and are taken as they are; `stack` holds the open
brackets. -/
def takeFieldText (skip : Nat) (inside : Inside) (stack : List Char) :
    List Char → Option (List Char × List Char)
  | [] => none
  | c :: rest =>
    let go skip inside stack :=
      (takeFieldText skip inside stack rest).map fun (text, after) => (c :: text, after)
    if 0 < skip then go (skip - 1) inside stack
    else if c = '\\' then none
    else match inside with
    | .triple delimiter =>
      if c = delimiter ∧ rest.take 2 = [c, c] then go 2 .nothing stack else go 0 inside stack
    | .single delimiter => go 0 (if c = delimiter then .nothing else inside) stack
    | .nothing =>
      if c = '\'' ∨ c = '"' then
        if rest.take 2 = [c, c] then go 2 (.triple c) stack else go 0 (.single c) stack
      else if isOpening c then
        if stack.length < maxDepth then go 0 .nothing (c :: stack) else none
      else if c = '#' then none
      else match stack with
      | [] =>
        if (c = '!' ∨ c = '=' ∨ c = '<' ∨ c = '>') ∧ rest.head? = some '=' then go 1 .nothing []
        else if c = '!' ∨ c = '=' ∨ c = ':' ∨ c = '\x7d' then some ([], c :: rest)
        else if isClosing c then none
        else go 0 .nothing []
      | opening :: outer =>
        if isClosing c then
          if bracketsMatch opening c then go 0 .nothing outer else none
        else go 0 .nothing stack

def takeConversion : List Char → Option (Option Conversion × List Char)
  | '!' :: 's' :: rest => some (some .str, rest)
  | '!' :: 'r' :: rest => some (some .repr, rest)
  | '!' :: 'a' :: rest => some (some .ascii, rest)
  | '!' :: _ => none
  | rest => some (none, rest)

/-- The blanks after an equals sign that belong to the shown text. -/
def isShownBlank (c : Char) : Bool := isInlineBlank c || c == '\n' || c == '\r' || c == '\x0b'

mutual

/-- The tokens of `cs`, which starts on line `line` inside `depth` brackets. `fuel` bounds the number
of characters. -/
def tokens : Nat → Nat → Nat → List Char → Option (List Token)
  | 0, _, _, _ => none
  | _ + 1, _, _, [] => some []
  | fuel + 1, line, depth, c :: rest =>
    if isInlineBlank c then tokens fuel line depth rest
    else if c = '#' then tokens fuel line depth (rest.dropWhile (· != '\n'))
    else if c = '\n' then
      if 0 < depth then tokens fuel (line + 1) depth rest
      else if onlyTrivia false rest then some []
      else none
    else if c = '\\' then
      match rest with
      | '\n' :: more => if more.isEmpty then none else tokens fuel (line + 1) depth more
      | _ => none
    else match Literal.takeMarks {} (c :: rest) with
    | some (marks, delimiter, quoted) => do
      let (body, after) ← Literal.takeQuoted delimiter quoted
      let lexeme ← stringLexeme fuel line marks (c == 'u') body
      let lastLine := line + body.count '\n'
      let more ← tokens fuel lastLine depth after
      return .mk lexeme line lastLine :: more
    | none =>
      if c.isDigit then do
        let (value, after) ← Number.take (c :: rest)
        return .mk (.number value) line line :: (← tokens fuel line depth after)
      else if isNameChar c then do
        let (word, after) := (c :: rest).span isNameChar
        let lexeme ← nameLexeme? word
        return .mk lexeme line line :: (← tokens fuel line depth after)
      else if c = '.' ∧ rest.head?.any Char.isDigit then do
        let (value, after) ← Number.takeFraction rest
        return .mk (.number value) line line :: (← tokens fuel line depth after)
      else do
        let symbol ← symbols.find? (·.isPrefixOf (c :: rest))
        let depth ←
          if isOpening c then (if depth < maxDepth then some (depth + 1) else none)
          else if isClosing c then (if 0 < depth then some (depth - 1) else none)
          else some depth
        let after := (c :: rest).drop symbol.length
        return .mk (.symbol (String.ofList symbol)) line line :: (← tokens fuel line depth after)

/-- The value of a string literal; `marked` says that it starts with a small `u`. -/
def stringLexeme : Nat → Nat → Literal.Marks → Bool → List Char → Option Lexeme
  | 0, _, _, _, _ => none
  | fuel + 1, line, marks, marked, body =>
    if marks.format then do
      let (pieces, _) ← pieces fuel line marks.raw 0 body
      return .formatted pieces
    else if marks.bytes then (Literal.bytesOf? marks.raw body).map .bytes
    else (Literal.textOf? marks.raw body).map fun codes => .text codes marked

/-- The parts of a formatted string. At level 0 they reach to its end; a format specification ends
before a closing brace. -/
def pieces : Nat → Nat → Bool → Nat → List Char → Option (List Piece × List Char)
  | 0, _, _, _, _ => none
  | fuel + 1, line, raw, level, cs => do
    let (body, finish) ← takeLiteral raw (level == 0) false cs
    let codes ← Literal.textOf? raw body
    let here := if codes.isEmpty then [] else [Piece.literal codes]
    match finish with
    | .doubled rest =>
      let (more, after) ← pieces fuel line raw level rest
      return (here ++ more, after)
    | .stop ('\x7b' :: rest) =>
      let (parts, rest) ← field fuel line raw level rest
      let (more, after) ← pieces fuel line raw level rest
      return (here ++ parts ++ more, after)
    | .stop rest => return (here, rest)

/-- A replacement field after its opening brace. An equals sign shows the text of the expression and
asks for its quoted form, unless a conversion or a specification says otherwise. -/
def field : Nat → Nat → Bool → Nat → List Char → Option (List Piece × List Char)
  | 0, _, _, _, _ => none
  | fuel + 1, line, raw, level, cs => do
    if 2 ≤ level then none
    else
      let (text, rest) ← takeFieldText 0 .nothing [] cs
      if text.all fun c => isInlineBlank c || c == '\n' then none
      else
        let inner ← tokens fuel line 1 text
        let (shown, rest) := match rest with
          | '=' :: more =>
            let (blanks, after) := more.span isShownBlank
            (text ++ '=' :: blanks, after)
          | _ => ([], rest)
        let (conversion, rest) ← takeConversion rest
        let (spec, rest) ← match rest with
          | ':' :: more => do
            let (parts, after) ← pieces fuel line raw (level + 1) more
            pure (some parts, after)
          | _ => pure (none, rest)
        match rest with
        | '\x7d' :: after =>
          let conversion :=
            if !shown.isEmpty && spec.isNone then conversion.or (some .repr) else conversion
          let wrapped := Token.mk (.symbol "(") line line :: inner ++ [.mk (.symbol ")") line line]
          let literal := if shown.isEmpty then [] else [Piece.literal (shown.map Char.toNat)]
          return (literal ++ [.field wrapped conversion spec], after)
        | _ => none

end

/-- The tokens of a source text, or nothing if it cannot be divided into tokens. -/
def scan (source : List Char) : Option (List Token) := do
  let (line, cs) ← passMargin 1 {} (unifyLineEnds source)
  tokens (4 * cs.length + 4) line 0 cs

end TemplateCompiler.Code.Scan
