import TemplateCompiler.Code.Read.Cursor
import TemplateCompiler.Code.Read.Parameters
import TemplateCompiler.Code.Read.Strings

/-!
The grammar of expressions. The rules that occur inside other rules are the goals; every rule is
written over a reader for the goals, and `read` ties the knot with a bound on how deep rules nest.
-/

namespace TemplateCompiler.Code.Read

/-- The rules that other rules refer back to. -/
inductive Goal where
  /-- Any expression without a name binding at its top. -/
  | expression
  /-- An expression, perhaps bound to a name by `:=`. -/
  | binding
  | disjunction
  | inversion
  /-- Operands of comparisons. -/
  | operand
  | factor
  /-- An atom with its attributes, calls and items. -/
  | primary
  deriving DecidableEq, Repr

abbrev Goals := Goal → Reader Located

def binaryLevels : List (List (String × BinaryOp)) :=
  [[("|", .bitOr)], [("^", .bitXor)], [("&", .bitAnd)], [("<<", .shiftLeft), (">>", .shiftRight)],
    [("+", .add), ("-", .sub)],
    [("*", .mul), ("/", .div), ("//", .floorDiv), ("%", .mod), ("@", .matMul)]]

def unaryOps : List (String × UnaryOp) := [("+", .plus), ("-", .minus), ("~", .invert)]

def compareOps : List (String × CompareOp) :=
  [("==", .eq), ("!=", .notEq), ("<", .lt), ("<=", .ltEq), (">", .gt), (">=", .gtEq)]

/-- The operator of the table that the next symbol spells; it is consumed. -/
def operator? {α : Type} (table : List (String × α)) : Reader (Option α) := do
  match ← peek with
  | some (.symbol s) =>
    match table.lookup s with
    | some op =>
      let _ ← next
      return some op
    | none => return none
  | _ => return none

mutual

/-- Whether an expression may be assigned to by a comprehension. -/
def isTarget : Expr → Bool
  | .name _ | .member .. | .subscript .. => true
  | .starred value => isTarget value
  | .tuple items | .list items => areTargets items
  | _ => false

def areTargets : List Expr → Bool
  | [] => true
  | e :: es => isTarget e && areTargets es

end

section Rules

variable (goals : Goals)

def seesBinding : Reader Bool := do
  match ← peek, ← peekSecond with
  | some (.name _), some second => return isSymbol ":=" second
  | _, _ => return false

/-- A starred operand, or an expression that may be bound to a name. -/
def starredOrBinding : Reader Expr := do
  if ← accept (isSymbol "*") then return .starred (← goals .operand).expr
  else return (← goals .binding).expr

def seesClause : Reader Bool := do
  return (← sees (isWord "for")) || (← sees (isWord "async"))

def target : Reader Expr := do
  let starred ← accept (isSymbol "*")
  let e := (← goals .primary).expr
  guard (isTarget e)
  return if starred then .starred e else e

def targetsUntilIn : Nat → Reader (List Expr × Bool)
  | 0 => failure
  | fuel + 1 => do
    let first ← target goals
    if ← accept (isSymbol ",") then
      if ← sees (isWord "in") then return ([first], true)
      else
        let (more, _) ← targetsUntilIn fuel
        return (first :: more, true)
    else return ([first], false)

def clause : Reader Expr := do
  let isAsync ← accept (isWord "async")
  expect (isWord "for")
  let (targets, isTuple) ← targetsUntilIn goals (← remaining)
  let target := match targets, isTuple with
    | [e], false => e
    | es, _ => .tuple es
  expect (isWord "in")
  let iterable := (← goals .disjunction).expr
  let condition : Reader Expr := do
    expect (isWord "if")
    return (← goals .disjunction).expr
  let conditions ← whileSeen (isWord "if") condition (← remaining)
  return .clause isAsync target iterable conditions

def clauses : Reader (List Expr) := do
  whileSeen (fun l => isWord "for" l || isWord "async" l) (clause goals) (← remaining)

/-- The expression of a generator's value, perhaps left out. -/
def yielded : Reader Expr := do
  expect (isWord "yield")
  if ← accept (isWord "from") then return .yieldFrom (← goals .expression).expr
  else if ← sees (isSymbol ")") then return .yield .absent
  else
    let item : Reader Expr := do
      if ← accept (isSymbol "*") then return .starred (← goals .operand).expr
      else return (← goals .expression).expr
    let first ← item
    if ← accept (isSymbol ",") then return .yield (.tuple (first :: (← items ")" item)))
    else return .yield first

/-- After an opening parenthesis on line `first`: a tuple, a generator or a grouped expression, which
keeps its own lines. -/
def parenthesised (first : Nat) : Reader Located := do
  if ← accept (isSymbol ")") then spanning first (.tuple [])
  else if ← sees (isWord "yield") then
    let start ← line
    let grouped ← spanning start (← yielded goals)
    expect (isSymbol ")")
    return grouped
  else if ← sees (isSymbol "*") then
    let item ← starredOrBinding goals
    expect (isSymbol ",")
    let more ← items ")" (starredOrBinding goals)
    expect (isSymbol ")")
    spanning first (.tuple (item :: more))
  else
    let item ← goals .binding
    if ← accept (isSymbol ",") then
      let more ← items ")" (starredOrBinding goals)
      expect (isSymbol ")")
      spanning first (.tuple (item.expr :: more))
    else if ← seesClause then
      let clauses ← clauses goals
      expect (isSymbol ")")
      spanning first (.comprehension .generator item.expr clauses)
    else
      expect (isSymbol ")")
      return item

/-- After an opening square bracket: a list or a list comprehension. -/
def bracketed : Reader Expr := do
  if ← accept (isSymbol "]") then return .list []
  else
    let item ← starredOrBinding goals
    if ← accept (isSymbol ",") then
      let more ← items "]" (starredOrBinding goals)
      expect (isSymbol "]")
      return .list (item :: more)
    else if !item.isStarred && (← seesClause) then
      let clauses ← clauses goals
      expect (isSymbol "]")
      return .comprehension .list item clauses
    else
      expect (isSymbol "]")
      return .list [item]

def entry : Reader (Expr × Expr) := do
  if ← accept (isSymbol "**") then return (.absent, (← goals .operand).expr)
  else
    let key := (← goals .expression).expr
    expect (isSymbol ":")
    return (key, (← goals .expression).expr)

/-- The rest of a mapping display after its first entry. -/
def entries (first : Expr × Expr) : Reader Expr := do
  let more ← if ← accept (isSymbol ",") then items "\x7d" (entry goals) else pure []
  expect (isSymbol "\x7d")
  let all := first :: more
  return .dict (all.map Prod.fst) (all.map Prod.snd)

/-- After an opening brace: a mapping, a set or a comprehension of either. -/
def braced : Reader Expr := do
  if ← accept (isSymbol "\x7d") then return .dict [] []
  else if ← sees (isSymbol "**") then entries goals (← entry goals)
  else
    let mayBeKey := !(← seesBinding)
    let item ← starredOrBinding goals
    if mayBeKey && !item.isStarred && (← accept (isSymbol ":")) then
      let value := (← goals .expression).expr
      if ← seesClause then
        let clauses ← clauses goals
        expect (isSymbol "\x7d")
        return .dictComprehension item value clauses
      else entries goals (item, value)
    else if ← accept (isSymbol ",") then
      let more ← items "\x7d" (starredOrBinding goals)
      expect (isSymbol "\x7d")
      return .set (item :: more)
    else if !item.isStarred && (← seesClause) then
      let clauses ← clauses goals
      expect (isSymbol "\x7d")
      return .comprehension .set item clauses
    else
      expect (isSymbol "\x7d")
      return .set [item]

/-- The expression in a field of a formatted string, which uses up the field's tokens. -/
def fieldExpr (tokens : List Token) : Option Expr := do
  let (value, cursor) ← (goals .expression).run ⟨tokens, 0⟩
  if cursor.rest.isEmpty then return value.expr else none

def strings : Reader Expr := do
  let literals ← whileSeen isString next (← remaining)
  match concatenate (fieldExpr goals) literals with
  | some e => return e
  | none => failure

/-- Names, constants and displays. -/
def atom : Reader Located := do
  let first ← line
  if (← peek).any isString then spanning first (← strings goals)
  else match ← next with
  | .name id => spanning first (.name id)
  | .word "True" => spanning first (.bool true)
  | .word "False" => spanning first (.bool false)
  | .word "None" => spanning first .none
  | .number value => spanning first (.constant value)
  | .symbol "..." => spanning first (.constant .ellipsis)
  | .symbol "(" => parenthesised goals first
  | .symbol "[" => spanning first (← bracketed goals)
  | .symbol "\x7b" => spanning first (← braced goals)
  | _ => failure

/-- How far a list of arguments has come. -/
inductive ArgumentPhase where
  | positional
  | keyword
  | spread
  deriving DecidableEq, Repr

/-- Positional and keyword arguments up to the closing parenthesis. Positional arguments come before
keyword arguments, and starred ones before spread mappings. -/
def arguments :
    Nat → ArgumentPhase → Bool → Reader (List Expr × List Expr)
  | 0, _, _ => failure
  | fuel + 1, phase, isFirst => do
    if ← accept (isSymbol ")") then return ([], [])
    else
      let more (phase : ArgumentPhase) (arg : List Expr) (keyword : List Expr) := do
        if ← accept (isSymbol ",") then
          let (args, keywords) ← arguments fuel phase false
          return (arg ++ args, keyword ++ keywords)
        else
          expect (isSymbol ")")
          return (arg, keyword)
      if ← accept (isSymbol "*") then
        guard (phase ≠ .spread)
        let value := (← goals .expression).expr
        more phase [.starred value] []
      else if ← accept (isSymbol "**") then
        let value := (← goals .expression).expr
        more .spread [] [.keyword none value]
      else
        match ← peek, ← peekSecond with
        | some (.name id), some (.symbol "=") =>
          let _ ← next
          let _ ← next
          let value := (← goals .expression).expr
          let phase := if phase = .positional then .keyword else phase
          more phase [] [.keyword (some id) value]
        | _, _ =>
          guard (phase = .positional)
          let first ← line
          let value := (← goals .binding).expr
          if isFirst && (← seesClause) then
            let clauses ← clauses goals
            expect (isSymbol ")")
            let generator ← spanning first (.comprehension .generator value clauses)
            return ([generator.expr], [])
          else more phase [value] []

/-- A part of a slice that may be left out. -/
def bound : Reader Expr := do
  if (← sees (isSymbol ":")) || (← sees (isSymbol ",")) || (← sees (isSymbol "]")) then
    return .absent
  else return (← goals .expression).expr

/-- What follows the first bound of a slice and its colon. -/
def sliceFrom (lower : Expr) : Reader Expr := do
  let upper ← bound goals
  let step ← if ← accept (isSymbol ":") then bound goals else pure .absent
  return .slice lower upper step

/-- One index: a slice, a starred expression or an expression. -/
def index : Reader Expr := do
  if ← accept (isSymbol "*") then return .starred (← goals .expression).expr
  else if ← accept (isSymbol ":") then sliceFrom goals .absent
  else
    let mayBeBound := !(← seesBinding)
    let e := (← goals .binding).expr
    if mayBeBound && (← accept (isSymbol ":")) then sliceFrom goals e else return e

/-- The index of an item, a tuple if commas divide it or if it is starred. -/
def indices : Reader Expr := do
  let first ← index goals
  if ← accept (isSymbol ",") then
    return .tuple (first :: (← items "]" (index goals)))
  else return if first.isStarred then .tuple [first] else first

/-- The attributes, calls and items after an atom that starts on line `first`. -/
def suffixes (first : Nat) : Nat → Located → Reader Located
  | 0, base => return base
  | fuel + 1, base => do
    if ← accept (isSymbol ".") then
      let attr ← name
      suffixes first fuel (← spanning first (.member base.expr attr))
    else if ← accept (isSymbol "(") then
      let (args, keywords) ← arguments goals (← remaining) .positional true
      suffixes first fuel (← spanning first (.call base.expr args keywords))
    else if ← accept (isSymbol "[") then
      let index ← indices goals
      expect (isSymbol "]")
      suffixes first fuel (← spanning first (.subscript base.expr index))
    else return base

def primary : Reader Located := do
  let first ← line
  let base ← atom goals
  suffixes goals first (← remaining) base

def power : Reader Located := do
  let first ← line
  let base ←
    if ← accept (isWord "await") then spanning first (.await (← primary goals).expr)
    else primary goals
  if ← accept (isSymbol "**") then
    let exponent := (← goals .factor).expr
    spanning first (.binary .pow base.expr exponent)
  else return base

def factor : Reader Located := do
  let first ← line
  match ← operator? unaryOps with
  | some op => spanning first (.unary op (← goals .factor).expr)
  | none => power goals

/-- The rest of a chain of operators of one level, which associate to the left. -/
def chain (table : List (String × BinaryOp)) (operand : Reader Located) (first : Nat) :
    Nat → Located → Reader Located
  | 0, left => return left
  | fuel + 1, left => do
    match ← operator? table with
    | some op =>
      let right := (← operand).expr
      chain table operand first fuel (← spanning first (.binary op left.expr right))
    | none => return left

def binaries : List (List (String × BinaryOp)) → Reader Located
  | [] => factor goals
  | table :: tighter => do
    let first ← line
    let left ← binaries tighter
    chain table (binaries tighter) first (← remaining) left

def operand : Reader Located := binaries goals binaryLevels

/-- The comparison operator that comes next, if one does; it is consumed. -/
def compareOp? : Reader (Option CompareOp) := do
  match ← operator? compareOps with
  | some op => return some op
  | none =>
    if ← accept (isWord "in") then return some .within
    else if ← accept (isWord "not") then
      expect (isWord "in")
      return some .notWithin
    else if ← accept (isWord "is") then
      if ← accept (isWord "not") then return some .notSame else return some .same
    else return none

def comparisons : Nat → Reader (List (CompareOp × Expr))
  | 0 => return []
  | fuel + 1 => do
    match ← compareOp? with
    | some op =>
      let right := (← operand goals).expr
      return (op, right) :: (← comparisons fuel)
    | none => return []

def comparison : Reader Located := do
  let first ← line
  let left ← operand goals
  match ← comparisons goals (← remaining) with
  | [] => return left
  | more => spanning first (.compare left.expr (more.map Prod.fst) (more.map Prod.snd))

def inversion : Reader Located := do
  let first ← line
  if ← accept (isWord "not") then spanning first (.unary .not (← goals .inversion).expr)
  else comparison goals

def junction (op : LogicalOp) (keyword : String) (operand : Reader Located) : Reader Located := do
  let first ← line
  let left ← operand
  let more ← whileSeen (isWord keyword) (do let _ ← next; return (← operand).expr) (← remaining)
  if more.isEmpty then return left else spanning first (.logical op (left.expr :: more))

def disjunction : Reader Located := junction .or "or" (junction .and "and" (inversion goals))

def parameterItem : Reader ParameterItem := do
  if ← accept (isSymbol "/") then return .slash
  else if ← accept (isSymbol "**") then return .keywordRest (← name)
  else if ← accept (isSymbol "*") then
    if ← sees (isSymbol ",") then return .star else return .rest (← name)
  else
    let id ← name
    if ← accept (isSymbol "=") then return .param id (some (← goals .expression).expr)
    else return .param id none

/-- An anonymous function after its keyword. -/
def lambda : Reader Expr := do
  let written ← items ":" (parameterItem goals)
  expect (isSymbol ":")
  match parameters? written with
  | some (params, keywordDefaults, defaults) =>
    return .lambda params keywordDefaults defaults (← goals .expression).expr
  | none => failure

def expression : Reader Located := do
  let first ← line
  if ← accept (isWord "lambda") then spanning first (← lambda goals)
  else
    let body ← disjunction goals
    if ← accept (isWord "if") then
      let test := (← disjunction goals).expr
      expect (isWord "else")
      let orelse := (← goals .expression).expr
      spanning first (.conditional test body.expr orelse)
    else return body

/-- An expression that may be bound to a name. -/
def binding : Reader Located := do
  let first ← line
  if ← seesBinding then
    let target ← name
    let _ ← next
    spanning first (.named target (← goals .expression).expr)
  else expression goals

end Rules

/-- Reads a goal; rules nest at most `depth` times. -/
def goalWithin : Nat → Goals
  | 0, _ => failure
  | depth + 1, .expression => expression (goalWithin depth)
  | depth + 1, .binding => binding (goalWithin depth)
  | depth + 1, .disjunction => disjunction (goalWithin depth)
  | depth + 1, .inversion => inversion (goalWithin depth)
  | depth + 1, .operand => operand (goalWithin depth)
  | depth + 1, .factor => factor (goalWithin depth)
  | depth + 1, .primary => primary (goalWithin depth)

/-- Expressions divided by commas, up to the end of the tokens. -/
def expressionsWithin (depth : Nat) : Reader Located := do
  let first ← line
  let one ← goalWithin depth .expression
  if ← accept (isSymbol ",") then
    let item : Reader Expr := do
      return (← goalWithin depth .expression).expr
    let rec more : Nat → Reader (List Expr)
      | 0 => return []
      | fuel + 1 => do
        if (← remaining) = 0 then return []
        else
          let e ← item
          if ← accept (isSymbol ",") then return e :: (← more fuel) else return [e]
    let all := one.expr :: (← more (← remaining))
    spanning first (.tuple all)
  else return one

/-- The expression that a list of tokens spells; nothing may be left over. -/
def all (depth : Nat) (tokens : List Token) : Option Located := do
  let (result, cursor) ← (expressionsWithin depth).run ⟨tokens, 1⟩
  if cursor.rest.isEmpty then return result else none

end TemplateCompiler.Code.Read
