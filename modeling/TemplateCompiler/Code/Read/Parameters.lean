import TemplateCompiler.Code.Expr

/-!
The parameter list of an anonymous function, as it is written and as it is bound. A slash ends the
positional-only parameters, a star begins the keyword-only ones, and two stars come last. A positional
parameter after one with a default has a default too.
-/

namespace TemplateCompiler.Code.Read

inductive ParameterItem where
  | param (name : String) (default : Option Expr)
  | slash
  | star
  | rest (name : String)
  | keywordRest (name : String)

namespace ParameterItem

def isParam : ParameterItem → Bool
  | param .. => true
  | _ => false

def isPositional : ParameterItem → Bool
  | param .. | slash => true
  | _ => false

def isSlash : ParameterItem → Bool
  | slash => true
  | _ => false

end ParameterItem

/-- Names and defaults of entries that are all parameters. -/
def params? : List ParameterItem → Option (List (String × Option Expr))
  | [] => some []
  | .param name default :: rest => (params? rest).map ((name, default) :: ·)
  | _ :: _ => none

/-- The defaults of positional parameters: once one has a default, all have. -/
def trailingDefaults? : List (String × Option Expr) → Option (List Expr)
  | [] => some []
  | (_, none) :: rest => trailingDefaults? rest
  | (_, some e) :: rest =>
    (rest.mapM Prod.snd).map (e :: ·)

/-- What follows the positional part: rest, keyword-only parameters, keyword rest. -/
def keywordPart? (items : List ParameterItem) :
    Option (Option String × List (String × Option Expr) × Option String) := do
  let (rest, needsParam, items) := match items with
    | .star :: more => (none, true, more)
    | .rest name :: more => (some name, false, more)
    | items => (none, false, items)
  let (written, more) := items.span ParameterItem.isParam
  if needsParam && written.isEmpty then none
  else if rest.isNone && !needsParam && !written.isEmpty then none
  else
    let keywordOnly ← params? written
    match more with
    | [] => return (rest, keywordOnly, none)
    | [.keywordRest name] => return (rest, keywordOnly, some name)
    | _ => none

/-- The bound parameters with the defaults of the keyword-only and of the positional ones. -/
def parameters? (items : List ParameterItem) : Option (Parameters × List Expr × List Expr) := do
  let (front, back) := items.span ParameterItem.isPositional
  let (before, after) := front.span ParameterItem.isParam
  let (only, others) ← match after with
    | [] => pure ([], before)
    | _ :: more => if before.isEmpty then none else pure (before, more)
  let only ← params? only
  let others ← params? others
  let defaults ← trailingDefaults? (only ++ others)
  let (rest, keywordOnly, keywordRest) ← keywordPart? back
  let params : Parameters :=
    { positionalOnly := only.map Prod.fst
      positional := others.map Prod.fst
      rest := rest
      keywordOnly := keywordOnly.map Prod.fst
      keywordRest := keywordRest }
  return (params, keywordOnly.map fun p => p.2.getD .absent, defaults)

end TemplateCompiler.Code.Read
