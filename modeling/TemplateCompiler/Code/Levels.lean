import TemplateCompiler.Code.Stmt

/-!
The placeholders of expressions and statements level by level: first those that are direct parts of the
outermost nodes, then those one step further in, and so on. Keyword arguments, slices, comprehension
clauses, parameter lists and replacement fields are steps of their own.
-/

namespace TemplateCompiler.Code

abbrev Levels := List (List Placeholder)

def joinLevels : Levels → Levels → Levels
  | [], ys => ys
  | xs, [] => xs
  | x :: xs, y :: ys => (x ++ y) :: joinLevels xs ys

namespace Expr

mutual

/-- The placeholders of an expression by levels; the expression itself is the first level. -/
def levels : Expr → Levels
  | placeholder read => [[read]]
  | absent | name _ | own _ | constant _ => []
  | member base _ => [] :: base.levels
  | subscript base index => [] :: joinLevels base.levels index.levels
  | slice lower upper step => [] :: joinLevels lower.levels (joinLevels upper.levels step.levels)
  | call callee args keywords =>
    [] :: joinLevels callee.levels (joinLevels (levelsAll args) (levelsAll keywords))
  | keyword _ value => [] :: value.levels
  | starred value => [] :: value.levels
  | unary _ operand => [] :: operand.levels
  | binary _ left right => [] :: joinLevels left.levels right.levels
  | logical _ operands => [] :: levelsAll operands
  | compare first _ rest => [] :: joinLevels first.levels (levelsAll rest)
  | conditional test body orelse => [] :: joinLevels test.levels (joinLevels body.levels orelse.levels)
  | lambda _ keywordDefaults defaults body =>
    [] :: joinLevels ([] :: joinLevels (levelsAll keywordDefaults) (levelsAll defaults)) body.levels
  | tuple items => [] :: levelsAll items
  | list items => [] :: levelsAll items
  | set items => [] :: levelsAll items
  | dict keys values => [] :: joinLevels (levelsAll keys) (levelsAll values)
  | comprehension _ element clauses => [] :: joinLevels element.levels (levelsAll clauses)
  | dictComprehension key value clauses =>
    [] :: joinLevels key.levels (joinLevels value.levels (levelsAll clauses))
  | clause _ target iterable conditions =>
    [] :: joinLevels target.levels (joinLevels iterable.levels (levelsAll conditions))
  | named _ value => [] :: value.levels
  | await value => [] :: value.levels
  | yield value => [] :: value.levels
  | yieldFrom value => [] :: value.levels
  | joined parts => [] :: levelsAll parts
  | field value _ spec => [] :: joinLevels value.levels spec.levels

def levelsAll : List Expr → Levels
  | [] => []
  | e :: es => joinLevels e.levels (levelsAll es)

end

end Expr

namespace Stmt

mutual

def levels : Stmt → Levels
  | assign target value => [] :: joinLevels target.levels value.levels
  | ret value => [] :: value.levels
  | expr value => [] :: value.levels
  | importFrom .. => []
  | function _ _ body => [] :: levelsAll body

def levelsAll : List Stmt → Levels
  | [] => []
  | s :: rest => joinLevels s.levels (levelsAll rest)

end

mutual

def placeholders : Stmt → List Placeholder
  | assign target value => target.placeholders ++ value.placeholders
  | ret value => value.placeholders
  | expr value => value.placeholders
  | importFrom .. => []
  | function _ _ body => placeholdersAll body

def placeholdersAll : List Stmt → List Placeholder
  | [] => []
  | s :: rest => s.placeholders ++ placeholdersAll rest

end

mutual

def substitute (f : Placeholder → Expr) : Stmt → Stmt
  | assign target value => assign (target.substitute f) (value.substitute f)
  | ret value => ret (value.substitute f)
  | expr value => expr (value.substitute f)
  | importFrom moduleName names => importFrom moduleName names
  | function name signature body => function name signature (substituteAll f body)

def substituteAll (f : Placeholder → Expr) : List Stmt → List Stmt
  | [] => []
  | s :: rest => s.substitute f :: substituteAll f rest

end

@[simp] theorem substituteAll_eq_map (f : Placeholder → Expr) (ss : List Stmt) :
    substituteAll f ss = ss.map (substitute f) := by
  induction ss with
  | nil => simp [substituteAll]
  | cons s ss ih => simp [substituteAll, ih]

@[simp] theorem placeholdersAll_eq_flatMap (ss : List Stmt) :
    placeholdersAll ss = ss.flatMap placeholders := by
  induction ss with
  | nil => simp [placeholdersAll]
  | cons s ss ih => simp [placeholdersAll, ih]

/-- The placeholders of statements, level by level. -/
def breadthFirst (ss : List Stmt) : List Placeholder := (levelsAll ss).flatten

end Stmt

end TemplateCompiler.Code
