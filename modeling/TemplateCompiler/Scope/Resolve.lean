import TemplateCompiler.Code.Levels
import TemplateCompiler.Error
import TemplateCompiler.Scope.Tree

/-!
Replacing placeholders by the decided reads. If some placeholder belongs to an undecided usage, the first
such one, level by level, is reported.
-/

namespace TemplateCompiler.Scope

open TemplateCompiler.Code

namespace Tree

def target? (t : Tree) (read : Placeholder) : Option Expr := (t.usageOf? read).bind Usage.target?

/-- The decided read of a placeholder; an undecided one stays as it is. -/
def target (t : Tree) (read : Placeholder) : Expr := (t.target? read).getD (.placeholder read)

def firstUndecided? (t : Tree) (stmts : List Stmt) : Option Placeholder :=
  (Stmt.breadthFirst stmts).find? fun read => (t.target? read).isNone

/-- The statements with every placeholder replaced, and how many were replaced. -/
def resolve (t : Tree) (stmts : List Stmt) : Except CompileError (List Stmt × Nat) :=
  match t.firstUndecided? stmts with
  | some read => .error (.unplaced (.unresolvedProperty read.property))
  | none => .ok (stmts.map (Stmt.substitute t.target), (stmts.flatMap Stmt.placeholders).length)

end Tree

end TemplateCompiler.Scope
