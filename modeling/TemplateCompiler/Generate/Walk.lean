import TemplateCompiler.Generate.Emitter
import TemplateCompiler.Log
import TemplateCompiler.Scope.Binding
import TemplateCompiler.Scope.Context

/-!
The state of a walk over a template and its basic steps. A walk that fails keeps what it noted before.
-/

namespace TemplateCompiler.Generate

open TemplateCompiler.Code TemplateCompiler.Scope

structure WalkState where
  context : Context
  emitter : Emitter
  log : List LogEntry

def WalkState.initial : WalkState := ⟨.initial, .empty, []⟩

abbrev WalkM := ExceptT Failure (StateM WalkState)

namespace Walk

def note (entry : LogEntry) : WalkM Unit := modify fun s => { s with log := s.log ++ [entry] }

def emit {α : Type} (step : EmitM α) : WalkM α :=
  modifyGet fun s =>
    let (result, emitter) := step s.emitter
    (result, { s with emitter := emitter })

def push (kind : ScopeKind) : WalkM Unit := do
  let s ← get
  let context := s.context.push kind
  set { s with context := context }
  note (.scopeEntered context.currentId kind.label)

def pop : WalkM Region := do
  let s ← get
  match s.context.pop with
  | .ok (region, context) =>
    set { s with context := context }
    return region
  | .error e => throw (.compile e)

def bindExpr (locals : List String) (e : Expr) : WalkM Expr :=
  modifyGet fun s =>
    let (result, usages) :=
      bind s.context.currentId locals e.asWritten s.context.current.region.usages
    (result, { s with context := s.context.setUsages usages })

/-- Gives a scope that was left its helper function and refers to it. -/
def setHelper (region : Region) (helper : Helper) : WalkM Expr := do
  let s ← get
  match s.context.setHelper region.id helper with
  | .ok context =>
    set { s with context := context }
    return .own region.helperName
  | .error e => throw (.compile e)

def takeKey : WalkM Nat :=
  modifyGet fun s =>
    let (key, context) := s.context.takeKey
    (key, { s with context := context })

def inIteration : WalkM Bool := return (← get).context.inIteration

end Walk

end TemplateCompiler.Generate
