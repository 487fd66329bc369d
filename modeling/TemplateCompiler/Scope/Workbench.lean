import TemplateCompiler.Scope.Binding
import TemplateCompiler.Scope.Context
import TemplateCompiler.Scope.Hoisting
import TemplateCompiler.Scope.Resolve

/-!
A workbench to try scopes step by step. Bound expressions go to registers. Helper functions return lists
of registers and share them: when placeholders inside a shared register are replaced, every helper that
returns it sees the change. A register that is itself a placeholder is not shared, since replacing it
changes the list that holds it. Helpers are shared in the same way: the statements kept from a dump refer
to helpers, and a later dump that adds to a helper is seen through them.
-/

namespace TemplateCompiler.Scope

open TemplateCompiler.Code

/-- An item of a returned list. -/
inductive Cell where
  | shared (register : Nat)
  | own (expr : Expr)

inductive DraftItem where
  | stmt (stmt : Stmt)
  | helper (draft : Nat)
  | returned (cells : List Cell)

structure Draft where
  scope : Nat
  name : String
  signature : Signature
  body : List DraftItem

structure Workbench where
  context : Context
  registers : List Expr
  drafts : List Draft
  /-- The statements of the last successful dump. -/
  kept : List DraftItem

namespace Workbench

def initial : Workbench := ⟨.initial, [], [], []⟩

def store (w : Workbench) (e : Expr) : Nat × Workbench :=
  (w.registers.length, { w with registers := w.registers ++ [e] })

/-- Binds an expression in the current scope into a new register. -/
def bindExpr (w : Workbench) (locals : List String) (e : Expr) : (Nat × Expr) × Workbench :=
  let (bound, usages) := bind w.context.currentId locals e w.context.current.region.usages
  let (register, w) := { w with context := w.context.setUsages usages }.store bound
  ((register, bound), w)

def reference (w : Workbench) (scope : Nat) (property : String) :
    Option ((Nat × Placeholder) × Workbench) := do
  let (read, context) ← w.context.record scope property
  let (register, w) := { w with context := context }.store (.placeholder read)
  return ((register, read), w)

/-- How a list takes in a register. -/
def cellOf (w : Workbench) (register : Nat) : Option Cell :=
  match w.registers[register]? with
  | some (.placeholder read) => some (.own (.placeholder read))
  | some _ => some (.shared register)
  | none => none

def cellExpr (w : Workbench) : Cell → Expr
  | .shared register => w.registers.getD register .absent
  | .own e => e

/-- The number of the helper that a scope has now: the last one made for it. -/
def draftOf? (w : Workbench) (scope : Nat) : Option Nat :=
  (List.range w.drafts.length).reverse.find? fun i => (w.drafts[i]?).any (·.scope = scope)

/-- The statements of shared items. Helpers nest at most `depth` deep. -/
def expandWithin (w : Workbench) : Nat → List DraftItem → List Stmt
  | 0, _ => []
  | depth + 1, items => items.flatMap fun
    | .stmt s => [s]
    | .returned cells => [.ret (.list (cells.map w.cellExpr))]
    | .helper i =>
      match w.drafts[i]? with
      | some d => [.function d.name d.signature (w.expandWithin depth d.body)]
      | none => []

def expand (w : Workbench) (items : List DraftItem) : List Stmt :=
  w.expandWithin (w.drafts.length + 1) items

/-- Gives a scope a helper that returns the listed registers, and gives its statement. -/
def setHelper (w : Workbench) (scope : Nat) (name : String) (signature : Signature)
    (cells : List Cell) : Except CompileError (Stmt × Workbench) := do
  let body := [DraftItem.returned cells]
  let context ← w.context.setHelper scope ⟨signature, w.expand body⟩
  let w := { w with
    context := context
    drafts := w.drafts ++ [⟨scope, name, signature, body⟩] }
  return (.function name signature (w.expand body), w)

/-- Collects the properties used below each scope of a subtree, and gives those used in it. -/
def collect (w : Workbench) (scope : Nat) : Option (List String × Workbench) := do
  let tree ← w.context.tree.find? scope
  let collected := tree.collect.regions
  let context := w.context.map fun r =>
    match collected.find? (·.id = r.id) with
    | some c => { r with below := c.below }
    | none => r
  return (tree.used, { w with context := context })

def opening (w : Workbench) (tree : Tree) (region : Region) (inherited : Available) :
    List DraftItem :=
  let children := ((tree.find? region.id).map Tree.children).getD []
  (region.hoistStmts inherited).map .stmt ++
    children.filterMap fun child => (w.draftOf? child.region.id).map .helper

def prependTo (w : Workbench) (scope : Nat) (items : List DraftItem) : Workbench :=
  match w.draftOf? scope with
  | some i => { w with drafts := w.drafts.modify i fun d => { d with body := items ++ d.body } }
  | none => w

def encloses (tree : Tree) (outer inner : Nat) : Bool :=
  (tree.find? outer).any fun t => t.regions.any (·.id = inner)

/-- Decides the usages of a subtree and gives its leading statements. If a scope has no helper, the
scopes before it have been decided, and those that were finished have their leading statements. -/
def dump (w : Workbench) (scope : Nat) (inherited : Available) :
    Option (Except CompileError (List Stmt) × Workbench) := do
  let tree ← w.context.tree.find? scope
  let all := tree.inheritedAt inherited
  let missing := tree.unlowered?
  let reached : List (Region × Available) := match missing with
    | some bad => all.takeWhile (·.1.id ≠ bad.id)
    | none => all
  let context := w.context.map fun r =>
    match reached.find? (·.1.id = r.id) with
    | some (_, inherited) => r.decide inherited
    | none => r
  let finished := reached.filter fun (r, _) =>
    r.id ≠ scope && !(missing.any fun bad => encloses tree r.id bad.id)
  let changed := finished.foldl
    (fun changed (r, inherited) => changed.prependTo r.id (w.opening tree r inherited))
    { w with context := context }
  match missing with
  | some bad =>
    return (.error (.unplaced (.scopeNotLowered bad.id bad.kind.label)), changed)
  | none =>
    let items := w.opening tree tree.region inherited
    return (.ok (changed.expand items), { changed with kept := items })

/-- The helpers that shared items refer to, directly or through others. -/
def draftsWithin (w : Workbench) : Nat → List DraftItem → List Nat
  | 0, _ => []
  | depth + 1, items => items.flatMap fun
    | .helper i => i :: ((w.drafts[i]?).map fun d => w.draftsWithin depth d.body).getD []
    | _ => []

def sharedRegisters (d : Draft) : List Nat :=
  d.body.flatMap fun
    | .returned cells => cells.filterMap fun
      | .shared register => some register
      | .own _ => none
    | _ => []

/-- Replaces placeholders in a helper's own cells. -/
def substituteDraft (f : Placeholder → Expr) (d : Draft) : Draft :=
  { d with body := d.body.map fun
      | .returned cells => .returned (cells.map fun
        | .own e => .own (e.substitute f)
        | c => c)
      | item => item }

def mapAt {α : Type} (places : List Nat) (f : α → α) (items : List α) : List α :=
  items.mapIdx fun i item => if places.contains i then f item else item

/-- Replaces placeholders in everything that the kept statements and the listed registers reach. -/
def substituteReached (w : Workbench) (registers : List Nat) (f : Placeholder → Expr) : Workbench :=
  let drafts := w.draftsWithin (w.drafts.length + 1) w.kept
  let shared := drafts.flatMap fun i => ((w.drafts[i]?).map sharedRegisters).getD []
  let replace : Expr → Expr
    | .placeholder read => .placeholder read
    | e => e.substitute f
  { w with
    registers := mapAt (registers ++ shared) replace w.registers
    drafts := mapAt drafts (substituteDraft f) w.drafts }

/-- What resolving tells: the replaced places, the distinct placeholders and the places before, and the
statements after. -/
structure Resolved where
  count : Nat
  placeholders : Nat
  places : Nat
  stmts : List Stmt

/-- Replaces the placeholders of the kept statements and of a list of registers. The properties are
taken in the order of first appearance; at the first undecided one everything stops. -/
def resolve (w : Workbench) (registers : List Nat) : Except CompileError Resolved × Workbench :=
  let list := Stmt.expr (.list (registers.map fun r => w.registers.getD r .absent))
  let stmts := w.expand w.kept ++ [list]
  let reads := Stmt.breadthFirst stmts
  let tree := w.context.tree
  match tree.resolve stmts with
  | .ok (resolved, count) =>
    (.ok ⟨count, reads.eraseDups.length, reads.length, resolved⟩,
      w.substituteReached registers tree.target)
  | .error e =>
    let decided := reads.takeWhile fun read => (tree.target? read).isSome
    let isDecided (read : Placeholder) := decided.any fun d =>
      d.scope = read.scope && d.property = read.property
    (.error e, w.substituteReached registers fun read =>
      if isDecided read then tree.target read else .placeholder read)

end Workbench

end TemplateCompiler.Scope
