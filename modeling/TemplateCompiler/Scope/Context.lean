import TemplateCompiler.Error
import TemplateCompiler.Scope.Tree

/-!
The scopes while a template is walked. The open scopes are those from the current one out to the root;
each holds its closed children. Closing a scope hands it to the scope around it, so that at any time the
open scopes are one path of a tree. The context also counts scopes and element keys.
-/

namespace TemplateCompiler.Scope

open TemplateCompiler.Code

/-- A scope that is still open, with its closed children. -/
structure OpenScope where
  region : Region
  children : List Tree
  deriving Repr

def OpenScope.close (s : OpenScope) : Tree := .node s.region s.children

structure Context where
  current : OpenScope
  /-- The scopes around the current one, the nearest first. -/
  outer : List OpenScope
  nextId : Nat
  nextKey : Nat
  deriving Repr

namespace Context

def initial : Context :=
  { current := ⟨⟨0, .root, "", [], [], none⟩, []⟩
    outer := []
    nextId := 1
    nextKey := 0 }

/-- The open scopes from the current one to the root. -/
def path (c : Context) : List OpenScope := c.current :: c.outer

def currentId (c : Context) : Nat := c.current.region.id

/-- Whether the current scope or one around it is an iteration. -/
def inIteration (c : Context) : Bool := c.path.any (·.region.kind.isIteration)

/-- The name of the helper of a scope: its kind, its number and its place among its siblings. -/
def helperName (kind : ScopeKind) (id position : Nat) : String :=
  kind.label ++ toString id ++ "_" ++ toString position

def push (c : Context) (kind : ScopeKind) : Context :=
  let name := helperName kind c.nextId c.current.children.length
  { c with
    current := ⟨⟨c.nextId, kind, name, [], [], none⟩, []⟩
    outer := c.current :: c.outer
    nextId := c.nextId + 1 }

/-- Leaves the current scope and gives it; the root cannot be left. -/
def pop (c : Context) : Except CompileError (Region × Context) :=
  match c.outer with
  | [] => .error (.unplaced .rootScopePopped)
  | parent :: outer =>
    let parent := { parent with children := parent.children ++ [c.current.close] }
    .ok (c.current.region, { c with current := parent, outer := outer })

def takeKey (c : Context) : Nat × Context := (c.nextKey, { c with nextKey := c.nextKey + 1 })

def enclose (inner : Tree) (outer : OpenScope) : Tree :=
  .node outer.region (outer.children ++ [inner])

def tree (c : Context) : Tree := c.outer.foldl enclose c.current.close

/-- All scopes in the order of their numbers. -/
def regions (c : Context) : List Region :=
  c.tree.regions.mergeSort fun a b => a.id ≤ b.id

def setUsages (c : Context) (usages : List Usage) : Context :=
  { c with current.region.usages := usages }

def mapOpen (f : Region → Region) (s : OpenScope) : OpenScope :=
  ⟨f s.region, s.children.map (Tree.map f)⟩

def map (c : Context) (f : Region → Region) : Context :=
  { c with current := mapOpen f c.current, outer := c.outer.map (mapOpen f) }

def update (c : Context) (id : Nat) (f : Region → Region) : Context :=
  c.map fun r => if r.id = id then f r else r

def region? (c : Context) (id : Nat) : Option Region := c.tree.regions.find? (·.id = id)

def record (c : Context) (id : Nat) (property : String) : Option (Placeholder × Context) := do
  let region ← c.region? id
  let (read, usages) := recordRead id property region.usages
  return (read, c.update id fun r => { r with usages := usages })

/-- Gives a scope its helper function. The root scope has none. -/
def setHelper (c : Context) (id : Nat) (helper : Helper) : Except CompileError Context :=
  if id = 0 then .error (.unplaced .rootScopeHelper)
  else .ok (c.update id fun r => { r with helper := some helper })

@[simp] theorem currentId_push (c : Context) (kind : ScopeKind) :
    (c.push kind).currentId = c.nextId := rfl

theorem pop_push (c : Context) (kind : ScopeKind) :
    ((c.push kind).pop.map fun p => p.2.outer) = .ok c.outer := rfl

end Context

end TemplateCompiler.Scope
