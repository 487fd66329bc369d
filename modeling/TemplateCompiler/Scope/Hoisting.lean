import TemplateCompiler.Error
import TemplateCompiler.Scope.Tree

/-!
Where properties are read. First the properties used below each scope are collected. Then, from the
root down, every usage is decided: a property that a scope further out has in a local name is read
through that name; a property that is read more than once in a scope, or that is used below it, is read
once into a local name of the scope; any other property is read directly.

A scope starts with the assignment of its local names, followed by the helper functions of its children.
-/

namespace TemplateCompiler.Scope

open TemplateCompiler.Code

/-- Properties that are at hand in local names. -/
abbrev Available := List (String × String)

/-- Adds the texts that are not in the list yet. -/
def union (xs ys : List String) : List String :=
  ys.foldl (fun acc y => if acc.contains y then acc else acc ++ [y]) xs

namespace Tree

mutual

def used : Tree → List String
  | node region children => union (usedAll children) region.properties

def usedAll : List Tree → List String
  | [] => []
  | t :: ts => union t.used (usedAll ts)

end

mutual

/-- Notes for every scope which properties are used below it. -/
def collect : Tree → Tree
  | node region children => node { region with below := usedAll children } (collectAll children)

def collectAll : List Tree → List Tree
  | [] => []
  | t :: ts => t.collect :: collectAll ts

end

end Tree

namespace Region

/-- A property that the scope reads into a local name of its own. -/
def hoists (r : Region) (inherited : Available) (u : Usage) : Bool :=
  (inherited.lookup u.property).isNone && (1 < u.occurrences || r.below.contains u.property)

def hoisted (r : Region) (inherited : Available) : List Usage :=
  r.usages.filter (r.hoists inherited)

def decideUsage (r : Region) (inherited : Available) (u : Usage) : Usage :=
  match inherited.lookup u.property with
  | some name => { u with resolution := .via name }
  | none =>
    if r.hoists inherited u then { u with resolution := .via u.localName }
    else { u with resolution := .direct }

def decide (r : Region) (inherited : Available) : Region :=
  { r with usages := r.usages.map (r.decideUsage inherited) }

def available (r : Region) (inherited : Available) : Available :=
  (r.hoisted inherited).map (fun u => (u.property, u.localName)) ++ inherited

/-- The assignment of the scope's local names, if it has any. -/
def hoistStmts (r : Region) (inherited : Available) : List Stmt :=
  match r.hoisted inherited with
  | [] => []
  | us => [.destructure (us.map fun u => (u.localName, componentMember u.property))]

end Region

namespace Tree

mutual

def decide (inherited : Available) : Tree → Tree
  | node region children =>
    node (region.decide inherited) (decideAll (region.available inherited) children)

def decideAll (inherited : Available) : List Tree → List Tree
  | [] => []
  | t :: ts => t.decide inherited :: decideAll inherited ts

end

mutual

def leading (inherited : Available) : Tree → List Stmt
  | node region children =>
    region.hoistStmts inherited ++ helpers (region.available inherited) children

def helpers (inherited : Available) : List Tree → List Stmt
  | [] => []
  | node region children :: ts =>
    let own := match region.helper with
      | some helper =>
        let start := leading inherited (node region children)
        [Stmt.function region.helperName helper.signature (start ++ helper.body)]
      | none => []
    own ++ helpers inherited ts

end

mutual

/-- All scopes with the local names that each inherits, each scope before its children. -/
def inheritedAt (inherited : Available) : Tree → List (Region × Available)
  | node region children =>
    (region, inherited) :: inheritedAtAll (region.available inherited) children

def inheritedAtAll (inherited : Available) : List Tree → List (Region × Available)
  | [] => []
  | t :: ts => t.inheritedAt inherited ++ inheritedAtAll inherited ts

end

/-- Which scopes read which properties into local names, from the root down. -/
def hoistings (t : Tree) (inherited : Available) : List (Nat × List String) :=
  (t.inheritedAt inherited).filterMap fun (region, inherited) =>
    match region.hoisted inherited with
    | [] => none
    | us => some (region.id, us.map Usage.property)

/-- The first scope below the top one that has no helper. -/
def unlowered? (t : Tree) : Option Region := (regionsAll t.children).find? (·.helper.isNone)

/-- The leading statements of a scope all of whose descendants have helpers. -/
def dump (t : Tree) (inherited : Available) : Except CompileError (List Stmt) :=
  match t.unlowered? with
  | some region => .error (.unplaced (.scopeNotLowered region.id region.kind.label))
  | none => .ok (t.leading inherited)

end Tree

end TemplateCompiler.Scope
