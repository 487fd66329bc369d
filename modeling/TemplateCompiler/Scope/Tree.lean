import TemplateCompiler.Code.Stmt
import TemplateCompiler.Scope.Usage

/-!
Scopes. Every conditional or iteration of a template becomes a helper function nested in the render
function; each of these regions is a scope, and so is the render function itself. Scopes form a tree.
-/

namespace TemplateCompiler.Scope

open TemplateCompiler.Code TemplateCompiler.Text

inductive ScopeKind where
  | root
  | conditional
  | forEach
  | forOf
  | other (label : String)
  deriving DecidableEq, Repr

namespace ScopeKind

def label : ScopeKind → String
  | root => "root"
  | conditional => "if"
  | forEach => "foreach"
  | forOf => "forof"
  | other label => label

def ofLabel : String → ScopeKind
  | "root" => root
  | "if" => conditional
  | "foreach" => forEach
  | "forof" => forOf
  | label => other label

def isIteration : ScopeKind → Bool
  | forEach | forOf => true
  | _ => false

@[simp] theorem label_ofLabel (s : String) : (ofLabel s).label = s := by
  unfold ofLabel
  split <;> simp [label]

end ScopeKind

/-- The helper function of a scope, without its name and its leading statements. -/
structure Helper where
  signature : Signature
  body : List Stmt
  deriving Repr

structure Region where
  id : Nat
  kind : ScopeKind
  helperName : String
  usages : List Usage
  /-- The properties used strictly below, once they are collected. -/
  below : List String
  helper : Option Helper
  deriving Repr

namespace Region

def properties (r : Region) : List String := r.usages.map Usage.property

def usage? (r : Region) (property : String) : Option Usage :=
  r.usages.find? (·.property = property)

/-- A short description with the names of the used properties. -/
def description (r : Region) : String :=
  "Scope(id=" ++ toString r.id ++ ", kind=" ++ r.kind.label ++ ", usages=[" ++
    ", ".intercalate (r.properties.map fun p => quote (.ofString p)) ++ "])"

end Region

/-- A tree of scopes; the children stand in the order in which they were entered. -/
inductive Tree where
  | node (region : Region) (children : List Tree)
  deriving Repr

namespace Tree

def region : Tree → Region
  | node region _ => region

def children : Tree → List Tree
  | node _ children => children

mutual

/-- The scope and all scopes below it, each before its children. -/
def regions : Tree → List Region
  | node region children => region :: regionsAll children

def regionsAll : List Tree → List Region
  | [] => []
  | t :: ts => t.regions ++ regionsAll ts

end

mutual

/-- Changes the scopes without changing the shape of the tree. -/
def map (f : Region → Region) : Tree → Tree
  | node region children => node (f region) (mapAll f children)

def mapAll (f : Region → Region) : List Tree → List Tree
  | [] => []
  | t :: ts => t.map f :: mapAll f ts

end

mutual

def find? (id : Nat) : Tree → Option Tree
  | node region children => if region.id = id then some (node region children) else findAll? id children

/-- The first subtree with the given number in a list of trees. -/
def findAll? (id : Nat) : List Tree → Option Tree
  | [] => none
  | t :: ts => t.find? id <|> findAll? id ts

end

mutual

def replace (id : Nat) (f : Tree → Tree) : Tree → Tree
  | node region children =>
    if region.id = id then f (node region children) else node region (replaceAll id f children)

def replaceAll (id : Nat) (f : Tree → Tree) : List Tree → List Tree
  | [] => []
  | t :: ts => t.replace id f :: replaceAll id f ts

end

def usageOf? (t : Tree) (read : Placeholder) : Option Usage := do
  let region ← t.regions.find? (·.id = read.scope)
  region.usage? read.property

@[simp] theorem regionsAll_eq_flatMap (ts : List Tree) : regionsAll ts = ts.flatMap regions := by
  induction ts with
  | nil => simp [regionsAll]
  | cons t ts ih => simp [regionsAll, ih]

@[simp] theorem mapAll_eq_map (f : Region → Region) (ts : List Tree) :
    mapAll f ts = ts.map (map f) := by
  induction ts with
  | nil => simp [mapAll]
  | cons t ts ih => simp [mapAll, ih]

end Tree

end TemplateCompiler.Scope
