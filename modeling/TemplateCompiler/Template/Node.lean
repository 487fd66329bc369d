import TemplateCompiler.Data
import TemplateCompiler.Table

/-!
Template trees. A template is a tree of texts, comments and elements. An element may be a plain element,
a component or a slot, and may carry a conditional directive and iteration directives. An element tagged
`template` is a fragment: its children take its place.
-/

namespace TemplateCompiler.Template

open TemplateCompiler.Code

/-- Where a node stands in its source. Zero means unknown. -/
structure Position where
  line : Int
  column : Int
  deriving DecidableEq, Repr

def htmlNamespace : String := "http://www.w3.org/1999/xhtml"

def svgNamespace : String := "http://www.w3.org/2000/svg"

inductive AttributeValue where
  /-- An expression; it may be missing from a malformed tree. -/
  | expression (value : Option Expr)
  | text (value : String)
  /-- A boolean attribute with the value that it has as a property. -/
  | flag (value : Data)
  deriving Repr

structure Attribute where
  name : String
  value : AttributeValue
  deriving Repr

inductive BranchKind where
  | opening
  | alternative
  | fallback
  | unknown (label : String)
  deriving DecidableEq, Repr

namespace BranchKind

def label : BranchKind → String
  | opening => "if"
  | alternative => "elseif"
  | fallback => "else"
  | unknown label => label

def ofLabel : String → BranchKind
  | "if" => opening
  | "elseif" => alternative
  | "else" => fallback
  | label => unknown label

def continues : BranchKind → Bool
  | alternative | fallback => true
  | _ => false

@[simp] theorem label_ofLabel (s : String) : (ofLabel s).label = s := by
  unfold ofLabel
  split <;> simp [label]

end BranchKind

/-- How a conditional directive reads its test. -/
inductive Modifier where
  | holds
  | fails
  | isTrue
  | unknown (label : String)
  deriving DecidableEq, Repr

namespace Modifier

def label : Modifier → String
  | holds => "true"
  | fails => "false"
  | isTrue => "strict-true"
  | unknown label => label

def ofLabel : String → Modifier
  | "true" => holds
  | "false" => fails
  | "strict-true" => isTrue
  | label => unknown label

def known : List Modifier := [holds, fails, isTrue]

@[simp] theorem label_ofLabel (s : String) : (ofLabel s).label = s := by
  unfold ofLabel
  split <;> simp [label]

end Modifier

structure Branch where
  test : Option Expr
  modifier : Modifier
  kind : BranchKind
  deriving Repr

/-- Iteration with a name for the item and perhaps one for its index. -/
structure ForEach where
  items : Expr
  item : String
  index : Option String
  deriving Repr

/-- Iteration with one name for the item, its index and whether it is the first or the last. -/
structure ForOf where
  items : Expr
  iterator : String
  deriving Repr

inductive Loop where
  | each (directive : ForEach)
  | of (directive : ForOf)
  deriving Repr

namespace Loop

def items : Loop → Expr
  | each f => f.items
  | of f => f.items

/-- The names that the loop gives to the expressions in it. An empty index name counts as none. -/
def names : Loop → List String
  | each f => f.item :: f.index.toList.filter (· ≠ "")
  | of f => [f.iterator]

end Loop

inductive ElementKind where
  | plain
  /-- A component, named by a reference of the form `package.module:Class`. -/
  | component (reference : String)
  | slot (name : String)
  deriving DecidableEq, Repr

structure Element where
  position : Position
  kind : ElementKind
  tag : String
  namespaceName : String
  attrs : Table Attribute
  props : Table Attribute
  handlers : Table Expr
  className : Option Expr
  classMap : Table Bool
  style : Option Expr
  styleMap : Table String
  branch : Option Branch
  forEach : Option ForEach
  forOf : Option ForOf
  key : Option Expr
  dynamic : Option Expr
  dom : Option String
  deriving Repr

namespace Element

def isFragment (e : Element) : Bool := e.tag == "template"

/-- The loop of an element. With two iteration directives the first form counts. -/
def loop? (e : Element) : Option Loop :=
  match e.forEach, e.forOf with
  | some f, _ => some (.each f)
  | none, some f => some (.of f)
  | none, none => none

def iterates (e : Element) : Bool := e.forEach.isSome || e.forOf.isSome

def isSlot (e : Element) : Bool :=
  match e.kind with
  | .slot _ => true
  | _ => false

/-- The role in a chain, for an element with a conditional directive. -/
def branchKind? (e : Element) : Option BranchKind := e.branch.map Branch.kind

end Element

inductive Node where
  | text (position : Position) (value : String)
  | dynamicText (position : Position) (value : Expr)
  | comment (position : Position) (value : String)
  /-- A node of no known kind. -/
  | bare (position : Position)
  | element (element : Element) (children : List Node)
  deriving Repr

namespace Node

def position : Node → Position
  | text p _ | dynamicText p _ | comment p _ | bare p => p
  | element e _ => e.position

mutual

/-- The node and all nodes below it, each before its children. -/
def preorder : Node → List Node
  | element e children => element e children :: preorderAll children
  | n => [n]

def preorderAll : List Node → List Node
  | [] => []
  | n :: ns => n.preorder ++ preorderAll ns

end

@[simp] theorem preorderAll_eq_flatMap (ns : List Node) : preorderAll ns = ns.flatMap preorder := by
  induction ns with
  | nil => simp [preorderAll]
  | cons n ns ih => simp [preorderAll, ih]

end Node

end TemplateCompiler.Template
