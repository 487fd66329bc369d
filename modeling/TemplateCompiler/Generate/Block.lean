import TemplateCompiler.Template.Node
import TemplateCompiler.Text.Blank

/-!
Sibling nodes arranged for generation. An element that opens a conditional chain takes in the branches
that follow it, and blank text between two members of a chain is dropped. A branch that no chain takes in
is stray.
-/

namespace TemplateCompiler.Generate

open TemplateCompiler.Code TemplateCompiler.Template TemplateCompiler.Text

inductive Block where
  | text (value : String)
  | dynamicText (value : Expr)
  | comment (value : String)
  | bare (position : Position)
  | element (element : Element) (children : List Block)
  /-- An opening element and at least one further branch. -/
  | chain (members : List Block)
  /-- Branches without an opening element. -/
  | stray (members : List Block)

namespace Block

def isBlank : Block → Bool
  | text value => isBlankText value
  | _ => false

def branchKind? : Block → Option BranchKind
  | element e _ => e.branchKind?
  | _ => none

/-- The branches at the start of arranged siblings, behind blank text, and what follows them. -/
def takeBranches : List Block → Option (List Block × List Block)
  | [] => none
  | stray members :: rest => some (members, rest)
  | b :: rest => if b.isBlank then takeBranches rest else none

def attach (b : Block) (siblings : List Block) : List Block :=
  match b.branchKind? with
  | some .opening =>
    match takeBranches siblings with
    | some (members, rest) => chain (b :: members) :: rest
    | none => b :: siblings
  | some .alternative =>
    match takeBranches siblings with
    | some (members, rest) => stray (b :: members) :: rest
    | none => stray [b] :: siblings
  | some .fallback => stray [b] :: siblings
  | _ => b :: siblings

def arrange (siblings : List Block) : List Block := siblings.foldr attach []

mutual

def ofNode : Node → Block
  | .text _ value => text value
  | .dynamicText _ value => dynamicText value
  | .comment _ value => comment value
  | .bare position => bare position
  | .element e children => element e (arrange (ofNodes children))

def ofNodes : List Node → List Block
  | [] => []
  | n :: ns => ofNode n :: ofNodes ns

end

@[simp] theorem arrange_nil : arrange [] = [] := rfl

theorem arrange_cons (b : Block) (bs : List Block) : arrange (b :: bs) = attach b (arrange bs) := rfl

@[simp] theorem ofNodes_eq_map (ns : List Node) : ofNodes ns = ns.map ofNode := by
  induction ns with
  | nil => simp [ofNodes]
  | cons n ns ih => simp [ofNodes, ih]

end Block

end TemplateCompiler.Generate
