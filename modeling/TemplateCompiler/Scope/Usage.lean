import TemplateCompiler.Code.Expr

/-!
Recorded property reads. A scope keeps one usage for each property that is read in it, in the order of
first reads. A usage has the local name that the scope would give the property and counts the reads;
each read is a placeholder that tells its number.
-/

namespace TemplateCompiler.Scope

open TemplateCompiler.Code

/-- Where a property is read: not decided yet, directly on the component, or through a local name. -/
inductive Resolution where
  | undecided
  | direct
  | via (name : String)
  deriving DecidableEq, Repr

/-- All the reads of one property in one scope. -/
structure Usage where
  property : String
  localName : String
  occurrences : Nat
  resolution : Resolution
  deriving DecidableEq, Repr

def componentName : String := "instance"

def componentMember (property : String) : Expr := .member (.own componentName) property

namespace Usage

def isDecided (u : Usage) : Bool := u.resolution ≠ .undecided

/-- The expression that every read becomes, once it is decided. -/
def target? (u : Usage) : Option Expr :=
  match u.resolution with
  | .undecided => none
  | .direct => some (componentMember u.property)
  | .via name => some (.own name)

/-- The placeholders of all the reads, in the order of recording. -/
def sites (scope : Nat) (u : Usage) : List Placeholder :=
  (List.range u.occurrences).map fun i => ⟨scope, u.property, u.localName, i⟩

@[simp] theorem length_sites (scope : Nat) (u : Usage) :
    (u.sites scope).length = u.occurrences := by
  simp [sites]

end Usage

def localName (scope position : Nat) : String :=
  "_cv" ++ toString scope ++ "_" ++ toString position

def recount (property : String) : List Usage → List Usage
  | [] => []
  | u :: us =>
    if u.property = property then { u with occurrences := u.occurrences + 1 } :: us
    else u :: recount property us

def recordRead (scope : Nat) (property : String) (usages : List Usage) :
    Placeholder × List Usage :=
  match usages.find? (·.property = property) with
  | some u => (⟨scope, property, u.localName, u.occurrences⟩, recount property usages)
  | none =>
    let name := localName scope usages.length
    (⟨scope, property, name, 0⟩, usages ++ [⟨property, name, 1, .undecided⟩])

@[simp] theorem map_property_recount (property : String) (us : List Usage) :
    (recount property us).map Usage.property = us.map Usage.property := by
  induction us with
  | nil => rfl
  | cons u us ih => by_cases h : u.property = property <;> simp [recount, h, ih]

@[simp] theorem map_localName_recount (property : String) (us : List Usage) :
    (recount property us).map Usage.localName = us.map Usage.localName := by
  induction us with
  | nil => rfl
  | cons u us ih => by_cases h : u.property = property <;> simp [recount, h, ih]

end TemplateCompiler.Scope
