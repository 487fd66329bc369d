import TemplateCompiler.Load.Library

/-!
The table of modules that a factory looks its components up in. An entry that is missing is imported at
its first lookup and kept from then on.
-/

namespace TemplateCompiler.Load

structure Registry where
  entries : Table Entity

namespace Registry

def empty : Registry := ⟨.empty⟩

def contains (r : Registry) (reference : String) : Bool := r.entries.contains reference

def keys (r : Registry) : List String := r.entries.keys

/-- The entity of a reference. What is missing is imported with `load` and entered; a lookup that fails
changes nothing. -/
def lookupBy {m : Type → Type} [Monad m] (r : Registry)
    (load : String → m (Except ImportFault Entity)) (reference : String) :
    m (Except ImportFault Entity × Registry) :=
  match r.entries.get? reference with
  | some e => pure (.ok e, r)
  | none => do
    match ← load reference with
    | .ok e => pure (.ok e, ⟨r.entries.insert reference e⟩)
    | .error fault => pure (.error fault, r)

def lookup (r : Registry) (lib : Library) (reference : String) :
    Except ImportFault Entity × Registry :=
  Id.run (r.lookupBy (fun reference => pure (lib.importReference reference)) reference)

end Registry

end TemplateCompiler.Load
