import TemplateCompiler.Decimal.Extended
import TemplateCompiler.Load.Registry

/-!
The values that generated code works on, and the frames that bind names to them. A frame binds a name to
a value or to a helper function. A helper becomes a closure when it is looked up: it then takes the
frames from its own outwards, as they are at that time.

Values have an identity besides their contents: two lists with equal items are equal, but not the same.
Truth values count as the numbers 0 and 1, but are told apart by `isSame`.
-/

namespace TemplateCompiler.Render

open TemplateCompiler.Code TemplateCompiler.Decimal TemplateCompiler.Generate TemplateCompiler.Load
open TemplateCompiler.Text

/-- What tells a value from others with the same contents. -/
inductive Identity where
  /-- A part of the given data, by the way that leads to it. -/
  | given (way : List String)
  /-- A constant of the code. Equal constants are the same. -/
  | constant
  /-- Made while the code runs, and bound to a name since then. -/
  | kept
  /-- Just made, so that nothing else is the same. -/
  | fresh
  deriving DecidableEq, Repr

namespace Identity

/-- Whether two values are the same, if it is known whether their contents are equal. Of two values that
were made and bound to names, equal contents are taken for the same value. -/
def isSame (i j : Identity) (equalContents : Bool) : Bool :=
  match i, j with
  | given a, given b => a == b
  | constant, constant | kept, kept => equalContents
  | _, _ => false

/-- The identity of a value once it is bound to a name. -/
def keep : Identity → Identity
  | fresh => kept
  | i => i

@[simp] theorem keep_keep (i : Identity) : i.keep.keep = i.keep := by cases i <;> rfl

end Identity

mutual

inductive Value where
  | none
  | bool (value : Bool)
  | int (value : Int) (identity : Identity)
  | float (negative : Bool) (magnitude : Binary) (identity : Identity)
  | text (value : String) (identity : Identity)
  | list (items : List Value) (identity : Identity)
  | tuple (items : List Value) (identity : Identity)
  /-- A record whose fields are attributes. -/
  | object (names : List String) (values : List Value) (identity : Identity)
  /-- A mapping from texts. -/
  | dict (keys : List String) (values : List Value)
  /-- The component being rendered; its attribute reads are noted. -/
  | component (names : List String) (values : List Value)
  /-- A function by its name, with the frames around its definition. -/
  | closure (name : String) (signature : Signature) (body : List Stmt) (frames : List Frame)
  /-- The interface of the rendering engine. -/
  | engine
  | primitive (primitive : Primitive)
  /-- The mapping that renders share. -/
  | context
  | contextGet
  | contextSetDefault
  /-- The lookup function of a mapping. -/
  | getter (keys : List String) (values : List Value)
  | namespaceType
  | length
  /-- Any other function, type or object that is always defined, by its name. -/
  | builtin (name : String)
  /-- A function that a value carries. -/
  | method (name : String)
  /-- The table of modules. -/
  | modules
  | entity (entity : Entity)

inductive Frame where
  /-- Later bindings of a name hide earlier ones. -/
  | mk (names : List String) (bindings : List Binding)

inductive Binding where
  | value (value : Value)
  | helper (signature : Signature) (body : List Stmt)

end

namespace Value

instance : Inhabited Value := ⟨none⟩

def record (entries : List (String × Value)) : Value :=
  dict (entries.map Prod.fst) (entries.map Prod.snd)

mutual

/-- The value that given data stands for; `way` leads to the data. -/
def ofData (way : List String) : Data → Value
  | .null => none
  | .bool b => bool b
  | .int n => int n (.given way)
  | .float negative magnitude => float negative magnitude (.given way)
  | .text s => text s (.given way)
  | .list items => list (ofDataAll way 0 items) (.given way)
  | .record names values => object names (ofDataAll way 0 values) (.given way)

/-- `ofData` of each; the ways go on with the places from `place`. -/
def ofDataAll (way : List String) (place : Nat) : List Data → List Value
  | [] => []
  | d :: ds => ofData (way ++ [toString place]) d :: ofDataAll way (place + 1) ds

end

def ofEntity (reference : String) : Entity → Value
  | .data d => ofData [reference] d
  | e => entity e

def truthy : Value → Bool
  | none => false
  | bool b => b
  | int n _ => n != 0
  | float _ magnitude _ => !magnitude.isZero
  | text s _ => s != ""
  | list items _ | tuple items _ => !items.isEmpty
  | dict keys _ => !keys.isEmpty
  | _ => true

def number? : Value → Option Int
  | bool b => some (if b then 1 else 0)
  | int n _ => some n
  | _ => Option.none

/-- The number that a value counts as, on the common scale. -/
def extended? : Value → Option Extended
  | float negative magnitude _ => some (.ofBinary negative magnitude)
  | v => v.number?.map .ofInt

def equalsNumber (a b : Value) : Bool :=
  match a.extended?, b.extended? with
  | some m, some n => m.order n == .eq
  | _, _ => false

mutual

/-- Equality of contents. The order of fields does not matter. -/
def equals : Value → Value → Bool
  | none, none => true
  | text a _, text b _ => a == b
  | list as _, list bs _ => equalsAll as bs
  | tuple as _, tuple bs _ => equalsAll as bs
  | object ns as _, object ms bs _ => ns.length == ms.length && equalsFields ns as (List.zip ms bs)
  | dict ns as, dict ms bs => ns.length == ms.length && equalsFields ns as (List.zip ms bs)
  | length, length => true
  | builtin a, builtin b => a == b
  | a, b => equalsNumber a b

def equalsAll : List Value → List Value → Bool
  | [], [] => true
  | a :: as, b :: bs => a.equals b && equalsAll as bs
  | _, _ => false

def equalsFields (names : List String) (values : List Value) (fields : List (String × Value)) : Bool :=
  match names, values with
  | n :: ns, a :: as =>
    (match fields.lookup n with
      | some b => a.equals b
      | Option.none => false) && equalsFields ns as fields
  | _, _ => true

end

/-- Whole numbers that exist only once. -/
def isSharedInt (n : Int) : Bool := -5 ≤ n && n ≤ 256

/-- Texts that exist only once: the empty one and single characters of the first 256. -/
def isSharedText (s : String) : Bool :=
  match s.toList with
  | [] => true
  | [c] => c.toNat < 256
  | _ => false

def isSame (a b : Value) : Bool :=
  match a, b with
  | none, none => true
  | bool a, bool b => a == b
  | int m i, int n j => m == n && (isSharedInt m || i.isSame j true)
  | float _ _ i, float _ _ j => i.isSame j (a.equals b)
  | text s i, text t j => s == t && (isSharedText s || i.isSame j true)
  | list _ i, list _ j => i.isSame j (a.equals b)
  | tuple as i, tuple bs j => (as.isEmpty && bs.isEmpty) || i.isSame j (a.equals b)
  | object _ _ i, object _ _ j => i.isSame j (a.equals b)
  | length, length => true
  | builtin a, builtin b => a == b
  | _, _ => false

mutual

/-- A value once it is bound to a name. -/
def keep : Value → Value
  | int n i => int n i.keep
  | float negative magnitude i => float negative magnitude i.keep
  | text s i => text s i.keep
  | list items i => list (keepAll items) i.keep
  | tuple items i => tuple (keepAll items) i.keep
  | object names values i => object names (keepAll values) i.keep
  | v => v

def keepAll : List Value → List Value
  | [] => []
  | v :: vs => v.keep :: keepAll vs

end

def textOrder (a b : String) : Ordering := compareOfLessAndEq a b

def numberOrder? (a b : Value) : Option Ordering := do
  return (← a.extended?).order (← b.extended?)

mutual

def order? : Value → Value → Option Ordering
  | text a _, text b _ => some (textOrder a b)
  | list as _, list bs _ => orderAll? as bs
  | tuple as _, tuple bs _ => orderAll? as bs
  | a, b => a.numberOrder? b

/-- The order of two lists: that of their first different items, else that of their lengths. -/
def orderAll? : List Value → List Value → Option Ordering
  | [], [] => some .eq
  | [], _ :: _ => some .lt
  | _ :: _, [] => some .gt
  | a :: as, b :: bs => if a.equals b then orderAll? as bs else a.order? b

end

def charsOf (s : String) : List Value := s.toList.map fun c => text (String.singleton c) .fresh

def items? : Value → Option (List Value)
  | list items _ | tuple items _ => some items
  | text s _ => some (charsOf s)
  | dict keys _ => some (keys.map (text · .fresh))
  | _ => Option.none

mutual

def flatten : Value → List Value
  | list items _ => flattenAll items
  | v => [v]

def flattenAll : List Value → List Value
  | [] => []
  | v :: vs => v.flatten ++ flattenAll vs

end

end Value

namespace Frame

def empty : Frame := mk [] []

def bind (name : String) (binding : Binding) : Frame → Frame
  | mk names bindings => mk (name :: names) (binding :: bindings)

def bindValue (name : String) (v : Value) (frame : Frame) : Frame := frame.bind name (.value v.keep)

def find? (name : String) : Frame → Option Binding
  | mk names bindings => (List.zip names bindings).lookup name

end Frame

def lookup (name : String) : List Frame → Option Value
  | [] => none
  | frame :: outer =>
    match frame.find? name with
    | some (.value v) => some v
    | some (.helper signature body) => some (.closure name signature body (frame :: outer))
    | none => lookup name outer

end TemplateCompiler.Render
