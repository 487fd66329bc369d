import TemplateCompiler.Generate.Primitive
import TemplateCompiler.Table
import TemplateCompiler.Text.Word

/-!
Calls of primitives. The emitter remembers what the code it makes relies on: the primitives in the order
of first use, the slots with their local names, how many handlers are memoized, the components with
their local names, and the helpers of the runtime module.
-/

namespace TemplateCompiler.Generate

open TemplateCompiler.Code TemplateCompiler.Text

/-- The parameters of the render function besides the component. -/
def apiName : String := "api"

def slotSetName : String := "slot_set"

def contextName : String := "context"

def namespaceTypeName : String := "SimpleNamespace"

/-- The helper of the runtime module that cleans attribute values. -/
def sanitizerName : String := "sanitize_attribute"

/-- The local name of a component: its reference with every other character as an underscore. -/
def componentIdentifier (reference : String) : String :=
  "_" ++ reference.map fun c => if isWordChar c then c else '_'

structure Emitter where
  primitives : List Primitive
  slots : Table String
  memoCount : Nat
  components : Table String
  runtimeHelpers : List String
  /-- Whether some iteration needs a namespace object. -/
  usesNamespace : Bool

def Emitter.empty : Emitter := ⟨[], .empty, 0, .empty, [], false⟩

def memoName (n : Nat) : String := "_m" ++ toString n

def slotLocalName (n : Nat) : String := "_slot" ++ toString n

def Emitter.memoNames (e : Emitter) : List String := (List.range e.memoCount).map memoName

abbrev EmitM := StateM Emitter

namespace Emit

def addNew {α : Type} [BEq α] (xs : List α) (x : α) : List α :=
  if xs.contains x then xs else xs ++ [x]

/-- Entering items one after the other keeps the first of each. -/
theorem foldl_addNew (xs seen : List String) :
    xs.foldl addNew seen = seen ++ (xs.filter fun x => !seen.contains x).eraseDups := by
  induction xs generalizing seen with
  | nil => simp
  | cons x xs ih =>
    rw [List.foldl_cons, ih, addNew]
    by_cases known : seen.contains x
    · rw [if_pos known, List.filter_cons_of_neg (by simpa using known)]
    · rw [if_neg known, List.filter_cons_of_pos (by simpa using known), List.eraseDups_cons,
        List.filter_filter, List.append_assoc, List.singleton_append]
      congr 3
      refine List.filter_congr fun y _ => ?_
      by_cases same : y = x <;> simp [same]

def call (p : Primitive) (args : List Expr) : EmitM Expr := fun e =>
  (.apply (.own p.localName) args, { e with primitives := addNew e.primitives p })

def element (tag : String) (data children : Expr) : EmitM Expr :=
  call .element [.str tag, data, children]

def component (reference : String) : EmitM String := fun e =>
  match e.components.get? reference with
  | some name => (name, e)
  | none =>
    let name := componentIdentifier reference
    (name, { e with components := e.components.insert reference name })

def customElement (tag reference : String) (data children : Expr) : EmitM Expr := do
  let constructor ← component reference
  call .customElement [.str tag, .own constructor, data, children]

def dynamicElement (tag : String) (constructor data children : Expr) : EmitM Expr :=
  call .dynamicComponent [.str tag, constructor, data, children]

def text (value : String) : EmitM Expr := call .text [.str value]

def dynamicText (value : Expr) : EmitM Expr := call .dynamicText [value]

def comment (value : String) : EmitM Expr := call .comment [.str value]

def iterator (items callback : Expr) : EmitM Expr := call .iterator [items, callback]

def flatten (entries : List Expr) : EmitM Expr := call .flatten [.list entries]

def bind (handler : Expr) : EmitM Expr := call .bind [handler]

def key (number : Int) (value : Expr) : EmitM Expr := call .key [.constant (.int number), value]

def tabIndex (value : Expr) : EmitM Expr := call .tabIndex [value]

def scopedId (value : Expr) : EmitM Expr := call .scopedId [value]

def scopedFragment (value : Expr) : EmitM Expr := call .scopedFragment [value]

def slotName (name : String) : EmitM String := fun e =>
  match e.slots.get? name with
  | some id => (id, e)
  | none =>
    let id := slotLocalName e.slots.size
    (id, { e with slots := e.slots.insert name id })

def slot (name : String) (data children : Expr) : EmitM Expr := do
  let id ← slotName name
  call .slot [.str name, data, children, .own id]

/-- An empty text for a true value and nothing for a false one, which adds or removes the attribute. -/
def booleanAttribute (value : Expr) : Expr := .conditional value (.str "") Expr.none

def runtimeHelper (name : String) : EmitM String := fun e =>
  (name, { e with runtimeHelpers := addNew e.runtimeHelpers name })

def sanitizeAttribute (tag namespaceName name : String) (value : Expr) : EmitM Expr := do
  let helper ← runtimeHelper sanitizerName
  return .apply (.own helper) [.str tag, .str namespaceName, .str name, value]

def memoize : EmitM String := fun e => (memoName e.memoCount, { e with memoCount := e.memoCount + 1 })

/-- A handler that is bound once and kept in the context. -/
def memoizedHandler (handler : Expr) : EmitM Expr := do
  let id ← memoize
  let bound ← bind handler
  return .logical .or
    [.own id, .apply (.member (.own contextName) "setdefault") [.str id, bound]]

def needNamespace : EmitM Unit := modify fun e => { e with usesNamespace := true }

end Emit

end TemplateCompiler.Generate
