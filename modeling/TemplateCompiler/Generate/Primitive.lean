import TemplateCompiler.Code.Expr

/-!
The operations that generated code asks of the rendering engine. Each has a short name on the engine's
interface and a local name in the render function.
-/

namespace TemplateCompiler.Generate

open TemplateCompiler.Code

inductive Primitive where
  | iterator
  | flatten
  | element
  | slot
  | customElement
  | dynamicComponent
  | bind
  | text
  | dynamicText
  | key
  | tabIndex
  | scopedId
  | scopedFragment
  | comment
  deriving DecidableEq, Repr

namespace Primitive

/-- The name on the engine's interface. -/
def member : Primitive → String
  | iterator => "i"
  | flatten => "f"
  | element => "h"
  | slot => "s"
  | customElement => "c"
  | dynamicComponent => "dc"
  | bind => "b"
  | text => "t"
  | dynamicText => "d"
  | key => "k"
  | tabIndex => "ti"
  | scopedId => "gid"
  | scopedFragment => "fid"
  | comment => "co"

/-- The name inside the render function. -/
def localName : Primitive → String
  | iterator => "api_iterator"
  | flatten => "api_flatten"
  | element => "api_element"
  | slot => "api_slot"
  | customElement => "api_custom_element"
  | dynamicComponent => "api_dynamic_component"
  | bind => "api_bind"
  | text => "api_text"
  | dynamicText => "api_dynamic"
  | key => "api_key"
  | tabIndex => "api_tab_index"
  | scopedId => "api_scoped_id"
  | scopedFragment => "api_scoped_frag_id"
  | comment => "api_comment"

/-- Whether the result is a list of nodes and not a single node. -/
def givesList : Primitive → Bool
  | iterator | flatten | slot => true
  | _ => false

def all : List Primitive :=
  [iterator, flatten, element, slot, customElement, dynamicComponent, bind, text, dynamicText, key,
    tabIndex, scopedId, scopedFragment, comment]

theorem mem_all (p : Primitive) : p ∈ all := by cases p <;> decide

end Primitive

def listNames : List String := (Primitive.all.filter Primitive.givesList).map Primitive.localName

def isListValued : Expr → Bool
  | .list _ => true
  | .call (.name id) _ _ | .call (.own id) _ _ => listNames.contains id
  | _ => false

end TemplateCompiler.Generate
