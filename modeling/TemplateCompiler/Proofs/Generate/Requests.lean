import TemplateCompiler.Generate.Block

/-!
What a template requests of the emitter, in the order of the walk: the handlers of an element before its
children, its slot or its component after them.
-/

namespace TemplateCompiler.Template

open TemplateCompiler.Code

inductive Request where
  /-- A handler inside loops that give the local names. -/
  | handler (locals : List String) (value : Expr)
  | slot (name : String)
  | component (tag reference : String)

namespace Element

/-- The loop names inside an element, given those around it. -/
def inner (e : Element) (locals : List String) : List String := locals ++ e.loop?.elim [] Loop.names

def dataRequests (e : Element) (locals : List String) : List Request :=
  e.handlers.values.map (.handler locals)

def callRequests (e : Element) : List Request :=
  match e.dynamic, e.kind with
  | none, .component reference => [.component e.tag reference]
  | none, .slot name => [.slot name]
  | _, _ => []

/-- The requests of an element around those of what it holds. -/
def requests (e : Element) (locals : List String) (children : List Request) : List Request :=
  if e.isFragment then children else e.dataRequests locals ++ children ++ e.callRequests

end Element

mutual

def Node.requests (locals : List String) : Node → List Request
  | .element e children => e.requests (e.inner locals) (Node.requestsAll (e.inner locals) children)
  | .text .. | .dynamicText .. | .comment .. | .bare _ => []

def Node.requestsAll (locals : List String) : List Node → List Request
  | [] => []
  | n :: ns => n.requests locals ++ Node.requestsAll locals ns

end

def Indoors (rs : List Request) : Prop := ∀ locals value, .handler locals value ∈ rs → locals ≠ []

theorem Indoors.append {rs qs : List Request} (h : Indoors rs) (h' : Indoors qs) : Indoors (rs ++ qs) :=
  fun names value hr => (List.mem_append.mp hr).elim (h names value) (h' names value)

end TemplateCompiler.Template

namespace TemplateCompiler.Generate

open TemplateCompiler.Code TemplateCompiler.Template Block

/-- A handler that is a bare name outside all loops is memoized. -/
def memoizes (locals : List String) (handler : Expr) : Bool :=
  locals.isEmpty && match handler.asWritten with
    | .name _ => true
    | _ => false

mutual

def Block.requests (locals : List String) : Block → List Request
  | .element e children => e.requests (e.inner locals) (Block.requestsAll (e.inner locals) children)
  | .chain members | .stray members => Block.requestsChain locals members
  | .text _ | .dynamicText _ | .comment _ | .bare _ => []

def Block.requestsAll (locals : List String) : List Block → List Request
  | [] => []
  | b :: bs => b.requests locals ++ Block.requestsAll locals bs

/-- `Block.requests` of the members of a chain. A fragment in it does not iterate. -/
def Block.requestsChain (locals : List String) : List Block → List Request
  | .element e children :: rest =>
    (if e.isFragment then Block.requestsAll locals children
      else e.requests (e.inner locals) (Block.requestsAll (e.inner locals) children)) ++
      (if e.branchKind? = some .fallback then [] else Block.requestsChain locals rest)
  | _ => []

end

end TemplateCompiler.Generate
