import TemplateCompiler.Generate.Lowering
import TemplateCompiler.Scope.Hoisting
import TemplateCompiler.Scope.Resolve

/-!
The generated program. The render function first takes the primitives it uses from the engine, then
reads its hoisted properties and defines its helpers, then takes slots and memoized handlers, and returns
the list of nodes. The program around it is an importable module or a factory function.
-/

namespace TemplateCompiler.Generate

open TemplateCompiler.Code TemplateCompiler.Scope TemplateCompiler.Template

def renderName : String := "tmpl"

def factoryName : String := "create_template"

def modulesName : String := "modules"

/-- The statement that takes the used primitives from the engine. -/
def primitiveStmts (primitives : List Primitive) : List Stmt :=
  match primitives with
  | [] => []
  | ps => [.destructure (ps.map fun p => (p.localName, .member (.own apiName) p.member))]

def takeEntry (name mapping key : String) : Stmt :=
  .assign (.own name) (.apply (.member (.own mapping) "get") [.str key])

def renderBody (emitter : Emitter) (leading : List Stmt) (root : Expr) : List Stmt :=
  primitiveStmts emitter.primitives ++ leading ++
    emitter.slots.entries.map (fun s => takeEntry s.2 slotSetName s.1) ++
    emitter.memoNames.map (fun m => takeEntry m contextName m) ++ [.ret root]

def renderSignature : Signature := ⟨[apiName, componentName, slotSetName, contextName], none⟩

/-- Decides where properties are read and builds the render function. -/
def renderFunction (root : Expr) : WalkM Stmt := do
  let s ← get
  let tree := s.context.tree.collect
  match tree.dump [] with
  | .error e => throw (.compile e)
  | .ok leading =>
    for (id, properties) in tree.hoistings [] do
      Walk.note (.hoisted id properties)
    let draft := Stmt.function renderName renderSignature (renderBody s.emitter leading root)
    match (tree.decide []).resolve [draft] with
    | .error e => throw (.compile e)
    | .ok (stmts, count) =>
      Walk.note (.resolved count tree.regions.length)
      return stmts.headD draft

/-- The import of the namespace type, if some iteration needs it. -/
def namespaceImport (emitter : Emitter) : List Stmt :=
  if emitter.usesNamespace then [.importFrom "types" [(namespaceTypeName, none)]] else []

def stylesheetsStmt : Stmt := .assign (.member (.own renderName) "stylesheets") (.list [])

def splitReference (reference : String) : String × String :=
  let cs := reference.toList
  (String.ofList (cs.takeWhile (· != ':')), String.ofList ((cs.dropWhile (· != ':')).drop 1))

def componentImport (reference name : String) : Stmt :=
  let (moduleName, attr) := splitReference reference
  .importFrom moduleName [(attr, some name)]

def moduleStmts (runtimeModule : String) (emitter : Emitter) (render : Stmt) : List Stmt :=
  let runtimeNames := "register_template" :: emitter.runtimeHelpers
  namespaceImport emitter ++
    [.importFrom runtimeModule (runtimeNames.map fun n => (n, none))] ++
    emitter.components.entries.map (fun c => componentImport c.1 c.2) ++
    [render, stylesheetsStmt,
      .assign (.own "template") (.apply (.own "register_template") [.own renderName])]

def moduleLookup (name key : String) : Stmt :=
  .assign (.own name) (.subscript (.own modulesName) (.str key))

def factoryStmt (runtimeModule : Data) (emitter : Emitter) (render : Stmt) : Stmt :=
  let key (helper : String) := runtimeModule.display ++ ":" ++ helper
  .function factoryName ⟨[modulesName], none⟩
    (namespaceImport emitter ++
      emitter.components.entries.map (fun c => moduleLookup c.2 c.1) ++
      emitter.runtimeHelpers.map (fun h => moduleLookup h (key h)) ++
      [render, stylesheetsStmt, .ret (.own renderName)])

/-- The program around a render function. Only a text can name the runtime module of an import. -/
def programStmts (config : Config) (emitter : Emitter) (render : Stmt) : Except Failure (List Stmt) :=
  match config.format, config.runtimeModule with
  | .function, runtimeModule => .ok [factoryStmt runtimeModule emitter render]
  | .module, .text runtimeModule => .ok (moduleStmts runtimeModule emitter render)
  | .module, _ => .error .moduleNotText

/-- A generated program and the components that it depends on, in the order of first use. -/
structure Program where
  stmts : List Stmt
  code : String
  dependencies : List String

def codeOf (stmts : List Stmt) : Except Failure String :=
  match Stmt.text stmts with
  | .ok code => .ok code
  | .error _ => .error .unprintable

/-- Generates the render function of a template without checking the template first. -/
def render (config : Config) (root : Node) : WalkM Stmt := do
  match root with
  | .element _ children => renderFunction (← lowerRoot config children)
  | _ => throw .childlessRoot

/-- The program around a render function, with its text. -/
def printed (config : Config) (emitter : Emitter) (render : Stmt) : Except Failure Program := do
  let stmts ← programStmts config emitter render
  let code ← codeOf stmts
  return ⟨stmts, code, emitter.components.keys⟩

/-- Generates the program for a template without checking the template first. -/
def program (config : Config) (root : Node) : WalkM Program := do
  let render ← render config root
  printed config (← get).emitter render

/-- Generates the program for a template, with what was noted on the way. -/
def generate (config : Config) (root : Node) : Except Failure Program × List LogEntry :=
  let (result, s) := (program config root).run .initial
  (result, s.log)

end TemplateCompiler.Generate
