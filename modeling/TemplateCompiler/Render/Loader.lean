import TemplateCompiler.Compile
import TemplateCompiler.Render.Eval

/-!
Loading compiled templates and rendering with them. A loader runs the factory of a template against a
table of modules. Templates loaded without a table of their own are kept by their code, so that loading
equal code again gives the same render function.
-/

namespace TemplateCompiler.Render

open TemplateCompiler.Code TemplateCompiler.Generate TemplateCompiler.Load

mutual

def functionDepth : Stmt → Nat
  | .function _ _ body => functionDepthAll body + 1
  | _ => 0

def functionDepthAll : List Stmt → Nat
  | [] => 0
  | s :: rest => max (functionDepth s) (functionDepthAll rest)

end

/-- How deep calls can nest in a program: a helper may be called through the iterator. -/
def callDepth (stmts : List Stmt) : Nat := 2 * functionDepthAll stmts + 4

/-- A loaded render function. Functions made by different loads have different numbers. -/
structure RenderFn where
  number : Nat
  function : Value
  depth : Nat

structure Loader where
  cache : Table RenderFn
  /-- How many functions were made so far. -/
  made : Nat

inductive LoadFault where
  | wrongFormat (format : OutputFormat)
  | run (fault : Fault)

def LoadFault.message : LoadFault → String
  | wrongFormat format =>
    "Only 'function' format templates can be loaded, got '" ++ format.label ++ "'"
  | run (.imports fault) => fault.message
  | run _ => ""

def runFactory (lib : Library) (modules : Table Entity) (stmts : List Stmt) : Except Fault Value :=
  let world : World := ⟨lib, ⟨modules⟩, [], [], [], .empty⟩
  match stmts with
  | [.function name signature body] =>
    (callWithin .standard (callDepth stmts) (.closure name signature body []) [.modules] []
      |>.run world).1
  | _ => .error .unsupported

namespace Loader

def empty : Loader := ⟨.empty, 0⟩

def clear (l : Loader) : Loader := { l with cache := .empty }

/-- Makes a new function and keeps it if no modules were given. -/
def make (l : Loader) (lib : Library) (t : Compiled) (modules : Option (Table Entity)) :
    Except LoadFault RenderFn × Loader :=
  match runFactory lib (modules.getD .empty) t.program.stmts with
  | .error fault => (.error (.run fault), l)
  | .ok function =>
    let made : RenderFn := ⟨l.made, function, callDepth t.program.stmts⟩
    let cache := if modules.isNone then l.cache.insert t.program.code made else l.cache
    (.ok made, ⟨cache, l.made + 1⟩)

/-- Loads a compiled template. Only factories can be loaded. -/
def load (l : Loader) (lib : Library) (t : Compiled) (modules : Option (Table Entity))
    (useCache : Bool) : Except LoadFault RenderFn × Loader :=
  if t.config.format ≠ .function then (.error (.wrongFormat t.config.format), l)
  else if useCache && modules.isNone then
    match l.cache.get? t.program.code with
    | some made => (.ok made, l)
    | none => l.make lib t modules
  else l.make lib t modules

end Loader

/-- The outcome of a render: its value or fault, what was noted on the way, and the context after it. -/
structure Outcome where
  result : Except Fault Value
  reads : List String
  calls : List Call
  visits : List Visit
  context : Table Value

def componentOf (properties : Table Data) : Value :=
  .component properties.keys (properties.entries.map fun (name, value) => Value.ofData [name] value)

/-- The mapping from slots to what is slotted into them. -/
def slotSetOf (slots : Table Data) : Value :=
  .dict slots.keys (slots.entries.map fun (name, value) => Value.ofData ["slot", name] value)

def World.start (context : Table Value) : World := ⟨{ modules := .empty }, .empty, [], [], [], context⟩

/-- Renders a component with its slots, given a way to call functions. -/
def RenderFn.renderThrough (f : RenderFn) (callFn : CallFn) (properties : Table Data)
    (slots : Table Data) (context : Table Value) : Outcome :=
  let (result, world) :=
    (callFn f.function [.engine, componentOf properties, slotSetOf slots, .context] []).run
      (.start context)
  ⟨result, world.reads, world.calls, world.visits, world.context⟩

def RenderFn.renderBy (engine : Engine) (f : RenderFn) : Table Data → Table Data → Table Value → Outcome :=
  f.renderThrough (callWithin engine f.depth)

def RenderFn.render (f : RenderFn) : Table Data → Table Data → Table Value → Outcome :=
  f.renderBy .standard

end TemplateCompiler.Render
