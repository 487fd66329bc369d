import TemplateCompiler.Config.Script
import TemplateCompiler.Generate.Program
import TemplateCompiler.Load.Entity

/-!
Importable modules and what they hold. A reference `package.module:attribute` names an object: the module
is imported and the attributes, divided by dots, are followed from it. Modules are given, or stand as
scripts in the current directory; folders are packages.
-/

namespace TemplateCompiler.Load

open TemplateCompiler.Template TemplateCompiler.Text

inductive ImportFault where
  | invalidReference (reference : String)
  | relativeName (name : String)
  | emptyName
  | missingModule (name : String)
  | notPackage (name parent : String)
  | missingInModule (moduleName attr : String)
  | missingInObject (typeName attr : String)
  /-- The script of a module cannot be read. -/
  | script (fault : ScriptFault)
  deriving DecidableEq, Repr

namespace ImportFault

def message : ImportFault → String
  | invalidReference reference =>
    "Invalid reference '" ++ reference ++ "', expected 'module:attr'"
  | relativeName name =>
    "the 'package' argument is required to perform a relative import for " ++
      quote (.ofString name)
  | emptyName => "Empty module name"
  | missingModule name => "No module named " ++ quote (.ofString name)
  | notPackage name parent =>
    "No module named " ++ quote (.ofString name) ++ "; " ++ quote (.ofString parent) ++
      " is not a package"
  | missingInModule moduleName attr =>
    "module '" ++ moduleName ++ "' has no attribute '" ++ attr ++ "'"
  | missingInObject typeName attr =>
    "'" ++ typeName ++ "' object has no attribute '" ++ attr ++ "'"
  | script _ => ""

end ImportFault

structure Module where
  name : String
  /-- What was assigned in it. -/
  attributes : Table Entity
  /-- What it has of itself. -/
  builtin : List (String × Entity)
  /-- A package can hold further modules. -/
  isPackage : Bool
  /-- The folder of a package. -/
  folder : Option (List String)

namespace Module

def get? (m : Module) (name : String) : Option Entity :=
  m.attributes.get? name <|> m.builtin.lookup name

/-- A module that was given. It is a package if it has a search path. -/
def given (name : String) (attributes : Table Entity) : Module := {
  name, attributes
  builtin := [("__name__", .text name), ("__doc__", .none), ("__package__", .none),
    ("__loader__", .none), ("__spec__", .none), ("__dict__", .ofType "dict")]
  isPackage := attributes.contains "__path__"
  folder := none }

def scriptValue : Data → Entity
  | .record .. => .ofType "dict"
  | d => .data d

/-- A module whose script assigns variables; the folder is that of a package. -/
def ofScript (name : String) (values : Table Data) (folder : Option (List String)) : Module := {
  name
  attributes := ⟨values.entries.map fun (name, value) => (name, scriptValue value)⟩
  builtin := [("__name__", .text name), ("__doc__", .none), ("__package__", .ofType "str"),
    ("__loader__", .ofType "SourceFileLoader"), ("__spec__", .ofType "ModuleSpec"),
    ("__file__", .ofType "str"), ("__cached__", .ofType "str"), ("__builtins__", .ofType "dict"),
    ("__dict__", .ofType "dict")] ++ if folder.isSome then [("__path__", .ofType "list")] else []
  isPackage := folder.isSome
  folder }

/-- A folder without a script of its own. -/
def ofFolder (name : String) (folder : List String) : Module := {
  name
  attributes := .empty
  builtin := [("__name__", .text name), ("__doc__", .none), ("__package__", .text name),
    ("__loader__", .ofType "NamespaceLoader"), ("__spec__", .ofType "ModuleSpec"),
    ("__path__", .ofType "_NamespacePath"), ("__dict__", .ofType "dict")]
  isPackage := true
  folder := some folder }

end Module

/-- The importable modules: those that are given with their attributes, and the scripts of a
directory. -/
structure Library where
  modules : Table (Table Entity)
  directory : Directory := .empty

namespace Library

/-- A dotted name and the names of its parents, the longest first. -/
def ancestry (name : String) : List String :=
  let cs := name.toList
  name :: ((List.range cs.length).reverse.filter fun i => 0 < i && cs[i]? = some '.').map
    fun i => String.ofList (cs.take i)

def dottedParts (text : String) : List String := (text.toList.splitOn '.').map String.ofList

def lastPart (name : String) : String := (dottedParts name).getLast?.getD name

def script? (lib : Library) (parts : List String) : Option (Table Data) :=
  match lib.directory.entry? parts with
  | some (.file assignments) => some assignments
  | _ => none

/-- The module with a name that a folder of the directory holds: a package with a script of its own, a
script, or a mere folder. -/
def inFolder? (lib : Library) (folder : List String) (name : String) :
    Option (Except ScriptFault Module) :=
  let part := lastPart name
  let inner := folder ++ [part]
  if part.toList.contains '/' then none
  else
    let load (assignments : Table Data) (package : Option (List String)) :=
      (variablesOf assignments).map fun values => Module.ofScript name values package
    match lib.script? (inner ++ ["__init__.py"]), lib.script? (folder ++ [part ++ ".py"]) with
    | some assignments, _ => some (load assignments (some inner))
    | none, some assignments => some (load assignments none)
    | none, none =>
      if part ≠ "" ∧ lib.directory.isFolder inner then some (.ok (.ofFolder name inner)) else none

def loadFrom (lib : Library) (folder : List String) (name : String) : Except ImportFault Module :=
  match lib.inFolder? folder name with
  | some result => result.mapError .script
  | none => .error (.missingModule name)

/-- Imports the first of the names; the others are its parents, each before its own parent. -/
def locate (lib : Library) : List String → Except ImportFault Module
  | [] => .error .emptyName
  | name :: parents =>
    match lib.modules.get? name with
    | some attributes => .ok (.given name attributes)
    | none =>
      match parents with
      | [] => lib.loadFrom [] name
      | parentName :: _ =>
        match lib.locate parents with
        | .error fault => .error fault
        | .ok parent =>
          if !parent.isPackage then .error (.notPackage name parentName)
          else match parent.folder with
            | some folder => lib.loadFrom folder name
            | none => .error (.missingModule name)

def importModule (lib : Library) (name : String) : Except ImportFault Module :=
  if name.startsWith "." then .error (.relativeName name)
  else if name = "" then .error .emptyName
  else lib.locate (ancestry name)

def follow : Entity → List String → Except ImportFault Entity
  | e, [] => .ok e
  | e, attr :: rest =>
    match e.attribute? attr with
    | some next => follow next rest
    | none => .error (.missingInObject e.typeName attr)

def importReference (lib : Library) (reference : String) : Except ImportFault Entity := do
  let (moduleName, path) := Generate.splitReference reference
  if !reference.toList.contains ':' || moduleName = "" || path = "" then
    .error (.invalidReference reference)
  else
    let imported ← lib.importModule moduleName
    match dottedParts path with
    | [] => .error (.invalidReference reference)
    | first :: rest =>
      match imported.get? first with
      | some e => follow e rest
      | none => .error (.missingInModule moduleName first)

def setAttribute (lib : Library) (moduleName attr : String) (value : Entity) : Library :=
  match lib.modules.get? moduleName with
  | some attributes =>
    { lib with modules := lib.modules.insert moduleName (attributes.insert attr value) }
  | none => lib

end Library

end TemplateCompiler.Load
