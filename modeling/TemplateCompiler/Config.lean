import TemplateCompiler.Error

/-!
The options of one compilation. Option values are kept as they were given; only the output format has
to be a known one, and the runtime module must not be empty.
-/

namespace TemplateCompiler

/-- What generated code looks like: an importable module, or a factory to be run directly. -/
inductive OutputFormat where
  | module
  | function
  deriving DecidableEq, Repr

namespace OutputFormat

def label : OutputFormat → String
  | module => "module"
  | function => "function"

def all : List OutputFormat := [module, function]

def ofLabel? (label : String) : Option OutputFormat := all.find? (·.label == label)

@[simp] theorem ofLabel?_label (f : OutputFormat) : ofLabel? f.label = some f := by
  cases f <;> rfl

end OutputFormat

structure Config where
  format : OutputFormat
  /-- If true, references into the same document go through the scoped identifier primitive. -/
  scopeFragments : Data
  /-- The module that provides the functions generated code relies on. -/
  runtimeModule : Data
  /-- A label for records and error places. -/
  name : Data
  deriving Repr

namespace Config

def default : Config := ⟨.module, .bool true, .text "engine", .text "template"⟩

def optionNames : List String := ["format", "scope_fragment_ids", "runtime_module", "name"]

/-- Sorted by code points, each text once. -/
def sortedDistinct (names : List String) : List String :=
  (names.eraseDups).mergeSort (fun a b => !(b < a))

def formatOf (value : Data) : Except ConfigError OutputFormat :=
  match value.text?.bind OutputFormat.ofLabel? with
  | some format => .ok format
  | none => .error (.unknownFormat value)

/-- A configuration from option values. Unknown options are refused before bad values. -/
def ofOptions (options : Table Data) : Except ConfigError Config := do
  let unknown := options.keys.filter fun name => !optionNames.contains name
  if !unknown.isEmpty then .error (.unknownOptions (sortedDistinct unknown))
  else
    let value (name : String) (fallback : Data) := (options.get? name).getD fallback
    let format ← formatOf (value "format" (.text default.format.label))
    let runtimeModule := value "runtime_module" default.runtimeModule
    if !runtimeModule.truthy then .error .emptyRuntimeModule
    else return {
      format := format
      scopeFragments := value "scope_fragment_ids" default.scopeFragments
      runtimeModule := runtimeModule
      name := value "name" default.name }

end Config

end TemplateCompiler
