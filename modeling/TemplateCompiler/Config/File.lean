import TemplateCompiler.Config
import TemplateCompiler.Config.Script
import TemplateCompiler.Text.LetterCase

/-!
Options from a file of assignments. Every variable whose name is in capitals sets the option of the same
name in small letters. Without a path the file with the default name is used, if there is one.
-/

namespace TemplateCompiler

open TemplateCompiler.Text

namespace Config

def defaultFile : String := "rendergen.config.py"

/-- The options that variables set, taken in the order of the variables' names. -/
def optionsOf (values : Table Data) : Table Data :=
  let names := sortedDistinct (values.keys.filter isUpperText)
  .ofList (names.filterMap fun name => (values.get? name).map fun v => (lowerText name, v))

inductive LoadError where
  | config (error : ConfigError)
  /-- A directory stands where the file was expected. -/
  | directory
  /-- The path is too long. -/
  | tooLong
  /-- The file's name says that it is compiled, and it is not. -/
  | notCompiled
  | script (fault : ScriptFault)

/-- What the end of a file's name says about its contents. -/
inductive FileKind where
  | script
  | compiled
  /-- A library of machine code. -/
  | native
  deriving DecidableEq, Repr

def FileKind.ofPath? (path : String) : Option FileKind :=
  if path.endsWith ".py" then some script
  else if path.endsWith ".pyc" then some compiled
  else if path.endsWith ".so" then some native
  else none

def ofScript (assignments : Table Data) : Except LoadError Config := do
  let values ← (variablesOf assignments).mapError .script
  (ofOptions (optionsOf values)).mapError .config

/-- The configuration of the file at a path; without such a file, the default. The second part says
whether a file was loaded. -/
def load (directory : Directory) (path : Option String) : Except LoadError (Config × Bool) :=
  let path := normalPath (path.getD defaultFile)
  if path.toList.contains '\x00' then .ok (default, false)
  else match directory.find path with
    | .error .tooLong => .error .tooLong
    | .error _ => .ok (default, false)
    | .ok entry =>
      match FileKind.ofPath? path, entry with
      | none, _ => .error (.config (.unloadableFile path))
      | some .native, _ | some .compiled, .file _ => .error .notCompiled
      | some _, .directory => .error .directory
      | some .script, .file assignments => do
        return (← ofScript assignments, true)

end Config

end TemplateCompiler
