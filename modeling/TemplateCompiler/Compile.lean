import TemplateCompiler.Generate.Program
import TemplateCompiler.Template.Validity

/-!
Compiling a template: check it, generate its program, print it.
-/

namespace TemplateCompiler

open TemplateCompiler.Generate TemplateCompiler.Template

/-- A compiled template. Stylesheets are always empty. -/
structure Compiled where
  program : Program
  config : Config

def lineCount (text : String) : Nat := text.toList.count '\n' + 1

/-- Compiles a template under a configuration, with what was noted on the way. -/
def compile (config : Config) (root : Node) : Except Failure Compiled × List LogEntry :=
  match root.validate config.name with
  | .error e => (.error (.compile e), [])
  | .ok () =>
    match generate config root with
    | (.error e, log) => (.error e, log)
    | (.ok program, log) =>
      let entry := LogEntry.compiled config.name config.format (lineCount program.code)
        program.dependencies.length
      (.ok ⟨program, config⟩, log ++ [entry])

/-- Compiles a template under options, which are checked before the template is. -/
def compileWith (options : Table Data) (root : Node) : Except Failure Compiled × List LogEntry :=
  match Config.ofOptions options with
  | .error e => (.error (.config e), [])
  | .ok config => compile config root

end TemplateCompiler
