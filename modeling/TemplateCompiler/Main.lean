import TemplateCompiler.CommandLine.Run

/-!
The command line program. It compiles from an empty library.
-/

open TemplateCompiler TemplateCompiler.CommandLine

def consoleText : ConsoleItem → String
  | .markup text => text
  | .code text => text
  | .report report =>
    "\n".intercalate (report.title :: report.parts.map fun
      | .text content _ => content
      | .excerpt source .. => source)

/-- Runs the command line and shows what it has to say. -/
def main (args : List String) : IO UInt32 := do
  let result := run args { modules := .empty } .empty
  IO.print result.echo
  for item in result.stdout do
    IO.println (consoleText item)
  for item in result.stderr do
    IO.eprintln (consoleText item)
  for (path, text) in result.written do
    IO.FS.writeFile path text
  match result.outcome with
  | .ok code => return code.toUInt32
  | .error (.usage (.badParameter message _)) =>
    IO.eprintln message
    return 2
  | .error _ => return 2
