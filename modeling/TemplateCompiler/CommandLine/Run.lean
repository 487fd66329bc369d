import TemplateCompiler.CommandLine.Arguments
import TemplateCompiler.Compile
import TemplateCompiler.Load.Library
import TemplateCompiler.Report

/-!
Running the command line. The compile command reads its options, loads the configuration, imports the
template that the target names and compiles it. The code is shown or written to a file, and an error in
the template is reported.
-/

namespace TemplateCompiler.CommandLine

open TemplateCompiler.Load TemplateCompiler.Template

def version : String := "0.1.0"

def versionLine : String := "rendergen, version " ++ version ++ "\n"

inductive ConsoleItem where
  | markup (text : String)
  | code (text : String)
  | report (report : Report)

inductive RunFault where
  | usage (fault : UsageFault)
  /-- The target's module has no usable name, or its script cannot be read. -/
  | imports (fault : ImportFault)
  /-- The configuration cannot be loaded. -/
  | load (error : Config.LoadError)
  /-- A directory stands where the output file is to be written. -/
  | directory
  /-- The path of the output file cannot be followed. -/
  | path (fault : PathFault)
  | compile (failure : Failure)

/-- The outcome of a run: an exit code or a fault, and all that was shown and written. -/
structure RunResult where
  outcome : Except RunFault Nat
  /-- Plain text. -/
  echo : String
  stdout : List ConsoleItem
  stderr : List ConsoleItem
  written : List (String × String)

namespace RunResult

def quiet (outcome : Except RunFault Nat) : RunResult := ⟨outcome, "", [], [], []⟩

def fault (f : RunFault) : RunResult := quiet (.error f)

end RunResult

structure Request where
  target : String
  format : Option OutputFormat
  scopesFragments : Bool
  runtimeModule : Option String
  config : Option String
  output : Option String

/-- Checks arguments: option values in the order given, then the target, then what is left over. -/
def Arguments.check (a : Arguments) (directory : Directory) : Except UsageFault Request :=
  match (a.options.map Prod.fst).eraseDups.findSome? (a.valueFault? directory) with
  | some fault => .error fault
  | none =>
    match a.positionals with
    | [] => .error .missingParameter
    | [target] => .ok {
        target := target
        format := (a.value? .format).bind OutputFormat.ofLabel?
        scopesFragments := !a.has .noFragmentScoping
        runtimeModule := (a.value? .runtimeModule).filter (· ≠ "")
        config := a.value? .config
        output := a.value? .output }
    | _ => .error .extraArguments

/-- The options of a compilation: those of the file, changed by the command line. -/
def Request.configure (r : Request) (base : Config) : Config :=
  { format := r.format.getD base.format
    scopeFragments := if r.scopesFragments then base.scopeFragments else .bool false
    runtimeModule := (r.runtimeModule.map Data.text).getD base.runtimeModule
    name := .text r.target }

def targetFault (message : String) : RunFault := .usage (.badParameter message (some "TARGET"))

/-- A template root from an entity, which may be a function that gives it. -/
def rootOf (target : String) (e : Entity) : Except RunFault Node :=
  let e := match e with
    | .callable result => result
    | e => e
  match e with
  | .node (.element element children) => .ok (.element element children)
  | e => .error (targetFault
      ("'" ++ target ++ "' is a " ++ e.typeName ++ ", expected an IRElement"))

/-- The template that a target `module:attribute` names. -/
def importTarget (lib : Library) (target : String) : Except RunFault Node := do
  if !target.toList.contains ':' then
    .error (targetFault "Target must be in format 'module:attr'")
  else
    let (moduleName, attr) := Generate.splitReference target
    match lib.importModule moduleName with
    | .error fault =>
      match fault with
      | .emptyName | .relativeName _ | .script _ => .error (.imports fault)
      | _ => .error (targetFault
          ("Could not import module '" ++ moduleName ++ "': " ++ fault.message))
    | .ok imported =>
      match imported.get? attr with
      | none => .error (targetFault
          ("Attribute '" ++ attr ++ "' not found in module '" ++ moduleName ++ "'"))
      | some e => rootOf target e

def outputPlace (directory : Directory) (path : String) : Except RunFault Place := do
  let place ← (directory.locate path).mapError .path
  match directory.at? place with
  | some .directory => .error .directory
  | _ => return place

def created (directory : Directory) (place : Place) (text : String) : List (String × String) :=
  if place.base = .here ∧ (directory.at? place).isNone then [("/".intercalate place.parts, text)]
  else []

def deliver (directory : Directory) (output : Option String) (compiled : Compiled) : RunResult :=
  let dependencies := compiled.program.dependencies
  let stderr := if dependencies.isEmpty then []
    else [ConsoleItem.markup
      ("📦 Components: [cyan]" ++ ", ".intercalate dependencies ++ "[/]")]
  match output.map normalPath with
  | none => ⟨.ok 0, "", [.code compiled.program.code], stderr, []⟩
  | some path =>
    match outputPlace directory path with
    | .error fault => .fault fault
    | .ok place => ⟨.ok 0, "", [.markup ("✨ Wrote [cyan]" ++ path ++ "[/]")], stderr,
        created directory place (compiled.program.code ++ "\n")⟩

def Request.run (r : Request) (lib : Library) (directory : Directory) : RunResult :=
  match Config.load directory r.config with
  | .error (.config e) => .fault (.usage (.badParameter e.message (some "--config")))
  | .error e => .fault (.load e)
  | .ok (base, _) =>
    match importTarget { lib with directory := directory } r.target with
    | .error fault => .fault fault
    | .ok root =>
      match (compile (r.configure base) root).1 with
      | .error (.compile e) =>
        { RunResult.quiet (.ok 1) with stderr := [.report (.ofDiagnostic e.diagnostic none)] }
      | .error failure => .fault (.compile failure)
      | .ok compiled => deliver directory r.output compiled

def runCompile (args : List String) (lib : Library) (directory : Directory) : RunResult :=
  match Arguments.parse args with
  | .error fault => .fault (.usage fault)
  | .ok a =>
    if a.has .help then .quiet (.ok 0)
    else match a.check directory with
      | .error fault => .fault (.usage fault)
      | .ok request => request.run lib directory

inductive ProgramSwitch where
  | version
  | help
  deriving DecidableEq, Repr

/-- The options before the command, and the command with its arguments. -/
def programSwitches : List String → Except UsageFault (List ProgramSwitch × List String)
  | [] => .ok ([], [])
  | arg :: rest => do
    if arg = "--" then return ([], rest)
    else if isOption arg then
      let name := String.ofList (arg.toList.takeWhile (· != '='))
      let switch ← match name with
        | "--version" => pure ProgramSwitch.version
        | "--help" => pure .help
        | _ => throw .noSuchOption
      if name ≠ arg then throw .badOptionUsage
      else
        let (switches, command) ← programSwitches rest
        return (switch :: switches, command)
    else return ([], arg :: rest)

/-- What the first option of the program itself does. -/
def ProgramSwitch.run : ProgramSwitch → RunResult
  | version => { RunResult.quiet (.ok 0) with echo := versionLine }
  | help => .quiet (.ok 0)

/-- A command that does not exist. Behind a double dash it may still be an option of the program. -/
def runUnknown (args : List String) : RunResult :=
  match programSwitches args with
  | .error fault => .fault (.usage fault)
  | .ok (switch :: _, _) => switch.run
  | .ok ([], _) => .fault (.usage .noSuchCommand)

/-- Runs the command line. Its own options stand before the command, and the first of them counts.
Without any argument the help is shown. -/
def run (args : List String) (lib : Library) (directory : Directory) : RunResult :=
  if args.isEmpty then .quiet (.ok 2)
  else match programSwitches args with
    | .error fault => .fault (.usage fault)
    | .ok (switch :: _, _) => switch.run
    | .ok ([], []) => .fault (.usage .missingCommand)
    | .ok ([], "compile" :: rest) => runCompile rest lib directory
    | .ok ([], command) => runUnknown command

end TemplateCompiler.CommandLine
