import TemplateCompiler.Config.File

/-!
The arguments of the compile command: one target and options, which may stand anywhere before a double
dash. A long option takes its value from the next argument or after an equals sign; short options can be
joined, and the last of them may be followed by its value.
-/

namespace TemplateCompiler.CommandLine

open TemplateCompiler.Text

inductive Switch where
  | format
  | noFragmentScoping
  | runtimeModule
  | config
  | output
  | verbose
  | help
  deriving DecidableEq, Repr

namespace Switch

def takesValue : Switch → Bool
  | format | runtimeModule | config | output => true
  | _ => false

def ofLong? : String → Option Switch
  | "--format" => some format
  | "--no-fragment-scoping" => some noFragmentScoping
  | "--runtime-module" => some runtimeModule
  | "--config" => some config
  | "--output" => some output
  | "--verbose" => some verbose
  | "--help" => some help
  | _ => none

def ofShort? : Char → Option Switch
  | 'o' => some output
  | 'v' => some verbose
  | _ => none

end Switch

inductive UsageFault where
  | missingCommand
  | noSuchCommand
  | noSuchOption
  | badOptionUsage
  | missingParameter
  | extraArguments
  | badParameter (message : String) (hint : Option String)
  /-- A path holds the character with code 0. -/
  | nullCharacter
  deriving DecidableEq, Repr

/-- The options in the order given, each with its value if it takes one, and all other arguments. -/
structure Arguments where
  options : List (Switch × String)
  positionals : List String

/-- The options that one argument spells: those without a value, and perhaps one that takes a value,
which may be joined to it. -/
structure Spelled where
  flags : List Switch
  last : Option (Switch × Option String)

/-- Joined short options. -/
def spelledShort : List Char → Except UsageFault Spelled
  | [] => .ok ⟨[], none⟩
  | c :: rest =>
    match Switch.ofShort? c with
    | none => .error .noSuchOption
    | some s =>
      if s.takesValue then
        .ok ⟨[], some (s, if rest.isEmpty then none else some (String.ofList rest))⟩
      else (spelledShort rest).map fun p => { p with flags := s :: p.flags }

/-- The options that an argument with a dash in front spells. -/
def spelled (arg : String) : Except UsageFault Spelled :=
  let cs := arg.toList
  let name := String.ofList (cs.takeWhile (· != '='))
  let value := match cs.dropWhile (· != '=') with
    | _ :: rest => some (String.ofList rest)
    | [] => none
  match Switch.ofLong? name with
  | some s =>
    if s.takesValue then .ok ⟨[], some (s, value)⟩
    else if value.isSome then .error .badOptionUsage
    else .ok ⟨[s], none⟩
  | none => if arg.startsWith "--" then .error .noSuchOption else spelledShort (cs.drop 1)

def isOption (arg : String) : Bool := arg.startsWith "-" && 1 < arg.length

namespace Arguments

def addFlags (flags : List Switch) (a : Arguments) : Arguments :=
  { a with options := flags.map (·, "") ++ a.options }

/-- Divides the arguments of the command into options and others. -/
def parse : List String → Except UsageFault Arguments
  | [] => .ok ⟨[], []⟩
  | arg :: rest => do
    if arg = "--" then return ⟨[], rest⟩
    else if isOption arg then
      let s ← spelled arg
      match s.last with
      | none => return (← parse rest).addFlags s.flags
      | some (switch, some value) =>
        let a ← parse rest
        return { a with options := (switch, value) :: a.options }.addFlags s.flags
      | some (switch, none) =>
        match rest with
        | [] => throw .badOptionUsage
        | value :: others =>
          let a ← parse others
          return { a with options := (switch, value) :: a.options }.addFlags s.flags
    else
      let a ← parse rest
      return { a with positionals := arg :: a.positionals }

def has (a : Arguments) (s : Switch) : Bool := a.options.any (·.1 = s)

/-- The value of an option; of several the last counts. -/
def value? (a : Arguments) (s : Switch) : Option String := a.options.reverse.lookup s

def valueFault? (a : Arguments) (directory : Directory) (s : Switch) : Option UsageFault :=
  match s, a.value? s with
  | .format, some value =>
    if (OutputFormat.ofLabel? value).isSome then none
    else
      let choices := OutputFormat.all.map fun f => quote (.ofString f.label)
      some (.badParameter
        (quote (.ofString value) ++ " is not one of " ++ ", ".intercalate choices ++ ".") none)
  | .config, some value | .output, some value =>
    if value.toList.contains '\x00' then some .nullCharacter
    else if value ≠ "" && value ≠ "-" && directory.isDirectory value then
      some (.badParameter ("File " ++ quote (.ofString value) ++ " is a directory.") none)
    else none
  | _, _ => none

end Arguments

end TemplateCompiler.CommandLine
