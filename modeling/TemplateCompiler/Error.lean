import TemplateCompiler.Template.Node

/-!
Why a template cannot be compiled. Every cause belongs to one of two kinds: the tree breaks a rule that
every template has to keep, or code for it cannot be generated. A failure may also lie outside the
template, in the options or in the values that the tree carries.
-/

namespace TemplateCompiler

open TemplateCompiler.Template

inductive ErrorKind where
  | general
  | generation
  | invalid
  deriving DecidableEq, Repr

inductive Cause where
  | malformedExpression (source : String)
  | invalidLoopName (name : String)
  | reservedLoopName (name : String)
  | unknownDirective (label : String)
  | fallbackWithTest
  | testRequired (label : String)
  | unknownModifier (label : String)
  | iteratingBranch (label : String)
  | bothIterations
  | sameItemAndIndex (name : String)
  | keyOnFragment
  | badComponentReference (reference : String)
  | iteratingChainHead
  | rootNotFragment
  | rootWithDirectives
  | strayBranch (label : String)
  | unsupportedNode
  | unsupportedModifier (label : String)
  | rootScopePopped
  | rootScopeHelper
  | scopeNotLowered (id : Nat) (kind : String)
  | unresolvedProperty (name : String)
  deriving DecidableEq, Repr

namespace Cause

def kind : Cause → ErrorKind
  | strayBranch _ | unsupportedNode | unsupportedModifier _ | rootScopePopped | rootScopeHelper
  | scopeNotLowered .. | unresolvedProperty _ => .generation
  | _ => .invalid

def message : Cause → String
  | malformedExpression source => "Invalid template expression '" ++ source ++ "'"
  | invalidLoopName name => "'" ++ name ++ "' is not a valid loop variable name"
  | reservedLoopName name => "'" ++ name ++ "' is reserved and cannot be used as a loop variable"
  | unknownDirective label => "Unknown conditional directive '" ++ label ++ "'"
  | fallbackWithTest => "'else' does not take an expression"
  | testRequired label => "'" ++ label ++ "' requires an expression"
  | unknownModifier label =>
    "Unknown if modifier '" ++ label ++ "', expected one of: " ++
      ", ".intercalate (Modifier.known.map Modifier.label)
  | iteratingBranch label => "'" ++ label ++ "' cannot be combined with an iteration directive"
  | bothIterations => "for:each and iterator directives cannot be combined"
  | sameItemAndIndex name => "for:item and for:index cannot both be '" ++ name ++ "'"
  | keyOnFragment => "key is not allowed on a template fragment"
  | badComponentReference reference =>
    "Component reference '" ++ reference ++ "' must look like 'package.module:Class'"
  | iteratingChainHead =>
    "An 'if' followed by elseif/else cannot be combined with an iteration directive"
  | rootNotFragment => "The root node must be a <template> element"
  | rootWithDirectives => "The root <template> cannot carry directives"
  | strayBranch label => "'" ++ label ++ "' must follow an 'if' or 'elseif' sibling"
  | unsupportedNode => "Unsupported IR node IRNode"
  | unsupportedModifier label => "Unknown if modifier '" ++ label ++ "'"
  | rootScopePopped => "Cannot pop the root scope"
  | rootScopeHelper => "The root scope cannot own a helper function"
  | scopeNotLowered id kind => "Scope " ++ toString id ++ " (" ++ kind ++ ") was never lowered"
  | unresolvedProperty name => "Unresolved reference to component property '" ++ name ++ "'"

end Cause

/-- What is told about a template that cannot be compiled. An empty file name and line 0 are unknown. -/
structure Diagnostic where
  kind : ErrorKind
  message : String
  filename : Data
  line : Int
  column : Int
  deriving Repr

/-- The message behind as much of its place as is known. -/
def Diagnostic.text (d : Diagnostic) : String :=
  let place := toString d.line ++ ":" ++ toString d.column ++ ": "
  if d.line = 0 then d.message
  else if d.filename.truthy then d.filename.display ++ ":" ++ place ++ d.message
  else place ++ d.message

structure CompileError where
  cause : Cause
  filename : Data
  position : Position
  deriving Repr

namespace CompileError

def unplaced (cause : Cause) : CompileError := ⟨cause, .text "", ⟨0, 0⟩⟩

def diagnostic (e : CompileError) : Diagnostic :=
  ⟨e.cause.kind, e.cause.message, e.filename, e.position.line, e.position.column⟩

end CompileError

inductive ConfigError where
  | unknownFormat (format : Data)
  | emptyRuntimeModule
  | unknownOptions (names : List String)
  | unloadableFile (path : String)
  deriving Repr

def ConfigError.message : ConfigError → String
  | unknownFormat format =>
    "Unknown output format '" ++ format.display ++ "', expected one of: module, function"
  | emptyRuntimeModule => "runtime_module must not be empty"
  | unknownOptions names => "Unknown compiler option(s): " ++ ", ".intercalate names
  | unloadableFile path => "Cannot load config file " ++ path

/-- Every way in which reading, generating or printing can fail. -/
inductive Failure where
  | compile (error : CompileError)
  | config (error : ConfigError)
  /-- A source text holds the character with code 0. -/
  | nullCharacter
  /-- The tree lacks a part that its own shape promises. -/
  | missingPart
  /-- The root is a node that cannot have children. -/
  | childlessRoot
  /-- A value has no text in generated code. -/
  | unprintable
  /-- The runtime module of an import is not a text. -/
  | moduleNotText
  deriving Repr

end TemplateCompiler
