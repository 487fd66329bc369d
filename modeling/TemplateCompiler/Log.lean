import TemplateCompiler.Config

/-!
What a compilation notes along the way.
-/

namespace TemplateCompiler

inductive LogEntry where
  | scopeEntered (id : Nat) (kind : String)
  | hoisted (scope : Nat) (properties : List String)
  | resolved (reads scopes : Nat)
  | compiled (name : Data) (format : OutputFormat) (lines dependencies : Nat)

def LogEntry.message : LogEntry → String
  | scopeEntered id kind => "Entered scope " ++ toString id ++ " (" ++ kind ++ ")"
  | hoisted scope properties =>
    "Scope " ++ toString scope ++ " hoists " ++ ", ".intercalate properties
  | resolved reads scopes =>
    "Resolved " ++ toString reads ++ " property reads across " ++ toString scopes ++ " scopes"
  | compiled name format lines dependencies =>
    "Compiled " ++ name.display ++ " (" ++ format.label ++ " format): " ++ toString lines ++
      " lines, " ++ toString dependencies ++ " dependencies"

end TemplateCompiler
