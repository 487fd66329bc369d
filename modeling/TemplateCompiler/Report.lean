import TemplateCompiler.Error

/-!
Reports for template authors: a title, the place, the message and, if the source is at hand, the lines
around the place.
-/

namespace TemplateCompiler

inductive ReportStyle where
  | dim
  | bold
  deriving DecidableEq, Repr

def ReportStyle.label : ReportStyle → String
  | dim => "dim"
  | bold => "bold"

inductive ReportPart where
  | text (content : String) (style : ReportStyle)
  /-- Some lines of a source, one of them marked. -/
  | excerpt (source : String) (firstLine lastLine markedLine : Int)

structure Report where
  title : String
  parts : List ReportPart

namespace Report

def titleOf : ErrorKind → String
  | .general => "Template compile error"
  | .generation => "Code generation failed"
  | .invalid => "Invalid template"

/-- How many lines an excerpt shows before and after the marked one. -/
def contextLines : Int := 2

/-- Characters that move the cursor of a console or ring its bell. -/
def isCursorControl (c : Char) : Bool := [0x07, 0x08, 0x0b, 0x0c, 0x0d].contains c.toNat

/-- A text as it is shown, without the characters that would act on the console. -/
def shown (text : String) : String := String.ofList (text.toList.filter fun c => !isCursorControl c)

def placeOf (d : Diagnostic) : String :=
  let name := if d.filename.truthy then d.filename.display else "<template>"
  if d.line = 0 then name
  else name ++ ", line " ++ toString d.line ++ ", column " ++ toString d.column

/-- The excerpt of a source, if the line of the error does not lie behind its end. -/
def excerptOf (d : Diagnostic) (source : String) : List ReportPart :=
  let total : Int := source.toList.count '\n' + 1
  if source = "" ∨ d.line = 0 ∨ total < d.line then []
  else [.excerpt source (max 1 (d.line - contextLines)) (min total (d.line + contextLines)) d.line]

def ofDiagnostic (d : Diagnostic) (source : Option String) : Report :=
  ⟨titleOf d.kind,
    [.text (shown (placeOf d)) .dim, .text (shown d.message) .bold] ++
      (source.map (excerptOf d)).getD []⟩

end Report

end TemplateCompiler
