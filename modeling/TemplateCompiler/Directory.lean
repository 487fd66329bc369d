import TemplateCompiler.Data
import TemplateCompiler.Table

/-!
The files that a program sees: a current directory whose contents are known, the folders above it, of
which only the existence is known, and the few places that every system has. A path is followed part by
part, and every part but the last has to be a folder.
-/

namespace TemplateCompiler

inductive DirectoryEntry where
  /-- A script of assignments. -/
  | file (assignments : Table Data)
  | directory

structure Directory where
  entries : Table DirectoryEntry

/-- Where a path starts: in the current directory, some levels above it, or at the root. -/
inductive PathBase where
  | here
  | above (levels : Nat)
  | root
  deriving DecidableEq, Repr

/-- A place that a path leads to, without single and double dots. -/
structure Place where
  base : PathBase
  parts : List String
  deriving DecidableEq, Repr

inductive PathFault where
  /-- A folder on the way does not exist. -/
  | missing
  /-- A file stands where a folder was expected. -/
  | notFolder
  /-- The path or a part of it is too long for the system. -/
  | tooLong
  deriving DecidableEq, Repr

def maxPartBytes : Nat := 255

def maxPathBytes : Nat := 4095

/-- The parts of a path, without empty ones and single dots. -/
def pathParts (path : String) : List String :=
  (path.splitOn "/").filter fun part => part ≠ "" ∧ part ≠ "."

/-- The slashes that a path starts with: two have a meaning of their own, more than two count as one. -/
def pathRoot (path : String) : String :=
  match path.toList with
  | '/' :: '/' :: '/' :: _ => "/"
  | '/' :: '/' :: _ => "//"
  | '/' :: _ => "/"
  | _ => ""

/-- A path without repeated slashes, single dots and a slash at its end. -/
def normalPath (path : String) : String :=
  let whole := pathRoot path ++ "/".intercalate (pathParts path)
  if whole = "" then "." else whole

namespace Place

/-- The folder that holds a place. The root holds itself. -/
def parent : Place → Place
  | ⟨.here, []⟩ => ⟨.above 1, []⟩
  | ⟨.above n, []⟩ => ⟨.above (n + 1), []⟩
  | ⟨.root, []⟩ => ⟨.root, []⟩
  | ⟨base, parts⟩ => ⟨base, parts.dropLast⟩

def child (p : Place) (name : String) : Place := { p with parts := p.parts ++ [name] }

def start (path : String) : Place := ⟨if path.startsWith "/" then .root else .here, []⟩

@[simp] theorem parent_child (p : Place) (name : String) : (p.child name).parent = p := by
  obtain ⟨base, parts⟩ := p
  have h : (parts ++ [name]).dropLast = parts := List.dropLast_concat
  cases base <;> cases parts <;> simp_all [child, parent]

end Place

namespace Directory

def empty : Directory := ⟨.empty⟩

def isFolder (d : Directory) (parts : List String) : Bool :=
  let path := "/".intercalate parts
  match d.entries.get? path with
  | some .directory => true
  | some (.file _) => false
  | none => parts.isEmpty || d.entries.keys.any (·.startsWith (path ++ "/"))

def entry? (d : Directory) (parts : List String) : Option DirectoryEntry :=
  if d.isFolder parts then some .directory else d.entries.get? ("/".intercalate parts)

def systemEntry? : List String → Option DirectoryEntry
  | [] | ["dev"] | ["tmp"] => some .directory
  | ["dev", "null"] => some (.file .empty)
  | _ => none

def at? (d : Directory) (p : Place) : Option DirectoryEntry :=
  match p.base with
  | .here => d.entry? p.parts
  | .above _ => if p.parts.isEmpty then some .directory else none
  | .root => systemEntry? p.parts

def step (d : Directory) (p : Place) (part : String) : Except PathFault Place :=
  match d.at? p with
  | none => .error .missing
  | some (.file _) => .error .notFolder
  | some .directory =>
    if part = ".." then .ok p.parent
    else if maxPartBytes < part.utf8ByteSize then .error .tooLong
    else .ok (p.child part)

/-- The place that a path leads to. There need not be anything at it. -/
def locate (d : Directory) (path : String) : Except PathFault Place :=
  if maxPathBytes < path.utf8ByteSize then .error .tooLong
  else (pathParts path).foldlM d.step (Place.start path)

def find (d : Directory) (path : String) : Except PathFault DirectoryEntry := do
  match d.at? (← d.locate path) with
  | some entry => .ok entry
  | none => .error .missing

def isDirectory (d : Directory) (path : String) : Bool :=
  match d.find path with
  | .ok .directory => true
  | _ => false

end Directory

end TemplateCompiler
