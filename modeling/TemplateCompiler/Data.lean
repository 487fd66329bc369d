import TemplateCompiler.Code.Expr

/-!
Values as option files and fixtures give them: nothing, truth values, whole numbers, binary fractions,
texts, lists and records. A record holds its field names and, in the same order, their values.
-/

namespace TemplateCompiler

open TemplateCompiler.Text TemplateCompiler.Code TemplateCompiler.Decimal

inductive Data where
  | null
  | bool (value : Bool)
  | int (value : Int)
  | float (negative : Bool) (magnitude : Binary)
  | text (value : String)
  | list (items : List Data)
  | record (names : List String) (values : List Data)
  deriving Repr

namespace Data

instance : Inhabited Data := ⟨null⟩

/-- Nothing, zero and everything empty is false. -/
def truthy : Data → Bool
  | null => false
  | bool b => b
  | int n => n != 0
  | float _ magnitude => !magnitude.isZero
  | text s => s != ""
  | list items => !items.isEmpty
  | record names _ => !names.isEmpty

def text? : Data → Option String
  | text s => some s
  | _ => none

def floatText (negative : Bool) (magnitude : Binary) : String :=
  (if negative then "-" else "") ++
    match magnitude with
    | .infinite => "inf"
    | m => m.text .point

mutual

/-- The form in which a value stands inside a list or a record. -/
def quoted : Data → String
  | null => "None"
  | bool true => "True"
  | bool false => "False"
  | int n => toString n
  | float negative magnitude => floatText negative magnitude
  | text s => quote (.ofString s)
  | list items => "[" ++ ", ".intercalate (quotedAll items) ++ "]"
  | record names values =>
    "\x7b" ++ ", ".intercalate (List.zipWith (fun n v => quote (.ofString n) ++ ": " ++ v) names
      (quotedAll values)) ++ "\x7d"

def quotedAll : List Data → List String
  | [] => []
  | d :: ds => d.quoted :: quotedAll ds

end

/-- The form in which a value stands in a message: texts as they are, all else quoted. -/
def display : Data → String
  | text s => s
  | d => d.quoted

mutual

def toExpr : Data → Expr
  | null => Expr.none
  | bool b => .bool b
  | int n => .constant (.int n)
  | float negative magnitude =>
    let e := Expr.constant (.float magnitude)
    if negative then .unary .minus e else e
  | text s => .str s
  | list items => .list (toExprs items)
  | record names values => .dict (names.map Expr.str) (toExprs values)

def toExprs : List Data → List Expr
  | [] => []
  | d :: ds => d.toExpr :: toExprs ds

end

end Data

end TemplateCompiler
