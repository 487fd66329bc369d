import TemplateCompiler.Proofs.Generate.Searches
import TemplateCompiler.Proofs.Scope.Erasure

/-!
Numbers of elements. Generated code uses the number of an element as the key in the data that the element
is made from: as it is, or joined with the value of a key expression. These uses are collected from all
functions of a render function. The elements of a template in document order have one use after the other,
with the numbers from zero on.
-/

namespace TemplateCompiler.Code.Expr

open TemplateCompiler.Scope

def isText (value : String) : Expr → Bool
  | constant c => c == .str value
  | _ => false

def under (key : String) : Expr → List Expr
  | dict keys values =>
    (keys.zip values).filterMap fun e => if e.1.isText key then some e.2 else Option.none
  | _ => []

theorem under_record (key : String) (entries : List (String × Expr)) :
    (record entries).under key =
      entries.filterMap fun e => if e.1 = key then some e.2 else Option.none := by
  rw [record, under, List.zip_map', List.filterMap_map]
  refine List.filterMap_congr fun e _ => ?_
  simp [str, isText]

end TemplateCompiler.Code.Expr

namespace TemplateCompiler.Generate

open TemplateCompiler.Code TemplateCompiler.Scope TemplateCompiler.Template Block

/-- A place in generated code where the key of an element stands. -/
inductive KeyUse where
  /-- An entry for the key in the data from which a primitive makes an element. -/
  | entry (maker : Primitive) (label : Option Expr) (key : Expr)
  /-- The arguments of a call that joins a number with a value. -/
  | joined (args : List Expr)

/-- The primitives that make elements, with the place of the data among their arguments. -/
def makers : List (Primitive × Nat) :=
  [(.element, 1), (.customElement, 2), (.dynamicComponent, 2), (.slot, 1)]

def argumentUses (args : List Expr) (id : String) : List KeyUse :=
  if id = Primitive.key.localName then [.joined args]
  else makers.flatMap fun m =>
    if id = m.1.localName then
      (args[m.2]?.elim [] (Expr.under "key")).map (.entry m.1 args.head?)
    else []

/-- The uses of the number of one element, given what may stand for its key expression. -/
def UsesOf (value : Expr → Expr → Prop) (number : Nat) (e : Element) (us : List KeyUse) : Prop :=
  match e.key with
  | none => us = [.entry e.maker (some (.str e.label)) (.nat number)]
  | some key => ∃ x, value key x ∧
      us = [.entry e.maker (some (.str e.label))
          (.apply (.own Primitive.key.localName) [.nat number, x]),
        .joined [.nat number, x]]

/-- Uses of the numbers of elements, which go on from the given number, in any order. -/
def Numbered (value : Expr → Expr → Prop) (number : Nat) (es : List Element) (us : List KeyUse) : Prop :=
  ∃ each, List.Forall₂ (fun e => UsesOf value e.2 e.1) (es.zipIdx number) each ∧ us.Perm each.flatten

section

variable {value other : Expr → Expr → Prop} {number : Nat} {e : Element} {es fs : List Element}
  {us vs : List KeyUse}

theorem Numbered.cons (here : UsesOf value number e us) (later : Numbered value (number + 1) es vs) :
    Numbered value number (e :: es) (us ++ vs) := by
  have one := Splits.of_forall₂ (R := fun e => UsesOf value e.2 e.1) (.cons (a := (e, number)) here .nil)
  rw [List.flatten_cons, List.flatten_nil, List.append_nil] at one
  exact one.append later

theorem Numbered.append (first : Numbered value number es us)
    (second : Numbered value (number + es.length) fs vs) :
    Numbered value number (es ++ fs) (us ++ vs) := by
  unfold Numbered
  rw [List.zipIdx_append]
  exact Splits.append first second

end

/-- Code that stands for an expression of the template. -/
def Stands (e x : Expr) : Prop := ∃ scope locals, Bound scope locals e x

/-- The expression of the template, with decided reads for the names of properties. -/
def Decided (d : Draft) (e x : Expr) : Prop :=
  ∃ y : Expr, y.unbound = e.asWritten ∧ x = y.substitute d.decision

section Elements

variable {d : Draft} {L : Ledger} {config : Config} {e : Element} {scope number : Nat}
  {locals : List String} {x data children : Expr}

end Elements

end TemplateCompiler.Generate
