import TemplateCompiler.Proofs.Generate.Keys
import TemplateCompiler.Proofs.Generate.Served
import TemplateCompiler.Proofs.Render.Running
import Mathlib.Algebra.Order.BigOperators.Group.List
import Mathlib.Algebra.Order.Group.Nat

/-!
Sites of handlers. Every handler of a template has one place in the code where it is bound. A handler that
is a bare name outside all loops is kept in the context, under a key that no other site has; any other one
is bound whenever its code runs.
-/

namespace TemplateCompiler.Template

end TemplateCompiler.Template

namespace TemplateCompiler.Render

open TemplateCompiler.Code TemplateCompiler.Generate TemplateCompiler.Scope TemplateCompiler.Template

def sites (render : Stmt) : List Expr :=
  (render.functions []).flatMap fun f => f.2.exprs.flatMap fun e => e.nodes.filter isSite

def keptKey? : Expr → Option String
  | .logical .or [.own id, kept] => if kept? kept = some (.str id) then some id else none
  | _ => none

@[simp] theorem keptKey?_keptHandler (name : String) (x : Expr) :
    keptKey? (keptHandler name x) = some name := by
  simp [keptHandler, keptKey?, kept?, boundHandler, callee?, constant?, Expr.apply, Expr.str]

@[simp] theorem keptKey?_boundHandler (x : Expr) : keptKey? (boundHandler x) = none := rfl

@[simp] theorem isSite_boundHandler (x : Expr) : isSite (boundHandler x) := by
  simp [isSite, boundHandler, Expr.apply]

section Search

variable {d : Generate.Draft} {L : Ledger} {config : Config} {e : Element} {scope number : Nat}
  {locals : List String} {x data : Expr} (avoids : Expr.Avoids [Primitive.bind.localName] d.decision)
include avoids

end Search

section Keys

variable {U : Uses} {d : Generate.Draft}

end Keys

end TemplateCompiler.Render
