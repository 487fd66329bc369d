import TemplateCompiler.Proofs.Code.Occurrences

/-!
The functions of generated code. A function definition holds further ones; each function is seen with the
functions around it. What a function does itself are its statements other than function definitions:
the names that they load and the names that they bind.
-/

namespace TemplateCompiler.Code

structure Function where
  name : String
  signature : Signature
  body : List Stmt

namespace Stmt

/-- The names and undecided reads that a statement loads when it is reached. -/
def loads : Stmt → List Occurrence
  | assign _ value => value.occurrences
  | ret value => value.occurrences
  | expr value => value.occurrences
  | importFrom .. | function .. => []

def targets : Expr → List String
  | .own id => [id]
  | .tuple items => items.flatMap fun
    | .own id => [id]
    | _ => []
  | _ => []

def assignedNames : Stmt → List String
  | assign target _ => targets target
  | ret _ | expr _ | importFrom .. | function .. => []

mutual

/-- The functions in a statement, each before the functions in it and with the functions around it, the
nearest first. -/
def functions (around : List Function) : Stmt → List (List Function × Function)
  | function name signature body =>
    (around, ⟨name, signature, body⟩) :: functionsAll (⟨name, signature, body⟩ :: around) body
  | assign .. | ret _ | expr _ | importFrom .. => []

def functionsAll (around : List Function) : List Stmt → List (List Function × Function)
  | [] => []
  | s :: rest => s.functions around ++ functionsAll around rest

end

def isPlain : Stmt → Bool
  | function .. => false
  | _ => true

@[simp] theorem functionsAll_append (around : List Function) (xs ys : List Stmt) :
    functionsAll around (xs ++ ys) = functionsAll around xs ++ functionsAll around ys := by
  induction xs with
  | nil => rfl
  | cons x xs ih => simp [functionsAll, ih]

theorem functionsAll_plain (around : List Function) {ss : List Stmt} (h : ∀ s ∈ ss, s.isPlain) :
    functionsAll around ss = [] := by
  induction ss with
  | nil => rfl
  | cons s ss ih =>
    have first : s.functions around = [] := by
      have hs := h s List.mem_cons_self
      cases s with
      | function name signature body => cases hs
      | _ => simp [functions]
    rw [functionsAll, first, ih fun x hx => h x (List.mem_cons_of_mem s hx), List.nil_append]

end Stmt

namespace Function

def loads (f : Function) : List Occurrence := f.body.flatMap Stmt.loads

def substitute (σ : Placeholder → Expr) (f : Function) : Function :=
  { f with body := f.body.map (Stmt.substitute σ) }

end Function

namespace Stmt

mutual

theorem functions_substitute (σ : Placeholder → Expr) (around : List Function) :
    ∀ s : Stmt, (s.substitute σ).functions (around.map (Function.substitute σ)) =
      (s.functions around).map fun p => (p.1.map (Function.substitute σ), p.2.substitute σ)
  | function name signature body => by
    have below := functionsAll_substitute σ (⟨name, signature, body⟩ :: around) body
    simp only [substitute, substituteAll_eq_map, functions, List.map_cons]
    exact congrArg _ below
  | assign target value => by simp [substitute, functions]
  | ret value => by simp [substitute, functions]
  | expr value => by simp [substitute, functions]
  | importFrom moduleName names => by simp [substitute, functions]

theorem functionsAll_substitute (σ : Placeholder → Expr) (around : List Function) :
    ∀ ss : List Stmt,
      functionsAll (around.map (Function.substitute σ)) (ss.map (substitute σ)) =
        (functionsAll around ss).map fun p => (p.1.map (Function.substitute σ), p.2.substitute σ)
  | [] => rfl
  | s :: ss => by
    simp only [List.map_cons, functionsAll, List.map_append]
    rw [functions_substitute σ around s, functionsAll_substitute σ around ss]

end

theorem loads_substitute {σ : Placeholder → Expr} (hσ : Expr.Decides σ) (s : Stmt) :
    (s.substitute σ).loads = s.loads.flatMap (Occurrence.replace σ) := by
  cases s with
  | assign target value => exact Expr.occurrences_substitute hσ value
  | ret value => exact Expr.occurrences_substitute hσ value
  | expr value => exact Expr.occurrences_substitute hσ value
  | importFrom moduleName names => rfl
  | function name signature body => rfl

theorem substitute_destructure (σ : Placeholder → Expr) (bindings : List (String × Expr)) :
    (destructure bindings).substitute σ =
      destructure (bindings.map fun b => (b.1, b.2.substitute σ)) := by
  unfold destructure
  split
  · simp [substitute, Expr.substitute]
  · next h =>
    split
    · next target value hb =>
      cases bindings with
      | nil => cases hb
      | cons b bs =>
        cases bs with
        | nil => exact absurd rfl (h b.1 b.2)
        | cons c cs => cases hb
    · simp [substitute, Expr.substitute, Function.comp_def]

end Stmt

theorem Function.loads_substitute {σ : Placeholder → Expr} (hσ : Expr.Decides σ) (f : Function) :
    (f.substitute σ).loads = f.loads.flatMap (Occurrence.replace σ) := by
  unfold Function.loads Function.substitute
  simp only [List.flatMap_map, Stmt.loads_substitute hσ, List.flatMap_assoc]

end TemplateCompiler.Code
