import TemplateCompiler.Proofs.Code.Functions
import Mathlib.Data.List.Perm.Basic

/-!
Reading placeholders level by level finds each of them once: the levels of an expression hold the undecided
reads among its occurrences, and the levels of a statement those of the functions in it.
-/

namespace TemplateCompiler.Code

theorem flatten_joinLevels (xs ys : Levels) :
    (joinLevels xs ys).flatten.Perm (xs.flatten ++ ys.flatten) := by
  fun_induction joinLevels xs ys with
  | case1 ys => exact .refl _
  | case2 xs => simp
  | case3 x xs y ys ih =>
    simp only [List.flatten_cons, List.append_assoc]
    have swapped : (y ++ (xs.flatten ++ ys.flatten)).Perm (xs.flatten ++ (y ++ ys.flatten)) := by
      rw [← List.append_assoc, ← List.append_assoc]
      exact List.Perm.append_right _ List.perm_append_comm
    exact List.Perm.append_left x ((List.Perm.append_left y ih).trans swapped)

namespace Expr

theorem flatten_levelsAll (es : List Expr) :
    (levelsAll es).flatten.Perm (es.flatMap fun e => e.levels.flatten) := by
  induction es with
  | nil => simp [levelsAll]
  | cons e es ih =>
    rw [levelsAll, List.flatMap_cons]
    exact (flatten_joinLevels _ _).trans (List.Perm.append_left _ ih)

theorem holes_flatMap {es : List Expr} :
    holes (es.flatMap occurrences) = es.flatMap fun e => holes e.occurrences := by
  rw [holes, List.filterMap_flatMap]
  rfl

theorem holes_clauseOccurrences (w : List Inner) (cs : List Expr) :
    holes (clauseOccurrences w cs) = holes (cs.flatMap occurrences) := by
  cases cs with
  | nil => simp [clauseOccurrences]
  | cons c cs =>
    rcases isNoClause_or c with h | ⟨isAsync, target, iterable, conditions, rfl⟩
    · simp [clauseOccurrences_cons h]
    · simp [clauseOccurrences, occurrences]

theorem holes_occurrences {e : Expr} (h : ∀ read, e ≠ placeholder read) :
    holes e.occurrences = e.parts.flatMap fun x => holes x.occurrences := by
  rw [← holes_flatMap]
  cases e with
  | placeholder read => exact absurd rfl (h read)
  | member base attr =>
    cases base with
    | own id =>
      rw [occurrences]
      split <;> rfl
    | _ => simp [parts, occurrences]
  | comprehension kind element clauses => simp [parts, occurrences, holes_clauseOccurrences]
  | dictComprehension key value clauses => simp [parts, occurrences, holes_clauseOccurrences]
  | name id => rfl
  | own id => rfl
  | named target value =>
    simp only [parts, occurrences, List.flatMap_singleton]
    rfl
  | _ => simp [parts, occurrences]

theorem flatten_levels {e : Expr} (h : ∀ read, e ≠ placeholder read) :
    e.levels.flatten.Perm (e.parts.flatMap fun x => x.levels.flatten) := by
  have pair (x y : Expr) : (joinLevels x.levels y.levels).flatten.Perm
      ([x, y].flatMap fun x => x.levels.flatten) := by
    simpa using flatten_joinLevels x.levels y.levels
  have all (xs ys : List Expr) : (joinLevels (levelsAll xs) (levelsAll ys)).flatten.Perm
      ((xs ++ ys).flatMap fun x => x.levels.flatten) := by
    rw [List.flatMap_append]
    exact (flatten_joinLevels _ _).trans ((flatten_levelsAll xs).append (flatten_levelsAll ys))
  have first (x : Expr) {ys : List Expr} {l : Levels}
      (h : l.flatten.Perm (ys.flatMap fun x => x.levels.flatten)) :
      (joinLevels x.levels l).flatten.Perm ((x :: ys).flatMap fun x => x.levels.flatten) := by
    rw [List.flatMap_cons]
    exact (flatten_joinLevels _ _).trans (List.Perm.append_left _ h)
  cases e with
  | placeholder read => exact absurd rfl (h read)
  | absent | name _ | own _ | constant _ => exact .refl _
  | member x _ | keyword _ x | starred x | unary _ x | named _ x | await x | yield x | yieldFrom x =>
    simp [levels, parts]
  | subscript x y | binary _ x y | field x _ y => exact pair x y
  | slice x y z | conditional x y z => exact first x (pair y z)
  | call x ys zs => exact first x (all ys zs)
  | logical _ xs | tuple xs | list xs | set xs | joined xs => exact flatten_levelsAll xs
  | compare x _ ys | comprehension _ x ys => exact first x (flatten_levelsAll ys)
  | dict xs ys => exact all xs ys
  | dictComprehension x y zs | clause _ x y zs => exact first x (first y (flatten_levelsAll zs))
  | lambda _ xs ys body =>
    simp only [levels, parts, List.flatMap_append, List.flatMap_singleton]
    refine (flatten_joinLevels _ _).trans (List.Perm.append_right _ ?_)
    simpa using all xs ys

theorem levels_perm_holes (e : Expr) : e.levels.flatten.Perm (holes e.occurrences) := by
  induction e using induct with
  | step e ih =>
    by_cases placed : ∃ read, e = placeholder read
    · obtain ⟨read, rfl⟩ := placed
      exact .refl _
    · have other : ∀ read, e ≠ placeholder read := fun read h => placed ⟨read, h⟩
      rw [holes_occurrences other]
      exact (flatten_levels other).trans (List.Perm.flatMap_left e.parts ih)

end Expr

namespace Stmt

/-- The undecided reads of a statement outside the functions in it. -/
def openHoles : Stmt → List Placeholder
  | assign target value => holes target.occurrences ++ holes value.occurrences
  | ret value | expr value => holes value.occurrences
  | importFrom .. | function .. => []

/-- The undecided reads of the functions in a statement, each outside the functions in it. -/
def functionHoles (fs : List (List Function × Function)) : List Placeholder :=
  fs.flatMap fun f => f.2.body.flatMap openHoles

mutual

theorem levels_perm_functionHoles (around : List Function) :
    ∀ s : Stmt, s.levels.flatten.Perm (s.openHoles ++ functionHoles (s.functions around))
  | assign target value => by
    simp only [levels, openHoles, functions, functionHoles, List.flatMap_nil, List.append_nil]
    exact (flatten_joinLevels _ _).trans
      ((Expr.levels_perm_holes target).append (Expr.levels_perm_holes value))
  | ret value | expr value => by
    simpa [levels, openHoles, functions, functionHoles] using Expr.levels_perm_holes value
  | importFrom moduleName names => .refl _
  | function name signature body => by
    have below := levelsAll_perm_functionHoles (⟨name, signature, body⟩ :: around) body
    simpa [levels, openHoles, functions, functionHoles] using below

theorem levelsAll_perm_functionHoles (around : List Function) :
    ∀ ss : List Stmt, (levelsAll ss).flatten.Perm
      (ss.flatMap openHoles ++ functionHoles (functionsAll around ss))
  | [] => .refl _
  | s :: ss => by
    have here := levels_perm_functionHoles around s
    have later := levelsAll_perm_functionHoles around ss
    have both := (flatten_joinLevels _ _).trans (here.append later)
    rw [levelsAll, functionsAll, List.flatMap_cons, functionHoles, List.flatMap_append]
    refine both.trans ?_
    simp only [functionHoles, List.append_assoc]
    refine List.Perm.append_left _ ?_
    rw [← List.append_assoc, ← List.append_assoc]
    exact List.Perm.append_right _ List.perm_append_comm

end

end Stmt

end TemplateCompiler.Code
