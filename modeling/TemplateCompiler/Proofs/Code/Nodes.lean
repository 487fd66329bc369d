import TemplateCompiler.Proofs.Code.Occurrences
import Mathlib.Data.List.Basic

/-!
Nodes and their parts. A node can be given other parts; replacing placeholders gives every other node its
replaced parts.
-/

namespace TemplateCompiler.Code.Expr

def fill (ps : List Expr) : Expr → Expr
  | member _ attr => member (ps.getD 0 absent) attr
  | subscript .. => subscript (ps.getD 0 absent) (ps.getD 1 absent)
  | slice .. => slice (ps.getD 0 absent) (ps.getD 1 absent) (ps.getD 2 absent)
  | call _ args _ => call (ps.getD 0 absent) (ps.tail.take args.length) (ps.tail.drop args.length)
  | keyword param _ => keyword param (ps.getD 0 absent)
  | starred _ => starred (ps.getD 0 absent)
  | unary op _ => unary op (ps.getD 0 absent)
  | binary op .. => binary op (ps.getD 0 absent) (ps.getD 1 absent)
  | logical op _ => logical op ps
  | compare _ ops _ => compare (ps.getD 0 absent) ops ps.tail
  | conditional .. => conditional (ps.getD 0 absent) (ps.getD 1 absent) (ps.getD 2 absent)
  | lambda params keywordDefaults defaults _ =>
    let others := ps.drop keywordDefaults.length
    lambda params (ps.take keywordDefaults.length) (others.take defaults.length)
      (others.getD defaults.length absent)
  | tuple _ => tuple ps
  | list _ => list ps
  | set _ => set ps
  | dict keys _ => dict (ps.take keys.length) (ps.drop keys.length)
  | comprehension form .. => comprehension form (ps.getD 0 absent) ps.tail
  | dictComprehension .. => dictComprehension (ps.getD 0 absent) (ps.getD 1 absent) ps.tail.tail
  | clause isAsync .. => clause isAsync (ps.getD 0 absent) (ps.getD 1 absent) ps.tail.tail
  | named target _ => named target (ps.getD 0 absent)
  | await _ => await (ps.getD 0 absent)
  | yield _ => yield (ps.getD 0 absent)
  | yieldFrom _ => yieldFrom (ps.getD 0 absent)
  | joined _ => joined ps
  | field _ conversion _ => field (ps.getD 0 absent) conversion (ps.getD 1 absent)
  | e => e

theorem fill_parts (e : Expr) : e.fill e.parts = e := by
  cases e <;> simp [fill, parts]

theorem parts_fill {e : Expr} {ps : List Expr} (h : ps.length = e.parts.length) : (e.fill ps).parts = ps := by
  cases e with
  | absent | name id | own id | placeholder read | constant value => exact (List.length_eq_zero_iff.mp h).symm
  | logical op items | tuple items | list items | set items | joined items => rfl
  | subscript a b | binary op a b | field a conversion b =>
    obtain ⟨a, b, rfl⟩ := List.length_eq_two.mp h
    rfl
  | slice a b c | conditional a b c =>
    obtain ⟨a, b, c, rfl⟩ := List.length_eq_three.mp h
    rfl
  | call _ _ _ | compare _ _ _ | comprehension _ _ _ =>
    obtain ⟨a, ps, rfl⟩ := List.exists_cons_of_length_eq_add_one h
    simp [fill, parts]
  | dictComprehension _ _ _ | clause _ _ _ _ =>
    obtain ⟨a, ps, rfl⟩ := List.exists_cons_of_length_eq_add_one h
    obtain ⟨b, ps, rfl⟩ := List.exists_cons_of_length_eq_add_one (Nat.succ.inj h)
    simp [fill, parts]
  | dict keys values => simp [fill, parts]
  | lambda params keywordDefaults defaults body =>
    obtain ⟨last, hl⟩ : ∃ last, (ps.drop keywordDefaults.length).drop defaults.length = [last] := by
      apply List.length_eq_one_iff.mp
      simp [parts] at h ⊢
      omega
    have is : (ps.drop keywordDefaults.length).getD defaults.length absent = last := by
      have at0 := congrArg (·.getD 0 absent) hl
      simpa using at0
    rw [fill, parts]
    simp only [is, ← hl, List.append_assoc, List.take_append_drop]
  | _ =>
    obtain ⟨a, rfl⟩ := List.length_eq_one_iff.mp h
    rfl

theorem substitute_eq_fill (f : Placeholder → Expr) {e : Expr} (h : ¬ e.isPlaceholder) :
    e.substitute f = e.fill (e.parts.map (substitute f)) := by
  cases e with
  | placeholder read => exact absurd rfl h
  | _ => simp [substitute, fill, parts]

theorem fill_fill {e : Expr} {ps qs : List Expr} (h : ps.length = e.parts.length) :
    (e.fill ps).fill qs = e.fill qs := by
  cases e with
  | _ => simp_all [fill, parts]

theorem isPlaceholder_fill (e : Expr) (ps : List Expr) : (e.fill ps).isPlaceholder = e.isPlaceholder := by
  cases e <;> rfl

theorem substitute_fill (f : Placeholder → Expr) {e : Expr} {ps : List Expr} (h : ¬ e.isPlaceholder)
    (size : ps.length = e.parts.length) : (e.fill ps).substitute f = e.fill (ps.map (substitute f)) := by
  rw [substitute_eq_fill f (by rwa [isPlaceholder_fill]), fill_fill size, parts_fill size]

theorem substitute_placeholder (e : Expr) : e.substitute placeholder = e := by
  induction e using induct with
  | step e ih =>
    by_cases placed : e.isPlaceholder
    · cases e with
      | placeholder site => rfl
      | _ => cases placed
    · rw [substitute_eq_fill _ placed, List.map_congr_left ih, List.map_id', fill_parts]

theorem map_substitute_placeholder (es : List Expr) : es.map (substitute placeholder) = es := by
  rw [List.map_congr_left fun e _ => substitute_placeholder e, List.map_id']

theorem substitute_apply (id : String) (xs : List Expr) (f : Placeholder → Expr) :
    (apply (own id) xs).substitute f = apply (own id) (xs.map (substitute f)) := by
  simp [apply, substitute]

theorem substitute_record (f : Placeholder → Expr) (entries : List (String × Expr)) :
    (record entries).substitute f = record (entries.map fun e => (e.1, e.2.substitute f)) := by
  simp [record, substitute, str]

theorem placeholders_eq {e : Expr} (h : ∀ read, e ≠ placeholder read) :
    e.placeholders = e.parts.flatMap placeholders := by
  cases e with
  | placeholder read => exact absurd rfl (h read)
  | _ => simp [placeholders, parts]

theorem placeholders_fill {e : Expr} {ps : List Expr} (h : ¬ e.isPlaceholder)
    (size : ps.length = e.parts.length) : (e.fill ps).placeholders = ps.flatMap placeholders := by
  rw [placeholders_eq, parts_fill size]
  intro read is
  rw [← isPlaceholder_fill e ps, is] at h
  exact h rfl

def isFlat : Expr → Bool
  | name _ | own _ | placeholder _ | member .. | lambda .. | comprehension .. | dictComprehension ..
  | named .. => false
  | _ => true

theorem isFlat_fill (e : Expr) (ps : List Expr) : (e.fill ps).isFlat = e.isFlat := by
  cases e <;> rfl

theorem occurrences_flat {e : Expr} (h : e.isFlat) : e.occurrences = e.parts.flatMap occurrences := by
  cases e with
  | name | own | placeholder | member | lambda | comprehension | dictComprehension | named => cases h
  | _ => simp [occurrences, parts]

end TemplateCompiler.Code.Expr
