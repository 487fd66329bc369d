import TemplateCompiler.Scope.Context
import Mathlib.Data.List.Basic

/-!
Numbered names. The numbers in the local name of a usage and in the name of a helper can be read back
from the name, so different numbers give different names.
-/

namespace TemplateCompiler.Scope

def endsInDigit (s : String) : Bool := s.toList.getLast?.any Char.isDigit

theorem toList_number (n : Nat) : (toString n).toList = Nat.toDigits 10 n := by
  rw [Nat.toString_eq_repr, Nat.toList_repr]

theorem isDigit_of_mem_number {n : Nat} {c : Char} (h : c ∈ Nat.toDigits 10 n) : c.isDigit :=
  Nat.isDigit_of_mem_toDigits (by decide) (by decide) h

theorem number_ne_nil (n : Nat) : Nat.toDigits 10 n ≠ [] := by
  intro h
  have back := Nat.ofDigitChars_toDigits (b := 10) (n := n) (by decide) (by decide)
  rw [h] at back
  subst back
  exact absurd h (by decide)

theorem number_injective {m n : Nat} (h : Nat.toDigits 10 m = Nat.toDigits 10 n) : m = n := by
  rw [← Nat.ofDigitChars_toDigits (b := 10) (n := m) (by decide) (by decide), h,
    Nat.ofDigitChars_toDigits (by decide) (by decide)]

theorem endsInDigit_number (s : String) (n : Nat) : endsInDigit (s ++ toString n) := by
  rw [endsInDigit, String.toList_append, toList_number]
  have last : (Nat.toDigits 10 n).getLast (number_ne_nil n) ∈ Nat.toDigits 10 n := List.getLast_mem _
  rw [List.getLast?_append_of_ne_nil _ (number_ne_nil n), List.getLast?_eq_some_getLast (number_ne_nil n)]
  exact isDigit_of_mem_number last

theorem numbers_injective {a b c d : Nat}
    (h : Nat.toDigits 10 a ++ '_' :: Nat.toDigits 10 b =
      Nat.toDigits 10 c ++ '_' :: Nat.toDigits 10 d) : a = c ∧ b = d := by
  have absent (n : Nat) : '_' ∉ Nat.toDigits 10 n := fun hm =>
    absurd (isDigit_of_mem_number hm) (by decide)
  obtain ⟨first, -, second⟩ := (List.append_cons_inj_of_notMem (absent a) (absent b)).mp h
  exact ⟨number_injective first, number_injective second⟩

theorem toList_localName (scope position : Nat) : (localName scope position).toList =
    '_' :: 'c' :: 'v' :: (Nat.toDigits 10 scope ++ '_' :: Nat.toDigits 10 position) := by
  simp only [localName, String.toList_append, toList_number]
  simp

theorem localName_injective {a b c d : Nat} (h : localName a b = localName c d) : a = c ∧ b = d := by
  have lists := congrArg String.toList h
  simp only [toList_localName, List.cons.injEq, true_and] at lists
  exact numbers_injective lists

theorem endsInDigit_localName (scope position : Nat) : endsInDigit (localName scope position) :=
  endsInDigit_number _ _

theorem localName_ne_componentName (scope position : Nat) :
    localName scope position ≠ componentName := by
  intro h
  have lists := congrArg String.toList h
  rw [toList_localName] at lists
  simp [componentName] at lists

namespace Context

theorem toList_helperName (kind : ScopeKind) (id position : Nat) :
    (helperName kind id position).toList =
      kind.label.toList ++ (Nat.toDigits 10 id ++ '_' :: Nat.toDigits 10 position) := by
  simp only [helperName, String.toList_append, toList_number, List.append_assoc]
  simp

theorem endsInDigit_helperName (kind : ScopeKind) (id position : Nat) :
    endsInDigit (helperName kind id position) := endsInDigit_number _ _

theorem dropWhile_digits {xs : List Char} (n : Nat) (rest : List Char)
    (h : ∀ c ∈ xs, c.isDigit = false) :
    (xs ++ (Nat.toDigits 10 n ++ rest)).dropWhile (fun c => !c.isDigit) =
      Nat.toDigits 10 n ++ rest := by
  induction xs with
  | nil =>
    obtain ⟨c, cs, hc⟩ := List.exists_cons_of_ne_nil (number_ne_nil n)
    have digit : c.isDigit := isDigit_of_mem_number (n := n) (hc ▸ List.mem_cons_self)
    rw [List.nil_append, hc, List.cons_append, List.dropWhile_cons_of_neg (by simp [digit])]
  | cons c xs ih =>
    rw [List.cons_append, List.dropWhile_cons_of_pos (by simp [h c List.mem_cons_self])]
    exact ih fun x hx => h x (List.mem_cons_of_mem c hx)

theorem helperName_injective {kind kind' : ScopeKind} {a b c d : Nat}
    (hk : ∀ x ∈ kind.label.toList, x.isDigit = false)
    (hk' : ∀ x ∈ kind'.label.toList, x.isDigit = false)
    (h : helperName kind a b = helperName kind' c d) : a = c ∧ b = d := by
  have lists := congrArg (fun s => s.toList.dropWhile fun c => !c.isDigit) h
  simp only [toList_helperName, dropWhile_digits _ _ hk, dropWhile_digits _ _ hk'] at lists
  exact numbers_injective lists

end Context

end TemplateCompiler.Scope
