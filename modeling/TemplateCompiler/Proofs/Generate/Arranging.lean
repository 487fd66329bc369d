import TemplateCompiler.Generate.Block

/-!
How siblings are arranged. Branches that wait at the start of arranged siblings stand behind blank text
only, and taking them drops that text. Where an element goes depends on its role in a chain and on whether
branches wait for it.
-/

namespace TemplateCompiler.Template

open TemplateCompiler.Text

def Node.isBlank : Node → Bool
  | .text _ value => isBlankText value
  | _ => false

def Element.continues (e : Element) : Bool := e.branchKind?.any BranchKind.continues

/-- An element that another branch may follow. -/
def Element.invites (e : Element) : Bool :=
  e.branchKind? == some .opening || e.branchKind? == some .alternative

/-- Whether the next node, blank text aside, continues a chain. -/
def continued : List Node → Bool
  | [] => false
  | .element e _ :: _ => e.continues
  | n :: ns => n.isBlank && continued ns

end TemplateCompiler.Template

namespace TemplateCompiler.Generate.Block

open TemplateCompiler.Template

theorem takeBranches_eq_some {bs members rest : List Block} :
    takeBranches bs = some (members, rest) ↔
      ∃ blanks, (∀ b ∈ blanks, b.isBlank) ∧ bs = blanks ++ stray members :: rest := by
  constructor
  · intro h
    induction bs with
    | nil => cases h
    | cons b bs ih =>
      have skip (blank : b.isBlank) (taken : takeBranches bs = some (members, rest)) :
          ∃ blanks, (∀ b ∈ blanks, b.isBlank) ∧ b :: bs = blanks ++ stray members :: rest := by
        obtain ⟨blanks, all, rfl⟩ := ih taken
        exact ⟨b :: blanks, by simpa using ⟨blank, all⟩, rfl⟩
      cases b with
      | stray waiting =>
        obtain ⟨rfl, rfl⟩ := Prod.mk.inj (Option.some.inj h)
        exact ⟨[], by simp, rfl⟩
      | _ =>
        rw [takeBranches] at h
        · split at h
          · exact skip ‹_› h
          · cases h
        · simp
  · rintro ⟨blanks, all, rfl⟩
    induction blanks with
    | nil => rfl
    | cons b blanks ih =>
      have blank := all b List.mem_cons_self
      have later := ih fun c hc => all c (List.mem_cons_of_mem b hc)
      cases b with
      | stray waiting => cases blank
      | _ =>
        rw [List.cons_append, takeBranches, if_pos blank, later]
        simp

/-- Where an element goes among arranged siblings. -/
inductive Attached (e : Element) (children siblings : List Block) : List Block → Prop
  | single (plain : ∀ kind ∈ e.branchKind?, ∃ label, kind = .unknown label) :
      Attached e children siblings (element e children :: siblings)
  | alone (opens : e.branchKind? = some .opening) (none : takeBranches siblings = none) :
      Attached e children siblings (element e children :: siblings)
  | chain {members rest : List Block} (opens : e.branchKind? = some .opening)
      (taken : takeBranches siblings = some (members, rest)) :
      Attached e children siblings (chain (element e children :: members) :: rest)
  | alternative {members rest : List Block} (continues : e.branchKind? = some .alternative)
      (taken : takeBranches siblings = some (members, rest)) :
      Attached e children siblings (stray (element e children :: members) :: rest)
  | lastAlternative (continues : e.branchKind? = some .alternative)
      (none : takeBranches siblings = none) :
      Attached e children siblings (stray [element e children] :: siblings)
  | fallback (ends : e.branchKind? = some .fallback) :
      Attached e children siblings (stray [element e children] :: siblings)

theorem attached (e : Element) (children siblings : List Block) :
    Attached e children siblings (attach (element e children) siblings) := by
  cases hk : e.branchKind? with
  | none =>
    simp only [attach, branchKind?, hk]
    exact .single (by simp [hk])
  | some kind =>
    cases kind with
    | unknown label =>
      simp only [attach, branchKind?, hk]
      exact .single (by simp [hk])
    | fallback =>
      simp only [attach, branchKind?, hk]
      exact .fallback hk
    | opening =>
      simp only [attach, branchKind?, hk]
      split
      · exact .chain hk ‹_›
      · exact .alone hk ‹_›
    | alternative =>
      simp only [attach, branchKind?, hk]
      split
      · exact .alternative hk ‹_›
      · exact .lastAlternative hk ‹_›

end TemplateCompiler.Generate.Block
