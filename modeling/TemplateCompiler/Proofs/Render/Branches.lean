import TemplateCompiler.Proofs.Render.Packing
import TemplateCompiler.Proofs.Render.Reading

/-!
Properties that only idle branches use. In a render in which no call enters the branches, the expressions in
them are not evaluated. A property that is read in no other expression is then read only by a function that
assigns it to a local name at its start, before it is known which branch is taken.
-/

namespace TemplateCompiler.Render

open TemplateCompiler.Code TemplateCompiler.Generate TemplateCompiler.Scope TemplateCompiler.Template

def callsOf (p : Spot) (calls : List Call) : List (List Value) :=
  calls.filterMap fun
    | .function name args => if name = p.region.helperName then some args else none
    | .primitive .. => none

def assigns (p : Spot) (n : String) : Bool := p.hoisted.any (·.property == n)

variable {n : String}

theorem mem_callsOf {p : Spot} {calls : List Call} {args : List Value} :
    args ∈ callsOf p calls ↔ .function p.region.helperName args ∈ calls := by
  simp only [callsOf, List.mem_filterMap]
  constructor
  · rintro ⟨c, hc, is⟩
    cases c with
    | function name given =>
      simp only [Option.ite_none_right_eq_some, Option.some.injEq] at is
      obtain ⟨rfl, rfl⟩ := is
      exact hc
    | primitive q given => cases is
  · exact fun h => ⟨_, h, by simp⟩

namespace Stage

variable (σ : Stage) (n) (placed : List Placed) (branches : List Arm)

/-- The property is not read, unless a call entered one of the branches or was of a helper that assigns it. -/
def Unread (calls : List Call) (reads : List String) : Prop :=
  (∃ s ∈ σ.draft.scopes, s.1 ≠ [] ∧ ∃ args ∈ callsOf s.2 calls,
    enters placed branches s.2.region.id args || assigns s.2 n) ∨ n ∉ reads

def unread : Regime σ where
  I := notesAs (σ.Unread n placed branches) (Agent σ fun _ => True)
  Free _ := True
  spend _ := 0
  may m := m ≠ n
  packs _ _ _ := True
  Skips p args := p.region.helper.isSome && enters placed branches p.region.id args || assigns p n

variable {σ n placed branches} {config : Config} {root : Node} {engine : Engine} {calls : List Call}
  {reads : List String}

theorem Unread.call (h : σ.Unread n placed branches calls reads) (c : Call) :
    σ.Unread n placed branches (calls ++ [c]) reads := by
  refine h.imp_left fun ⟨s, hs, below, args, called, strays⟩ => ⟨s, hs, below, args, ?_, strays⟩
  rw [mem_callsOf] at called ⊢
  exact List.mem_append_left _ called

theorem Unread.read (h : σ.Unread n placed branches calls reads) {m : String} (other : m ≠ n) :
    σ.Unread n placed branches calls (reads ++ [m]) := by
  refine h.imp_right fun unread read => ?_
  exact (List.mem_append.mp read).elim unread fun is => other (List.mem_singleton.mp is).symm

section Sound

variable (ready : σ.Ready root.content) (shaped : σ.draft.Shaped fun L => NodesShape L config root.content)
  (honest : engine.Honest)
include ready shaped honest

end Sound

end Stage

end TemplateCompiler.Render
