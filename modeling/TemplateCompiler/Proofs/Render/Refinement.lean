import TemplateCompiler.Proofs.Render.Flow

/-!
Running one expression in two settings. A setting says how functions are called, which frames are around
and what became of the reads. If all that an expression meets in the first setting gives plain values, and
the second setting gives the same, then a value of the expression in the first setting is its value in the
second, from whatever worlds the runs start.
-/

namespace TemplateCompiler.Render

open TemplateCompiler.Code TemplateCompiler.Generate TemplateCompiler.Scope

/-- A result of the first run is as told and is the result of the second, from whatever worlds. -/
def Refines {α : Type} (P : α → Prop) (m m' : RunM α) : Prop :=
  ∀ w w' a, (m.run.run w).1 = .ok a → P a ∧ (m'.run.run w').1 = .ok a

namespace Refines

variable {α β : Type} {P : α → Prop} {Q : β → Prop} {m m' : RunM α} {f f' : α → RunM β}

theorem pure {a : α} (h : P a) : Refines P (pure a) (pure a) := by
  intro w w' b hb
  cases hb
  exact ⟨h, rfl⟩

theorem throw {fault : Fault} : Refines P (throw fault) m' := nofun

theorem lift {x : Except Fault α} (h : ∀ a, x = .ok a → P a) : Refines P (liftM x) (liftM x) := by
  cases x with
  | ok a => exact .pure (h a rfl)
  | error fault => exact .throw

theorem bind (h : Refines P m m') (next : ∀ a, P a → Refines Q (f a) (f' a)) :
    Refines Q (m >>= f) (m' >>= f') := by
  intro w w' b hb
  rw [run_bind] at hb ⊢
  rcases first : m.run.run w with ⟨fault | a, w₁⟩
  · rw [first] at hb
    cases hb
  · rw [first] at hb
    obtain ⟨told, same⟩ := h w w' a (by rw [first])
    rcases second : m'.run.run w' with ⟨fault | a', w₂⟩
    · rw [second] at same
      cases same
    · rw [second] at same
      obtain rfl : a' = a := Except.ok.inj same
      exact next a' told w₁ w₂ b hb

end Refines

/-- Two runs, judged by whether the second gives what the first gives. -/
def refinement : Judgement where
  Holds := Refines
  value := .pure
  fault := .throw
  seq := .bind

namespace Setting

/-- Values without functions of the program, the component or parts of the engine. -/
abbrev Plainly : Value → Prop := Value.Holds fun _ => False

/-- All that an expression may meet in the first setting gives plain values, and the second one gives the
same. -/
structure Matches (ok : Atom → Prop) (S T : Setting) : Prop where
  left : Expr.Avoids [Primitive.bind.localName] S.decision
  right : Expr.Avoids [Primitive.bind.localName] T.decision
  own : ∀ id, ¬ ok (.own id)
  read : ∀ n, ¬ ok (.read n)
  name : ∀ id v, ok (.name id) → nameValue S.frames id = .ok v → Plainly v ∧ nameValue T.frames id = .ok v
  hole : ∀ site, ok (.hole site) → Refines Plainly (S.eval (.placeholder site)) (T.eval (.placeholder site))
  call : ∀ f args keywords, Plainly f → (∀ v ∈ args, Plainly v) → (∀ k ∈ keywords, Plainly k.2) →
    Refines Plainly (S.callFn f args keywords) (T.callFn f args keywords)

theorem Matches.related {ok : Atom → Prop} {S T : Setting} (matched : Matches ok S T) :
    Related refinement (fun _ => False) ok S T where
  left := matched.left
  right := matched.right
  unbound := matched.own _
  name id h := by
    intro w w' v hv
    cases found : nameValue S.frames id with
    | error fault =>
      rw [found] at hv
      cases hv
    | ok u =>
      rw [found] at hv
      cases hv
      obtain ⟨plain, same⟩ := matched.name id _ (h.resolve_right (matched.own id)) found
      exact ⟨plain, by rw [same]; rfl⟩
  read n h := absurd h (matched.read n)
  hole := matched.hole
  member base attr h := by
    cases base with
    | component names values => exact absurd (Value.holds_component.mp h) id
    | _ => exact Refines.lift (gives_attributeOf ⟨nofun, nofun, nofun⟩ h attr)
  index base i h := by
    unfold indexValue
    split
    · exact absurd (Value.holds_modules.mp h) id
    · exact Refines.lift (gives_entryOf h)
  call := matched.call

theorem Matches.refines_items {ok : Atom → Prop} {S T : Setting} (matched : Matches ok S T) {es : List Expr}
    (meets : ∀ e ∈ es, e.Meets ok) :
    Refines (fun vs => ∀ v ∈ vs, Plainly v) (S.evalItems es) (T.evalItems es) :=
  matched.related.holds_items meets

end Setting

end TemplateCompiler.Render
