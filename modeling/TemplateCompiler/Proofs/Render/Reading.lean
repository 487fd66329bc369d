import TemplateCompiler.Proofs.Render.Refinement
import TemplateCompiler.Proofs.Render.Scenes
import TemplateCompiler.Proofs.Scope.Erasure

/-!
Expressions of a template by themselves. An expression means what it gives when every property is read
where it stands, by a component that is there under its name. Generated code reads some properties earlier
and under local names; in its scenes an expression has the same value.
-/

namespace TemplateCompiler.Scope

open TemplateCompiler.Code

/-- A recorded read, done where it stands. -/
def inPlace (read : Placeholder) : Expr := componentMember read.property

/-- An expression of the template with every property read where it stands. -/
def resolved (locals : List String) (e : Expr) : Expr :=
  (bind 0 locals e.asWritten []).1.substitute inPlace

section

variable {scope scope' : Nat} {locals : List String}

variable (scope scope') in
/-- Where reads are recorded does not matter once they are done in place. -/
def SameInPlace (locals : List String) (e : Expr) : Prop := ∀ us us',
  (bind scope locals e us).1.substitute inPlace = (bind scope' locals e us').1.substitute inPlace

theorem inPlace_bindThrough {bs : List (Expr × Option (List String))}
    (h : ∀ b ∈ bs, ∀ us us', (bindPart scope b us).1.substitute inPlace =
      (bindPart scope' b us').1.substitute inPlace) (us us' : List Usage) :
    (bindThrough scope bs us).1.map (Expr.substitute inPlace) =
      (bindThrough scope' bs us').1.map (Expr.substitute inPlace) := by
  induction bs generalizing us us' with
  | nil => rfl
  | cons b bs ih =>
    exact congrArg₂ List.cons (h b List.mem_cons_self us us')
      (ih (fun c hc => h c (List.mem_cons_of_mem b hc)) _ _)

theorem inPlace_bind (scope scope' : Nat) (locals : List String) (e : Expr) :
    SameInPlace scope scope' locals e := by
  induction e using Expr.induct generalizing locals with
  | step e ih =>
    intro us us'
    by_cases named : ∃ id, e = .name id
    · obtain ⟨id, rfl⟩ := named
      by_cases h : locals.contains id
      · rw [bind, bind, if_pos h, if_pos h]
        rfl
      · rw [bind, bind, if_neg h, if_neg h]
        exact congrArg componentMember
          ((property_recordRead scope id us).trans (property_recordRead scope' id us').symm)
    · by_cases placed : e.isPlaceholder
      · cases e with
        | placeholder read => rfl
        | _ => cases placed
      · have each : ∀ b ∈ boundParts locals e, ∀ us us', (bindPart scope b us).1.substitute inPlace =
            (bindPart scope' b us').1.substitute inPlace := by
          intro b hb us us'
          have inside := mem_parts_of_bound hb
          obtain ⟨x, _ | inner⟩ := b
          · rfl
          · exact ih x inside inner us us'
        rw [bind_eq_fill fun id h => named ⟨id, h⟩, bind_eq_fill fun id h => named ⟨id, h⟩,
          Expr.substitute_fill inPlace placed (length_boundParts e us),
          Expr.substitute_fill inPlace placed (length_boundParts e us'),
          inPlace_bindThrough each us us']

end

end TemplateCompiler.Scope

namespace TemplateCompiler.Render

open TemplateCompiler.Code TemplateCompiler.Generate TemplateCompiler.Scope TemplateCompiler.Template

theorem builtin_ne_parameter {n : String} (h : n ∈ builtinNames) : ¬ (n = testName ∨ n = "_") := by
  have all : ∀ m ∈ builtinNames, ¬ (m = testName ∨ m = "_") := by decide +kernel
  exact all n h

theorem builtin_ne_part {n part : String} (h : n ∈ builtinNames) (hp : part ∈ iteratorParts)
    (iterator : String) : n ≠ partName iterator part := by
  have all : ∀ m ∈ builtinNames, ∀ p ∈ iteratorParts, ¬ ("_" ++ p).toList <:+ m.toList := by decide +kernel
  rintro rfl
  refine all _ h part hp ⟨iterator.toList, ?_⟩
  simp only [partName, String.append_assoc, String.toList_append]

/-- Where expressions of a template are read by themselves: there is only the component, and what is around
the render function. -/
def readingAt (component : Value) (around : List Frame) : Setting where
  callFn f args keywords := liftM (builtinCall f args keywords)
  frames := Frame.empty.bind componentName (.value component) :: around
  decision := inPlace

namespace Stage

def reading (σ : Stage) : Setting := readingAt σ.component [σ.outer]

section

variable {σ : Stage} {A : Value → Prop} {all : List Node} {path : List Spot} {frames : List Frame}
  {n : String}

/-- A built-in name that is no loop variable means what it means around the render function. -/
theorem Scene.lookup_builtin (ready : σ.Ready all) (scene : Scene σ A path frames)
    (builtin : n ∈ builtinNames) (free : n ∉ namesAlong path) : lookup n frames = lookup n [σ.outer] := by
  have ordinary := ordinary_builtin builtin
  have digit := (builtin_apart builtin).1
  have plain : IsPlainName n := .inl digit
  induction scene with
  | @top p vs here reads =>
    have outside : n ∉ σ.draft.emitter.renderNames := by
      intro h
      rcases Emitter.mem_renderNames ready.made.formed h with given | ⟨q, is⟩ | ⟨k, is⟩ | ⟨k, is⟩
      · exact ordinary.given given
      · exact ordinary.primitive q is
      · rw [is, slotLocalName, endsInDigit_number] at digit
        cases digit
      · rw [is, memoName, endsInDigit_number] at digit
        cases digit
    rw [lookup, find?_outside ready here outside (fun is => is.not_plain plain) fun is => is.not_plain plain]
  | @inside p q above F frames here names values locals helpers bound around ih =>
    obtain ⟨loops, nested⟩ := ready.made.nestedAt here
    rw [namesAlong_cons, ← nested.loopNames_frame, List.mem_append, not_or] at free
    have none : F.find? n = none := by
      cases found : F.find? n with
      | none => rfl
      | some b =>
        have generated := (List.mem_append.mp (names n b found)).resolve_right free.2
        cases ready.made.makes here generated with
        | property hu is => exact absurd plain (is ▸ isLocalName_hoisted nested hu).not_plain
        | render root h => exact absurd root nested.helper_ne_none
        | parameter root h => exact absurd h (builtin_ne_parameter builtin)
        | part uses h is => exact absurd is (builtin_ne_part builtin h _)
        | helper hc is => exact absurd (is ▸ (name_child ready.made here hc).2) ordinary.helper
    rw [lookup, none]
    exact ih free.1

theorem endsInDigit_global {id : String} {v : Value} (h : globalValue? id = some v) :
    endsInDigit id = false := by
  have defined : ∀ x ∈ moduleValues, endsInDigit x.1 = false := by decide
  unfold globalValue? at h
  cases hm : moduleValues.lookup id with
  | some u =>
    obtain ⟨before, after, e, -⟩ := List.lookup_eq_some_iff.mp hm
    exact defined (id, u) (by simp [e])
  | none =>
    rw [hm] at h
    change (if id = "len" then _ else _) = _ at h
    split at h
    · next is =>
      rw [is]
      decide
    · split at h
      · next is =>
        rw [is]
        decide
      · split at h
        · next builtin => exact (builtin_apart (List.contains_iff_mem.mp builtin)).1
        · cases h

theorem lookup_of_nameValue {v : Value} (isLocal : IsLocalName n) (h : nameValue frames n = .ok v) :
    lookup n frames = some v := by
  unfold nameValue at h
  cases found : lookup n frames with
  | some u =>
    rw [found] at h
    cases h
    rfl
  | none =>
    rw [found] at h
    cases defined : globalValue? n with
    | none =>
      rw [defined] at h
      cases h
    | some u => exact absurd (.inl (endsInDigit_global defined)) isLocal.not_plain

theorem eval_reading (σ : Stage) (property : String) :
    eval σ.reading.callFn σ.reading.frames (componentMember property) = memberValue σ.component property := by
  refine eval_componentMember ?_ property
  rw [reading, readingAt, lookup, Frame.find?_bind, if_pos rfl]
  rfl

theorem refines_field {m : RunM Value} {property : String}
    (h : ∀ w v, (m.run.run w).1 = .ok v → fieldOf σ.properties.keys σ.fields property = .ok v) :
    Refines Setting.Plainly m (memberValue σ.component property) := by
  intro w w' v hv
  have field := h w v hv
  refine ⟨holds_field field, ?_⟩
  rw [component, memberValue, field]
  rfl

/-- A read of a property, as it was decided, makes no call and gives the value of the property. -/
theorem Scene.run_read (ready : σ.Ready all) (scene : Scene σ A path frames) (engine : Engine) (depth : Nat)
    (site : Placeholder) (w : World) : ∃ reads result,
    (eval (callWithin engine depth) frames (σ.draft.decision site)).run.run w =
        (result, { w with reads := reads }) ∧
      ∀ v, result = .ok v → fieldOf σ.properties.keys σ.fields site.property = .ok v := by
  rcases ready.made.decidedBy site with h | h | ⟨name, aliases, h⟩
  · rw [h, eval, visit_plain rfl]
    · exact ⟨w.reads, _, rfl, fun _ is => by cases is⟩
    all_goals simp
  · rw [h, eval_componentMember (scene.lookup_component ready), memberValue]
    refine ⟨w.reads ++ [site.property], fieldOf σ.properties.keys σ.fields site.property, ?_, fun _ is => is⟩
    cases fieldOf σ.properties.keys σ.fields site.property <;> rfl
  · rw [h, eval, visit_plain rfl]
    have isLocal := ready.made.localName_of_aliases aliases
    cases named : nameValue frames name with
    | error fault => exact ⟨w.reads, _, rfl, fun _ is => by cases is⟩
    | ok u =>
      refine ⟨w.reads, _, rfl, fun v is => ?_⟩
      cases is
      obtain ⟨property, alias', field⟩ := scene.names_local ready isLocal (lookup_of_nameValue isLocal named)
      rwa [ready.made.aliases_unique aliases alias'] at field

/-- Outside loops, expressions of the template mean in a scene what they mean by themselves. -/
theorem Scene.matches_reading (ready : σ.Ready all) (scene : Scene σ A path frames)
    (still : namesAlong path = []) (engine : Engine) (depth : Nat) :
    Setting.Matches (withinLoops []) ⟨callWithin engine depth, frames, σ.draft.decision⟩ σ.reading where
  left := by
    refine ⟨ready.made.decides, fun site id hid (is : σ.draft.decision site = _) => ?_⟩
    obtain rfl := List.mem_singleton.mp hid
    rcases ready.made.decided site with h | h | ⟨scope, k, h⟩
    · cases h.symm.trans is
    · cases h.symm.trans is
    · exact (ordinary_localName ⟨scope, k, rfl⟩).primitive .bind (Expr.own.inj (h.symm.trans is))
  right := ⟨fun site => .inr (.inl ⟨site.property, rfl⟩), fun site id _ => nofun⟩
  own _ h := h
  read _ h := h
  name id v plain found := by
    have builtin : id ∈ builtinNames := plain.resolve_left nofun
    have passes := scene.lookup_builtin ready builtin (by simp [still])
    have other : lookup id σ.reading.frames = lookup id [σ.outer] := by
      have ne : id ≠ componentName := by
        rintro rfl
        exact absurd builtin (by decide +kernel)
      rw [reading, readingAt, lookup, Frame.find?_bind, if_neg ne]
      rfl
    have same : nameValue σ.reading.frames id = nameValue frames id := by
      rw [nameValue, nameValue, other, passes]
    refine ⟨?_, same.trans found⟩
    refine gives_nameValue (fun u hu => ?_) v found
    exact ready.holds_outer (ordinary_builtin builtin) (passes.symm.trans hu)
  hole site _ := by
    have right : σ.reading.eval (.placeholder site) = memberValue σ.component site.property :=
      eval_reading σ site.property
    rw [right]
    change Refines _ (eval _ frames (σ.draft.decision site)) _
    refine refines_field fun w v hv => ?_
    obtain ⟨reads, result, run, field⟩ := scene.run_read ready engine depth site w
    rw [run] at hv
    exact field v hv
  call f args keywords hf hargs hkeywords := by
    cases depth with
    | zero => exact .throw
    | succ depth =>
      have gives := gives_builtinCall hf hargs hkeywords
      cases f with
      | closure name signature body frames => exact absurd (Value.holds_closure.mp hf) id
      | primitive q => exact absurd (Value.holds_primitive.mp hf) id
      | contextGet => exact absurd (Value.holds_contextGet.mp hf) id
      | contextSetDefault => exact absurd (Value.holds_contextSetDefault.mp hf) id
      | _ => exact .lift gives

theorem Scene.refines_reading (ready : σ.Ready all) (scene : Scene σ A path frames)
    (still : namesAlong path = []) (engine : Engine) (depth : Nat) {es : List Expr}
    (meets : ∀ e ∈ es, e.Meets (withinLoops [])) :
    Refines (fun vs => ∀ v ∈ vs, Setting.Plainly v)
      (evalItems (callWithin engine depth) frames (es.map (.substitute σ.draft.decision)))
      (σ.reading.evalItems es) :=
  (scene.matches_reading ready still engine depth).refines_items meets

end

end Stage

end TemplateCompiler.Render
