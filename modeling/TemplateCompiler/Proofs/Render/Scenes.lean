import TemplateCompiler.Proofs.Generate.Placement
import TemplateCompiler.Proofs.Render.Flow

/-!
The frames that generated code runs in. The function of a scope runs in a frame of its own, inside the
frames of the functions around it. Frames of helpers hold values of template expressions and helpers; the
frame of the render function holds in addition the component, the engine and the context. A scene tells
this of a list of frames. Functions of the program that template expressions can get hold of are its
agents: they are closed over frames of a scene, and they stand inside loops.
-/

namespace TemplateCompiler.Generate

open TemplateCompiler.Code TemplateCompiler.Scope TemplateCompiler.Template

theorem builtin_apart {id : String} (h : id ∈ builtinNames) :
    endsInDigit id = false ∧ id ∉ renderSignature.params ∧ id ∉ Primitive.all.map Primitive.localName ∧
      id ≠ renderName ∧ id ≠ modulesName := by
  have all : ∀ n ∈ builtinNames, endsInDigit n = false ∧ n ∉ renderSignature.params ∧
      n ∉ Primitive.all.map Primitive.localName ∧ n ≠ renderName ∧ n ≠ modulesName := by decide +kernel
  exact all id h

section

variable {U : Uses} {d : Generate.Draft} {p : Spot} {above : List Spot} {loops : List Loop}

theorem Nested.loopNames_frame (nested : Nested U d (p :: above) loops) :
    (d.frame p).loopNames = p.region.helper.elim [] loopNames := by
  have names := nested.frame_loopNames
  cases nested with
  | root number kind helper coded =>
    rcases names with ⟨none, -⟩ | ⟨l, outer, is, -⟩
    · simp [none, helper]
    · cases is
  | conditional around child inherits named kind test helper coded =>
    rcases names with ⟨none, -⟩ | ⟨l, outer, -, -, is, -⟩
    · simp [none, helper]
    · cases l <;> simp [kind, loopKind] at is
  | @loop _ _ _ _ l body around child inherits uses named kind noted helper coded =>
    rcases names with ⟨-, is | is⟩ | ⟨l', outer, is, -, -, names⟩
    · cases l <;> simp [kind, loopKind] at is
    · cases l <;> simp [kind, loopKind] at is
    · obtain ⟨rfl, -⟩ := List.cons.inj is
      simp [names, helper]

end

end TemplateCompiler.Generate

namespace TemplateCompiler.Render

open TemplateCompiler.Code TemplateCompiler.Generate TemplateCompiler.Scope TemplateCompiler.Template

namespace Stage

/-- What is known of the stage of a render: around the render function are the table of modules and plain
values, and the context holds plain values when it starts. -/
structure Ready (σ : Stage) (all : List Node) : Prop where
  made : σ.draft.Made (admitted all)
  values : ∀ id v, σ.outer.find? id = some (.value v) → id ≠ modulesName → v.Plain
  helpers : ∀ id signature body, σ.outer.find? id = some (.helper signature body) → id = renderName
  names : ∀ id b, σ.outer.find? id = some b →
    id ∈ σ.draft.emitter.outerNames ∨ id = renderName ∨ id = modulesName
  namespaceType : σ.draft.emitter.usesNamespace →
    σ.outer.find? namespaceTypeName = some (.value .namespaceType)
  kept : ∀ key v, σ.kept.get? key = some v → v.Plain

/-- The value of a property of the component under a local name. -/
def Names (σ : Stage) (n : String) (v : Value) : Prop :=
  ∃ property, σ.draft.Aliases property n ∧ fieldOf σ.properties.keys σ.fields property = .ok v

/-- The frames in which the functions of the scopes on a path run, the innermost first. -/
inductive Scene (σ : Stage) (A : Value → Prop) : List Spot → List Frame → Prop
  | top {p : Spot} {vs : List Value} (here : ([], p) ∈ σ.draft.scopes) (reads : σ.Reads p vs) :
      Scene σ A [p] [Frame.empty.bindAll (σ.top p vs), σ.outer]
  | inside {p q : Spot} {above : List Spot} {F : Frame} {frames : List Frame}
      (here : (q :: above, p) ∈ σ.draft.scopes)
      (names : ∀ n b, F.find? n = some b → n ∈ (σ.draft.frame p).generated ++ (σ.draft.frame p).loopNames)
      (values : ∀ n v, F.find? n = some (.value v) → v.Holds A)
      (locals : ∀ n v, IsLocalName n → F.find? n = some (.value v) → σ.Names n v)
      (helpers : ∀ n signature body, F.find? n = some (.helper signature body) → ∃ c ∈ p.children,
        n = c.region.helperName ∧ signature = (σ.draft.code (p.child c)).signature ∧
          body = (σ.draft.code (p.child c)).body)
      (bound : ∀ n ∈ (σ.draft.frame p).loopNames, ∃ b, F.find? n = some b)
      (around : Scene σ A (q :: above) frames) : Scene σ A (p :: q :: above) (F :: frames)

/-- The functions that template expressions can get hold of. -/
inductive Agent (σ : Stage) (Free : Spot → Prop) : Value → Prop
  | mk {p q : Spot} {above : List Spot} {frames : List Frame} (here : (q :: above, p) ∈ σ.draft.scopes)
      (free : Free p) (scene : Scene σ (Agent σ Free) (q :: above) frames) :
      Agent σ Free (σ.closure p frames)

/-- What the frame of a helper holds: its parameters, local names of properties and variables, with values
as told, and the helpers of the scopes right below. -/
structure Fits (σ : Stage) (A : Value → Prop) (p : Spot) (F : Frame) : Prop where
  names : ∀ n b, F.find? n = some b → n ∈ (σ.draft.frame p).generated ++ (σ.draft.frame p).loopNames
  values : ∀ n v, F.find? n = some (.value v) → v.Holds A
  locals : ∀ n v, IsLocalName n → F.find? n = some (.value v) → σ.Names n v
  helpers : ∀ n signature body, F.find? n = some (.helper signature body) → ∃ c ∈ p.children,
    n = c.region.helperName ∧ signature = (σ.draft.code (p.child c)).signature ∧
      body = (σ.draft.code (p.child c)).body

/-- A name that neither names a helper nor has a meaning fixed by the render function. -/
structure Ordinary (n : String) : Prop where
  helper : ¬ IsHelperName n
  given : n ∉ renderSignature.params
  primitive : ∀ q : Primitive, n ≠ q.localName
  render : n ≠ renderName
  modules : n ≠ modulesName

theorem ordinary_builtin {n : String} (h : n ∈ builtinNames) : Ordinary n := by
  obtain ⟨digit, given, primitive, render, modules⟩ := builtin_apart h
  refine ⟨fun helper => helper.not_plain (.inl digit), given, fun q is => ?_, render, modules⟩
  exact primitive (is ▸ List.mem_map_of_mem (Primitive.mem_all q))

/-- A name that starts with an underscore is no name of a helper, a primitive or a parameter of the render
function. -/
theorem ordinary_underscore {n : String} {rest : List Char} (h : n.toList = '_' :: rest) : Ordinary n := by
  have other {m : String} (hm : m.toList.head? ≠ some '_') : n ≠ m := by
    rintro rfl
    exact hm (by rw [h]; rfl)
  have params : ∀ m ∈ renderName :: renderSignature.params, m.toList.head? ≠ some '_' := by decide
  refine ⟨fun helper => ?_, fun given => other (params n (List.mem_cons_of_mem _ given)) rfl,
    fun q => other ?_, other (params _ List.mem_cons_self), other (by decide)⟩
  · obtain ⟨c, tail, hl, hc⟩ := head_helperName helper
    rw [h] at hl
    obtain ⟨rfl, -⟩ := List.cons.inj hl
    simp at hc
  · cases q <;> decide

theorem ordinary_localName {n : String} (h : IsLocalName n) : Ordinary n := by
  obtain ⟨scope, k, rfl⟩ := h
  exact ordinary_underscore (toList_localName scope k)

theorem ordinary_sanitizer : Ordinary sanitizerName := by
  refine ⟨fun helper => helper.not_plain (.inl (by decide)), by decide, fun q => ?_, by decide,
    by decide⟩
  cases q <;> decide

theorem Ready.ordinary_passed {σ : Stage} {all : List Node} (ready : σ.Ready all) {n : String}
    (h : n ∈ σ.draft.emitter.passed) : Ordinary n := by
  rcases List.mem_append.mp h with slot | component
  · rw [ready.made.formed.slots] at slot
    obtain ⟨k, -, rfl⟩ := List.mem_map.mp slot
    exact ordinary_underscore (toList_slotLocalName k)
  · obtain ⟨c, hc, rfl⟩ := List.mem_map.mp component
    rw [ready.made.formed.components c hc]
    exact ordinary_underscore (toList_componentIdentifier c.1)

section Lookup

variable {σ : Stage} {A : Value → Prop} {all : List Node} {p q : Spot} {above path : List Spot}
  {frames : List Frame} {n : String} {v : Value} {vs : List Value}

theorem Scene.scope (scene : Scene σ A (p :: above) frames) : (above, p) ∈ σ.draft.scopes := by
  cases scene with
  | top here reads => exact here
  | inside here names values locals helpers bound around => exact here

theorem holds_field {property : String} (h : fieldOf σ.properties.keys σ.fields property = .ok v) :
    v.Holds A := by
  refine gives_fieldOf (fun u hu => ?_) property v h
  obtain ⟨x, -, rfl⟩ := List.mem_map.mp hu
  exact Value.holds_ofData _ _

theorem Reads.holds (reads : σ.Reads p vs) : ∀ v ∈ vs, v.Holds A := by
  unfold Reads at reads
  generalize p.hoisted = us at reads
  induction reads with
  | nil => nofun
  | cons here _ ih => exact List.forall_mem_cons.mpr ⟨holds_field here, ih⟩

theorem holds_slotted (name : String) : (σ.slotted name).Holds A := by
  have held {values : List Value} (h : ∀ u ∈ values, u.Holds A) :
      (((σ.slots.keys.zip values).lookup name).getD .none).Holds A := by
    cases found : (σ.slots.keys.zip values).lookup name with
    | none => exact Value.holds_none
    | some v => exact Value.holds_of_lookup h found
  refine held fun u hu => ?_
  obtain ⟨x, -, rfl⟩ := List.mem_map.mp hu
  exact Value.holds_ofData _ _

theorem Ready.holds_memo (ready : σ.Ready all) (name : String) : (σ.memo name).Holds A := by
  unfold memo
  cases found : σ.kept.get? name with
  | none => exact Value.holds_none
  | some v => exact (ready.kept name v found).holds A

theorem Binds.holds (ready : σ.Ready all) (here : ([], p) ∈ σ.draft.scopes) (reads : σ.Reads p vs)
    (ordinary : Ordinary n) {b : Binding} (h : Binds σ p vs n b) :
    ∃ v, b = .value v ∧ v.Holds A := by
  cases h with
  | given hx => exact absurd (List.of_mem_zip hx).1 ordinary.given
  | primitive hq => exact absurd rfl (ordinary.primitive _)
  | property hx => exact ⟨_, rfl, Value.holds_keep.mpr (reads.holds _ (List.of_mem_zip hx).2)⟩
  | helper hc =>
    obtain ⟨name, named⟩ := name_child ready.made here hc
    exact absurd (name ▸ named) ordinary.helper
  | slot hs => exact ⟨_, rfl, Value.holds_keep.mpr (holds_slotted _)⟩
  | memo hm => exact ⟨_, rfl, Value.holds_keep.mpr (ready.holds_memo _)⟩

/-- In the frame of a helper, an ordinary name means a value as told if it does around it. -/
theorem Fits.holds_ordinary {F : Frame} (ready : σ.Ready all) (here : (above, p) ∈ σ.draft.scopes)
    (fits : Fits σ A p F) (ordinary : Ordinary n)
    (outside : ∀ v, lookup n frames = some v → v.Holds A) (found : lookup n (F :: frames) = some v) :
    v.Holds A := by
  rw [lookup] at found
  split at found
  · next is =>
    cases found
    exact fits.values n v is
  · next is =>
    obtain ⟨c, hc, rfl, -⟩ := fits.helpers n _ _ is
    exact absurd (name_child ready.made here hc).2 ordinary.helper
  · exact outside v found

/-- Around the functions of a template, an ordinary name means a value without agents. -/
theorem Ready.holds_outer (ready : σ.Ready all) (ordinary : Ordinary n)
    (found : lookup n [σ.outer] = some v) : v.Holds A := by
  simp only [lookup] at found
  split at found
  · next is =>
    cases found
    exact (ready.values n v is ordinary.modules).holds A
  · next is => exact absurd (ready.helpers n _ _ is) ordinary.render
  · cases found

theorem Scene.holds_ordinary (ready : σ.Ready all) (scene : Scene σ A path frames)
    (ordinary : Ordinary n) (found : lookup n frames = some v) : v.Holds A := by
  induction scene generalizing v with
  | @top p vs here reads =>
    rw [lookup] at found
    cases inner : (Frame.empty.bindAll (σ.top p vs)).find? n with
    | some b =>
      rw [inner] at found
      rcases Frame.find?_bindAll inner with listed | none
      · obtain ⟨u, rfl, good⟩ := (binds_iff.mp listed).holds ready here reads ordinary
        cases found
        exact good
      · cases none
    | none =>
      rw [inner] at found
      exact ready.holds_outer ordinary found
  | inside here names values locals helpers bound around ih =>
    exact Fits.holds_ordinary ready here ⟨names, values, locals, helpers⟩ ordinary (fun _ => ih) found

theorem names_zip (here : (above, p) ∈ σ.draft.scopes) (reads : σ.Reads p vs) {x : Usage × Value}
    (hx : x ∈ p.hoisted.zip vs) : σ.Names x.1.localName x.2.keep := by
  have field : fieldOf σ.properties.keys σ.fields x.1.property = .ok x.2 := by
    unfold Reads at reads
    generalize p.hoisted = us at reads hx
    induction reads with
    | nil => cases hx
    | cons here _ ih =>
      rcases List.mem_cons.mp hx with rfl | hx
      · exact here
      · exact ih hx
  have kept : x.2.keep = x.2 := by
    unfold fieldOf at field
    split at field
    · next found =>
      cases field
      obtain ⟨before, after, e, -⟩ := List.lookup_eq_some_iff.mp found
      have listed : (x.1.property, x.2) ∈ σ.properties.keys.zip σ.fields := by
        rw [e]
        exact List.mem_append_right _ List.mem_cons_self
      obtain ⟨y, -, is⟩ := List.mem_map.mp (List.of_mem_zip listed).2
      rw [← is, Value.keep_ofData]
    · cases field
  rw [kept]
  exact ⟨_, ⟨_, here, x.1, List.mem_of_mem_filter (List.of_mem_zip hx).1, rfl, rfl⟩, field⟩

theorem Scene.names_local (ready : σ.Ready all) (scene : Scene σ A path frames) (isLocal : IsLocalName n)
    (found : lookup n frames = some v) : σ.Names n v := by
  induction scene generalizing v with
  | @top p vs here reads =>
    rw [lookup] at found
    have outside : σ.outer.find? n = none := by
      cases bound : σ.outer.find? n with
      | none => rfl
      | some b =>
        rcases ready.names n b bound with outer | render | modules
        · exact absurd isLocal (outer_fresh ready.made.formed ready.made.references outer).1
        · exact absurd render (ordinary_localName isLocal).render
        · exact absurd modules (ordinary_localName isLocal).modules
    cases inner : (Frame.empty.bindAll (σ.top p vs)).find? n with
    | none => simp [inner, lookup, outside] at found
    | some b =>
      rw [inner] at found
      rcases Frame.find?_bindAll inner with listed | none
      · rcases (binds_iff.mp listed).plain ready.made here with ⟨-, x, hx, rfl, rfl⟩ | ⟨helper, -⟩ | plain
        · cases found
          exact names_zip here reads hx
        · exact absurd helper isLocal.not_helper
        · exact absurd plain isLocal.not_plain
      · cases none
  | @inside p q above F frames here names values locals helpers bound around ih =>
    rw [lookup] at found
    split at found
    · next is =>
      cases found
      exact locals n v isLocal is
    · next is =>
      obtain ⟨c, hc, rfl, -⟩ := helpers n _ _ is
      exact absurd (name_child ready.made here hc).2 (ordinary_localName isLocal).helper
    · exact ih found

/-- Helpers bind only local names of properties, their parameters and variables, and helpers. -/
theorem find?_guarded {F : Frame} (ready : σ.Ready all) (here : (q :: above, p) ∈ σ.draft.scopes)
    (names : ∀ n b, F.find? n = some b → n ∈ (σ.draft.frame p).generated ++ (σ.draft.frame p).loopNames)
    (guarded : Guarded n) (property : ¬ IsLocalName n) (helper : ¬ IsHelperName n)
    (parameter : n ≠ testName ∧ n ≠ "_") : F.find? n = none := by
  cases found : F.find? n with
  | none => rfl
  | some b =>
    obtain ⟨loops, nested⟩ := ready.made.nestedAt here
    rcases List.mem_append.mp (names n b found) with made | chosen
    · have top := ((ready.made.makes here made).eq_render ready.made here guarded property helper parameter).1
      exact absurd top nested.helper_ne_none
    · exact absurd chosen (ready.made.not_loopName here guarded List.mem_cons_self)

theorem find?_render {F : Frame} (ready : σ.Ready all) (here : (q :: above, p) ∈ σ.draft.scopes)
    (names : ∀ n b, F.find? n = some b → n ∈ (σ.draft.frame p).generated ++ (σ.draft.frame p).loopNames)
    (h : n ∈ σ.draft.emitter.renderNames) : F.find? n = none := by
  have plain := isPlainName_render ready.made.formed h
  exact find?_guarded ready here names (guarded_render ready.made.formed h) (fun is => is.not_plain plain)
    (fun is => is.not_plain plain) (render_ne_parameter ready.made.formed h)

/-- The render function binds what it is given and takes, local names of properties, and helpers. -/
theorem find?_outside {vs : List Value} (ready : σ.Ready all) (here : ([], p) ∈ σ.draft.scopes)
    (render : n ∉ σ.draft.emitter.renderNames) (property : ¬ IsLocalName n) (helper : ¬ IsHelperName n) :
    (Frame.empty.bindAll (σ.top p vs)).find? n = none := by
  cases found : (Frame.empty.bindAll (σ.top p vs)).find? n with
  | none => rfl
  | some b =>
    rcases Frame.find?_bindAll found with listed | none
    · simp only [Emitter.renderNames, Emitter.takenNames, List.mem_append, not_or] at render
      cases binds_iff.mp listed with
      | given hx => exact absurd (List.of_mem_zip hx).1 render.1
      | primitive hq => exact absurd (List.mem_map_of_mem hq) render.2.1.1
      | property hx => exact absurd (isLocalName_zip ready.made here hx) property
      | helper hc =>
        obtain ⟨name, named⟩ := name_child ready.made here hc
        exact absurd (name ▸ named) helper
      | slot hs => exact absurd (List.mem_map_of_mem hs) render.2.1.2
      | memo hm => exact absurd hm render.2.2
    · cases none

theorem Scene.lookup_outer (ready : σ.Ready all) (scene : Scene σ A path frames)
    (h : n ∈ σ.draft.emitter.outerNames) : lookup n frames = lookup n [σ.outer] := by
  have guarded := guarded_outer ready.made.formed ready.made.references h
  obtain ⟨property, helper, render, parameter⟩ :=
    outer_fresh ready.made.formed ready.made.references h
  induction scene with
  | @top p vs here reads =>
    rw [lookup, find?_outside ready here render property helper]
  | inside here names values locals helpers bound around ih =>
    rw [lookup, find?_guarded ready here names guarded property helper parameter]
    exact ih

theorem Scene.exists_top (ready : σ.Ready all) (scene : Scene σ A path frames) :
    ∃ p vs, ([], p) ∈ σ.draft.scopes ∧ σ.Reads p vs ∧ ∀ n v, n ∈ σ.draft.emitter.renderNames →
      (n, .value v) ∈ σ.top p vs → lookup n frames = some v := by
  induction scene with
  | @top p vs here reads =>
    refine ⟨p, vs, here, reads, fun n v _ listed => lookup_value ?_⟩
    exact find?_top ready.made here vs reads.length_eq.symm (List.Subset.refl _) listed
  | inside here names values locals helpers bound around ih =>
    obtain ⟨p, vs, there, reads, all⟩ := ih
    refine ⟨p, vs, there, reads, fun n v known listed => ?_⟩
    rw [lookup, find?_render ready here names known]
    exact all n v known listed

theorem Scene.lookup_component (ready : σ.Ready all) (scene : Scene σ A path frames) :
    lookup componentName frames = some σ.component := by
  obtain ⟨p, vs, -, -, means⟩ := scene.exists_top ready
  refine means _ _ (List.mem_append_left _ (by decide)) (binds_iff.mpr ?_)
  exact .given (x := (componentName, σ.component)) (List.mem_of_getElem? (i := 1) rfl)

theorem Scene.lookup_context (ready : σ.Ready all) (scene : Scene σ A path frames) :
    lookup contextName frames = some .context := by
  obtain ⟨p, vs, -, -, means⟩ := scene.exists_top ready
  refine means _ _ (List.mem_append_left _ (by decide)) (binds_iff.mpr ?_)
  exact .given (x := (contextName, .context)) (List.mem_of_getElem? (i := 3) rfl)

theorem Scene.lookup_primitive (ready : σ.Ready all) (scene : Scene σ A path frames) {q : Primitive}
    (known : q ∈ σ.draft.emitter.primitives) : lookup q.localName frames = some (.primitive q) := by
  obtain ⟨p, vs, -, -, means⟩ := scene.exists_top ready
  refine means _ _ (List.mem_append_right _ ?_) (binds_iff.mpr (.primitive known))
  exact List.mem_append_left _ (List.mem_append_left _ (List.mem_map_of_mem known))

theorem Scene.lookup_memo (ready : σ.Ready all) (scene : Scene σ A path frames) {m : String}
    (known : m ∈ σ.draft.emitter.memoNames) : lookup m frames = some (σ.memo m).keep := by
  obtain ⟨p, vs, -, -, means⟩ := scene.exists_top ready
  exact means _ _ (List.mem_append_right _ (List.mem_append_right _ known)) (binds_iff.mpr (.memo known))

end Lookup

section Names

variable {σ : Stage} {Free : Spot → Prop} {all : List Node} {path : List Spot} {frames : List Frame}
  {n : String} {v : Value}

theorem namesAlong_top {p : Spot} (made : σ.draft.Made (admitted all)) (here : ([], p) ∈ σ.draft.scopes) :
    namesAlong [p] = [] := by
  obtain ⟨loops, nested⟩ := made.nestedAt here
  cases nested with
  | root number kind helper coded => simp [namesAlong, helper]

/-- A loop variable means a value as told. If it means a helper, then one inside of its loop. -/
theorem Scene.holds_loopName (ready : σ.Ready all)
    (free : ∀ x ∈ σ.draft.scopes, namesAlong x.1 ≠ [] → Free x.2)
    (scene : Scene σ (Agent σ Free) path frames) (isLoop : n ∈ namesAlong path)
    (found : lookup n frames = some v) : v.Holds (Agent σ Free) := by
  induction scene with
  | top here reads =>
    rw [namesAlong_top ready.made here] at isLoop
    cases isLoop
  | @inside p q above F frames here names values locals helpers bound around ih =>
    obtain ⟨loops, nested⟩ := ready.made.nestedAt here
    rw [lookup] at found
    split at found
    · next is =>
      cases found
      exact values n v is
    · next signature body is =>
      obtain ⟨c, hc, rfl, rfl, rfl⟩ := helpers n _ _ is
      have below := Tree.spots_child here hc
      have closed : v = σ.closure (p.child c) (F :: frames) := by
        rw [closure, (name_child ready.made here hc).1]
        exact (Option.some.inj found).symm
      rw [closed, closure, Value.holds_closure]
      exact .mk below (free _ below (List.ne_nil_of_mem isLoop))
        (.inside here names values locals helpers bound around)
    · next none =>
      refine ih ?_ found
      rw [namesAlong_cons, ← nested.loopNames_frame] at isLoop
      refine (List.mem_append.mp isLoop).resolve_right fun own => ?_
      obtain ⟨b, is⟩ := bound n own
      rw [none] at is
      cases is

end Names

end Stage

theorem bindArguments_ok {signature : Signature} {args : List Value} {F : Frame}
    (h : bindArguments signature args = .ok F) :
    ∃ bs, F = Frame.empty.bindAll bs ∧ signature.params ⊆ bs.map Prod.fst ∧
      ∀ b ∈ bs, b.1 ∈ signature.names ∧ ∃ v, b.2 = .value v ∧
        ∀ A, (∀ u ∈ args, u.Holds A) → v.Holds A := by
  have bound : ∀ F : Frame, (List.zip signature.params args).foldl (fun f p => f.bindValue p.1 p.2) F =
      F.bindAll ((List.zip signature.params args).map fun p => (p.1, .value p.2.keep)) := by
    intro F
    rw [Frame.bindAll, List.foldl_map]
    rfl
  have named : ∀ b ∈ (List.zip signature.params args).map fun p => (p.1, Binding.value p.2.keep),
      b.1 ∈ signature.names ∧ ∃ v, b.2 = .value v ∧ ∀ A, (∀ u ∈ args, u.Holds A) → v.Holds A := by
    intro b hb
    obtain ⟨x, hx, rfl⟩ := List.mem_map.mp hb
    obtain ⟨param, arg⟩ := List.of_mem_zip hx
    exact ⟨List.mem_append_left _ param, _, rfl, fun A good => Value.holds_keep.mpr (good _ arg)⟩
  unfold bindArguments at h
  simp only at h
  split at h
  · cases h
  · next enough =>
    have all : signature.params ⊆
        ((List.zip signature.params args).map fun p => (p.1, Binding.value p.2.keep)).map Prod.fst := by
      rw [List.map_map]
      have firsts : (signature.params.zip args).map Prod.fst = signature.params :=
        List.map_fst_zip (Nat.le_of_not_lt enough)
      exact fun n hn => by
        rw [← firsts] at hn
        exact hn
    split at h
    · next rest is =>
      cases h
      refine ⟨(List.zip signature.params args).map (fun p => (p.1, Binding.value p.2.keep)) ++
        [(rest, .value (Value.tuple (args.drop signature.params.length) .fresh).keep)], ?_, ?_, ?_⟩
      · rw [Frame.bindAll_append, ← bound]
        rfl
      · rw [List.map_append]
        exact fun n hn => List.mem_append_left _ (all hn)
      · intro b hb
        rcases List.mem_append.mp hb with hb | hb
        · exact named b hb
        · obtain rfl := List.mem_singleton.mp hb
          refine ⟨by simp [Signature.names, is], _, rfl, fun A good => ?_⟩
          exact Value.holds_keep.mpr (Value.holds_tuple.mpr fun u hu => good u (List.mem_of_mem_drop hu))
    · split at h
      · cases h
        exact ⟨_, bound _, all, named⟩
      · cases h

theorem parameter_not_local {d : Generate.Draft} {all : List Node} {p q : Spot} {above : List Spot}
    {loops : List Loop} {n : String} (nested : Nested (admitted all) d (p :: q :: above) loops)
    (h : n ∈ (d.function p).signature.names) : ¬ IsLocalName n := by
  have free {m : String} (hm : ¬ Guarded m) : ¬ IsLocalName m := by
    rintro ⟨scope, k, rfl⟩
    exact hm (guarded_localName scope k)
  have short {m : String} (hm : m = testName ∨ m = "_") : ¬ IsLocalName m := by
    have plain : endsInDigit m = false := by rcases hm with rfl | rfl <;> decide
    exact fun isLocal => isLocal.not_plain (.inl plain)
  cases nested with
  | conditional around child inherits named kind test helper coded =>
    simp only [Draft.function, helper, testHelper, Signature.names, Option.toList_none, List.append_nil,
      List.mem_singleton] at h
    exact short (.inl h)
  | @loop _ _ _ _ l body around child inherits uses named kind noted helper coded =>
    cases l with
    | each f =>
      simp only [Draft.function, helper, loopHelper, Signature.names, List.mem_append, Option.toList_some,
        List.mem_singleton] at h
      exact h.elim (fun isLoop => free (not_guarded (uses n isLoop))) fun rest => short (.inr rest)
    | of f =>
      simp only [Draft.function, helper, loopHelper, Signature.names, Option.toList_none, List.append_nil,
        List.mem_map] at h
      obtain ⟨part, hp, rfl⟩ := h
      exact free (partName_not_guarded (uses f.iterator (by simp [Loop.names])) hp)

namespace Stage

section Entering

variable {σ : Stage} {A : Value → Prop} {all : List Node} {p q : Spot} {above : List Spot}
  {frames : List Frame} {F : Frame} {args vs : List Value}

theorem parameter_named {d : Generate.Draft} {n : String} (h : n ∈ (d.function p).signature.names) :
    n ∈ (d.frame p).generated ++ (d.frame p).loopNames := by
  by_cases kind : p.region.kind = .forEach
  · simp only [Draft.frame, Code.Frame.function, Code.Frame.generated, kind, List.mem_append, if_true]
    rcases List.mem_append.mp h with param | rest
    · exact .inr (.inl param)
    · exact .inl (.inl (.inl (.inl rest)))
  · exact List.mem_append_left _ (generated_parameter kind h)

theorem lookup_component_entered (ready : σ.Ready all) (here : (q :: above, p) ∈ σ.draft.scopes)
    (around : Scene σ A (q :: above) frames)
    (entered : bindArguments (σ.draft.code p).signature args = .ok F) :
    lookup componentName (F :: frames) = some σ.component := by
  obtain ⟨bs, rfl, -, params⟩ := bindArguments_ok entered
  have none : (Frame.empty.bindAll bs).find? componentName = none := by
    refine find?_render ready here (fun n b found => ?_) (List.mem_append_left _ (by decide))
    rcases Frame.find?_bindAll found with h | h
    · exact parameter_named (params _ h).1
    · cases h
  rw [lookup, none]
  exact around.lookup_component ready

theorem fits_entered (ready : σ.Ready all) (here : (q :: above, p) ∈ σ.draft.scopes)
    (entered : bindArguments (σ.draft.code p).signature args = .ok F) (good : ∀ v ∈ args, v.Holds A)
    (reads : σ.Reads p vs) : Fits σ A p ((F.bindAll (hoists p vs)).bindAll (σ.helpers p)) := by
  obtain ⟨loops, nested⟩ := ready.made.nestedAt here
  obtain ⟨bs, rfl, -, params⟩ := bindArguments_ok entered
  have given {n : String} {b : Binding} (h : (n, b) ∈ bs) : n ∈ (σ.draft.function p).signature.names :=
    (params _ h).1
  have sources {n : String} {b : Binding}
      (found : (((Frame.empty.bindAll bs).bindAll (hoists p vs)).bindAll (σ.helpers p)).find? n = some b) :
      (n, b) ∈ bs ∨ (∃ x ∈ p.hoisted.zip vs, n = x.1.localName ∧ b = .value x.2.keep) ∨
        ∃ c ∈ p.children, n = c.region.helperName ∧
          b = .helper (σ.draft.code (p.child c)).signature (σ.draft.code (p.child c)).body := by
    rcases Frame.find?_bindAll found with h | h
    · simp only [helpers, List.mem_map] at h
      obtain ⟨f, ⟨c, hc, rfl⟩, is⟩ := h
      obtain ⟨rfl, rfl⟩ := Prod.mk.inj is
      exact .inr (.inr ⟨c, hc, (name_child ready.made here hc).1, rfl⟩)
    · rcases Frame.find?_bindAll h with h | h
      · simp only [hoists, List.mem_map] at h
        obtain ⟨x, hx, is⟩ := h
        obtain ⟨rfl, rfl⟩ := Prod.mk.inj is
        exact .inr (.inl ⟨x, hx, rfl, rfl⟩)
      · rcases Frame.find?_bindAll h with h | h
        · exact .inl h
        · cases h
  refine ⟨fun n b found => ?_, fun n v found => ?_, fun n v isLocal found => ?_,
    fun n signature body found => ?_⟩
  · rcases sources found with h | ⟨x, hx, rfl, -⟩ | ⟨c, hc, rfl, -⟩
    · exact parameter_named (given h)
    · refine List.mem_append_left _ (nested.generated_assigned (.inl ⟨x.1, ?_, rfl⟩))
      exact (List.of_mem_zip hx).1
    · refine List.mem_append_left _ (List.mem_append_right _ ?_)
      rw [ready.made.frame_helpers here]
      exact List.mem_map_of_mem hc
  · rcases sources found with h | ⟨x, hx, -, is⟩ | ⟨c, hc, -, is⟩
    · obtain ⟨u, is, holds⟩ := (params _ h).2
      cases is
      exact holds A good
    · cases is
      exact Value.holds_keep.mpr (reads.holds _ (List.of_mem_zip hx).2)
    · cases is
  · rcases sources found with h | ⟨x, hx, rfl, is⟩ | ⟨c, hc, -, is⟩
    · exact absurd isLocal (parameter_not_local nested (given h))
    · cases is
      exact names_zip here reads hx
    · cases is
  · rcases sources found with h | ⟨x, hx, -, is⟩ | ⟨c, hc, name, is⟩
    · obtain ⟨u, is, -⟩ := (params _ h).2
      cases is
    · cases is
    · cases is
      exact ⟨c, hc, name, rfl, rfl⟩

/-- The helpers of a function are at hand in the given frames: the name of one means it, unless a variable
of the template took the name. -/
def Reaches (σ : Stage) (p : Spot) (frames : List Frame) : Prop :=
  ∀ c ∈ p.children, ∃ f, lookup c.region.helperName frames = some f ∧
    (f = σ.closure (p.child c) frames ∨ ∃ names values identity, f = .object names values identity)

theorem closure_of_find? {U : Uses} {G : Frame} {c : Tree} (made : σ.draft.Made U)
    (here : (above, p) ∈ σ.draft.scopes) (hc : c ∈ p.children)
    (found : G.find? c.region.helperName =
      some (.helper (σ.draft.code (p.child c)).signature (σ.draft.code (p.child c)).body)) :
    lookup c.region.helperName (G :: frames) = some (σ.closure (p.child c) (G :: frames)) := by
  rw [lookup, found, closure, (name_child made here hc).1]

theorem find?_helpers {U : Uses} {G : Frame} {c : Tree} (made : σ.draft.Made U)
    (here : (above, p) ∈ σ.draft.scopes) (hc : c ∈ p.children) :
    (G.bindAll (σ.helpers p)).find? c.region.helperName =
      some (.helper (σ.draft.code (p.child c)).signature (σ.draft.code (p.child c)).body) := by
  refine Frame.find?_bindAll_of_only ?_ fun b hb => ?_
  · simp only [helpers, List.mem_map]
    exact ⟨_, ⟨c, hc, rfl⟩, by rw [(name_child made here hc).1]⟩
  · simp only [helpers, List.mem_map] at hb
    obtain ⟨f, ⟨t, ht, rfl⟩, is⟩ := hb
    obtain ⟨name, rfl⟩ := Prod.mk.inj is
    rw [(name_child made here ht).1] at name
    rw [child_unique made here ht hc name]

theorem eval_namespaceValue {callFn : CallFn} {iterator : String}
    (type : lookup namespaceTypeName frames = some .namespaceType) (size : args.length = iteratorParts.length)
    (told : ∀ x ∈ iteratorParts.zip args, lookup (partName iterator x.1) frames = some x.2) :
    eval callFn frames (namespaceValue iterator) = callFn .namespaceType [] (iteratorParts.zip args) := by
  have keywords (xs : List (String × Value))
      (h : ∀ x ∈ xs, lookup (partName iterator x.1) frames = some x.2) :
      evalKeywords callFn frames (xs.map fun x => .keyword (some x.1) (.own (partName iterator x.1))) =
        pure xs := by
    induction xs with
    | nil =>
      rw [List.map_nil, evalKeywords]
    | cons x xs ih =>
      rw [List.map_cons, evalKeywords, eval_own (h x List.mem_cons_self),
        ih fun y hy => h y (List.mem_cons_of_mem x hy)]
      rfl
  have parts : iteratorParts.map (fun part => Expr.keyword (some part) (.own (partName iterator part))) =
      (iteratorParts.zip args).map fun x => .keyword (some x.1) (.own (partName iterator x.1)) := by
    have firsts := List.map_fst_zip (Nat.le_of_eq size.symm)
    conv_lhs => rw [← firsts, List.map_map]
    rfl
  rw [namespaceValue, parts, eval, visit_plain (by rfl), eval_own type, evalItems,
    keywords _ told]
  rfl

theorem partName_injective {iterator part other : String}
    (h : partName iterator part = partName iterator other) : part = other := by
  have lists := congrArg String.toList h
  simp only [partName, String.toList_append, List.append_assoc, List.append_cancel_left_eq] at lists
  exact String.toList_inj.mp lists

theorem find?_parts {f : ForOf} (vs : List Value) (uses : loopNameFault? f.iterator = none) (ready : σ.Ready all)
    (here : (q :: above, p) ∈ σ.draft.scopes)
    (signature : (σ.draft.code p).signature = ⟨iteratorParts.map (partName f.iterator), none⟩)
    (entered : bindArguments (σ.draft.code p).signature args = .ok F) :
    args.length = iteratorParts.length ∧ ∀ x ∈ iteratorParts.zip (args.map Value.keep),
      ((F.bindAll (hoists p vs)).bindAll (σ.helpers p)).find? (partName f.iterator x.1) =
        some (.value x.2) := by
  rw [signature, bindArguments] at entered
  simp only [List.length_map] at entered
  split at entered
  · cases entered
  split at entered
  · next size =>
    refine ⟨size, fun x hx => ?_⟩
    cases entered
    have part := (List.of_mem_zip hx).1
    have free := partName_not_guarded uses part
    have notLocal : partName f.iterator x.1 ∉ (hoists p vs).map Prod.fst := by
      simp only [hoists, List.map_map, List.mem_map, Function.comp_apply]
      rintro ⟨y, hy, is⟩
      obtain ⟨scope, k, name⟩ := isLocalName_zip ready.made here hy
      rw [name] at is
      exact free (is ▸ guarded_localName scope k)
    have notHelper : partName f.iterator x.1 ∉ (σ.helpers p).map Prod.fst := by
      simp only [helpers, List.map_map, List.mem_map, Function.comp_apply]
      rintro ⟨c, hc, is⟩
      obtain ⟨name, named⟩ := name_child ready.made here hc
      rw [name] at is
      exact (is ▸ named).not_plain (isPlainName_part part)
    rw [Frame.find?_bindAll_of_notMem notHelper, Frame.find?_bindAll_of_notMem notLocal]
    have bound : ((iteratorParts.map (partName f.iterator)).zip args).foldl
        (fun f p => f.bindValue p.1 p.2) Frame.empty = Frame.empty.bindAll
          ((iteratorParts.zip (args.map Value.keep)).map fun x => (partName f.iterator x.1, .value x.2)) := by
      rw [Frame.bindAll, List.foldl_map, List.zip_map_left, List.zip_map_right, List.foldl_map,
        List.foldl_map]
      rfl
    rw [bound]
    refine Frame.find?_bindAll_of_only (List.mem_map.mpr ⟨x, hx, rfl⟩) fun b hb => ?_
    obtain ⟨y, hy, is⟩ := List.mem_map.mp hb
    obtain ⟨name, rfl⟩ := Prod.mk.inj is
    have keys : ((iteratorParts.zip (args.map Value.keep)).map Prod.fst).Nodup := by
      rw [List.map_fst_zip (by simp [size])]
      decide
    rw [List.inj_on_of_nodup_map keys hy hx (partName_injective name)]
  · cases entered

theorem keeps_gather {I : Invariant} {callFn : CallFn} (ready : σ.Ready all)
    (here : (q :: above, p) ∈ σ.draft.scopes) (around : Scene σ A (q :: above) frames)
    (entered : bindArguments (σ.draft.code p).signature args = .ok F) (good : ∀ v ∈ args, v.Holds A)
    (reads : σ.Reads p vs)
    (call : ∀ fields, Keeps I 0 (callFn .namespaceType [] fields) fun v =>
      v = .object (fields.map Prod.fst) (fields.map Prod.snd) .fresh) :
    Keeps I 0 (gather callFn frames (iterator? p) ((F.bindAll (hoists p vs)).bindAll (σ.helpers p))) fun G =>
      Scene σ A (p :: q :: above) (G :: frames) ∧ Reaches σ p (G :: frames) ∧
        (iterator? p = none → G = (F.bindAll (hoists p vs)).bindAll (σ.helpers p)) := by
  have fits := fits_entered ready here entered good reads
  have known (c : Tree) (hc : c ∈ p.children) :=
    find?_helpers (G := F.bindAll (hoists p vs)) ready.made here hc
  obtain ⟨loops, nested⟩ := ready.made.nestedAt here
  have names := nested.loopNames_frame
  -- without an iterator, all variables are parameters
  have still (none : iterator? p = none) (bound : ∀ n ∈ (σ.draft.frame p).loopNames,
      ∃ b, ((F.bindAll (hoists p vs)).bindAll (σ.helpers p)).find? n = some b) :
      Keeps I 0 (gather callFn frames (iterator? p) ((F.bindAll (hoists p vs)).bindAll (σ.helpers p)))
        fun G => Scene σ A (p :: q :: above) (G :: frames) ∧ Reaches σ p (G :: frames) ∧
          (iterator? p = Option.none → G = (F.bindAll (hoists p vs)).bindAll (σ.helpers p)) := by
    rw [none]
    refine .pure ⟨.inside here fits.names fits.values fits.locals fits.helpers bound around, fun c hc => ?_,
      fun _ => rfl⟩
    exact ⟨_, closure_of_find? ready.made here hc (known c hc), .inl rfl⟩
  cases nested with
  | conditional _ child inherits named kind test helper coded =>
    refine still (by simp [iterator?, helper, testHelper, iteratorOf]) fun n hn => ?_
    rw [names, helper] at hn
    cases hn
  | @loop _ _ _ _ l body _ child inherits uses named kind noted helper coded =>
    rw [helper, Option.elim_some, loopNames_loopHelper] at names
    cases l with
    | each f =>
      refine still (by simp [iterator?, helper, loopHelper, iteratorOf]) fun n hn => ?_
      obtain ⟨bs, rfl, params, -⟩ := bindArguments_ok entered
      have param : n ∈ (σ.draft.code p).signature.params := by
        rw [names] at hn
        simpa [Draft.code, Function.substitute, Draft.function, helper, loopHelper] using hn
      have listed : n ∈ (bs ++ (hoists p vs ++ σ.helpers p)).map Prod.fst := by
        rw [List.map_append]
        exact List.mem_append_left _ (params param)
      obtain ⟨b, found, -⟩ := Frame.exists_find?_bindAll (F := .empty) listed
      rw [← List.append_assoc, Frame.bindAll_append, Frame.bindAll_append] at found
      exact ⟨b, found⟩
    | of f =>
      have is : iterator? p = some f.iterator := by simp [iterator?, helper, loopHelper, iteratorOf]
      have allowed : loopNameFault? f.iterator = none := uses f.iterator (by simp [Loop.names])
      have signature : (σ.draft.code p).signature = ⟨iteratorParts.map (partName f.iterator), Option.none⟩ := by
        simp [Draft.code, Function.substitute, Draft.function, helper, loopHelper]
      obtain ⟨size, told⟩ := find?_parts vs allowed ready here signature entered
      have type : lookup namespaceTypeName
          ((F.bindAll (hoists p vs)).bindAll (σ.helpers p) :: frames) = some .namespaceType := by
        have needed : σ.draft.emitter.usesNamespace := noted f rfl
        have outer : namespaceTypeName ∈ σ.draft.emitter.outerNames := by
          simp [Emitter.outerNames, needed]
        obtain ⟨property, other, -, parameter⟩ :=
          outer_fresh ready.made.formed ready.made.references outer
        rw [lookup, find?_guarded ready here fits.names
          (guarded_outer ready.made.formed ready.made.references outer) property other parameter]
        exact (around.lookup_outer ready outer).trans (lookup_value (ready.namespaceType needed))
      rw [is, gather, eval_namespaceValue type (by simpa using size)
        fun x hx => lookup_value (told x hx)]
      refine (call _).andThen fun v hv => .pure ⟨?_, fun c hc => ?_, fun is => by cases is⟩
      · have told : v.Holds A := by
          rw [hv, Value.holds_object]
          intro u hu
          obtain ⟨x, hx, rfl⟩ := List.mem_map.mp hu
          obtain ⟨arg, harg, is⟩ := List.mem_map.mp (List.of_mem_zip hx).2
          exact is ▸ Value.holds_keep.mpr (good arg harg)
        refine .inside here (fun n b found => ?_) (fun n u found => ?_) (fun n u isLocal found => ?_)
          (fun n signature body found => ?_) (fun n hn => ?_) around
        · rw [Frame.bindValue, Frame.find?_bind] at found
          split at found
          · next it =>
            rw [it, names]
            simp [Loop.names]
          · exact fits.names n b found
        · rw [Frame.bindValue, Frame.find?_bind] at found
          split at found
          · cases found
            exact Value.holds_keep.mpr told
          · exact fits.values n u found
        · rw [Frame.bindValue, Frame.find?_bind] at found
          split at found
          · next it =>
            obtain ⟨scope, k, rfl⟩ := isLocal
            exact absurd (it ▸ guarded_localName scope k) (not_guarded allowed)
          · exact fits.locals n u isLocal found
        · rw [Frame.bindValue, Frame.find?_bind] at found
          split at found
          · cases found
          · exact fits.helpers n signature body found
        · rw [names] at hn
          obtain rfl : n = f.iterator := by simpa [Loop.names] using hn
          exact ⟨.value v.keep, by rw [Frame.bindValue, Frame.find?_bind, if_pos rfl]⟩
      · by_cases taken : c.region.helperName = f.iterator
        · obtain ⟨names, values, identity, object⟩ : ∃ names values identity,
              v.keep = .object names values identity := ⟨_, _, _, by rw [hv, Value.keep]⟩
          refine ⟨_, lookup_value ?_, .inr ⟨names, values, identity, object⟩⟩
          rw [Frame.bindValue, Frame.find?_bind, if_pos taken]
        · refine ⟨_, closure_of_find? ready.made here hc ?_, .inl rfl⟩
          rw [Frame.bindValue, Frame.find?_bind, if_neg taken, known c hc]

end Entering

end Stage

end TemplateCompiler.Render
