import TemplateCompiler.Render.Loader

/-!
Steps of a run that keep an invariant. The invariant is about the world and about a number that tells how
much may have been spent so far; a step is judged by what it spends at most, and by its result.

What a value holds besides plain data are its agents: functions of the program, the component, the table
of modules and the parts of the rendering engine. No step of the evaluator makes agents on its own; it takes them from the
values that it works on.
-/

namespace TemplateCompiler.Render

open TemplateCompiler.Code TemplateCompiler.Generate TemplateCompiler.Load

theorem run_bind {α β : Type} (m : RunM α) (f : α → RunM β) (w : World) : (m >>= f).run.run w =
    match m.run.run w with
    | (.ok a, w') => (f a).run.run w'
    | (.error fault, w') => (.error fault, w') := by
  rw [ExceptT.run_bind, StateT.run_bind]
  rcases m.run.run w with ⟨_ | a, w'⟩ <;> rfl

/-- A property of worlds, given how much may have been spent. -/
structure Invariant where
  holds : Nat → World → Prop
  more : ∀ {k w}, holds k w → holds (k + 1) w
  /-- Looking up a module changes the table of modules only. -/
  registry : ∀ {k w} {r : Registry}, holds k w → holds k { w with registry := r }

theorem Invariant.mono (I : Invariant) {j k : Nat} {w : World} (h : I.holds j w) (le : j ≤ k) :
    I.holds k w := by
  induction le with
  | refl => exact h
  | step _ ih => exact I.more ih

/-- From worlds with the invariant, the run keeps it and spends at most `n`, and a result is as told. -/
def Keeps {α : Type} (I : Invariant) (n : Nat) (m : RunM α) (Q : α → Prop) : Prop :=
  ∀ k w, I.holds k w → I.holds (k + n) (m.run.run w).2 ∧ ∀ a, (m.run.run w).1 = .ok a → Q a

namespace Keeps

variable {α β : Type} {I : Invariant} {n k : Nat} {m : RunM α} {Q R : α → Prop} {S : β → Prop}

theorem pure {a : α} (h : Q a) : Keeps I 0 (pure a) Q := by
  intro k w hw
  refine ⟨hw, fun b hb => ?_⟩
  cases hb
  exact h

theorem throw {fault : Fault} : Keeps I 0 (throw fault : RunM α) Q := fun _ _ hw => ⟨hw, nofun⟩

theorem lift {x : Except Fault α} (h : ∀ a, x = .ok a → Q a) : Keeps I 0 (liftM x : RunM α) Q := by
  cases x with
  | ok a => exact .pure (h a rfl)
  | error fault => exact .throw

theorem weaken (h : Keeps I n m Q) (le : n ≤ k) : Keeps I k m Q := by
  intro j w hw
  obtain ⟨kept, result⟩ := h j w hw
  exact ⟨I.mono kept (Nat.add_le_add_left le j), result⟩

theorem mono (h : Keeps I n m Q) (weaker : ∀ a, Q a → R a) : Keeps I n m R := by
  intro k w hw
  obtain ⟨kept, result⟩ := h k w hw
  exact ⟨kept, fun a ha => weaker a (result a ha)⟩

theorem and {P : α → Prop} (h : Keeps I n m Q) (always : ∀ w a, (m.run.run w).1 = .ok a → P a) :
    Keeps I n m fun a => Q a ∧ P a := by
  intro k w hw
  obtain ⟨kept, result⟩ := h k w hw
  exact ⟨kept, fun a ha => ⟨result a ha, always w a ha⟩⟩

theorem bind {f : α → RunM β} (h : Keeps I n m Q) (next : ∀ a, Q a → Keeps I k (f a) S) :
    Keeps I (n + k) (m >>= f) S := by
  intro j w hw
  obtain ⟨kept, result⟩ := h j w hw
  rw [run_bind]
  rcases hm : m.run.run w with ⟨fault | a, w'⟩
  · rw [hm] at kept
    exact ⟨I.mono kept (by omega), nofun⟩
  · rw [hm] at kept result
    rw [← Nat.add_assoc]
    exact next a (result a rfl) (j + n) w' kept

theorem andThen {f : α → RunM β} (h : Keeps I 0 m Q) (next : ∀ a, Q a → Keeps I k (f a) S) :
    Keeps I k (m >>= f) S := by
  have both := h.bind next
  rwa [Nat.zero_add] at both

theorem run_congr {f g : α → RunM β} (h : Keeps I n m Q) {j : Nat} {w : World} (hw : I.holds j w)
    (next : ∀ a w', Q a → I.holds (j + n) w' → (f a).run.run w' = (g a).run.run w') :
    (m >>= f).run.run w = (m >>= g).run.run w := by
  obtain ⟨kept, result⟩ := h j w hw
  rw [run_bind, run_bind]
  rcases hm : m.run.run w with ⟨fault | a, w'⟩
  · rfl
  · rw [hm] at kept result
    exact next a w' (result a rfl) kept

end Keeps

namespace Value

mutual

/-- What a value holds besides plain data. -/
def agents : Value → List Value
  | list items _ | tuple items _ => agentsAll items
  | object _ values _ | dict _ values | getter _ values => agentsAll values
  | component names values => [component names values]
  | closure name signature body frames => [closure name signature body frames]
  | engine => [engine]
  | primitive p => [primitive p]
  | context => [context]
  | contextGet => [contextGet]
  | contextSetDefault => [contextSetDefault]
  | modules => [modules]
  | none | bool _ | int .. | float .. | text .. | namespaceType | length | builtin _ | method _
  | entity _ => []

def agentsAll : List Value → List Value
  | [] => []
  | v :: vs => v.agents ++ agentsAll vs

end

section

-- the equations of these functions are derived here, once for all lemmas below
attribute [local simp] agents agentsAll keep keepAll ofData ofDataAll flatten flattenAll

@[simp] theorem agentsAll_eq_flatMap (vs : List Value) : agentsAll vs = vs.flatMap agents := by
  induction vs with
  | nil => simp
  | cons v vs ih => simp [ih]

end

/-- All agents of the value are as told. -/
def Holds (A : Value → Prop) (v : Value) : Prop := ∀ a ∈ v.agents, A a

def Plain (v : Value) : Prop := v.agents = []

theorem plain_iff {v : Value} : v.Plain ↔ v.Holds fun _ => False := by
  rw [Plain, Holds, List.eq_nil_iff_forall_not_mem]

theorem Plain.holds {v : Value} (h : v.Plain) (A : Value → Prop) : v.Holds A := by
  intro a ha
  rw [h] at ha
  cases ha

section

variable {A : Value → Prop}

@[simp] theorem holds_none : none.Holds A := nofun

@[simp] theorem holds_bool (b : Bool) : (bool b).Holds A := nofun

@[simp] theorem holds_int (n : Int) (i : Identity) : (int n i).Holds A := nofun

@[simp] theorem holds_float (negative : Bool) (magnitude : Decimal.Binary) (i : Identity) :
    (float negative magnitude i).Holds A := nofun

@[simp] theorem holds_text (s : String) (i : Identity) : (text s i).Holds A := nofun

@[simp] theorem holds_namespaceType : namespaceType.Holds A := nofun

@[simp] theorem holds_length : length.Holds A := nofun

@[simp] theorem holds_builtin (name : String) : (builtin name).Holds A := nofun

@[simp] theorem holds_method (name : String) : (method name).Holds A := nofun

@[simp] theorem holds_entity (e : Entity) : (entity e).Holds A := nofun

theorem holds_all {vs : List Value} : (∀ a ∈ vs.flatMap agents, A a) ↔ ∀ v ∈ vs, v.Holds A := by
  simp only [List.mem_flatMap, forall_exists_index, and_imp]
  exact ⟨fun h v hv a ha => h a v hv ha, fun h a v hv ha => h v hv a ha⟩

@[simp] theorem holds_list {items : List Value} {i : Identity} :
    (list items i).Holds A ↔ ∀ v ∈ items, v.Holds A := by
  rw [Holds, agents, agentsAll_eq_flatMap, holds_all]

@[simp] theorem holds_tuple {items : List Value} {i : Identity} :
    (tuple items i).Holds A ↔ ∀ v ∈ items, v.Holds A := by
  rw [Holds, agents, agentsAll_eq_flatMap, holds_all]

@[simp] theorem holds_object {names : List String} {values : List Value} {i : Identity} :
    (object names values i).Holds A ↔ ∀ v ∈ values, v.Holds A := by
  rw [Holds, agents, agentsAll_eq_flatMap, holds_all]

@[simp] theorem holds_dict {keys : List String} {values : List Value} :
    (dict keys values).Holds A ↔ ∀ v ∈ values, v.Holds A := by
  rw [Holds, agents, agentsAll_eq_flatMap, holds_all]

@[simp] theorem holds_getter {keys : List String} {values : List Value} :
    (getter keys values).Holds A ↔ ∀ v ∈ values, v.Holds A := by
  rw [Holds, agents, agentsAll_eq_flatMap, holds_all]

@[simp] theorem holds_component {names : List String} {values : List Value} :
    (component names values).Holds A ↔ A (component names values) := by
  simp [Holds, agents]

@[simp] theorem holds_closure {name : String} {signature : Signature} {body : List Stmt}
    {frames : List Frame} :
    (closure name signature body frames).Holds A ↔ A (closure name signature body frames) := by
  simp [Holds, agents]

@[simp] theorem holds_engine : engine.Holds A ↔ A engine := by simp [Holds, agents]

@[simp] theorem holds_primitive {p : Primitive} : (primitive p).Holds A ↔ A (primitive p) := by
  simp [Holds, agents]

@[simp] theorem holds_context : context.Holds A ↔ A context := by simp [Holds, agents]

@[simp] theorem holds_contextGet : contextGet.Holds A ↔ A contextGet := by simp [Holds, agents]

@[simp] theorem holds_contextSetDefault : contextSetDefault.Holds A ↔ A contextSetDefault := by
  simp [Holds, agents]

@[simp] theorem holds_modules : modules.Holds A ↔ A modules := by simp [Holds, agents]

theorem holds_of_lookup {names : List String} {values : List Value} {name : String} {v : Value}
    (h : ∀ x ∈ values, x.Holds A) (found : (List.zip names values).lookup name = some v) :
    v.Holds A := by
  obtain ⟨before, after, e, -⟩ := List.lookup_eq_some_iff.mp found
  have pair : (name, v) ∈ List.zip names values := by simp [e]
  exact h v (List.of_mem_zip pair).2

end

mutual

theorem agents_keep : ∀ v : Value, v.keep.agents = v.agents
  | list items _ | tuple items _ => by simp [keep, agents, agents_keepAll items]
  | object _ values _ => by simp [keep, agents, agents_keepAll values]
  | none | bool _ | int .. | float .. | text .. | namespaceType | length | builtin _ | method _ | modules
  | entity _ | dict .. | getter .. | component .. | closure .. | engine | primitive _ | context
  | contextGet | contextSetDefault => rfl

theorem agents_keepAll : ∀ vs : List Value, (keepAll vs).flatMap agents = vs.flatMap agents
  | [] => rfl
  | v :: vs => by rw [keepAll, List.flatMap_cons, List.flatMap_cons, agents_keep v, agents_keepAll vs]

end

@[simp] theorem holds_keep {A : Value → Prop} {v : Value} : v.keep.Holds A ↔ v.Holds A := by
  rw [Holds, agents_keep, Holds]

mutual

theorem agents_ofData (way : List String) : ∀ d : Data, (ofData way d).agents = []
  | .null | .bool _ | .int _ | .float .. | .text _ => rfl
  | .list items => by simp [ofData, agents, agents_ofDataAll way 0 items]
  | .record _ values => by simp [ofData, agents, agents_ofDataAll way 0 values]

theorem agents_ofDataAll (way : List String) (place : Nat) :
    ∀ ds : List Data, (ofDataAll way place ds).flatMap agents = []
  | [] => rfl
  | d :: ds => by
    rw [ofDataAll, List.flatMap_cons, agents_ofData _ d, agents_ofDataAll way (place + 1) ds]
    rfl

end

mutual

theorem keep_ofData (way : List String) : ∀ d : Data, (ofData way d).keep = ofData way d
  | .null | .bool _ | .int _ | .float .. | .text _ => rfl
  | .list items => by simp [ofData, keep, Identity.keep, keepAll_ofDataAll way 0 items]
  | .record _ values => by simp [ofData, keep, Identity.keep, keepAll_ofDataAll way 0 values]

theorem keepAll_ofDataAll (way : List String) (place : Nat) : ∀ ds : List Data,
    keepAll (ofDataAll way place ds) = ofDataAll way place ds
  | [] => rfl
  | d :: ds => by
    rw [ofDataAll, keepAll, keep_ofData (way ++ [toString place]) d, keepAll_ofDataAll way (place + 1) ds]

end

@[simp] theorem holds_ofData {A : Value → Prop} (way : List String) (d : Data) :
    (ofData way d).Holds A := by
  intro a ha
  rw [agents_ofData] at ha
  cases ha

theorem holds_ofEntity {A : Value → Prop} (reference : String) (e : Entity) :
    (ofEntity reference e).Holds A := by
  cases e <;> simp [ofEntity]

theorem holds_items {A : Value → Prop} {v : Value} {items : List Value} (h : v.Holds A)
    (found : v.items? = some items) : ∀ x ∈ items, x.Holds A := by
  cases v with
  | list xs i | tuple xs i =>
    cases found
    simpa using h
  | text s i =>
    cases found
    simp [charsOf]
  | dict keys values =>
    cases found
    simp
  | _ => cases found

theorem holds_member? {A : Value → Prop} {v found : Value} {attr : String}
    (h : v.member? attr = some found) : found.Holds A := by
  unfold member? at h
  split at h
  · cases h
    simp
  · split at h
    · cases h
      simp
    · split at h
      · cases h
        simp
      · cases h

end Value

/-- Agents that give only agents of the same kind: the component is none of them. -/
structure Closed (A : Value → Prop) : Prop where
  component : ∀ names values, ¬ A (.component names values)
  engine : A .engine → ∀ p, A (.primitive p)
  context : A .context → A .contextGet ∧ A .contextSetDefault

def Gives (A : Value → Prop) (x : Except Fault Value) : Prop := ∀ v, x = .ok v → v.Holds A

section Steps

variable {A : Value → Prop} {v a b : Value}

theorem Gives.ok (h : v.Holds A) : Gives A (.ok v) := by
  intro u hu
  cases hu
  exact h

theorem Gives.error {fault : Fault} : Gives A (.error fault) := nofun

theorem gives_constantValue (c : Constant) : Gives A (constantValue c) := by
  unfold constantValue
  split
  all_goals first | exact .ok (by simp) | exact .error

theorem gives_carried (attr : String) : Gives A (carried v attr) := by
  unfold carried
  split
  · next found => exact .ok (Value.holds_member? found)
  · exact .error

theorem gives_numberPart (h : v.Holds A) (attr : String) : Gives A (numberPart v attr) := by
  unfold numberPart
  split
  · exact .ok h
  · exact .ok (by simp)
  · exact .ok h
  · exact .ok h
  · split
    · exact .ok (by simp)
    · exact gives_carried attr

theorem gives_attributeOf (closed : Closed A) (h : v.Holds A) (attr : String) :
    Gives A (attributeOf v attr) := by
  cases v with
  | object names values i =>
    simp only [Value.holds_object] at h
    unfold attributeOf
    simp only
    split
    · next found => exact .ok (Value.holds_of_lookup h found)
    · split
      · exact .ok (by simpa using h)
      · exact gives_carried attr
  | builtin name =>
    unfold attributeOf
    simp only
    split
    · exact .ok (by simp)
    · exact gives_carried attr
  | engine =>
    unfold attributeOf
    simp only
    split
    · exact .ok (Value.holds_primitive.mpr (closed.engine (Value.holds_engine.mp h) _))
    · exact .error
  | context =>
    have both := closed.context (Value.holds_context.mp h)
    unfold attributeOf
    simp only
    split
    · exact .ok (Value.holds_contextGet.mpr both.1)
    · exact .ok (Value.holds_contextSetDefault.mpr both.2)
    · exact .error
  | dict keys values =>
    unfold attributeOf
    simp only
    split
    · exact .ok (by simpa using h)
    · exact gives_carried attr
  | _ => exact gives_numberPart h attr

theorem gives_fieldOf {names : List String} {values : List Value} (h : ∀ v ∈ values, v.Holds A)
    (attr : String) : Gives A (fieldOf names values attr) := by
  unfold fieldOf
  split
  · next found => exact .ok (Value.holds_of_lookup h found)
  · exact .error

theorem gives_itemAt {items : List Value} (h : ∀ x ∈ items, x.Holds A) (place : Int) :
    Gives A (itemAt items place) := by
  unfold itemAt
  simp only
  generalize (if place < 0 then place + items.length else place) = place
  split
  · exact .error
  · split
    · next found => exact .ok (h _ (List.mem_of_getElem? found))
    · exact .error

theorem gives_entryOf (h : a.Holds A) : Gives A (entryOf a b) := by
  unfold entryOf
  split
  · split
    · exact gives_itemAt (Value.holds_list.mp h) _
    · exact .error
  · split
    · exact gives_itemAt (Value.holds_tuple.mp h) _
    · exact .error
  · split
    · exact gives_itemAt (by simp [Value.charsOf]) _
    · exact .error
  · split
    · next found => exact .ok (Value.holds_of_lookup (Value.holds_dict.mp h) found)
    · exact .error
  · exact .error
  · exact .error

theorem gives_unaryValue (h : v.Holds A) (made : Identity) (op : UnaryOp) :
    Gives A (unaryValue made op v) := by
  unfold unaryValue
  split
  all_goals first | exact .ok h | exact .ok (by simp) | exact .error

theorem mem_repeated {α : Type} {n : Int} {items : List α} {x : α} (h : x ∈ repeated n items) :
    x ∈ items := by
  obtain ⟨l, hl, hx⟩ := List.mem_flatten.mp h
  rwa [(List.mem_replicate.mp hl).2] at hx

theorem gives_joined (ha : a.Holds A) (hb : b.Holds A) (made : Identity) :
    Gives A (joined made a b) := by
  unfold joined
  split
  · refine .ok ?_
    split
    · exact hb
    · split
      · exact ha
      · simp
  · simp only [Value.holds_list] at ha hb
    refine .ok (Value.holds_list.mpr fun x hx => ?_)
    exact (List.mem_append.mp hx).elim (ha x) (hb x)
  · refine .ok ?_
    split
    · exact hb
    · split
      · exact ha
      · simp only [Value.holds_tuple] at ha hb
        exact Value.holds_tuple.mpr fun x hx => (List.mem_append.mp hx).elim (ha x) (hb x)
  · exact .error

theorem gives_multiplied (h : v.Holds A) (made : Identity) (n : Int) : Gives A (multiplied made n v) := by
  unfold multiplied
  split
  · refine .ok ?_
    split
    · exact h
    · simp
  · simp only [Value.holds_list] at h
    exact .ok (Value.holds_list.mpr fun x hx => h x (mem_repeated hx))
  · refine .ok ?_
    split
    · exact h
    · simp only [Value.holds_tuple] at h
      exact Value.holds_tuple.mpr fun x hx => h x (mem_repeated hx)
  · exact .error

theorem gives_binaryValue (ha : a.Holds A) (hb : b.Holds A) (made : Identity) (op : BinaryOp) :
    Gives A (binaryValue made op a b) := by
  have combines : Gives A (combined made op a b) := by
    unfold combined
    split
    · exact gives_joined ha hb made
    · exact gives_multiplied hb made _
    · exact gives_multiplied ha made _
    all_goals exact .error
  unfold binaryValue
  split
  · exact .ok (by simp)
  · exact .ok (by simp)
  · exact .ok (by simp)
  · split
    · exact .error
    · exact combines

theorem gives_lengthValue : Gives A (lengthValue v) := by
  unfold lengthValue
  split
  all_goals first | exact .ok (by simp) | exact .error

theorem gives_builtinCall {args : List Value} {keywords : List (String × Value)} (hv : v.Holds A)
    (hargs : ∀ x ∈ args, x.Holds A) (hkeywords : ∀ k ∈ keywords, k.2.Holds A) :
    Gives A (builtinCall v args keywords) := by
  unfold builtinCall
  split
  · refine .ok (Value.holds_object.mpr fun x hx => ?_)
    obtain ⟨k, hk, rfl⟩ := List.mem_map.mp hx
    exact hkeywords k hk
  · exact gives_lengthValue
  · next keys values key i =>
    refine .ok ?_
    cases found : (List.zip keys values).lookup key with
    | none => exact Value.holds_none
    | some u => exact Value.holds_of_lookup (Value.holds_getter.mp hv) found
  · exact .error
  · exact .error
  · exact .ok (by simpa [Value.record] using hargs)
  · exact .error

end Steps

/-- An engine whose results hold only what its arguments hold. -/
structure Engine.Honest (E : Engine) : Prop where
  gather : ∀ (A : Value → Prop) (results : List Value), (∀ v ∈ results, v.Holds A) →
    (E.gather results).Holds A
  make : ∀ (A : Value → Prop) (p : Primitive) (args : List Value) (v : Value),
    (∀ x ∈ args, x.Holds A) → E.make p args = .ok v → v.Holds A

mutual

theorem Value.holds_flatten {A : Value → Prop} : ∀ {v : Value}, v.Holds A → ∀ x ∈ v.flatten, x.Holds A
  | .list _ _, h, x, hx => Value.holds_flattenAll (Value.holds_list.mp h) x hx
  | .none, h, x, hx | .bool _, h, x, hx | .int .., h, x, hx | .float .., h, x, hx | .text .., h, x, hx
  | .tuple .., h, x, hx | .object .., h, x, hx | .dict .., h, x, hx | .component .., h, x, hx
  | .closure .., h, x, hx | .engine, h, x, hx | .primitive _, h, x, hx | .context, h, x, hx
  | .contextGet, h, x, hx | .contextSetDefault, h, x, hx | .getter .., h, x, hx | .namespaceType, h, x, hx
  | .length, h, x, hx | .builtin _, h, x, hx | .method _, h, x, hx | .modules, h, x, hx
  | .entity _, h, x, hx => by
    obtain rfl := List.mem_singleton.mp hx
    exact h

theorem Value.holds_flattenAll {A : Value → Prop} :
    ∀ {vs : List Value}, (∀ v ∈ vs, v.Holds A) → ∀ x ∈ Value.flattenAll vs, x.Holds A
  | [], _, x, hx => by cases hx
  | v :: vs, h, x, hx => by
    rw [Value.flattenAll, List.mem_append] at hx
    rcases hx with hx | hx
    · exact Value.holds_flatten (h v List.mem_cons_self) x hx
    · exact Value.holds_flattenAll (fun u hu => h u (List.mem_cons_of_mem v hu)) x hx

end

theorem holds_nodeValue {A : Value → Prop} {fields : List String} {args : List Value} {v : Value}
    (h : ∀ x ∈ args, x.Holds A) (made : nodeValue fields args = .ok v) : v.Holds A := by
  unfold nodeValue at made
  split at made
  · cases made
    exact Value.holds_dict.mpr h
  · cases made

theorem Engine.honest_standard : Engine.standard.Honest where
  gather A results h := by
    refine Value.holds_list.mpr fun x hx => ?_
    obtain ⟨v, hv, hx⟩ := List.mem_flatMap.mp hx
    split at hx
    · exact Value.holds_list.mp (h _ hv) x hx
    · exact List.mem_singleton.mp hx ▸ h v hv
  make A p args v h made := by
    unfold Engine.standard at made
    simp only at made
    split at made
    · next u =>
      cases made
      exact Value.holds_list.mpr (Value.holds_flatten (h u (by simp)))
    · next name data children slotted =>
      split at made
      · split at made
        · next found =>
          cases made
          exact Value.holds_list.mpr (Value.holds_items (h slotted (by simp)) found)
        · cases made
      · cases made
        simp only [List.mem_cons, List.not_mem_nil, or_false, forall_eq_or_imp, forall_eq] at h
        simp [Value.record, h]
    all_goals first | exact holds_nodeValue h made | cases made

end TemplateCompiler.Render
