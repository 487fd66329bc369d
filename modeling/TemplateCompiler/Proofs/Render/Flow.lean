import TemplateCompiler.Proofs.Code.Meets
import TemplateCompiler.Proofs.Render.Frames

/-!
What expressions of a template can reach. An expression gets at values by the names and reads that a run of
it meets, and by calls. If all these give values with certain agents only, so does the expression, and it
keeps what its reads and calls keep.
-/

namespace TemplateCompiler.Render

open TemplateCompiler.Code TemplateCompiler.Generate TemplateCompiler.Scope

theorem isSite_of_meets {ok : Atom → Prop} (unbound : ¬ ok (.own Primitive.bind.localName)) {e : Expr}
    (meets : e.Meets ok) : isSite e = false := by
  have called {id : String} {args keywords : List Expr} (h : (Expr.call (.own id) args keywords).Meets ok) :
      id ≠ Primitive.bind.localName := by
    rintro rfl
    exact unbound ((h.part rfl rfl List.mem_cons_self).of_atom rfl)
  unfold isSite
  split
  · exact beq_eq_false_iff_ne.mpr (called meets)
  · next kept mapping attr key id value =>
    have outer := meets.part rfl rfl (x := .call (.member (.own mapping) attr)
      [key, .call (.own id) [value] []] []) (by simp [Expr.parts])
    have inner := outer.part rfl rfl (x := .call (.own id) [value] []) (by simp [Expr.parts])
    simp [called inner]
  · rfl

/-- A way to judge two runs of the same code by the results of the first. -/
structure Judgement where
  Holds : {α : Type} → (α → Prop) → RunM α → RunM α → Prop
  value : ∀ {α : Type} {P : α → Prop} {a : α}, P a → Holds P (pure a) (pure a)
  fault : ∀ {α : Type} {P : α → Prop} {fault : Fault} {m : RunM α}, Holds P (throw fault) m
  seq : ∀ {α β : Type} {P : α → Prop} {Q : β → Prop} {m m' : RunM α} {f f' : α → RunM β},
    Holds P m m' → (∀ a, P a → Holds Q (f a) (f' a)) → Holds Q (m >>= f) (m' >>= f')

namespace Judgement.Holds

variable {J : Judgement} {α β : Type} {P : α → Prop} {Q : β → Prop} {m m' : RunM α} {f f' : α → RunM β}

theorem pure {a : α} (h : P a) : J.Holds P (pure a) (pure a) := J.value h

theorem throw {fault : Fault} : J.Holds P (throw fault) m := J.fault

theorem lift {x : Except Fault α} (h : ∀ a, x = .ok a → P a) : J.Holds P (liftM x) (liftM x) := by
  cases x with
  | ok a => exact .pure (h a rfl)
  | error fault => exact .throw

theorem bind (h : J.Holds P m m') (next : ∀ a, P a → J.Holds Q (f a) (f' a)) :
    J.Holds Q (m >>= f) (m' >>= f') := J.seq h next

end Judgement.Holds

/-- How functions are called, which frames are around, and what became of the reads. -/
structure Setting where
  callFn : CallFn
  frames : List Frame
  decision : Placeholder → Expr

namespace Setting

def eval (S : Setting) (e : Expr) : RunM Value := Render.eval S.callFn S.frames (e.substitute S.decision)

def evalItems (S : Setting) (es : List Expr) : RunM (List Value) :=
  Render.evalItems S.callFn S.frames (es.map (.substitute S.decision))

/-- All that an expression may meet gives values with certain agents in two settings. -/
structure Related (J : Judgement) (A : Value → Prop) (ok : Atom → Prop) (S T : Setting) : Prop where
  left : Expr.Avoids [Primitive.bind.localName] S.decision
  right : Expr.Avoids [Primitive.bind.localName] T.decision
  /-- No handler is bound. -/
  unbound : ¬ ok (.own Primitive.bind.localName)
  name : ∀ id, ok (.name id) ∨ ok (.own id) →
    J.Holds (Value.Holds A) (liftM (nameValue S.frames id)) (liftM (nameValue T.frames id))
  read : ∀ n, ok (.read n) →
    J.Holds (Value.Holds A) (S.eval (componentMember n)) (T.eval (componentMember n))
  hole : ∀ site, ok (.hole site) →
    J.Holds (Value.Holds A) (S.eval (.placeholder site)) (T.eval (.placeholder site))
  member : ∀ base attr, base.Holds A → J.Holds (Value.Holds A) (memberValue base attr) (memberValue base attr)
  index : ∀ base i, base.Holds A → J.Holds (Value.Holds A) (indexValue base i) (indexValue base i)
  call : ∀ f args keywords, f.Holds A → (∀ v ∈ args, v.Holds A) → (∀ k ∈ keywords, k.2.Holds A) →
    J.Holds (Value.Holds A) (S.callFn f args keywords) (T.callFn f args keywords)

section

variable {J : Judgement} {A : Value → Prop} {ok : Atom → Prop} {S T : Setting}

theorem substitute_ne_starred {f : Placeholder → Expr} (decides : Expr.Decides f) {e : Expr}
    (plain : ∀ x, e ≠ .starred x) (y : Expr) : e.substitute f ≠ .starred y := by
  cases e with
  | starred x => exact absurd rfl (plain x)
  | placeholder site =>
    rcases decides site with h | ⟨n, h⟩ | ⟨id, -, h⟩ <;> simp [Expr.substitute, h, componentMember]
  | _ => simp [Expr.substitute]

mutual

theorem isFixed_substitute {f : Placeholder → Expr} (decides : Expr.Decides f) :
    ∀ e : Expr, isFixed (e.substitute f) = isFixed e
  | .placeholder site => by
    rcases decides site with h | ⟨n, h⟩ | ⟨id, -, h⟩ <;> simp [Expr.substitute, h, componentMember, isFixed]
  | .tuple items => by
    simp only [Expr.substitute, Expr.substituteAll_eq_map, isFixed, areFixed_substitute decides items]
  | .unary op operand => by simp only [Expr.substitute, isFixed, isFixed_substitute decides operand]
  | .binary op left right => by
    simp only [Expr.substitute, isFixed, isFixed_substitute decides left, isFixed_substitute decides right]
  | .constant _ | .name _ | .own _ | .absent | .member .. | .subscript .. | .call .. | .keyword .. | .starred _
  | .logical .. | .compare .. | .conditional .. | .list _ | .dict .. | .set _ | .slice .. | .lambda ..
  | .comprehension .. | .dictComprehension .. | .clause .. | .await _ | .yield _ | .yieldFrom _ | .named ..
  | .joined _ | .field .. => by simp [Expr.substitute, isFixed]

theorem areFixed_substitute {f : Placeholder → Expr} (decides : Expr.Decides f) :
    ∀ es : List Expr, areFixed (es.map (.substitute f)) = areFixed es
  | [] => rfl
  | e :: es => by
    simp only [List.map_cons, areFixed, isFixed_substitute decides e, areFixed_substitute decides es]

end

theorem visit_substitute {f : Placeholder → Expr} (avoids : Expr.Avoids [Primitive.bind.localName] f)
    (unbound : ¬ ok (.own Primitive.bind.localName)) {e : Expr} (meets : e.Meets ok) (run : RunM Value) :
    visit (e.substitute f) run = run := by
  have apart : (e.substitute f).Meets fun a => a ≠ .own Primitive.bind.localName := ?_
  · exact visit_plain (isSite_of_meets (· rfl) apart) run
  refine meets.substitute avoids.1 (fun a _ ha => ?_) fun site _ => ?_
  · rintro rfl
    exact unbound ha
  · rcases avoids.1 site with h | ⟨n, h⟩ | ⟨id, -, h⟩
    · rw [h]
      exact .atom rfl nofun
    · rw [h]
      exact .atom rfl nofun
    · rw [h]
      refine .atom rfl ?_
      rintro ⟨⟩
      exact avoids.2 site _ (List.mem_singleton_self _) h

variable (J A ok S T) in
/-- The judgement on an expression that meets only what it may. -/
def Same (e : Expr) : Prop := e.Meets ok → J.Holds (Value.Holds A) (S.eval e) (T.eval e)

section Parts

variable {es : List Expr}

theorem holds_evalItems (related : Related J A ok S T) (each : ∀ e ∈ es, Same J A ok S T e)
    (within : ∀ e ∈ es, ∀ x ∈ e.parts, Same J A ok S T x) (meets : ∀ e ∈ es, e.Meets ok) :
    J.Holds (fun vs => ∀ v ∈ vs, v.Holds A) (S.evalItems es) (T.evalItems es) := by
  unfold evalItems
  induction es with
  | nil =>
    rw [List.map_nil, List.map_nil, Render.evalItems, Render.evalItems]
    exact .pure (by simp)
  | cons e es ih =>
    have later := ih (fun x hx => each x (List.mem_cons_of_mem e hx))
      (fun x hx => within x (List.mem_cons_of_mem e hx)) fun x hx => meets x (List.mem_cons_of_mem e hx)
    have here := meets e List.mem_cons_self
    rw [List.map_cons, List.map_cons]
    by_cases starred : ∃ x, e = .starred x
    · obtain ⟨x, rfl⟩ := starred
      have spread := within _ List.mem_cons_self x (List.mem_singleton_self x)
        (here.part rfl rfl (List.mem_singleton_self x))
      rw [Expr.substitute, Expr.substitute, Render.evalItems, Render.evalItems]
      refine spread.bind fun v hv => ?_
      split
      · next items found =>
        refine later.bind fun vs hvs => .pure fun u hu => ?_
        exact (List.mem_append.mp hu).elim (Value.holds_items hv found u) (hvs u)
      · exact .throw
    · have plain : ∀ x, e ≠ .starred x := fun x is => starred ⟨x, is⟩
      rw [evalItems_cons (substitute_ne_starred related.left.1 plain),
        evalItems_cons (substitute_ne_starred related.right.1 plain)]
      refine (each e List.mem_cons_self here).bind fun v hv => later.bind fun vs hvs => .pure ?_
      exact List.forall_mem_cons.mpr ⟨hv, hvs⟩

theorem holds_evalEach (each : ∀ e ∈ es, Same J A ok S T e) (meets : ∀ e ∈ es, e.Meets ok) :
    J.Holds (fun vs => ∀ v ∈ vs, v.Holds A) (evalEach S.callFn S.frames (es.map (.substitute S.decision)))
      (evalEach T.callFn T.frames (es.map (.substitute T.decision))) := by
  induction es with
  | nil =>
    rw [List.map_nil, List.map_nil, evalEach, evalEach]
    exact .pure (by simp)
  | cons e es ih =>
    rw [List.map_cons, List.map_cons, evalEach, evalEach]
    refine (each e List.mem_cons_self (meets e List.mem_cons_self)).bind fun v hv => ?_
    refine (ih (fun x hx => each x (List.mem_cons_of_mem e hx))
      fun x hx => meets x (List.mem_cons_of_mem e hx)).bind fun vs hvs => .pure ?_
    exact List.forall_mem_cons.mpr ⟨hv, hvs⟩

theorem holds_evalKeywords (decides : Expr.Decides S.decision)
    (within : ∀ e ∈ es, ∀ x ∈ e.parts, Same J A ok S T x) (meets : ∀ e ∈ es, e.Meets ok) :
    J.Holds (fun ks => ∀ k ∈ ks, k.2.Holds A)
      (evalKeywords S.callFn S.frames (es.map (.substitute S.decision)))
      (evalKeywords T.callFn T.frames (es.map (.substitute T.decision))) := by
  induction es with
  | nil =>
    rw [List.map_nil, List.map_nil, evalKeywords, evalKeywords]
    exact .pure (by simp)
  | cons e es ih =>
    have later := ih (fun x hx => within x (List.mem_cons_of_mem e hx))
      fun x hx => meets x (List.mem_cons_of_mem e hx)
    have refused {x : Expr} (other : ∀ param value, x ≠ .keyword param value) :
        evalKeywords S.callFn S.frames (x :: es.map (.substitute S.decision)) = throw .unsupported := by
      rw [evalKeywords]
      · exact fun name value => other _ value
      · exact fun value => other _ value
    rw [List.map_cons, List.map_cons]
    cases e with
    | keyword param value =>
      have here := within _ List.mem_cons_self value (List.mem_singleton_self value)
        ((meets _ List.mem_cons_self).part rfl rfl (List.mem_singleton_self value))
      rw [Expr.substitute, Expr.substitute]
      cases param with
      | some name =>
        rw [evalKeywords, evalKeywords]
        refine here.bind fun v hv => later.bind fun ks hks => .pure ?_
        exact List.forall_mem_cons.mpr ⟨hv, hks⟩
      | none =>
        rw [evalKeywords, evalKeywords]
        refine here.bind fun v hv => ?_
        split
        · refine later.bind fun ks hks => .pure fun k hk => ?_
          rcases List.mem_append.mp hk with hk | hk
          · exact Value.holds_dict.mp hv _ (List.of_mem_zip hk).2
          · exact hks k hk
        · exact .throw
    | placeholder site =>
      rw [refused]
      · exact .throw
      · rcases decides site with h | ⟨n, h⟩ | ⟨id, -, h⟩ <;> simp [Expr.substitute, h, componentMember]
    | _ =>
      rw [refused (by simp [Expr.substitute])]
      exact .throw

theorem holds_evalLogical (each : ∀ e ∈ es, Same J A ok S T e) (meets : ∀ e ∈ es, e.Meets ok)
    (op : LogicalOp) {last : Value} (good : last.Holds A) :
    J.Holds (Value.Holds A) (evalLogical S.callFn S.frames op last (es.map (.substitute S.decision)))
      (evalLogical T.callFn T.frames op last (es.map (.substitute T.decision))) := by
  induction es generalizing last with
  | nil =>
    rw [List.map_nil, List.map_nil, evalLogical, evalLogical]
    exact .pure good
  | cons e es ih =>
    rw [List.map_cons, List.map_cons, evalLogical, evalLogical]
    refine (each e List.mem_cons_self (meets e List.mem_cons_self)).bind fun v hv => ?_
    split
    · exact .pure hv
    · exact .pure hv
    · exact ih (fun x hx => each x (List.mem_cons_of_mem e hx))
        (fun x hx => meets x (List.mem_cons_of_mem e hx)) hv

theorem holds_evalCompare (each : ∀ e ∈ es, Same J A ok S T e) (meets : ∀ e ∈ es, e.Meets ok)
    (ops : List CompareOp) (left : Value) :
    J.Holds (Value.Holds A) (evalCompare S.callFn S.frames left ops (es.map (.substitute S.decision)))
      (evalCompare T.callFn T.frames left ops (es.map (.substitute T.decision))) := by
  have ended {callFn : CallFn} {frames : List Frame} {left : Value} {ops : List CompareOp} {xs : List Expr}
      (short : ops = [] ∨ xs = []) : evalCompare callFn frames left ops xs = pure (.bool true) := by
    rcases short with rfl | rfl
    · rw [evalCompare]
      simp
    · rw [evalCompare]
      simp
  induction es generalizing left ops with
  | nil =>
    rw [List.map_nil, List.map_nil, ended (.inr rfl), ended (.inr rfl)]
    exact .pure (Value.holds_bool true)
  | cons e es ih =>
    cases ops with
    | nil =>
      rw [ended (.inl rfl), ended (.inl rfl)]
      exact .pure (Value.holds_bool true)
    | cons op ops =>
      rw [List.map_cons, List.map_cons, evalCompare, evalCompare]
      refine (each e List.mem_cons_self (meets e List.mem_cons_self)).bind fun right _ => ?_
      refine (Judgement.Holds.lift (P := fun _ => True) fun _ _ => trivial).bind fun holds _ => ?_
      split
      · exact ih (fun x hx => each x (List.mem_cons_of_mem e hx))
          (fun x hx => meets x (List.mem_cons_of_mem e hx)) ops right
      · exact .pure (Value.holds_bool false)

end Parts

theorem Related.holds_eval (related : Related J A ok S T) (e : Expr) : Same J A ok S T e := by
  induction e using Expr.inductDeep with
  | step e deep =>
    intro meets
    have part {x : Expr} (hx : x ∈ e.parts) (no : e.atom? = none) (run : e.isRun) :
        J.Holds (Value.Holds A) (S.eval x) (T.eval x) := (deep x hx).1 (meets.part no run hx)
    have items {xs : List Expr} (sub : xs ⊆ e.parts) (no : e.atom? = none) (run : e.isRun) :=
      holds_evalItems related (fun x hx => (deep x (sub hx)).1) (fun x hx => (deep x (sub hx)).2)
        fun x hx => meets.part no run (sub hx)
    have leftPlain := visit_substitute related.left related.unbound meets
    have rightPlain := visit_substitute related.right related.unbound meets
    by_cases hole : ∃ site, e = .placeholder site
    · obtain ⟨site, rfl⟩ := hole
      exact related.hole site (meets.of_atom rfl)
    by_cases component : ∃ n, e = componentMember n
    · obtain ⟨n, rfl⟩ := component
      exact related.read n (meets.of_atom rfl)
    unfold eval
    rw [Render.eval.eq_def, Render.eval.eq_def, leftPlain, rightPlain]
    cases e with
    | placeholder site => exact absurd ⟨site, rfl⟩ hole
    | name id =>
      simp only [Expr.substitute]
      exact related.name id (.inl (meets.of_atom rfl))
    | own id =>
      simp only [Expr.substitute]
      exact related.name id (.inr (meets.of_atom rfl))
    | constant value =>
      simp only [Expr.substitute]
      exact .lift (gives_constantValue value)
    | member base attr =>
      have no : (Expr.member base attr).atom? = none := by
        cases base with
        | own id =>
          have other : id ≠ componentName := fun is => component ⟨attr, is ▸ rfl⟩
          simp [Expr.atom?, other]
        | _ => rfl
      simp only [Expr.substitute]
      exact (part (List.mem_singleton_self base) no rfl).bind fun b hb => related.member b attr hb
    | subscript base index =>
      simp only [Expr.substitute]
      refine (part (by simp [Expr.parts]) rfl rfl).bind fun b hb => ?_
      exact (part (by simp [Expr.parts]) rfl rfl).bind fun i _ => related.index b i hb
    | call callee args keywords =>
      simp only [Expr.substitute, Expr.substituteAll_eq_map]
      have named := holds_evalKeywords related.left.1
        (fun x hx => (deep x (by simp [Expr.parts, hx])).2)
        fun x (hx : x ∈ keywords) => meets.part rfl rfl (by simp [Expr.parts, hx])
      refine (part List.mem_cons_self rfl rfl).bind fun f hf => ?_
      refine (items (by simp [Expr.parts]) rfl rfl).bind fun vs hvs => ?_
      exact named.bind fun ks hks => related.call f vs ks hf hvs hks
    | unary op operand =>
      simp only [Expr.substitute, madeBy, isFixed_substitute related.left.1,
        isFixed_substitute related.right.1]
      exact (part (List.mem_singleton_self operand) rfl rfl).bind fun v hv => .lift (gives_unaryValue hv _ op)
    | binary op left right =>
      simp only [Expr.substitute, madeBy, isFixed, isFixed_substitute related.left.1,
        isFixed_substitute related.right.1]
      refine (part (by simp [Expr.parts]) rfl rfl).bind fun u hu => ?_
      exact (part (by simp [Expr.parts]) rfl rfl).bind fun v hv => .lift (gives_binaryValue hu hv _ op)
    | logical op operands =>
      simp only [Expr.substitute, Expr.substituteAll_eq_map]
      exact holds_evalLogical (fun x hx => (deep x hx).1) (fun x hx => meets.part rfl rfl hx) op
        Value.holds_none
    | compare first ops rest =>
      simp only [Expr.substitute, Expr.substituteAll_eq_map]
      refine (part List.mem_cons_self rfl rfl).bind fun v _ => ?_
      exact holds_evalCompare (fun x hx => (deep x (List.mem_cons_of_mem first hx)).1)
        (fun x hx => meets.part rfl rfl (List.mem_cons_of_mem first hx)) ops v
    | conditional test body orelse =>
      simp only [Expr.substitute]
      refine (part (by simp [Expr.parts]) rfl rfl).bind fun v _ => ?_
      split
      · exact part (by simp [Expr.parts]) rfl rfl
      · exact part (by simp [Expr.parts]) rfl rfl
    | tuple xs =>
      simp only [Expr.substitute, Expr.substituteAll_eq_map, madeBy, isFixed,
        areFixed_substitute related.left.1, areFixed_substitute related.right.1]
      exact (items (List.Subset.refl _) rfl rfl).bind fun vs hvs => .pure (Value.holds_tuple.mpr hvs)
    | list xs =>
      simp only [Expr.substitute, Expr.substituteAll_eq_map]
      exact (items (List.Subset.refl _) rfl rfl).bind fun vs hvs => .pure (Value.holds_list.mpr hvs)
    | dict keys values =>
      simp only [Expr.substitute, Expr.substituteAll_eq_map]
      have each {xs : List Expr} (sub : xs ⊆ keys ++ values) :=
        holds_evalEach (fun x hx => (deep x (sub hx)).1) fun x hx => meets.part rfl rfl (sub hx)
      refine (each (List.subset_append_left keys values)).bind fun ks _ => ?_
      refine (each (List.subset_append_right keys values)).bind fun vs hvs => ?_
      exact (Judgement.Holds.lift (P := fun _ => True) fun _ _ => trivial).bind fun texts _ =>
        .pure (Value.holds_dict.mpr hvs)
    | _ =>
      simp only [Expr.substitute]
      exact .throw

theorem Related.holds_items (related : Related J A ok S T) {es : List Expr} (meets : ∀ e ∈ es, e.Meets ok) :
    J.Holds (fun vs => ∀ v ∈ vs, v.Holds A) (S.evalItems es) (T.evalItems es) :=
  holds_evalItems related (fun e _ => related.holds_eval e) (fun _ _ x _ => related.holds_eval x) meets

end

end Setting

theorem plain_global {id : String} {v : Value} (h : globalValue? id = some v) : v.Plain := by
  unfold globalValue? at h
  cases hm : moduleValues.lookup id with
  | some u =>
    have all : ∀ x ∈ moduleValues, x.2.agents = [] := by decide
    obtain ⟨before, after, e, -⟩ := List.lookup_eq_some_iff.mp hm
    rw [hm] at h
    cases h
    exact all (id, v) (by simp [e])
  | none =>
    rw [hm] at h
    change (if id = "len" then _ else _) = _ at h
    split at h
    · cases h
      rfl
    · split at h
      · cases h
        rfl
      · split at h
        · cases h
          rfl
        · cases h

theorem gives_nameValue {A : Value → Prop} {frames : List Frame} {id : String}
    (h : ∀ v, lookup id frames = some v → v.Holds A) : Gives A (nameValue frames id) := by
  unfold nameValue
  cases bound : lookup id frames with
  | some v => exact .ok (h v bound)
  | none =>
    cases found : globalValue? id with
    | some v => exact .ok ((plain_global found).holds A)
    | none => exact .error

section

variable {A : Value → Prop} {I : Invariant} {base index : Value}

theorem keeps_memberValue (closed : Closed A) (h : base.Holds A) (attr : String) :
    Keeps I 0 (memberValue base attr) (Value.Holds A) := by
  cases base with
  | component names values => exact absurd (Value.holds_component.mp h) (closed.component names values)
  | _ => exact .lift (gives_attributeOf closed h attr)

theorem keeps_moduleValue (reference : String) :
    Keeps I 0 (moduleValue reference) fun v => ∃ e, v = .ofEntity reference e := by
  intro k w hw
  have run : (moduleValue reference).run.run w =
      (((w.registry.lookup w.library reference).1.map (.ofEntity reference)).mapError .imports,
        { w with registry := (w.registry.lookup w.library reference).2 }) := by
    have start : (get : RunM World).run.run w = (.ok w, w) := rfl
    simp only [moduleValue, run_bind, start]
    rcases h : w.registry.lookup w.library reference with ⟨_ | e, registry⟩ <;> rfl
  rw [run]
  refine ⟨I.registry hw, fun v hv => ?_⟩
  generalize (w.registry.lookup w.library reference).1 = found at hv
  cases found with
  | error fault => cases hv
  | ok e =>
    cases hv
    exact ⟨e, rfl⟩

theorem keeps_indexValue (h : base.Holds A) : Keeps I 0 (indexValue base index) (Value.Holds A) := by
  unfold indexValue
  split
  · refine (keeps_moduleValue _).mono ?_
    rintro _ ⟨e, rfl⟩
    exact Value.holds_ofEntity _ e
  · exact .lift (gives_entryOf h)

end

/-- What running an expression relies on. -/
structure Serving (A : Value → Prop) (I : Invariant) (callFn : CallFn) (frames : List Frame)
    (ok : Atom → Prop) : Prop where
  closed : Closed A
  /-- No handler is bound. -/
  unbound : ¬ ok (.own Primitive.bind.localName)
  name : ∀ id, ok (.name id) → Gives A (nameValue frames id)
  own : ∀ id, ok (.own id) → Gives A (nameValue frames id)
  read : ∀ n, ok (.read n) → Keeps I 0 (eval callFn frames (componentMember n)) (Value.Holds A)
  call : ∀ f args keywords, f.Holds A → (∀ v ∈ args, v.Holds A) → (∀ k ∈ keywords, k.2.Holds A) →
    Keeps I 0 (callFn f args keywords) (Value.Holds A)

/-- A run by itself, judged by what it keeps. -/
def Invariant.judgement (I : Invariant) : Judgement where
  Holds P m _ := Keeps I 0 m P
  value := .pure
  fault := .throw
  seq h next := h.andThen next

namespace Serving

variable {A : Value → Prop} {I : Invariant} {callFn : CallFn} {frames : List Frame} {ok : Atom → Prop}

theorem related (S : Serving A I callFn frames ok) :
    Setting.Related I.judgement A ok ⟨callFn, frames, .placeholder⟩ ⟨callFn, frames, .placeholder⟩ where
  left := ⟨fun _ => .inl rfl, nofun⟩
  right := ⟨fun _ => .inl rfl, nofun⟩
  unbound := S.unbound
  name id h := Keeps.lift (h.elim (S.name id) (S.own id))
  read := S.read
  hole site _ := by
    change Keeps I 0 (eval callFn frames (.placeholder site)) _
    rw [eval, visit_plain rfl]
    · exact .throw
    all_goals simp
  member _ attr h := keeps_memberValue S.closed h attr
  index _ _ h := keeps_indexValue h
  call := S.call

theorem keeps_eval (S : Serving A I callFn frames ok) {e : Expr} (meets : e.Meets ok) :
    Keeps I 0 (eval callFn frames e) (Value.Holds A) := by
  have judged : Keeps I 0 (eval callFn frames (e.substitute .placeholder)) _ := S.related.holds_eval e meets
  rwa [Expr.substitute_placeholder] at judged

theorem keeps_items (S : Serving A I callFn frames ok) {es : List Expr} (meets : ∀ e ∈ es, e.Meets ok) :
    Keeps I 0 (evalItems callFn frames es) fun vs => ∀ v ∈ vs, v.Holds A := by
  have judged : Keeps I 0 (evalItems callFn frames (es.map (.substitute .placeholder))) _ :=
    S.related.holds_items meets
  rwa [Expr.map_substitute_placeholder] at judged

theorem keeps_each (S : Serving A I callFn frames ok) {es : List Expr} (meets : ∀ e ∈ es, e.Meets ok) :
    Keeps I 0 (evalEach callFn frames es) fun vs => ∀ v ∈ vs, v.Holds A := by
  have judged : Keeps I 0 (evalEach callFn frames (es.map (.substitute .placeholder))) _ :=
    Setting.holds_evalEach (fun e _ => S.related.holds_eval e) meets
  rwa [Expr.map_substitute_placeholder] at judged

end Serving

end TemplateCompiler.Render
