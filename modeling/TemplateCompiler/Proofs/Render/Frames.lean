import TemplateCompiler.Proofs.Generate.Hygiene
import TemplateCompiler.Proofs.Render.Keeping

/-!
How generated functions start. A function binds its parameters, reads the properties that its scope keeps
in local names, defines the helpers of the scopes right below and, if it is the function of an iteration
that gives one variable, gathers what the iterator tells. The render function also takes primitives, slots
and kept handlers. What is bound then is written down as one frame, and running the function is running its
result in that frame.
-/

namespace TemplateCompiler.Scope

/-- A scope right below another one. -/
def Spot.child (p : Spot) (c : Tree) : Spot := ⟨c.region, c.children, p.passes⟩

end TemplateCompiler.Scope

namespace TemplateCompiler.Generate

open TemplateCompiler.Code TemplateCompiler.Scope TemplateCompiler.Template

def resultOf (body : List Stmt) : Expr :=
  match body.getLast? with
  | some (.ret e) => e
  | _ => .absent

/-- The variable that a helper gathers what an iterator tells in. -/
def iteratorOf : List Stmt → Option String
  | .assign (.name iterator) _ :: _ => some iterator
  | _ => none

def gathering (iterator : Option String) : List Stmt :=
  iterator.toList.map fun it => .assign (.name it) (namespaceValue it)

namespace Draft

variable (d : Draft) (p : Spot)

def code : Function := (d.function p).substitute d.decision

def result : Expr :=
  match p.region.helper with
  | some helper => (resultOf helper.body).substitute d.decision
  | none => d.root.substitute d.decision

end Draft

/-- The variable that the function of a scope gathers what an iterator tells in. -/
def iterator? (p : Spot) : Option String := p.region.helper.bind fun helper => iteratorOf helper.body

def definition (f : Function) : Stmt := .function f.name f.signature f.body

section

variable {U : Uses} {d : Draft} {p q : Spot} {above : List Spot} {loops : List Loop}

theorem substitute_gathering (σ : Placeholder → Expr) (iterator : Option String) :
    (gathering iterator).map (Stmt.substitute σ) = gathering iterator := by
  cases iterator <;>
    simp [gathering, Stmt.substitute, namespaceValue, Expr.substitute, iteratorParts]

/-- The body of a helper gathers what an iterator tells, if it is that of such a loop, and returns. -/
theorem Nested.helper_body (h : Nested U d (p :: q :: above) loops) :
    ∃ helper, p.region.helper = some helper ∧
      helper.body = gathering (iterator? p) ++ [.ret (resultOf helper.body)] := by
  cases h with
  | conditional around child inherits named kind test helper coded =>
    exact ⟨_, helper, by simp [iterator?, helper, testHelper, iteratorOf, gathering, resultOf]⟩
  | @loop _ _ _ _ l body around child inherits uses named kind noted helper coded =>
    refine ⟨_, helper, ?_⟩
    cases l <;> simp [iterator?, helper, loopHelper, iteratorOf, gathering, resultOf]

theorem helpers_eq (d : Draft) (inherited : Available) : ∀ {ts : List Tree},
    (∀ t ∈ ts, t.region.helper ≠ none) → Tree.helpers inherited (Tree.collectAll ts) =
      ts.map fun t => definition (d.function ⟨t.region, t.children, inherited⟩)
  | [], _ => rfl
  | .node region children :: ts, h => by
    obtain ⟨helper, hh⟩ := Option.ne_none_iff_exists'.mp (h _ List.mem_cons_self)
    have rest := helpers_eq d inherited fun t ht => h t (List.mem_cons_of_mem _ ht)
    simp only [Tree.region] at hh
    simp [Tree.collectAll, Tree.collect, Tree.helpers, hh, rest, Draft.function, Tree.region,
      Tree.children, definition, Spot.leading]

theorem Draft.Made.leading (made : d.Made U) (hp : (above, p) ∈ d.scopes) :
    p.leading.map (Stmt.substitute d.decision) =
      p.collected.hoistStmts p.inherited ++ p.children.map fun c => definition (d.code (p.child c)) := by
  have helpers := helpers_eq d p.passes fun c hc => (made.child hp hc).1
  have split : p.leading = p.collected.hoistStmts p.inherited ++
      Tree.helpers p.passes (Tree.collectAll p.children) := rfl
  rw [split, List.map_append, substitute_hoistStmts, helpers, List.map_map]
  congr 1
  exact List.map_congr_left fun c _ => by simp [definition, Stmt.substitute, Draft.code,
    Function.substitute, Spot.child]

theorem Draft.Made.code_helper (made : d.Made U) (hp : (q :: above, p) ∈ d.scopes) :
    (d.code p).body = p.collected.hoistStmts p.inherited ++
      (p.children.map fun c => definition (d.code (p.child c))) ++ gathering (iterator? p) ++
        [.ret (d.result p)] := by
  obtain ⟨loops, nested⟩ := made.nestedAt hp
  obtain ⟨helper, has, body⟩ := nested.helper_body
  have function : (d.function p).body = p.leading ++ helper.body := by simp only [Draft.function, has]
  rw [Draft.code, Function.substitute, function, List.map_append, made.leading hp, body]
  simp [substitute_gathering, Stmt.substitute, Draft.result, has]

theorem Draft.Made.code_root (made : d.Made U) (hp : ([], p) ∈ d.scopes) :
    (d.code p).name = renderName ∧ (d.code p).signature = renderSignature ∧
      (d.code p).body = primitiveStmts d.emitter.primitives ++
        (p.collected.hoistStmts p.inherited ++ p.children.map fun c => definition (d.code (p.child c))) ++
        d.emitter.slots.entries.map (fun s => takeEntry s.2 slotSetName s.1) ++
        d.emitter.memoNames.map (fun m => takeEntry m contextName m) ++ [.ret (d.result p)] := by
  obtain ⟨loops, nested⟩ := made.nestedAt hp
  have none : p.region.helper = none := by
    cases nested with
    | root number kind helper coded => exact helper
  have function : d.function p = ⟨renderName, renderSignature, renderBody d.emitter p.leading d.root⟩ := by
    simp only [Draft.function, none]
  refine ⟨?_, ?_, ?_⟩
  · simp only [Draft.code, Function.substitute, function]
  · simp only [Draft.code, Function.substitute, function]
  · simp only [Draft.code, Function.substitute, function, substitute_renderBody, made.leading hp]
    simp [renderBody, Draft.result, none]

end

end TemplateCompiler.Generate

namespace TemplateCompiler.Render

open TemplateCompiler.Code TemplateCompiler.Generate TemplateCompiler.Scope TemplateCompiler.Template

namespace Frame

def bindAll (F : Frame) (bindings : List (String × Binding)) : Frame :=
  bindings.foldl (fun G b => G.bind b.1 b.2) F

variable {F : Frame}

theorem find?_bind (F : Frame) (id n : String) (binding : Binding) :
    (F.bind id binding).find? n = if n = id then some binding else F.find? n := by
  obtain ⟨names, bindings⟩ := F
  rw [bind, find?, find?, List.zip_cons_cons, List.lookup_cons]
  by_cases is : n = id
  · simp [is]
  · simp [is, beq_eq_false_iff_ne.mpr is]

@[simp] theorem bindAll_nil (F : Frame) : F.bindAll [] = F := rfl

@[simp] theorem bindAll_cons (F : Frame) (b : String × Binding) (bs : List (String × Binding)) :
    F.bindAll (b :: bs) = (F.bind b.1 b.2).bindAll bs := rfl

theorem bindAll_append (F : Frame) (bs cs : List (String × Binding)) :
    F.bindAll (bs ++ cs) = (F.bindAll bs).bindAll cs := List.foldl_append

theorem find?_bindAll_of_notMem {bs : List (String × Binding)} {n : String} (h : n ∉ bs.map Prod.fst) :
    (F.bindAll bs).find? n = F.find? n := by
  induction bs generalizing F with
  | nil => rfl
  | cons b bs ih =>
    rw [List.map_cons, List.mem_cons, not_or] at h
    rw [bindAll_cons, ih h.2, find?_bind, if_neg h.1]

theorem find?_bindAll {bs : List (String × Binding)} {n : String} {binding : Binding}
    (found : (F.bindAll bs).find? n = some binding) : (n, binding) ∈ bs ∨ F.find? n = some binding := by
  induction bs generalizing F with
  | nil => exact .inr found
  | cons b bs ih =>
    rcases ih found with h | h
    · exact .inl (List.mem_cons_of_mem b h)
    · rw [find?_bind] at h
      split at h
      · next is =>
        cases h
        exact .inl (is ▸ List.mem_cons_self)
      · exact .inr h

theorem exists_find?_bindAll {bs : List (String × Binding)} {n : String} (h : n ∈ bs.map Prod.fst) :
    ∃ c, (F.bindAll bs).find? n = some c ∧ (n, c) ∈ bs := by
  induction bs generalizing F with
  | nil => cases h
  | cons b bs ih =>
    by_cases later : n ∈ bs.map Prod.fst
    · obtain ⟨c, found, hc⟩ := ih later (F := F.bind b.1 b.2)
      exact ⟨c, found, List.mem_cons_of_mem b hc⟩
    · obtain rfl : n = b.1 := by simpa [later] using h
      refine ⟨b.2, ?_, List.mem_cons_self⟩
      rw [bindAll_cons, find?_bindAll_of_notMem later, find?_bind, if_pos rfl]

theorem find?_bindAll_of_only {bs : List (String × Binding)} {n : String} {binding : Binding}
    (h : (n, binding) ∈ bs) (only : ∀ c, (n, c) ∈ bs → c = binding) :
    (F.bindAll bs).find? n = some binding := by
  obtain ⟨c, found, hc⟩ := exists_find?_bindAll (List.mem_map_of_mem h)
  rw [found, only c hc]

end Frame

@[simp] theorem liftM_ok {α : Type} (a : α) : (liftM (Except.ok a : Except Fault α) : RunM α) = pure a :=
  rfl

@[simp] theorem liftM_pure {α : Type} (a : α) :
    (liftM (pure a : Except Fault α) : RunM α) = pure a := rfl

/-- Calls of what is neither a function of the program nor a primitive are made as usual. -/
def CallFn.Serves (callFn : CallFn) : Prop := ∃ engine inner, callFn = callOnce engine inner

section Evaluation

variable {callFn : CallFn} {frames : List Frame} {id : String} {v : Value}

theorem visit_plain {e : Expr} (plain : isSite e = false) (run : RunM Value) : visit e run = run := by
  simp [visit, plain]

theorem nameValue_of_lookup (h : lookup id frames = some v) : nameValue frames id = .ok v := by
  rw [nameValue, h]
  rfl

theorem eval_own (h : lookup id frames = some v) :
    eval callFn frames (.own id) = pure v := by
  rw [eval, visit_plain rfl, nameValue_of_lookup h]
  rfl

theorem toString_ofString (s : String) : (Text.CodePoints.ofString s).toString = s := by
  rw [Text.CodePoints.toString, Text.CodePoints.codes_ofString, List.map_map]
  have back : ((fun code => if code.isValidChar then Char.ofNat code else Char.ofNat 0xfffd) ∘ Char.toNat) =
      id := by
    funext c
    have valid : c.toNat.isValidChar := c.valid
    simp [Function.comp, valid]
  rw [back, List.map_id, String.ofList_toList]

theorem eval_str (s : String) :
    eval callFn frames (.str s) = pure (.text s .constant) := by
  rw [Expr.str, eval, visit_plain rfl]
  change (liftM (constantValue (.text (Text.CodePoints.ofString s) _)) : RunM Value) = _
  rw [constantValue, toString_ofString]
  rfl

theorem eval_member (h : lookup id frames = some v) (attr : String) :
    eval callFn frames (.member (.own id) attr) = memberValue v attr := by
  rw [eval, visit_plain rfl, eval_own h, pure_bind]

theorem eval_componentMember {names : List String} {values : List Value}
    (h : lookup componentName frames = some (.component names values)) (property : String) :
    eval callFn frames (componentMember property) = memberValue (.component names values) property := by
  rw [componentMember, eval_member h]

theorem evalItems_cons {e : Expr} {es : List Expr} (plain : ∀ x, e ≠ .starred x) :
    evalItems callFn frames (e :: es) = do
      let v ← eval callFn frames e
      return v :: (← evalItems callFn frames es) := by
  rw [evalItems]
  exact plain

theorem evalItems_map {es : List Expr} (plain : ∀ e ∈ es, ∀ x, e ≠ .starred x) :
    evalItems callFn frames es = es.mapM (eval callFn frames) := by
  induction es with
  | nil =>
    rw [evalItems]
    rfl
  | cons e es ih =>
    rw [evalItems_cons (plain e List.mem_cons_self), List.mapM_cons,
      ih fun x hx => plain x (List.mem_cons_of_mem e hx)]

end Evaluation

section Statements

variable {callFn : CallFn} {F : Frame} {outer : List Frame} {rest : List Stmt}

theorem exec_definitions (functions : List Function) :
    exec callFn F outer (functions.map definition ++ rest) =
      exec callFn (F.bindAll (functions.map fun f => (f.name, .helper f.signature f.body))) outer rest := by
  induction functions generalizing F with
  | nil => rfl
  | cons f functions ih =>
    rw [List.map_cons, List.cons_append, definition, exec, ih]
    rfl

theorem bindNames_own {names : List String} {vs : List Value} (size : vs.length = names.length) :
    bindNames (names.map .own) vs F =
      .ok (F.bindAll ((names.zip vs).map fun b => (b.1, .value b.2.keep))) := by
  induction names generalizing vs F with
  | nil =>
    rw [List.length_eq_zero_iff.mp size]
    rfl
  | cons n names ih =>
    obtain ⟨v, vs, rfl⟩ := List.exists_cons_of_length_eq_add_one size
    rw [List.map_cons, bindNames, ih (by simpa using size)]
    rfl

theorem mapM_bind_congr {α β γ : Type} {xs : List α} {f : α → RunM β} {g g' : List β → RunM γ}
    (h : ∀ ys, ys.length = xs.length → g ys = g' ys) : xs.mapM f >>= g = xs.mapM f >>= g' := by
  induction xs generalizing g g' with
  | nil => simpa using h [] rfl
  | cons x xs ih =>
    rw [List.mapM_cons, bind_assoc, bind_assoc]
    refine congrArg (f x >>= ·) (funext fun y => ?_)
    rw [bind_assoc, bind_assoc]
    refine ih fun ys size => ?_
    rw [pure_bind, pure_bind]
    exact h (y :: ys) (by simp [size])

theorem exec_destructure {bindings : List (String × Expr)}
    (some : bindings ≠ []) (plain : ∀ b ∈ bindings, ∀ x, b.2 ≠ .starred x) :
    exec callFn F outer (.destructure bindings :: rest) =
      ((bindings.map Prod.snd).mapM (eval callFn (F :: outer)) >>= fun vs =>
        exec callFn (F.bindAll (((bindings.map Prod.fst).zip vs).map fun b => (b.1, .value b.2.keep))) outer
          rest) := by
  unfold Stmt.destructure
  split
  · rw [exec]
    simp [assign, Frame.bindValue]
  · have items : ∀ e ∈ bindings.map Prod.snd, ∀ x, e ≠ .starred x := by
      intro e he
      obtain ⟨b, hb, rfl⟩ := List.mem_map.mp he
      exact plain b hb
    have names : (bindings.map fun b => Expr.own b.1) = (bindings.map Prod.fst).map .own := by
      rw [List.map_map]
      rfl
    rw [exec, eval, visit_plain rfl, evalItems_map items, bind_assoc]
    refine mapM_bind_congr fun vs size => ?_
    rw [pure_bind, assign, names, bindNames_own (by simpa using size)]
    rfl

/-- The local names of properties, with the values that were read. -/
def hoists (p : Spot) (vs : List Value) : List (String × Binding) :=
  (p.hoisted.zip vs).map fun x => (x.1.localName, .value x.2.keep)

theorem exec_hoistStmts {names : List String} {values : List Value}
    (component : lookup componentName (F :: outer) = some (.component names values)) (p : Spot) :
    exec callFn F outer (p.collected.hoistStmts p.inherited ++ rest) =
      (p.hoisted.mapM (fun u => memberValue (.component names values) u.property) >>= fun vs =>
        exec callFn (F.bindAll (hoists p vs)) outer rest) := by
  have same : p.collected.hoisted p.inherited = p.hoisted := rfl
  unfold Region.hoistStmts hoists
  rw [same]
  split
  · next none => simp [none]
  · next some =>
    have read : (p.hoisted.map fun u => componentMember u.property).mapM (eval callFn (F :: outer)) =
        p.hoisted.mapM fun u => memberValue (.component names values) u.property := by
      rw [List.mapM_map]
      exact congrArg (p.hoisted.mapM ·) (funext fun u => eval_componentMember component u.property)
    rw [List.singleton_append, exec_destructure (by simpa using some) (by simp [componentMember])]
    simp only [List.map_map, Function.comp_def]
    rw [read]
    refine mapM_bind_congr fun vs _ => ?_
    simp [List.zip_map_left, Function.comp_def]

theorem exec_primitiveStmts (engine : lookup apiName (F :: outer) = some .engine)
    (primitives : List Primitive) :
    exec callFn F outer (primitiveStmts primitives ++ rest) =
      exec callFn (F.bindAll (primitives.map fun q => (q.localName, .value (.primitive q)))) outer rest := by
  have taken (q : Primitive) : eval callFn (F :: outer) (.member (.own apiName) q.member) =
      pure (.primitive q) := by
    rw [eval_member engine]
    cases q <;> rfl
  have all (qs : List Primitive) : (qs.map fun q => Expr.member (.own apiName) q.member).mapM
      (eval callFn (F :: outer)) = pure (qs.map .primitive) := by
    induction qs with
    | nil => rfl
    | cons q qs ih =>
      rw [List.map_cons, List.mapM_cons, taken, ih]
      rfl
  unfold primitiveStmts
  split
  · rfl
  · next some =>
    rw [List.singleton_append, exec_destructure (by simpa using some) (by simp)]
    simp only [List.map_map, Function.comp_def]
    rw [all, pure_bind]
    simp [List.zip_map', Function.comp_def, Value.keep]

theorem lookup_value {G : Frame} {id : String} {v : Value} (h : G.find? id = some (.value v)) :
    lookup id (G :: outer) = some v := by
  rw [lookup, h]

theorem exec_entries {mapping : String} {v : Value} {take : String → RunM Value}
    (entries : List (String × String)) (own : mapping ∉ entries.map Prod.snd)
    (here : F.find? mapping = some (.value v))
    (each : ∀ frames key, lookup mapping frames = some v →
      eval callFn frames (.apply (.member (.own mapping) "get") [.str key]) = take key) :
    exec callFn F outer (entries.map (fun s => takeEntry s.2 mapping s.1) ++ rest) =
      (entries.mapM (fun s => take s.1) >>= fun vs =>
        exec callFn (F.bindAll ((entries.zip vs).map fun x => (x.1.2, .value x.2.keep))) outer rest) := by
  induction entries generalizing F with
  | nil => simp
  | cons s entries ih =>
    rw [List.map_cons, List.mem_cons, not_or] at own
    rw [List.map_cons, List.cons_append, takeEntry, exec, each _ _ (lookup_value here), List.mapM_cons,
      bind_assoc]
    refine congrArg (take s.1 >>= ·) (funext fun u => ?_)
    have still : (F.bindValue s.2 u).find? mapping = some (.value v) := by
      rw [Frame.bindValue, Frame.find?_bind, if_neg own.1, here]
    simp only [assign, liftM_pure, pure_bind, bind_assoc, ih own.2 still]
    rfl

theorem eval_get {mapping : String} {v : Value} {frames : List Frame}
    (h : lookup mapping frames = some v) (key : String) :
    eval callFn frames (.apply (.member (.own mapping) "get") [.str key]) =
      (memberValue v "get" >>= fun f => callFn f [.text key .constant] []) := by
  have site : isSite (.apply (.member (.own mapping) "get") [.str key]) = false := rfl
  rw [Expr.apply] at site ⊢
  rw [eval, visit_plain site, eval_member h, evalItems_cons (by simp [Expr.str]),
    eval_str, evalItems, evalKeywords]
  simp

theorem mapM_pure {α β : Type} (f : α → β) (xs : List α) :
    xs.mapM (fun x => (pure (f x) : RunM β)) = pure (xs.map f) := by
  induction xs with
  | nil => rfl
  | cons x xs ih =>
    rw [List.mapM_cons, ih]
    rfl

theorem exec_slots (serves : callFn.Serves) {keys : List String}
    {values : List Value} (entries : List (String × String)) (own : slotSetName ∉ entries.map Prod.snd)
    (here : F.find? slotSetName = some (.value (.dict keys values))) :
    exec callFn F outer (entries.map (fun s => takeEntry s.2 slotSetName s.1) ++ rest) =
      exec callFn (F.bindAll (entries.map fun s =>
        (s.2, .value (((keys.zip values).lookup s.1).getD .none).keep))) outer rest := by
  obtain ⟨engine, inner, calls⟩ := serves
  have each : ∀ frames key, lookup slotSetName frames = some (.dict keys values) →
      eval callFn frames (.apply (.member (.own slotSetName) "get") [.str key]) =
        pure (((keys.zip values).lookup key).getD .none) := by
    intro frames key found
    rw [eval_get found, calls]
    rfl
  rw [exec_entries entries own here each, mapM_pure, pure_bind, ← List.map_prod_left_eq_zip,
    List.map_map]
  rfl

theorem run_memos (serves : callFn.Serves) (names : List String)
    (own : contextName ∉ names) (here : F.find? contextName = some (.value .context)) (w : World) :
    (exec callFn F outer (names.map (fun m => takeEntry m contextName m) ++ rest)).run.run w =
      (exec callFn (F.bindAll (names.map fun m => (m, .value ((w.context.get? m).getD .none).keep))) outer
        rest).run.run w := by
  obtain ⟨engine, inner, calls⟩ := serves
  have each : ∀ frames key, lookup contextName frames = some .context →
      eval callFn frames (.apply (.member (.own contextName) "get") [.str key]) = contextValue key := by
    intro frames key found
    rw [eval_get found, calls]
    rfl
  have all (ms : List String) : ((ms.map fun m => (m, m)).mapM fun s => contextValue s.1).run.run w =
      (.ok (ms.map fun m => (w.context.get? m).getD .none), w) := by
    induction ms with
    | nil => rfl
    | cons m ms ih =>
      have first : (contextValue m).run.run w = (.ok ((w.context.get? m).getD .none), w) := rfl
      rw [List.map_cons, List.mapM_cons, run_bind]
      simp only [first, run_bind, ih]
      rfl
  have entries : (names.map fun m => takeEntry m contextName m) =
      (names.map fun m => (m, m)).map fun s => takeEntry s.2 contextName s.1 := by
    rw [List.map_map]
    rfl
  have others : contextName ∉ (names.map fun m => (m, m)).map Prod.snd := by
    simpa [Function.comp_def] using own
  rw [entries, exec_entries _ others here each, run_bind, all]
  simp only [List.zip_map', List.map_map, Function.comp_def]

end Statements

/-- What a render works with: the draft of its program, what is bound around the render function, the
properties of the component, what is slotted, and what the context holds when it starts. -/
structure Stage where
  draft : Generate.Draft
  outer : Frame
  properties : Table Data
  slots : Table Data
  kept : Table Value

namespace Stage

variable (σ : Stage)

def closure (p : Spot) (frames : List Frame) : Value :=
  .closure (σ.draft.code p).name (σ.draft.code p).signature (σ.draft.code p).body frames

abbrev helpers (p : Spot) : List (String × Binding) :=
  (p.children.map fun c => σ.draft.code (p.child c)).map fun f => (f.name, .helper f.signature f.body)

def fields : List Value := σ.properties.entries.map fun (name, value) => Value.ofData [name] value

def component : Value := .component σ.properties.keys σ.fields

/-- Reads the properties that a scope keeps in local names. -/
def readAll (p : Spot) : RunM (List Value) := p.hoisted.mapM fun u => memberValue σ.component u.property

abbrev slotted (name : String) : Value :=
  ((σ.slots.keys.zip (σ.slots.entries.map fun (slot, value) => Value.ofData ["slot", slot] value)).lookup
    name).getD .none

def memo (name : String) : Value := (σ.kept.get? name).getD .none

def given : List Value := [.engine, σ.component, slotSetOf σ.slots, .context]

abbrev params : List (String × Binding) := (renderSignature.params.zip σ.given).map fun x => (x.1, .value x.2)

abbrev primitives : List (String × Binding) :=
  σ.draft.emitter.primitives.map fun q => (q.localName, .value (.primitive q))

abbrev slotBindings : List (String × Binding) :=
  σ.draft.emitter.slots.entries.map fun s => (s.2, .value (σ.slotted s.1).keep)

abbrev memoBindings : List (String × Binding) :=
  σ.draft.emitter.memoNames.map fun m => (m, .value (σ.memo m).keep)

def top (p : Spot) (vs : List Value) : List (String × Binding) :=
  σ.params ++ (σ.primitives ++ (hoists p vs ++ (σ.helpers p ++ (σ.slotBindings ++ σ.memoBindings))))

/-- Gathers what an iterator tells in a variable, if there is one. -/
def gather (callFn : CallFn) (frames : List Frame) (iterator : Option String) (F : Frame) : RunM Frame :=
  match iterator with
  | none => pure F
  | some it => do
    let v ← eval callFn (F :: frames) (namespaceValue it)
    return F.bindValue it v

/-- A helper reads its properties, defines its helpers and gathers what an iterator tells before it
returns. -/
def entered (callFn : CallFn) (frames : List Frame) (p : Spot) (args : List Value) : RunM Value := do
  let F ← liftM (bindArguments (σ.draft.code p).signature args)
  let vs ← σ.readAll p
  let G ← gather callFn frames (iterator? p) ((F.bindAll (hoists p vs)).bindAll (σ.helpers p))
  eval callFn (G :: frames) (σ.draft.result p)

variable {σ} {U : Uses} {callFn : CallFn} {engine : Engine} {p q : Spot} {above : List Spot}
  {frames : List Frame} {args : List Value}

theorem exec_gathering {F : Frame} {iterator : Option String} {e : Expr} :
    exec callFn F frames (gathering iterator ++ [.ret e]) =
      (gather callFn frames iterator F >>= fun G => eval callFn (G :: frames) e) := by
  cases iterator with
  | none =>
    rw [gather, pure_bind]
    rfl
  | some it =>
    rw [gather, gathering]
    simp only [Option.toList_some, List.map_cons, List.map_nil, List.cons_append, List.nil_append, exec,
      assign, liftM_pure, pure_bind, bind_assoc]

theorem callOnce_helper (made : σ.draft.Made U) (here : (q :: above, p) ∈ σ.draft.scopes)
    (component : ∀ F, bindArguments (σ.draft.code p).signature args = .ok F →
      lookup componentName (F :: frames) = some σ.component) :
    callOnce engine callFn (σ.closure p frames) args [] =
      (noteCall (.function (σ.draft.code p).name args) >>= fun _ => σ.entered callFn frames p args) := by
  rw [closure, callOnce]
  refine congrArg (noteCall _ >>= ·) (funext fun _ => ?_)
  unfold entered
  cases bound : bindArguments (σ.draft.code p).signature args with
  | error fault => rfl
  | ok F =>
    rw [liftM_ok, pure_bind, pure_bind, made.code_helper here]
    rw [List.append_assoc, List.append_assoc, exec_hoistStmts (component F bound)]
    refine congrArg (σ.readAll p >>= ·) (funext fun vs => ?_)
    have functions : (p.children.map fun c => definition (σ.draft.code (p.child c))) =
        (p.children.map fun c => σ.draft.code (p.child c)).map definition := by
      rw [List.map_map]
      rfl
    rw [functions, exec_definitions, exec_gathering]

/-- What the render function binds, by kinds. -/
inductive Binds (σ : Stage) (p : Spot) (vs : List Value) : String → Binding → Prop
  | given {x : String × Value} (h : x ∈ renderSignature.params.zip σ.given) : Binds σ p vs x.1 (.value x.2)
  | primitive {q : Primitive} (h : q ∈ σ.draft.emitter.primitives) :
      Binds σ p vs q.localName (.value (.primitive q))
  | property {x : Usage × Value} (h : x ∈ p.hoisted.zip vs) : Binds σ p vs x.1.localName (.value x.2.keep)
  | helper {c : Tree} (h : c ∈ p.children) : Binds σ p vs (σ.draft.code (p.child c)).name
      (.helper (σ.draft.code (p.child c)).signature (σ.draft.code (p.child c)).body)
  | slot {s : String × String} (h : s ∈ σ.draft.emitter.slots.entries) :
      Binds σ p vs s.2 (.value (σ.slotted s.1).keep)
  | memo {m : String} (h : m ∈ σ.draft.emitter.memoNames) : Binds σ p vs m (.value (σ.memo m).keep)

theorem binds_iff {vs : List Value} {n : String} {b : Binding} :
    (n, b) ∈ σ.top p vs ↔ Binds σ p vs n b := by
  simp only [top, params, primitives, hoists, helpers, slotBindings, memoBindings, List.mem_append,
    List.mem_map, Prod.mk.injEq]
  constructor
  · rintro (⟨x, hx, rfl, rfl⟩ | ⟨q, hq, rfl, rfl⟩ | ⟨x, hx, rfl, rfl⟩ | ⟨f, ⟨c, hc, rfl⟩, rfl, rfl⟩ |
      ⟨s, hs, rfl, rfl⟩ | ⟨m, hm, rfl, rfl⟩)
    · exact .given hx
    · exact .primitive hq
    · exact .property hx
    · exact .helper hc
    · exact .slot hs
    · exact .memo hm
  · intro h
    cases h with
    | given hx => exact .inl ⟨_, hx, rfl, rfl⟩
    | primitive hq => exact .inr (.inl ⟨_, hq, rfl, rfl⟩)
    | property hx => exact .inr (.inr (.inl ⟨_, hx, rfl, rfl⟩))
    | helper hc => exact .inr (.inr (.inr (.inl ⟨_, ⟨_, hc, rfl⟩, rfl, rfl⟩)))
    | slot hs => exact .inr (.inr (.inr (.inr (.inl ⟨_, hs, rfl, rfl⟩))))
    | memo hm => exact .inr (.inr (.inr (.inr (.inr ⟨_, hm, rfl, rfl⟩))))

section Names

variable {vs : List Value} {n : String} {b c : Binding} (made : σ.draft.Made U)
  (here : (above, p) ∈ σ.draft.scopes)
include made here

theorem name_child {t : Tree} (h : t ∈ p.children) :
    (σ.draft.code (p.child t)).name = t.region.helperName ∧ IsHelperName t.region.helperName := by
  obtain ⟨has, named⟩ := made.child here h
  obtain ⟨helper, some⟩ := Option.ne_none_iff_exists'.mp has
  refine ⟨?_, named⟩
  simp [Draft.code, Function.substitute, Draft.function, Spot.child, some]

theorem isLocalName_zip {x : Usage × Value} (h : x ∈ p.hoisted.zip vs) : IsLocalName x.1.localName := by
  obtain ⟨loops, nested⟩ := made.nestedAt here
  exact isLocalName_hoisted nested (List.of_mem_zip h).1

theorem Binds.plain (h : Binds σ p vs n b) :
    IsLocalName n ∧ (∃ x ∈ p.hoisted.zip vs, n = x.1.localName ∧ b = .value x.2.keep) ∨
      IsHelperName n ∧ (∃ t ∈ p.children, n = t.region.helperName ∧
        b = .helper (σ.draft.code (p.child t)).signature (σ.draft.code (p.child t)).body) ∨
      IsPlainName n := by
  cases h with
  | @given x hx =>
    have all : ∀ m ∈ renderSignature.params, IsPlainName m := by
      have digits : ∀ m ∈ renderSignature.params, endsInDigit m = false := by decide
      exact fun m hm => .inl (digits m hm)
    exact .inr (.inr (all x.1 (List.of_mem_zip hx).1))
  | @primitive q hq => exact .inr (.inr (isPlainName_primitive q))
  | @property x hx => exact .inl ⟨isLocalName_zip made here hx, x, hx, rfl, rfl⟩
  | @helper t ht =>
    obtain ⟨name, named⟩ := name_child made here ht
    exact .inr (.inl ⟨name ▸ named, t, ht, name, rfl⟩)
  | @slot s hs =>
    refine .inr (.inr (isPlainName_taken made.formed ?_))
    exact List.mem_append_left _ (List.mem_append_right _ (List.mem_map_of_mem hs))
  | memo hm => exact .inr (.inr (isPlainName_taken made.formed (List.mem_append_right _ hm)))

theorem zip_unique (size : vs.length = p.hoisted.length) {x y : Usage × Value}
    (hx : x ∈ p.hoisted.zip vs) (hy : y ∈ p.hoisted.zip vs) (same : x.1.localName = y.1.localName) :
    x = y := by
  obtain ⟨loops, nested⟩ := made.nestedAt here
  have distinct : ((p.hoisted.zip vs).map fun z => z.1.localName).Nodup := by
    have names := nodup_hoisted nested
    rwa [← List.map_fst_zip (Nat.le_of_eq size.symm), List.map_map] at names
  exact List.inj_on_of_nodup_map distinct hx hy same

theorem child_unique {t u : Tree} (ht : t ∈ p.children) (hu : u ∈ p.children)
    (same : t.region.helperName = u.region.helperName) : p.child t = p.child u := by
  have first := Tree.spots_child here ht
  have second := Tree.spots_child here hu
  obtain ⟨_, nested⟩ := made.nestedAt first
  obtain ⟨_, nested'⟩ := made.nestedAt second
  obtain ⟨⟨j, hj⟩, kind⟩ := nested.named nested.helper_ne_none
  obtain ⟨⟨k, hk⟩, kind'⟩ := nested'.named nested'.helper_ne_none
  have ids : t.region.id = u.region.id := by
    have names := hj.symm.trans (same.trans hk)
    exact (Context.helperName_injective (isDigit_label kind) (isDigit_label kind') names).1
  exact congrArg Prod.snd (made.scope_unique first second ids)

omit here in
theorem slotName_of_mem {s : String × String} (hs : s ∈ σ.draft.emitter.slots.entries) :
    ∃ k, s.2 = slotLocalName k := by
  have named : s.2 ∈ σ.draft.emitter.slots.values := List.mem_map_of_mem hs
  rw [made.formed.slots] at named
  obtain ⟨k, -, is⟩ := List.mem_map.mp named
  exact ⟨k, is.symm⟩

/-- Of the plain names, those of slots and kept handlers end in digits. -/
theorem Binds.numbered (plain : IsPlainName n) (h : Binds σ p vs n b) :
    endsInDigit n = false ∧ ((∃ x ∈ renderSignature.params.zip σ.given, n = x.1 ∧ b = .value x.2) ∨
        ∃ q : Primitive, n = q.localName ∧ b = .value (.primitive q)) ∨
      endsInDigit n = true ∧ ((∃ s ∈ σ.draft.emitter.slots.entries, n = s.2 ∧ b = .value (σ.slotted s.1).keep) ∨
        n ∈ σ.draft.emitter.memoNames ∧ b = .value (σ.memo n).keep) := by
  cases h with
  | @given x hx =>
    have params : ∀ m ∈ renderSignature.params, endsInDigit m = false := by decide
    exact .inl ⟨params x.1 (List.of_mem_zip hx).1, .inl ⟨x, hx, rfl, rfl⟩⟩
  | @primitive q hq => exact .inl ⟨by cases q <;> decide, .inr ⟨q, rfl, rfl⟩⟩
  | @property x hx => exact absurd plain (isLocalName_zip made here hx).not_plain
  | @helper t ht =>
    obtain ⟨name, named⟩ := name_child made here ht
    exact absurd plain (name ▸ named.not_plain)
  | @slot s hs =>
    obtain ⟨k, is⟩ := slotName_of_mem made hs
    exact .inr ⟨is ▸ endsInDigit_number _ _, .inl ⟨s, hs, rfl, rfl⟩⟩
  | memo hm =>
    obtain ⟨k, -, is⟩ := List.mem_map.mp hm
    exact .inr ⟨is ▸ endsInDigit_number _ _, .inr ⟨hm, rfl⟩⟩

theorem Binds.unique_of_plain (plain : IsPlainName n) (h : Binds σ p vs n b) (h' : Binds σ p vs n c) :
    c = b := by
  have params : ((renderSignature.params.zip σ.given).map Prod.fst).Nodup := by
    have names : renderSignature.params.Nodup := by decide
    rwa [List.map_fst_zip (by simp [renderSignature, Stage.given])]
  have other {x : String × Value} (hx : x ∈ renderSignature.params.zip σ.given) (q : Primitive) :
      x.1 ≠ q.localName := by
    have names : q.localName ∉ renderSignature.params := by cases q <;> decide
    exact fun is => names (is ▸ (List.of_mem_zip hx).1)
  have slots : (σ.draft.emitter.slots.entries.map Prod.snd).Nodup := by
    rw [show σ.draft.emitter.slots.entries.map Prod.snd = _ from made.formed.slots]
    refine List.nodup_range.map fun j k same => ?_
    have lists := congrArg String.toList same
    simp only [toList_slotLocalName, List.cons.injEq, true_and, List.append_cancel_left_eq] at lists
    exact number_injective lists
  have apart {s : String × String} (hs : s ∈ σ.draft.emitter.slots.entries) :
      s.2 ∉ σ.draft.emitter.memoNames := by
    intro hm
    obtain ⟨j, is⟩ := slotName_of_mem made hs
    obtain ⟨k, -, same⟩ := List.mem_map.mp hm
    have lists := congrArg String.toList (same.trans is)
    simp [toList_memoName, toList_slotLocalName] at lists
  rcases h.numbered made here plain with ⟨digit, h⟩ | ⟨digit, h⟩ <;>
    rcases h'.numbered made here plain with ⟨digit', h'⟩ | ⟨digit', h'⟩
  · rcases h with ⟨x, hx, rfl, rfl⟩ | ⟨q, rfl, rfl⟩ <;> rcases h' with ⟨y, hy, is, rfl⟩ | ⟨r, is, rfl⟩
    · rw [List.inj_on_of_nodup_map params hx hy is]
    · exact absurd is (other hx r)
    · exact absurd is.symm (other hy q)
    · rw [Primitive.localName_injective is]
  · cases digit.symm.trans digit'
  · cases digit.symm.trans digit'
  · rcases h with ⟨s, hs, rfl, rfl⟩ | ⟨hm, rfl⟩ <;> rcases h' with ⟨r, hr, is, rfl⟩ | ⟨hm', rfl⟩
    · rw [List.inj_on_of_nodup_map slots hs hr is]
    · exact absurd hm' (apart hs)
    · exact absurd (is ▸ hm) (apart hr)
    · rfl

theorem Binds.unique (size : vs.length = p.hoisted.length) (h : Binds σ p vs n b)
    (h' : Binds σ p vs n c) : c = b := by
  rcases h.plain made here with ⟨own, x, hx, nx, rfl⟩ | ⟨own, t, ht, nt, rfl⟩ | plain
  · rcases h'.plain made here with ⟨-, y, hy, ny, rfl⟩ | ⟨other, -⟩ | other
    · rw [zip_unique made here size hx hy (nx.symm.trans ny)]
    · exact absurd other own.not_helper
    · exact absurd other own.not_plain
  · rcases h'.plain made here with ⟨other, -⟩ | ⟨-, u, hu, nu, rfl⟩ | other
    · exact absurd own other.not_helper
    · rw [child_unique made here ht hu (nt.symm.trans nu)]
    · exact absurd other own.not_plain
  · exact h.unique_of_plain made here plain h'

theorem find?_top (vs : List Value) (size : vs.length = p.hoisted.length) {bs : List (String × Binding)}
    (part : bs ⊆ σ.top p vs) (h : (n, b) ∈ bs) : (Frame.empty.bindAll bs).find? n = some b :=
  Frame.find?_bindAll_of_only h fun _ hc =>
    (binds_iff.mp (part h)).unique made here size (binds_iff.mp (part hc))

end Names

/-- The values that the local names of a scope get. -/
def Reads (σ : Stage) (p : Spot) (vs : List Value) : Prop :=
  List.Forall₂ (fun (u : Usage) v => fieldOf σ.properties.keys σ.fields u.property = .ok v) p.hoisted vs

theorem keeps_readAll {I : Invariant}
    (may : ∀ u ∈ p.hoisted, ∀ k w, I.holds k w →
      I.holds k { w with reads := w.reads ++ [u.property] }) :
    Keeps I 0 (σ.readAll p) (σ.Reads p) := by
  unfold readAll Reads
  generalize p.hoisted = us at may ⊢
  induction us with
  | nil => exact .pure .nil
  | cons u us ih =>
    have first : Keeps I 0 (memberValue σ.component u.property)
        fun v => fieldOf σ.properties.keys σ.fields u.property = .ok v := by
      rw [component, memberValue]
      refine Keeps.andThen (Q := fun _ => True) (fun k w hw => ?_) fun _ _ => .lift fun _ is => is
      exact ⟨may u List.mem_cons_self k w hw, fun _ _ => trivial⟩
    rw [List.mapM_cons]
    refine first.andThen fun v hv => ?_
    refine (ih fun x hx => may x (List.mem_cons_of_mem u hx)).andThen fun vs hvs => ?_
    exact .pure (.cons hv hvs)

/-- Worlds whose context is as told. -/
def holding (context : Table Value) : Invariant where
  holds _ w := w.context = context
  more h := h
  registry h := h

/-- The render function takes its primitives, reads its properties, defines its helpers and takes slots and
kept handlers before it returns. -/
theorem run_render (made : σ.draft.Made U) (here : ([], p) ∈ σ.draft.scopes)
    (serves : callFn.Serves) {w : World} (start : w.context = σ.kept) :
    (callOnce engine callFn (σ.closure p [σ.outer]) σ.given []).run.run w = (do
      noteCall (.function renderName σ.given)
      let vs ← σ.readAll p
      eval callFn [Frame.empty.bindAll (σ.top p vs), σ.outer] (σ.draft.result p) : RunM Value).run.run w := by
  obtain ⟨name, signature, body⟩ := made.code_root here
  have bound : bindArguments renderSignature σ.given = .ok (Frame.empty.bindAll σ.params) := rfl
  have api : lookup apiName [Frame.empty.bindAll σ.params, σ.outer] = some .engine := rfl
  have noted : Keeps (holding σ.kept) 0 (noteCall (.function renderName σ.given)) fun _ => True :=
    fun _ _ hw => ⟨hw, fun _ _ => trivial⟩
  rw [closure, name, signature, callOnce, bound, body]
  refine noted.run_congr (j := 0) start fun _ w₁ _ start => ?_
  have component : lookup componentName [Frame.empty.bindAll (σ.params ++ σ.primitives), σ.outer] =
      some σ.component := by
    -- before the properties are read, any values may stand for theirs
    refine lookup_value (find?_top made here (p.hoisted.map fun _ => .none) (by simp) ?_
      (List.mem_append_left _ (List.mem_of_getElem? (i := 1) rfl)))
    simp [top]
  simp only [liftM_ok, pure_bind, List.append_assoc]
  rw [exec_primitiveStmts api, ← Frame.bindAll_append, exec_hoistStmts component]
  refine (keeps_readAll (I := holding σ.kept) fun _ _ _ _ hw => hw).run_congr (j := 0) start
    fun vs w₂ read start => ?_
  have size := read.length_eq.symm
  have functions : (p.children.map fun c => definition (σ.draft.code (p.child c))) =
      (p.children.map fun c => σ.draft.code (p.child c)).map definition := by
    rw [List.map_map]
    rfl
  have digits : ∀ n ∈ renderSignature.params, endsInDigit n = false := by decide
  have taken {n : String} (hn : n ∈ renderSignature.params) (base : String) (k : Nat) :
      base ++ toString k ≠ n := by
    rintro rfl
    have digit := digits _ hn
    rw [endsInDigit_number] at digit
    cases digit
  have slots : slotSetName ∉ σ.draft.emitter.slots.entries.map Prod.snd := by
    have values : σ.draft.emitter.slots.entries.map Prod.snd = _ := made.formed.slots
    rw [values, List.mem_map]
    rintro ⟨k, -, is⟩
    exact taken (by decide) _ k is
  have memos : contextName ∉ σ.draft.emitter.memoNames := by
    rw [Emitter.memoNames, List.mem_map]
    rintro ⟨k, -, is⟩
    exact taken (by decide) _ k is
  have mapping : (Frame.empty.bindAll (σ.params ++ σ.primitives ++ (hoists p vs ++ σ.helpers p))).find?
      slotSetName = some (.value (slotSetOf σ.slots)) := by
    refine find?_top made here vs size (fun x hx => ?_)
      (by simp [List.mem_of_getElem? (l := σ.params) (i := 2) rfl])
    simp only [top, List.mem_append] at hx ⊢
    tauto
  have context : (Frame.empty.bindAll (σ.params ++ σ.primitives ++ (hoists p vs ++ σ.helpers p) ++
      σ.slotBindings)).find? contextName = some (.value .context) := by
    refine find?_top made here vs size (fun x hx => ?_)
      (by simp [List.mem_of_getElem? (l := σ.params) (i := 3) rfl])
    simp only [top, List.mem_append] at hx ⊢
    tauto
  rw [functions, exec_definitions, ← Frame.bindAll_append, ← Frame.bindAll_append,
    exec_slots serves σ.draft.emitter.slots.entries slots mapping, ← Frame.bindAll_append,
    run_memos serves σ.draft.emitter.memoNames memos context w₂]
  have kept : w₂.context = σ.kept := start
  have split : σ.top p vs = σ.params ++ σ.primitives ++ (hoists p vs ++ σ.helpers p) ++ σ.slotBindings ++
      σ.memoBindings := by
    simp only [top, List.append_assoc]
  rw [kept, ← Frame.bindAll_append, split]
  rfl

end Stage

end TemplateCompiler.Render
