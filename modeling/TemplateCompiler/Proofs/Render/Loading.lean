import TemplateCompiler.Proofs.Render.Scenes

/-!
What loading a compiled template gives. The factory binds the namespace type and what the table of modules
has, all of it plain values. It gives the finished render function, closed over those values and its own
name. A render is then a call of that function on a stage.
-/

namespace TemplateCompiler.Generate

open TemplateCompiler.Code TemplateCompiler.Scope TemplateCompiler.Template

def Draft.outermost (d : Draft) : Spot := ⟨d.tree.region, d.tree.children, []⟩

theorem Draft.mem_outermost (d : Draft) : ([], d.outermost) ∈ d.scopes := by
  rw [scopes, outermost]
  cases d.tree with
  | node region children =>
    rw [Tree.spots]
    exact List.mem_cons_self

theorem Draft.definition_outermost {d : Draft} (top : d.tree.region.helper = none) :
    d.finished = definition (d.code d.outermost) := by
  have function : d.function d.outermost =
      ⟨renderName, renderSignature, renderBody d.emitter d.outermost.leading d.root⟩ := by
    simp only [Draft.function, outermost, top]
  have leading : d.outermost.leading = d.tree.collect.leading [] := by
    rw [Spot.leading, outermost]
    cases d.tree
    rfl
  rw [definition, code, function, leading]
  simp [Draft.finished, Draft.stmt, Stmt.substitute, Function.substitute]

theorem made_of_compile {config : Config} {root : Node} {compiled : Compiled} {d : Draft}
    (h : (compile config root).1 = .ok compiled) (hd : draft? config root = some d) :
    d.Made (admitted root.content) := by
  have accepted := accepted_of_validate (validate_of_compile h)
  cases root with
  | element e children => exact made_of_draft (blocksUse_arrange children accepted (List.Subset.refl _)) hd
  | _ => cases hd

end TemplateCompiler.Generate

namespace TemplateCompiler.Render

open TemplateCompiler.Code TemplateCompiler.Generate TemplateCompiler.Scope TemplateCompiler.Template
open TemplateCompiler.Load

section Factory

variable {callFn : CallFn} {F : Frame} {rest : List Stmt} {Q : Value → Prop} {I : Invariant}

def Entries (references : List String) (vs : List Value) : Prop :=
  List.Forall₂ (fun reference v => ∃ e, v = Value.ofEntity reference e) references vs

abbrev bindings (names : List String) (vs : List Value) : List (String × Binding) :=
  (names.zip vs).map fun b => (b.1, .value b.2.keep)

theorem keeps_moduleLookups (xs : List (String × String))
    (table : F.find? modulesName = some (.value .modules)) (own : modulesName ∉ xs.map Prod.fst)
    (after : ∀ vs, Entries (xs.map Prod.snd) vs →
      Keeps I 0 (exec callFn (F.bindAll (bindings (xs.map Prod.fst) vs)) [] rest) Q) :
    Keeps I 0 (exec callFn F [] (xs.map (fun x => moduleLookup x.1 x.2) ++ rest)) Q := by
  induction xs generalizing F with
  | nil => exact after [] .nil
  | cons x xs ih =>
    rw [List.map_cons, List.mem_cons, not_or] at own
    have found : Keeps I 0 (eval callFn [F] (.subscript (.own modulesName) (.str x.2)))
        fun v => ∃ e, v = Value.ofEntity x.2 e := by
      rw [eval, visit_plain rfl, eval_own (lookup_value table), pure_bind, eval_str,
        pure_bind]
      exact keeps_moduleValue x.2
    rw [List.map_cons, List.cons_append, moduleLookup, exec]
    refine found.andThen fun v hv => ?_
    simp only [assign, liftM_pure, pure_bind]
    refine ih ?_ own.2 fun vs hvs => ?_
    · rw [Frame.bindValue, Frame.find?_bind, if_neg own.1, table]
    · exact after (v :: vs) (.cons hv hvs)

/-- What the factory has bound when it defines the render function. -/
def surrounding (emitter : Emitter) (classes helpers : List Value) : List (String × Binding) :=
  (modulesName, .value .modules) ::
    ((if emitter.usesNamespace then [(namespaceTypeName, .value .namespaceType)] else []) ++
      (bindings emitter.components.values classes ++ bindings emitter.runtimeHelpers helpers))

/-- What is bound around a loaded render function. -/
inductive Surrounds (emitter : Emitter) (f : Function) (F : Frame) : Prop
  | mk {classes helpers : List Value} {keys : List String} (components : Entries emitter.components.keys classes)
      (runtime : Entries keys helpers)
      (is : F = (Frame.empty.bindAll (surrounding emitter classes helpers)).bind renderName
        (.helper f.signature f.body)) : Surrounds emitter f F

theorem exec_definition {f : Function} (name : f.name = renderName) :
    exec callFn F [] [definition f, stylesheetsStmt, .ret (.own renderName)] =
      pure (.closure renderName f.signature f.body [F.bind renderName (.helper f.signature f.body)]) := by
  have found : lookup renderName [F.bind renderName (.helper f.signature f.body)] =
      some (.closure renderName f.signature f.body [F.bind renderName (.helper f.signature f.body)]) := by
    rw [lookup, Frame.find?_bind, if_pos rfl]
  rw [definition, name, exec, stylesheetsStmt, exec, eval, visit_plain rfl, evalItems]
  simp only [pure_bind, assign, liftM_pure, exec, eval_own found]

def anything : Invariant := ⟨fun _ _ => True, fun _ => trivial, fun _ => trivial⟩

/-- The factory of a render function gives that function, with what it bound around it. -/
theorem keeps_factory {runtimeModule : Data} {emitter : Emitter} {f : Function} {engine : Engine} {depth : Nat}
    (formed : emitter.Formed) (name : f.name = renderName) :
    Keeps anything 0 (callWithin engine (depth + 1)
        (.closure factoryName ⟨[modulesName], none⟩
          (innerStmts (factoryStmt runtimeModule emitter (definition f))) []) [.modules] [])
      fun v => ∃ F, v = .closure renderName f.signature f.body [F] ∧ Surrounds emitter f F := by
  let start : Frame := Frame.empty.bindAll [(modulesName, .value .modules)]
  let types : List (String × Binding) :=
    if emitter.usesNamespace then [(namespaceTypeName, .value .namespaceType)] else []
  have imports (rest : List Stmt) :
      exec (callWithin engine depth) start [] (namespaceImport emitter ++ rest) =
        exec (callWithin engine depth) (start.bindAll types) [] rest := by
    simp only [namespaceImport, types]
    split <;> rfl
  have first : modulesName ∉ types.map Prod.fst := by
    simp only [types]
    split <;> decide
  have classNames : modulesName ∉ (emitter.components.entries.map fun c => (c.2, c.1)).map Prod.fst := by
    rw [List.map_map, List.mem_map]
    rintro ⟨c, hc, is⟩
    have lists := congrArg String.toList ((formed.components c hc).symm.trans is)
    rw [toList_componentIdentifier] at lists
    simp [modulesName] at lists
  have helperNames : ∀ n ∈ emitter.runtimeHelpers, n ≠ modulesName := by
    intro n hn
    rw [List.mem_singleton.mp (formed.runtimeHelpers hn)]
    decide
  have table : (start.bindAll types).find? modulesName = some (.value .modules) := by
    rw [Frame.find?_bindAll_of_notMem first]
    rfl
  rw [callWithin, callOnce]
  refine Keeps.andThen (Q := fun _ => True) (fun k w hw => ⟨trivial, fun _ _ => trivial⟩) fun _ _ => ?_
  change Keeps anything 0 (exec _ start [] _) _
  simp only [innerStmts, factoryStmt, List.append_assoc]
  rw [imports]
  have classes : (emitter.components.entries.map fun c => moduleLookup c.2 c.1) =
      (emitter.components.entries.map fun c => (c.2, c.1)).map fun x => moduleLookup x.1 x.2 := by
    rw [List.map_map]
    rfl
  have helpers (key : String → String) : (emitter.runtimeHelpers.map fun h => moduleLookup h (key h)) =
      (emitter.runtimeHelpers.map fun h => (h, key h)).map fun x => moduleLookup x.1 x.2 := by
    rw [List.map_map]
    rfl
  rw [classes, helpers]
  refine keeps_moduleLookups _ table classNames fun cs hcs => ?_
  refine keeps_moduleLookups _ ?_ ?_ fun hs hhs => ?_
  · rw [Frame.find?_bindAll_of_notMem, table]
    intro listed
    obtain ⟨b, hb, is⟩ := List.mem_map.mp listed
    obtain ⟨x, hx, rfl⟩ := List.mem_map.mp hb
    exact classNames (is ▸ (List.of_mem_zip hx).1)
  · rw [List.map_map, List.mem_map]
    rintro ⟨n, hn, is⟩
    exact helperNames n hn is
  · rw [exec_definition name]
    have entries : Entries emitter.components.keys cs := by
      rw [List.map_map] at hcs
      exact hcs
    have names : (emitter.components.entries.map fun c => (c.2, c.1)).map Prod.fst =
        emitter.components.values := by
      rw [List.map_map]
      rfl
    have others : (emitter.runtimeHelpers.map fun h => (h, runtimeModule.display ++ ":" ++ h)).map Prod.fst =
        emitter.runtimeHelpers := by
      rw [List.map_map]
      exact List.map_id _
    refine .pure ⟨_, rfl, .mk entries hhs ?_⟩
    rw [names, others, surrounding, Frame.bindAll_cons, Frame.bindAll_append, Frame.bindAll_append]
    rfl

end Factory

namespace Surrounds

variable {emitter : Emitter} {f : Function} {F : Frame}

theorem plain_entries {names references : List String} {vs : List Value} (h : Entries references vs)
    {id : String} {v : Value} (listed : (id, .value v) ∈ bindings names vs) : v.Plain := by
  obtain ⟨x, hx, is⟩ := List.mem_map.mp listed
  cases is
  have taken := (List.of_mem_zip hx).2
  generalize x.2 = u at taken
  have all : ∀ u ∈ vs, u.Plain := by
    clear taken hx listed
    induction h with
    | nil => nofun
    | cons here _ ih =>
      obtain ⟨e, rfl⟩ := here
      exact List.forall_mem_cons.mpr ⟨Value.plain_iff.mpr (Value.holds_ofEntity _ e), ih⟩
  exact Value.plain_iff.mpr (Value.holds_keep.mpr (Value.plain_iff.mp (all u taken)))

theorem values (h : Surrounds emitter f F) {id : String} {v : Value} (found : F.find? id = some (.value v))
    (other : id ≠ modulesName) : v.Plain := by
  obtain ⟨components, runtime, rfl⟩ := h
  rw [Frame.find?_bind] at found
  split at found
  · cases found
  · rcases Frame.find?_bindAll found with listed | none
    · simp only [surrounding, List.mem_cons, List.mem_append, Prod.mk.injEq, Binding.value.injEq] at listed
      rcases listed with ⟨is, -⟩ | type | listed | listed
      · exact absurd is other
      · split at type
        · cases List.mem_singleton.mp type
          rfl
        · cases type
      · exact plain_entries components listed
      · exact plain_entries runtime listed
    · cases none

theorem helpers (h : Surrounds emitter f F) {id : String} {signature : Signature} {body : List Stmt}
    (found : F.find? id = some (.helper signature body)) : id = renderName := by
  obtain ⟨components, runtime, rfl⟩ := h
  rw [Frame.find?_bind] at found
  split at found
  · next is => exact is
  · rcases Frame.find?_bindAll found with listed | none
    · simp only [surrounding, bindings, List.mem_cons, List.mem_append, Prod.mk.injEq, reduceCtorEq,
        and_false, false_or, List.mem_map, exists_false, or_false] at listed
      split at listed
      · simp at listed
      · cases listed
    · cases none

theorem names (h : Surrounds emitter f F) {id : String} {b : Binding} (found : F.find? id = some b) :
    id ∈ emitter.outerNames ∨ id = renderName ∨ id = modulesName := by
  obtain ⟨components, runtime, rfl⟩ := h
  rw [Frame.find?_bind] at found
  split at found
  · next is => exact .inr (.inl is)
  · rcases Frame.find?_bindAll found with listed | none
    · simp only [surrounding, List.mem_cons, List.mem_append, Prod.mk.injEq] at listed
      simp only [Emitter.outerNames, List.mem_append]
      rcases listed with ⟨is, -⟩ | type | listed | listed
      · exact .inr (.inr is)
      · split at type
        · next needed =>
          cases List.mem_singleton.mp type
          simp [needed]
        · cases type
      · obtain ⟨x, hx, is⟩ := List.mem_map.mp listed
        cases is
        exact .inl (.inl (.inr (List.of_mem_zip hx).1))
      · obtain ⟨x, hx, is⟩ := List.mem_map.mp listed
        cases is
        exact .inl (.inr (List.of_mem_zip hx).1)
    · cases none

theorem namespaceType (formed : emitter.Formed) (h : Surrounds emitter f F) (needed : emitter.usesNamespace) :
    F.find? namespaceTypeName = some (.value .namespaceType) := by
  obtain ⟨components, runtime, rfl⟩ := h
  rw [Frame.find?_bind, if_neg (by decide)]
  refine Frame.find?_bindAll_of_only (by simp [surrounding, needed]) fun b listed => ?_
  simp only [surrounding, needed, if_true, List.mem_cons, List.mem_append, List.not_mem_nil, or_false,
    Prod.mk.injEq] at listed
  rcases listed with ⟨is, -⟩ | ⟨-, rfl⟩ | listed | listed
  · exact absurd is (by decide)
  · rfl
  · obtain ⟨x, hx, is⟩ := List.mem_map.mp listed
    obtain ⟨c, hc, name⟩ := List.mem_map.mp (List.of_mem_zip hx).1
    have lists := congrArg (fun y => y.1.toList) is
    simp only [← name, formed.components c hc, toList_componentIdentifier] at lists
    simp [namespaceTypeName] at lists
  · obtain ⟨x, hx, is⟩ := List.mem_map.mp listed
    have name := List.mem_singleton.mp (formed.runtimeHelpers (List.of_mem_zip hx).1)
    have other : sanitizerName ≠ namespaceTypeName := by decide
    exact absurd (name.symm.trans (Prod.mk.inj is).1) other

end Surrounds

structure Loaded (d : Generate.Draft) (f : RenderFn) (F : Frame) : Prop where
  function : f.function = .closure renderName renderSignature (d.code d.outermost).body [F]
  surrounds : Surrounds d.emitter (d.code d.outermost) F
  deep : ∃ depth, f.depth = depth + 2

theorem config_of_compile {config : Config} {root : Node} {compiled : Compiled}
    (h : (compile config root).1 = .ok compiled) : compiled.config = config := by
  unfold compile at h
  split at h
  · cases h
  · split at h
    · cases h
    · cases h
      rfl

theorem loaded_of_load {config : Config} {root : Node} {compiled : Compiled} {loader : Loader}
    {lib : Library} {modules : Option (Table Entity)} {f : RenderFn}
    (h : (compile config root).1 = .ok compiled)
    (load : (loader.load lib compiled modules false).1 = .ok f) :
    ∃ d F, draft? config root = some d ∧ d.Made (admitted root.content) ∧ Loaded d f F := by
  obtain ⟨d, hd, -, program⟩ := draft_of_generate (generate_of_compile h)
  have made := made_of_compile h hd
  have top : d.tree.region.helper = none := made.helpers.1
  obtain ⟨name, signature, -⟩ := made.code_root d.mem_outermost
  refine ⟨d, ?_⟩
  unfold Loader.load at load
  split at load
  · cases load
  · next format =>
    rw [config_of_compile h, not_not] at format
    simp only [Bool.false_and, Bool.false_eq_true, if_false, Loader.make] at load
    simp only [programStmts, format] at program
    rw [← Except.ok.inj program] at load
    cases run : runFactory lib (modules.getD .empty)
        [factoryStmt config.runtimeModule d.emitter d.finished] with
    | error fault =>
      rw [run] at load
      cases load
    | ok function =>
      rw [run] at load
      cases load
      rw [Draft.definition_outermost top] at run
      obtain ⟨F, rfl, surrounds⟩ := (keeps_factory made.formed name 0 _ trivial).2 function run
      exact ⟨F, hd, made, by rw [signature], surrounds, _, rfl⟩

namespace Loaded

variable {d : Generate.Draft} {f : RenderFn} {F : Frame} {all : List Node} {properties slots : Table Data}
  {context : Table Value}

theorem ready (loaded : Loaded d f F) (made : d.Made (admitted all))
    (kept : ∀ key v, context.get? key = some v → v.Plain) :
    Stage.Ready ⟨d, F, properties, slots, context⟩ all where
  made := made
  values _ _ := loaded.surrounds.values
  helpers _ _ _ := loaded.surrounds.helpers
  names _ _ := loaded.surrounds.names
  namespaceType := loaded.surrounds.namespaceType made.formed
  kept := kept

theorem renderThrough_eq {U : Uses} (loaded : Loaded d f F) (made : d.Made U) (callFn : CallFn) {σ : Stage}
    (is : σ = ⟨d, F, properties, slots, context⟩) :
    f.renderThrough callFn properties slots context =
      (let r := (callFn (σ.closure d.outermost [F]) σ.given []).run.run (.start context)
       ⟨r.1, r.2.reads, r.2.calls, r.2.visits, r.2.context⟩) := by
  obtain ⟨name, signature, -⟩ := made.code_root d.mem_outermost
  subst is
  rw [RenderFn.renderThrough, loaded.function, Stage.closure, name, signature]
  rfl

end Loaded

/-- What compiles to a function that can be loaded. -/
def Config.factory : Config := { Config.default with format := .function }

/-- Whether a template compiles and loads, and what comes of it passes a test. -/
def passes (root : Node) (test : Compiled → RenderFn → Bool) : Bool :=
  match (compile Config.factory root).1 with
  | .ok compiled => match (Loader.empty.load { modules := .empty } compiled none false).1 with
    | .ok f => test compiled f
    | .error _ => false
  | .error _ => false

theorem loads_of_passes (root : Node) (test : Compiled → RenderFn → Bool) (h : passes root test = true) :
    ∃ compiled f, (compile Config.factory root).1 = .ok compiled ∧
      (Loader.empty.load { modules := .empty } compiled none false).1 = .ok f ∧ test compiled f = true := by
  rw [passes] at h
  split at h
  · next compiled ok =>
    split at h
    · next f load => exact ⟨compiled, f, ok, load, h⟩
    · cases h
  · cases h

end TemplateCompiler.Render
