import TemplateCompiler.Proofs.Generate.Served

/-!
The prelude of a program is exact. The render function takes a primitive from the engine, a slot from the
slot set and a memoized handler from the context exactly if its code uses it, each once. The program
around it imports or looks up a component, the sanitizer and the namespace type exactly if it is used.
-/

namespace TemplateCompiler.Code

open TemplateCompiler.Generate

def Stmt.bindings : Stmt → List (String × Expr)
  | .assign (.own name) value => [(name, value)]
  | .assign (.tuple targets) (.tuple values) =>
    (targets.zip values).filterMap fun b => (own? b.1).map (·, b.2)
  | _ => []

theorem collects_bindings : Collects Stmt.bindings fun b => [b] where
  destructure bs := by
    rw [List.flatMap_singleton']
    unfold Stmt.destructure
    split
    · rfl
    · rw [Stmt.bindings, List.zip_map', List.filterMap_map]
      exact (List.filterMap_congr fun b _ => rfl).trans List.filterMap_some
  function _ _ _ := rfl

end TemplateCompiler.Code

namespace TemplateCompiler.Generate

open TemplateCompiler.Code TemplateCompiler.Scope TemplateCompiler.Template

/-- The names that a render function assigns itself, each with its value. -/
def assignments (render : Stmt) : List (String × Expr) := (innerStmts render).flatMap Stmt.bindings

def takenKey? (mapping : String) : String × Expr → Option (String × Constant)
  | (name, .call (.member (.own base) attr) [.constant key] []) =>
    if base = mapping ∧ attr = "get" then some (name, key) else none
  | _ => none

/-- The names that a render function takes from a mapping, each with its key. -/
def takenFrom (mapping : String) (render : Stmt) : List (String × Constant) :=
  (assignments render).filterMap (takenKey? mapping)

/-- Where the program around a render function takes a name from. -/
inductive Source where
  /-- A member of a module. -/
  | imported (moduleName member : String)
  /-- An entry of the table of modules. -/
  | found (key : Constant)
  deriving DecidableEq

def Stmt.sources : Stmt → List (String × Source)
  | .importFrom moduleName names => names.map fun n => (n.2.getD n.1, .imported moduleName n.1)
  | .assign (.own name) (.subscript (.own table) (.constant key)) =>
    if table = modulesName then [(name, .found key)] else []
  | _ => []

/-- The names that a program takes from modules around its render function. -/
def programSources (stmts : List Stmt) : List (String × Source) :=
  (surroundings stmts).flatMap Stmt.sources

def namespaceSource : Source := .imported "types" namespaceTypeName

def runtimeSource (config : Config) (helper : String) : Source :=
  match config.format with
  | .module => .imported config.runtimeModule.display helper
  | .function => .found (.str (config.runtimeModule.display ++ ":" ++ helper))

def componentSource (format : OutputFormat) (reference : String) : Source :=
  match format with
  | .module => .imported (splitReference reference).1 (splitReference reference).2
  | .function => .found (.str reference)

section Program

variable {config : Config} {E : Emitter} {render : Stmt} {stmts : List Stmt}

/-- What a program takes from modules for its components. -/
def componentSources (format : OutputFormat) (E : Emitter) : List (String × Source) :=
  E.components.entries.map fun c => (c.2, componentSource format c.1)

/-- All that a program takes from modules: its components one after the other, and before and after them
what is not spelled by the template. -/
theorem programSources_eq (isRender : isRenderFunction render)
    (h : programStmts config E render = .ok stmts) :
    ∃ before after others,
      programSources stmts = before ++ componentSources config.format E ++ after ∧
      (before ++ after).Perm (others ++
        (if E.usesNamespace then [(namespaceTypeName, namespaceSource)] else []) ++
        E.runtimeHelpers.map fun h => (h, runtimeSource config h)) ∧
      (∀ s ∈ others, s.1 = "register_template") ∧ others.length ≤ 1 := by
  have silent : Stmt.sources render = [] := by
    cases render <;> first | rfl | cases isRender
  have namespaces : (namespaceImport E).flatMap Stmt.sources =
      if E.usesNamespace then [(namespaceTypeName, namespaceSource)] else [] := by
    unfold namespaceImport
    split <;> rfl
  have lookups {α : Type} (xs : List α) (name key : α → String) :
      (xs.map fun x => moduleLookup (name x) (key x)).flatMap Stmt.sources =
        xs.map fun x => (name x, .found (.str (key x))) := by
    rw [List.flatMap_map, List.map_eq_flatMap]
    exact List.flatMap_congr fun x _ => rfl
  have imports : (E.components.entries.map fun c => componentImport c.1 c.2).flatMap Stmt.sources =
      E.components.entries.map fun c => (c.2, componentSource .module c.1) := by
    rw [List.flatMap_map, List.map_eq_flatMap]
    exact List.flatMap_congr fun x _ => rfl
  unfold programStmts at h
  split at h
  · next format =>
    cases h
    refine ⟨if E.usesNamespace then [(namespaceTypeName, namespaceSource)] else [],
      E.runtimeHelpers.map fun h => (h, runtimeSource config h), [], ?_, .refl _, by simp, by simp⟩
    have inside : surroundings [factoryStmt config.runtimeModule E render] =
        namespaceImport E ++ E.components.entries.map (fun c => moduleLookup c.2 c.1) ++
          E.runtimeHelpers.map (fun h => moduleLookup h (config.runtimeModule.display ++ ":" ++ h)) ++
          [render, stylesheetsStmt, .ret (.own renderName)] := by
      have other : (factoryName == renderName) = false := by decide
      simp [surroundings, factoryStmt, isRenderFunction, innerStmts, other]
    have runtime : runtimeSource config = fun h =>
        .found (.str (config.runtimeModule.display ++ ":" ++ h)) := by
      funext h
      rw [runtimeSource, format]
    have component : componentSource .function = fun c => .found (.str c) := rfl
    have stylesheets : Stmt.sources stylesheetsStmt = [] := rfl
    have last : Stmt.sources (.ret (.own renderName)) = [] := rfl
    rw [programSources, inside, componentSources]
    simp only [List.flatMap_append, namespaces, lookups, List.flatMap_cons, List.flatMap_nil, silent,
      stylesheets, last, List.append_nil, runtime, component, format]
  · next runtimeModule format text =>
    cases h
    refine ⟨(if E.usesNamespace then [(namespaceTypeName, namespaceSource)] else []) ++
      ("register_template", runtimeSource config "register_template") ::
        E.runtimeHelpers.map fun h => (h, runtimeSource config h), [],
      [("register_template", runtimeSource config "register_template")], ?_, ?_, by simp, by simp⟩
    have inside : surroundings (moduleStmts runtimeModule E render) =
        moduleStmts runtimeModule E render := by
      rw [surroundings, if_pos]
      simp [moduleStmts, isRender]
    have runtime : runtimeSource config = .imported runtimeModule := by
      funext h
      rw [runtimeSource, format, text]
      rfl
    have stylesheets : Stmt.sources stylesheetsStmt = [] := rfl
    have last : Stmt.sources
        (.assign (.own "template") (.apply (.own "register_template") [.own renderName])) = [] := rfl
    have runtimes : Stmt.sources (.importFrom runtimeModule
        (("register_template" :: E.runtimeHelpers).map fun n => (n, none))) =
        ("register_template", .imported runtimeModule "register_template") ::
          E.runtimeHelpers.map fun h => (h, .imported runtimeModule h) := by
      simp [Stmt.sources]
    · rw [programSources, inside, moduleStmts, componentSources]
      simp only [List.flatMap_append, namespaces, imports, List.flatMap_cons, List.flatMap_nil, silent,
        stylesheets, last, runtimes, List.append_nil, runtime, format]
    · rw [List.append_nil]
      exact List.perm_middle
  · cases h

theorem programSources_perm (isRender : isRenderFunction render)
    (h : programStmts config E render = .ok stmts) :
    ∃ others, (∀ s ∈ others, s.1 = "register_template") ∧ others.length ≤ 1 ∧
      (programSources stmts).Perm (others ++
        (if E.usesNamespace then [(namespaceTypeName, namespaceSource)] else []) ++
        E.runtimeHelpers.map (fun h => (h, runtimeSource config h)) ++ componentSources config.format E) := by
  obtain ⟨before, after, others, sources, perm, registers, few⟩ := programSources_eq isRender h
  refine ⟨others, registers, few, ?_⟩
  rw [sources, List.append_assoc]
  refine (List.perm_append_comm.append_left before).trans ?_
  rw [← List.append_assoc]
  exact perm.append_right _

theorem splitReference_injective {r r' : String} (lengths : r.length = r'.length)
    (h : splitReference r = splitReference r') : r = r' := by
  have parts (t : String) : ∃ rest, t.toList.dropWhile (· != ':') = rest ∧
      (rest = [] ∨ rest = ':' :: rest.drop 1) := by
    refine ⟨_, rfl, ?_⟩
    cases hd : t.toList.dropWhile (· != ':') with
    | nil => exact .inl rfl
    | cons c cs =>
      have head := List.head?_dropWhile_not (· != ':') t.toList
      rw [hd] at head
      have colon : c = ':' := by simpa using head
      exact .inr (by rw [colon]; rfl)
  have first : r.toList.takeWhile (· != ':') = r'.toList.takeWhile (· != ':') :=
    String.ofList_injective (Prod.mk.inj h).1
  have second : (r.toList.dropWhile (· != ':')).drop 1 = (r'.toList.dropWhile (· != ':')).drop 1 :=
    String.ofList_injective (Prod.mk.inj h).2
  obtain ⟨rest, hrest, shape⟩ := parts r
  obtain ⟨rest', hrest', shape'⟩ := parts r'
  have split : r.toList = r.toList.takeWhile (· != ':') ++ rest := by
    rw [← hrest, List.takeWhile_append_dropWhile]
  have split' : r'.toList = r.toList.takeWhile (· != ':') ++ rest' := by
    rw [first, ← hrest', List.takeWhile_append_dropWhile]
  have long : rest.length = rest'.length := by
    have all := congrArg List.length split
    have all' := congrArg List.length split'
    rw [List.length_append, String.length_toList] at all all'
    omega
  rw [hrest, hrest'] at second
  refine String.toList_injective ?_
  rw [split, split']
  congr 1
  rcases shape with rfl | shape
  · exact (List.length_eq_zero_iff.mp long.symm).symm
  · rcases shape' with rfl | shape'
    · rw [shape] at long
      cases long
    · rw [shape, shape', second]

theorem componentSource_injective {format : OutputFormat} {r r' : String}
    (name : componentIdentifier r = componentIdentifier r')
    (source : componentSource format r = componentSource format r') : r = r' := by
  cases format with
  | module =>
    have lengths := congrArg (fun s => s.toList.length) name
    simp only [toList_componentIdentifier, List.length_cons, List.length_map, String.length_toList] at lengths
    refine splitReference_injective (by omega) (Prod.ext ?_ ?_)
    · exact (Source.imported.inj source).1
    · exact (Source.imported.inj source).2
  | function => exact Constant.str_injective.mp (Source.found.inj source)

theorem head_componentIdentifier (reference : String) :
    (componentIdentifier reference).toList.head? = some '_' := by
  rw [toList_componentIdentifier]
  rfl

/-- What a program takes from modules: nothing twice, and what its emitter noted. -/
structure TakesNoted (config : Config) (E : Emitter) (stmts : List Stmt) : Prop where
  nodup : (programSources stmts).Nodup
  component : ∀ reference,
    (componentIdentifier reference, componentSource config.format reference) ∈ programSources stmts ↔
      reference ∈ E.components.keys
  sanitizer : (sanitizerName, runtimeSource config sanitizerName) ∈ programSources stmts ↔
    sanitizerName ∈ E.runtimeHelpers
  namespaceType : (namespaceTypeName, namespaceSource) ∈ programSources stmts ↔ E.usesNamespace

theorem takesNoted (isRender : isRenderFunction render) (formed : E.Formed)
    (components : E.components.keys.Nodup) (helpers : E.runtimeHelpers.Nodup)
    (h : programStmts config E render = .ok stmts) : TakesNoted config E stmts := by
  obtain ⟨others, registers, few, perm⟩ := programSources_perm isRender h
  have helper {s : String × Source}
      (hs : s ∈ E.runtimeHelpers.map fun h => (h, runtimeSource config h)) : s.1 = sanitizerName := by
    obtain ⟨name, hn, rfl⟩ := List.mem_map.mp hs
    exact List.mem_singleton.mp (formed.runtimeHelpers hn)
  have noted {s : String × Source}
      (hs : s ∈ if E.usesNamespace then [(namespaceTypeName, namespaceSource)] else []) :
      s.1 = namespaceTypeName := by
    split at hs
    · rw [List.mem_singleton.mp hs]
    · cases hs
  have component {s : String × Source} (hs : s ∈ E.components.entries.map fun c =>
      (c.2, componentSource config.format c.1)) : ∃ reference ∈ E.components.keys,
        s = (componentIdentifier reference, componentSource config.format reference) := by
    obtain ⟨c, hc, rfl⟩ := List.mem_map.mp hs
    exact ⟨c.1, List.mem_map_of_mem hc, by rw [formed.components c hc]⟩
  have headed {name reference : String} (h : name.toList.head? ≠ some '_') :
      name ≠ componentIdentifier reference := fun is => h (is ▸ head_componentIdentifier reference)
  constructor
  · rw [perm.nodup_iff]
    have first : others.Nodup := by
      match others, few with
      | [], _ => exact List.nodup_nil
      | [s], _ => exact List.nodup_singleton s
      | _ :: _ :: _, few => simp at few
    have second : (if E.usesNamespace then [(namespaceTypeName, namespaceSource)] else []).Nodup := by
      split
      · exact List.nodup_singleton _
      · exact List.nodup_nil
    have third : (E.runtimeHelpers.map fun h => (h, runtimeSource config h)).Nodup :=
      helpers.map fun a b is => (Prod.mk.inj is).1
    have fourth : (E.components.entries.map fun c =>
        (c.2, componentSource config.format c.1)).Nodup := by
      refine (List.Nodup.of_map Prod.fst components).map_on fun c hc c' hc' is => ?_
      obtain ⟨name, source⟩ := Prod.mk.inj is
      rw [formed.components c hc, formed.components c' hc'] at name
      have same := componentSource_injective name source
      exact Prod.ext same (by rw [formed.components c hc, formed.components c' hc', same])
    refine ((first.append second ?_).append third ?_).append fourth ?_
    · intro s hs hs'
      exact absurd ((registers s hs).symm.trans (noted hs')) (by decide)
    · intro s hs hs'
      rcases List.mem_append.mp hs with hs | hs
      · exact absurd ((registers s hs).symm.trans (helper hs')) (by decide)
      · exact absurd ((noted hs).symm.trans (helper hs')) (by decide)
    · intro s hs hs'
      obtain ⟨reference, -, rfl⟩ := component hs'
      rw [List.mem_append, List.mem_append] at hs
      rcases hs with (hs | hs) | hs
      · exact headed (by decide) (registers _ hs).symm
      · exact headed (by decide) (noted hs).symm
      · exact headed (by decide) (helper hs).symm
  · intro reference
    rw [perm.mem_iff]
    simp only [List.mem_append]
    constructor
    · rintro (((hs | hs) | hs) | hs)
      · exact absurd (registers _ hs).symm (headed (by decide))
      · exact absurd (noted hs).symm (headed (by decide))
      · exact absurd (helper hs).symm (headed (by decide))
      · obtain ⟨entered, he, is⟩ := component hs
        obtain ⟨name, source⟩ := Prod.mk.inj is
        rwa [componentSource_injective name source]
    · intro hr
      obtain ⟨c, hc, rfl⟩ := List.mem_map.mp hr
      exact .inr (List.mem_map.mpr ⟨c, hc, by rw [formed.components c hc]⟩)
  · rw [perm.mem_iff]
    simp only [List.mem_append]
    constructor
    · rintro (((hs | hs) | hs) | hs)
      · exact absurd (registers _ hs) (by decide : sanitizerName ≠ "register_template")
      · exact absurd (noted hs) (by decide : sanitizerName ≠ namespaceTypeName)
      · obtain ⟨name, hn, is⟩ := List.mem_map.mp hs
        exact (Prod.mk.inj is).1 ▸ hn
      · obtain ⟨entered, -, is⟩ := component hs
        exact absurd (Prod.mk.inj is).1 (headed (by decide))
    · exact fun hn => .inl (.inr (List.mem_map_of_mem hn))
  · rw [perm.mem_iff]
    simp only [List.mem_append]
    constructor
    · rintro (((hs | hs) | hs) | hs)
      · exact absurd (registers _ hs) (by decide)
      · split at hs
        · next uses => exact uses
        · cases hs
      · exact absurd (helper hs) (by decide)
      · obtain ⟨entered, -, is⟩ := component hs
        exact absurd (Prod.mk.inj is).1 (headed (by decide))
    · intro uses
      rw [if_pos uses]
      exact .inl (.inl (.inr (List.mem_singleton_self _)))

end Program

namespace Draft.Made

variable {U : Uses} {d : Draft}

theorem root_mem (d : Draft) : ([], ⟨d.tree.region, d.tree.children, []⟩) ∈ d.scopes := by
  unfold Draft.scopes
  cases d.tree
  simp [Tree.spots, Tree.region, Tree.children]

/-- What the render function assigns: the primitives, the hoisted properties of the root, the slots and
the memoized handlers. -/
theorem assignments_finished (d : Draft) : assignments d.finished =
    d.emitter.primitives.map (fun p => (p.localName, .member (.own apiName) p.member)) ++
    (Spot.hoisted ⟨d.tree.region, d.tree.children, []⟩).map
      (fun u => (u.localName, componentMember u.property)) ++
    d.emitter.slots.entries.map (fun s => (s.2, .apply (.member (.own slotSetName) "get") [.str s.1])) ++
    d.emitter.memoNames.map fun m => (m, .apply (.member (.own contextName) "get") [.str m]) := by
  have body : innerStmts d.finished = (renderBody d.emitter (Spot.leading ⟨d.tree.region, d.tree.children,
      []⟩) d.root).map (Stmt.substitute d.decision) := by
    unfold Spot.leading
    cases h : d.tree
    simp [Draft.finished, Draft.stmt, Stmt.substitute, innerStmts, h, Tree.region, Tree.children]
  have entry (name mapping key : String) : ((takeEntry name mapping key).substitute d.decision).bindings =
      [(name, .apply (.member (.own mapping) "get") [.str key])] := by
    simp [takeEntry, Stmt.substitute, Expr.substitute, Stmt.bindings, Expr.apply, Expr.substituteAll,
      Expr.str]
  have ret : ((Stmt.ret d.root).substitute d.decision).bindings = [] := by
    simp [Stmt.substitute, Stmt.bindings]
  rw [assignments, body, List.flatMap_map, renderBody_eq, List.flatMap_append,
    (collects_bindings.substitute d.decision).renderPrelude]
  simp [entry, ret, componentMember, Expr.substitute, ← List.map_eq_flatMap]

theorem takenFrom_slotSet (d : Draft) : takenFrom slotSetName d.finished =
    d.emitter.slots.entries.map fun s => (s.2, .str s.1) := by
  have other : contextName ≠ slotSetName := by decide
  rw [takenFrom, assignments_finished]
  simp [List.filterMap_map, Function.comp_def, takenKey?, componentMember, Expr.apply, Expr.str, other]

theorem takenFrom_context (d : Draft) : takenFrom contextName d.finished =
    (List.range d.emitter.memoCount).map fun k => (memoName k, .str (memoName k)) := by
  have other : slotSetName ≠ contextName := by decide
  rw [takenFrom, assignments_finished]
  simp [List.filterMap_map, Function.comp_def, takenKey?, componentMember, Expr.apply, Expr.str, other,
    Emitter.memoNames]

theorem nodup_assignments (made : d.Made U) (primitives : d.emitter.primitives.Nodup) :
    ((assignments d.finished).map Prod.fst).Nodup := by
  obtain ⟨loops, nested⟩ := made.nestedAt (root_mem d)
  have hoisted {name : String} (h : name ∈ (Spot.hoisted ⟨d.tree.region, d.tree.children, []⟩).map
      Usage.localName) : IsLocalName name := by
    obtain ⟨u, hu, rfl⟩ := List.mem_map.mp h
    obtain ⟨k, hk⟩ := localName_of_tabled nested.tabled (List.mem_of_mem_filter hu)
    exact ⟨_, k, hk⟩
  have names : (assignments d.finished).map Prod.fst = d.emitter.primitives.map Primitive.localName ++
      (Spot.hoisted ⟨d.tree.region, d.tree.children, []⟩).map Usage.localName ++
      (List.range d.emitter.slots.size).map slotLocalName ++
      (List.range d.emitter.memoCount).map memoName := by
    rw [assignments_finished, ← made.formed.slots]
    simp [Table.values, Emitter.memoNames, Function.comp_def]
  have slotLocalName_injective {j k : Nat} (h : slotLocalName j = slotLocalName k) : j = k := by
    have lists := congrArg String.toList h
    simp only [toList_slotLocalName, List.cons.injEq, true_and, List.append_cancel_left_eq] at lists
    exact number_injective lists
  rw [names]
  refine List.Nodup.append (List.Nodup.append (List.Nodup.append ?_ ?_ ?_) ?_ ?_) ?_ ?_
  · exact primitives.map fun p q h => Primitive.localName_injective h
  · exact nodup_hoisted nested
  · intro name hp hh
    obtain ⟨p, -, rfl⟩ := List.mem_map.mp hp
    exact (hoisted hh).not_plain (isPlainName_primitive p)
  · exact List.nodup_range.map fun j k h => slotLocalName_injective h
  · intro name hn hs
    obtain ⟨k, -, rfl⟩ := List.mem_map.mp hs
    rcases List.mem_append.mp hn with hp | hh
    · obtain ⟨p, -, is⟩ := List.mem_map.mp hp
      have none : p.localName.toList.head? ≠ some '_' := by cases p <;> decide
      exact none (by rw [is, toList_slotLocalName]; rfl)
    · exact (hoisted hh).not_plain (isPlainName_slot k)
  · exact List.nodup_range.map fun j k h => Event.memoName_injective h
  · intro name hn hm
    obtain ⟨k, -, rfl⟩ := List.mem_map.mp hm
    rw [List.mem_append, List.mem_append] at hn
    rcases hn with (hp | hh) | hs
    · obtain ⟨p, -, is⟩ := List.mem_map.mp hp
      exact Event.ne_memoName (by cases p <;> decide) k is
    · exact (hoisted hh).not_plain (isPlainName_memo k)
    · obtain ⟨j, -, is⟩ := List.mem_map.mp hs
      have lists := congrArg String.toList is
      rw [toList_slotLocalName, toList_memoName] at lists
      simp at lists

theorem mem_assignments_primitive (made : d.Made U) (p : Primitive) (value : Expr) :
    (p.localName, value) ∈ assignments d.finished ↔
      value = .member (.own apiName) p.member ∧ p ∈ d.emitter.primitives := by
  obtain ⟨loops, nested⟩ := made.nestedAt (root_mem d)
  rw [assignments_finished]
  simp only [List.mem_append, List.mem_map, Prod.mk.injEq]
  constructor
  · rintro (((⟨q, hq, name, rfl⟩ | ⟨u, hu, name, -⟩) | ⟨s, hs, name, -⟩) | ⟨m, hm, name, -⟩)
    · obtain rfl := Primitive.localName_injective name
      exact ⟨rfl, hq⟩
    · obtain ⟨k, hk⟩ := localName_of_tabled nested.tabled (List.mem_of_mem_filter hu)
      exact absurd (isPlainName_primitive p) (IsLocalName.not_plain ⟨_, k, name ▸ hk⟩)
    · have listed : s.2 ∈ d.emitter.slots.values := List.mem_map_of_mem hs
      rw [made.formed.slots] at listed
      obtain ⟨k, -, is⟩ := List.mem_map.mp listed
      have none : p.localName.toList.head? ≠ some '_' := by cases p <;> decide
      exact absurd (by rw [← name, ← is, toList_slotLocalName]; rfl) none
    · obtain ⟨k, -, rfl⟩ := List.mem_map.mp hm
      exact absurd name.symm (Event.ne_memoName (by cases p <;> decide) k)
  · rintro ⟨rfl, hp⟩
    exact .inl (.inl (.inl ⟨p, hp, rfl, rfl⟩))

theorem mem_assignments_engine {name member : String}
    (h : (name, .member (.own apiName) member) ∈ assignments d.finished) :
    ∃ p : Primitive, name = p.localName := by
  have other : componentName ≠ apiName := by decide
  rw [assignments_finished] at h
  simp only [List.mem_append, List.mem_map, Prod.mk.injEq, Expr.apply, componentMember] at h
  rcases h with ((⟨p, -, is, -⟩ | ⟨u, -, -, is⟩) | ⟨s, -, -, is⟩) | ⟨m, -, -, is⟩
  · exact ⟨p, is.symm⟩
  · exact absurd (Expr.own.inj (Expr.member.inj is).1) other
  · cases is
  · cases is

end Draft.Made

/-- The helper of an iteration over what an iterator tells. -/
def IsForOfHelper (f : Function) : Prop := ∃ id k, f.name = Context.helperName .forOf id k

theorem helperName_forOf {kind : ScopeKind} {a b c d : Nat} (hk : kind ∈ helperKinds)
    (h : Context.helperName kind a b = Context.helperName .forOf c d) : kind = .forOf := by
  have lists := congrArg String.toList h
  simp only [Context.toList_helperName] at lists
  simp only [helperKinds, List.mem_cons, List.not_mem_nil, or_false] at hk
  rcases hk with rfl | rfl | rfl
  · simp [ScopeKind.label] at lists
  · simp [ScopeKind.label] at lists
  · rfl

section Iterations

variable {U : Uses} {d : Draft}

theorem Emitter.Notes.ne_namespaceType {E : Emitter} (formed : E.Formed) {name : String}
    (h : E.Notes name) : name ≠ namespaceTypeName := by
  have headed {name : String} (h : name.toList.head? = some '_') : name ≠ namespaceTypeName := by
    rintro rfl
    exact absurd h (by decide)
  cases h with
  | @primitive p hp => cases p <;> decide
  | @slot slot _ hs =>
    have listed : name ∈ E.slots.values := List.mem_map_of_mem (mem_of_get? hs)
    rw [formed.slots] at listed
    obtain ⟨k, -, rfl⟩ := List.mem_map.mp listed
    exact headed (by rw [toList_slotLocalName]; rfl)
  | @memo k hm => exact headed (by rw [toList_memoName]; rfl)
  | @component reference _ hc =>
    have spelled : name = componentIdentifier reference := formed.components _ (mem_of_get? hc)
    exact headed (spelled ▸ head_componentIdentifier reference)
  | runtime hr =>
    rw [List.mem_singleton.mp (formed.runtimeHelpers hr)]
    decide
  | context => decide

/-- Only the function of an iteration over what an iterator tells uses the namespace type. -/
theorem Draft.Made.kind_of_namespaceType (made : d.Made U) {above : List Spot} {p : Spot}
    (hp : (above, p) ∈ d.scopes) {o : Occurrence}
    (ho : o ∈ ((d.function p).substitute d.decision).loads) (is : o.atom = .own namespaceTypeName) :
    p.region.kind = .forOf := by
  obtain ⟨loops, nested⟩ := made.nestedAt hp
  rcases made.load_origin hp nested ho is with origin | introduced
  · exact absurd rfl ((origin.of_plain made hp (.inl (by decide))).ne_namespaceType made.formed)
  · generalize hn : namespaceTypeName = name at introduced
    cases introduced with
    | parameter root h =>
      rw [← hn] at h
      exact absurd h (by decide)
    | test kind => exact absurd hn (by decide)
    | namespaceType kind h => exact kind
    | part kind h hp => exact kind

/-- A function calls the namespace type only if it is the helper of such an iteration. -/
theorem Draft.Made.forOf_of_call (made : d.Made U)
    (h : .call namespaceTypeName ∈ allDemands d.finished) :
    ∃ f ∈ d.finished.functions [], IsForOfHelper f.2 := by
  obtain ⟨f, hf, hc⟩ := List.mem_flatMap.mp h
  refine ⟨f, hf, ?_⟩
  rw [made.functions_finished] at hf
  obtain ⟨⟨above, p⟩, hp, rfl⟩ := List.mem_map.mp hf
  obtain ⟨stmt, hstmt, hc⟩ := List.mem_flatMap.mp hc
  have occurs : ∃ o ∈ stmt.loads, o.atom = .own namespaceTypeName := by
    cases stmt with
    | assign target value => exact occurrence_of_call hc
    | ret value => exact occurrence_of_call hc
    | expr value => exact occurrence_of_call hc
    | _ => cases hc
  obtain ⟨o, ho, is⟩ := occurs
  have kind := made.kind_of_namespaceType hp (List.mem_flatMap.mpr ⟨stmt, hstmt, ho⟩) is
  obtain ⟨loops, nested⟩ := made.nestedAt hp
  have helper : p.region.helper ≠ none := by
    intro none
    cases nested with
    | root number root helper coded =>
      rw [root] at kind
      cases kind
    | conditional around child inherits named kind' test helper coded => simp [helper] at none
    | loop around child inherits uses named kind' noted helper coded => simp [helper] at none
  obtain ⟨⟨k, name⟩, -⟩ := nested.named helper
  obtain ⟨body, has⟩ := Option.ne_none_iff_exists'.mp helper
  refine ⟨p.region.id, k, ?_⟩
  rw [← kind, ← name]
  simp only [Draft.function, has, Function.substitute]

theorem Draft.Made.usesNamespace_of_forOf (made : d.Made U) {f : List Function × Function}
    (hf : f ∈ d.finished.functions []) (is : IsForOfHelper f.2) : d.emitter.usesNamespace := by
  rw [made.functions_finished] at hf
  obtain ⟨⟨above, p⟩, hp, rfl⟩ := List.mem_map.mp hf
  obtain ⟨id, k, name⟩ := is
  obtain ⟨loops, nested⟩ := made.nestedAt hp
  have isHelper : IsHelperName (Context.helperName .forOf id k) := ⟨.forOf, by decide, id, k, rfl⟩
  have helper : p.region.helper ≠ none := by
    intro none
    simp only [Draft.function, none, Function.substitute] at name
    exact isHelper.not_plain (name ▸ .inl (by decide))
  obtain ⟨⟨j, spelled⟩, kind⟩ := nested.named helper
  obtain ⟨body, has⟩ := Option.ne_none_iff_exists'.mp helper
  simp only [Draft.function, has, Function.substitute, spelled] at name
  have forOf := helperName_forOf kind name
  cases nested with
  | root number root none coded => exact absurd none helper
  | conditional around child inherits named kind' test helper coded =>
    rw [kind'] at forOf
    cases forOf
  | @loop _ _ _ _ l body around child inherits uses named kind' noted helper coded =>
    cases l with
    | each f =>
      rw [kind'] at forOf
      cases forOf
    | of f => exact noted f rfl

end Iterations

def Request.element? : Request → Option Demand
  | .component tag reference => some (.component (.str tag) (componentIdentifier reference))
  | _ => none

/-- The prelude of a program takes what its code uses, each once. -/
structure ExactPrelude (config : Config) (requests : List Request) (stmts : List Stmt) (render : Stmt) :
    Prop where
  /-- The render function assigns every name once. -/
  names : ((assignments render).map Prod.fst).Nodup
  /-- It takes a primitive from the engine exactly if its code calls it. -/
  primitives : ∀ (p : Primitive) value, (p.localName, value) ∈ assignments render ↔
    value = .member (.own apiName) p.member ∧ .call p.localName ∈ allDemands render
  engine : ∀ name member, (name, .member (.own apiName) member) ∈ assignments render →
    ∃ p : Primitive, name = p.localName
  /-- It takes a slot exactly if its code makes the slot. -/
  slotNames : ((takenFrom slotSetName render).map Prod.snd).Nodup
  slots : ∀ id name, (id, name) ∈ takenFrom slotSetName render ↔ .slot name id ∈ allDemands render
  /-- It takes the memoized handlers, and each is used in one place. -/
  handlers : ∃ n,
    takenFrom contextName render = (List.range n).map (fun k => (memoName k, .str (memoName k))) ∧
    ∀ k, (allDemands render).count (.name (memoName k)) = (if k < n then 1 else 0) ∧
      (allDemands render).count (.handler (memoName k) (.str (memoName k))) = if k < n then 1 else 0
  /-- The program takes nothing from modules twice. -/
  sources : (programSources stmts).Nodup
  /-- It takes a component exactly if a custom element was made for its reference. -/
  components : ∀ reference,
    (componentIdentifier reference, componentSource config.format reference) ∈ programSources stmts ↔
      ∃ tag, .component tag reference ∈ requests
  elements : ((allDemands render).filter (·.caller? = some .customElement)).Perm
    (requests.filterMap Request.element?)
  /-- It takes the sanitizer exactly if the code calls it. -/
  sanitizer : (sanitizerName, runtimeSource config sanitizerName) ∈ programSources stmts ↔
    .call sanitizerName ∈ allDemands render
  /-- It takes the namespace type exactly if there is a helper that needs it. -/
  namespaceType : (namespaceTypeName, namespaceSource) ∈ programSources stmts ↔
    ∃ f ∈ render.functions [], IsForOfHelper f.2

/-- The custom element that the code of an event makes is the one that it is asked for. -/
theorem Event.Spelled.filter_customElement {e : Event} (spelled : e.Spelled) :
    e.demands.filter (·.caller? = some .customElement) = (e.request?.bind Request.element?).toList := by
  cases e with
  | component tag reference id =>
    obtain rfl : id = componentIdentifier reference := spelled
    rfl
  | handler locals value memo => cases memo <;> rfl
  | loop helper l =>
    cases l with
    | each f => rfl
    | of f =>
      rw [Event.demands, Event.loopDemands_of]
      rfl
  | _ => rfl

theorem filter_customElement {es : List Event} (spelled : ∀ e ∈ es, e.Spelled) :
    (es.flatMap Event.demands).filter (·.caller? = some .customElement) =
      (es.filterMap Event.request?).filterMap Request.element? := by
  rw [List.filter_flatMap, List.filterMap_filterMap, List.filterMap_eq_flatMap_toList]
  exact List.flatMap_congr fun e he => (spelled e he).filter_customElement

/-- The prelude of a compiled template is exact. -/
theorem prelude_exact {config : Config} {root : Node} {compiled : Compiled}
    (h : (compile config root).1 = .ok compiled) :
    ∃ render, renderOf compiled.program.stmts = some render ∧
      ExactPrelude config (Node.requestsAll [] root.content) compiled.program.stmts render := by
  obtain ⟨d, es, -, hr, program, made, issued⟩ := issued_of_compile h
  have isRender : isRenderFunction d.finished := by
    simp [Draft.finished, Draft.stmt, Stmt.substitute, isRenderFunction]
  have issues := issued.issues
  have spelled := issues.spelled Emitter.formed_empty
  have takes := takesNoted isRender made.formed
    (issues.keeps (P := fun E => E.components.keys.Nodup) (fun step => step.nodup_components) List.nodup_nil)
    (issues.keeps (P := fun E => E.runtimeHelpers.Nodup) (fun step => step.nodup_runtimeHelpers)
      List.nodup_nil) program
  refine ⟨d.finished, hr, ?_⟩
  constructor
  · exact made.nodup_assignments
      (issues.keeps (P := fun E => E.primitives.Nodup) (fun step => step.nodup_primitives) List.nodup_nil)
  · intro p value
    rw [made.mem_assignments_primitive, issues.primitives,
      issued.call_mem_iff (by cases p <;> decide) (by cases p <;> decide)]
  · exact fun name member => Draft.Made.mem_assignments_engine
  · rw [Draft.Made.takenFrom_slotSet, List.map_map]
    have keys : d.emitter.slots.keys.Nodup :=
      issues.keeps (P := fun E => E.slots.keys.Nodup) (fun step => step.nodup_slots) List.nodup_nil
    have listed : d.emitter.slots.entries.map (Prod.snd ∘ fun s => (s.2, Constant.str s.1)) =
        d.emitter.slots.keys.map Constant.str := by
      rw [Table.keys, List.map_map]
      rfl
    rw [listed]
    exact keys.map fun a b is => Constant.str_injective.mp is
  · intro id name
    rw [Draft.Made.takenFrom_slotSet]
    have issuedSlot := (issued.perm_caller made (.inl rfl)).mem_iff (a := .slot name id)
    simp only [List.mem_filter, Demand.caller?, decide_true, and_true] at issuedSlot
    rw [issuedSlot, List.mem_map]
    constructor
    · rintro ⟨⟨text, own⟩, hs, is⟩
      obtain ⟨rfl, rfl⟩ := Prod.mk.inj is
      exact (issues.slots text own).mp hs
    · intro hm
      obtain ⟨e, he, hx⟩ := List.mem_flatMap.mp hm
      obtain ⟨text, -, rfl⟩ := Event.slot_mem_demands.mp hx
      exact ⟨(text, id), (issues.slots text id).mpr hm, rfl⟩
  · refine ⟨d.emitter.memoCount, Draft.Made.takenFrom_context d, fun k => ?_⟩
    have other : memoName k ∉ renderSignature.params := by
      intro h
      have none : ∀ n ∈ renderSignature.params, n.toList.head? ≠ some '_' := by decide
      exact none _ h (by rw [toList_memoName]; rfl)
    have free : ¬ IsLocalName (memoName k) := fun h => h.not_plain (isPlainName_memo k)
    constructor
    · rw [issued.demanded (.name (memoName k)) other free]
      exact issues.count_memo fun e he => Event.count_memoName (spelled e he) (issued.references made he)
    · rw [issued.demanded (.handler (memoName k) (.str (memoName k))) other free]
      exact issues.count_memo fun e _ => e.count_handler k
  · exact takes.nodup
  · intro reference
    rw [takes.component, issues.components, issued.requests]
  · refine (issued.perm_caller made (.inr rfl)).trans ?_
    rw [filter_customElement spelled, issued.requests]
  · rw [takes.sanitizer, issues.sanitizes, issued.call_mem_iff (by decide) (by decide)]
  · rw [takes.namespaceType]
    constructor
    · intro uses
      refine made.forOf_of_call ?_
      rwa [issued.call_mem_iff (by decide) (by decide), ← issues.usesNamespace]
    · rintro ⟨f, hf, is⟩
      exact made.usesNamespace_of_forOf hf is

/-- A page with a handler, a slot, a component, a link inside a picture and rows. -/
def mixedPage : Node :=
  .root [
    .element { Element.ofTag "button" with handlers := .ofList [("click", .name "save")] } [],
    .element { Element.ofTag "slot" with kind := .slot "side" } [],
    .element { Element.ofTag "x-clock" with kind := .component "widgets.time:Clock" } [],
    .element { Element.ofTag "use" with
      namespaceName := svgNamespace
      attrs := .ofList [("href", ⟨"href", .text "#mark"⟩)] } [],
    .element { Element.ofTag "li" with forOf := some ⟨.name "rows", "row"⟩ }
      [.show (.member (.name "row") "value")]]

theorem mixedPage_exact : ∃ compiled, (compile .default mixedPage).1 = .ok compiled ∧
    ∃ render, renderOf compiled.program.stmts = some render ∧
      ExactPrelude .default (Node.requestsAll [] mixedPage.content) compiled.program.stmts render := by
  have ok : (compile .default mixedPage).1.isOk := by decide +kernel
  obtain ⟨compiled, h⟩ := exists_of_isOk ok
  exact ⟨compiled, h, prelude_exact h⟩

end TemplateCompiler.Generate
