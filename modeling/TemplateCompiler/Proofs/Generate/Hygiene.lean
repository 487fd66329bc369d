import TemplateCompiler.Proofs.Generate.Accepted
import TemplateCompiler.Proofs.Generate.Scoping

/-!
Hygiene of generated code. A name in a function is taken from the nearest scope that binds it: the scopes
inside its expression, the function, the functions around it, and what stands around the render function.
Some of the names that these scopes bind are made by generated code, the others are chosen by the
template. For every name it is told where it should come from, and exactly when it does.
-/

namespace TemplateCompiler.Code

open TemplateCompiler.Scope

namespace Stmt

def definedNames : Stmt → List String
  | function name .. => [name]
  | assign .. | ret _ | expr _ | importFrom .. => []

def variableNames : Stmt → List String
  | assign (.name id) _ => [id]
  | _ => []

/-- The names that a statement outside of the render function binds. -/
def outerNames : Stmt → List String
  | assign target _ => targets target
  | importFrom _ names => names.map fun n => n.2.getD n.1
  | function name .. => [name]
  | ret _ | expr _ => []

end Stmt

structure Frame where
  /-- Names that generated code makes. -/
  own : List String
  /-- Parameters for what an iterator tells. -/
  parts : List String
  helpers : List String
  /-- Loop variables of the template. -/
  loopNames : List String
  /-- Names that expressions of the template bind: parameters of anonymous functions, variables of
  comprehensions and targets of assignment expressions. -/
  written : List String

namespace Frame

def generated (F : Frame) : List String := F.own ++ F.parts ++ F.helpers

def chosen (F : Frame) : List String := F.loopNames ++ F.written

def inner (i : Inner) : Frame := ⟨[], [], [], [], i.names⟩

def function (kind : ScopeKind) (f : Function) : Frame where
  own := (match kind with
    | .forEach => f.signature.rest.toList
    | .forOf => []
    | _ => f.signature.names) ++ f.body.flatMap Stmt.assignedNames
  parts := if kind = .forOf then f.signature.names else []
  helpers := f.body.flatMap Stmt.definedNames
  loopNames := (if kind = .forEach then f.signature.params else []) ++
    f.body.flatMap Stmt.variableNames
  written := stored f.loads

end Frame

/-- The name of generated code that an occurrence refers to. A read of a property refers to the
component. -/
def Occurrence.ownName? (o : Occurrence) : Option String :=
  match o.atom with
  | .own id => some id
  | .read _ => some componentName
  | _ => none

/-- The name is bound in the scope at the given place and in none before it. -/
def Resolves (frames : List Frame) (name : String) (place : Nat) (F : Frame) : Prop :=
  frames[place]? = some F ∧ name ∈ F.generated ++ F.chosen ∧
    ∀ G ∈ frames.take place, name ∉ G.generated ++ G.chosen

/-- The name is taken from the scope at the given place, where only generated code binds it. -/
def ResolvesToOwn (frames : List Frame) (name : String) (place : Nat) : Prop :=
  ∃ F, Resolves frames name place F ∧ name ∉ F.chosen

/-- The name is taken from the scope at the given place, where only the template binds it. -/
def ResolvesToVariable (frames : List Frame) (name : String) (place : Nat) : Prop :=
  ∃ F, Resolves frames name place F ∧ name ∈ F.loopNames ∧ name ∉ F.generated

/-- A name that generated code binds at a place, and nowhere before, is taken from there exactly if the
template does not bind it up to that place. -/
theorem resolvesToOwn_iff {frames : List Frame} {name : String} {place : Nat} {F : Frame}
    (there : frames[place]? = some F) (bound : name ∈ F.generated)
    (first : ∀ G ∈ frames.take place, name ∉ G.generated) :
    ResolvesToOwn frames name place ↔ ∀ G ∈ frames.take (place + 1), name ∉ G.chosen := by
  have upTo : frames.take (place + 1) = frames.take place ++ [F] := by
    rw [List.take_add_one, there]
    rfl
  simp only [ResolvesToOwn, Resolves, there, Option.some.injEq, upTo, List.mem_append,
    List.mem_singleton]
  constructor
  · rintro ⟨_, ⟨rfl, -, before⟩, free⟩ G hG
    rcases hG with hG | rfl
    · exact fun h => before G hG (.inr h)
    · exact free
  · intro free
    refine ⟨F, ⟨rfl, .inl bound, ?_⟩, free F (.inr rfl)⟩
    rintro G hG (h | h)
    · exact first G hG h
    · exact free G (.inl hG) h

/-- A loop variable that the template binds at a place, and nowhere before, is taken from there exactly if
generated code and expressions do not bind it on the way. -/
theorem resolvesToVariable_iff {frames : List Frame} {name : String} {place : Nat} {F : Frame}
    (there : frames[place]? = some F) (bound : name ∈ F.loopNames)
    (first : ∀ G ∈ frames.take place, name ∉ G.loopNames) :
    ResolvesToVariable frames name place ↔
      (∀ G ∈ frames.take (place + 1), name ∉ G.generated) ∧
        ∀ G ∈ frames.take place, name ∉ G.written := by
  have upTo : frames.take (place + 1) = frames.take place ++ [F] := by
    rw [List.take_add_one, there]
    rfl
  simp only [ResolvesToVariable, Resolves, there, Option.some.injEq, upTo, List.mem_append,
    List.mem_singleton, Frame.chosen]
  constructor
  · rintro ⟨_, ⟨rfl, -, before⟩, -, free⟩
    refine ⟨fun G hG => ?_, fun G hG h => before G hG (.inr (.inr h))⟩
    rcases hG with hG | rfl
    · exact fun h => before G hG (.inl h)
    · exact free
  · rintro ⟨generated, written⟩
    refine ⟨F, ⟨rfl, .inr (.inl bound), ?_⟩, bound, generated F (.inr rfl)⟩
    rintro G hG (h | h | h)
    · exact generated G (.inl hG) h
    · exact first G hG h
    · exact written G hG h

end TemplateCompiler.Code

namespace TemplateCompiler.Generate

open TemplateCompiler.Code TemplateCompiler.Scope TemplateCompiler.Template

/-- The names that the render function binds for all functions in it. -/
def Emitter.renderNames (E : Emitter) : List String := renderSignature.names ++ E.takenNames

/-- The names that are bound around the render function for its use. -/
def Emitter.outerNames (E : Emitter) : List String :=
  (if E.usesNamespace then [namespaceTypeName] else []) ++ E.components.values ++ E.runtimeHelpers

section

variable {E : Emitter} {name : String}

theorem Emitter.mem_renderNames (formed : E.Formed) (h : name ∈ E.renderNames) :
    name ∈ renderSignature.names ∨ (∃ p : Primitive, name = p.localName) ∨
      (∃ k, name = slotLocalName k) ∨ ∃ k, name = memoName k := by
  simp only [renderNames, takenNames, List.mem_append, List.mem_map, formed.slots, memoNames] at h
  rcases h with h | (⟨p, -, rfl⟩ | ⟨k, -, rfl⟩) | ⟨k, -, rfl⟩
  · exact .inl h
  · exact .inr (.inl ⟨p, rfl⟩)
  · exact .inr (.inr (.inl ⟨k, rfl⟩))
  · exact .inr (.inr (.inr ⟨k, rfl⟩))

theorem Emitter.mem_outerNames (formed : E.Formed)
    (references : ∀ c ∈ E.components.keys, isComponentReference c) (h : name ∈ E.outerNames) :
    name = namespaceTypeName ∨ name = sanitizerName ∨
      ∃ c, isComponentReference c ∧ name = componentIdentifier c := by
  simp only [outerNames, List.mem_append] at h
  rcases h with (h | h) | h
  · split at h
    · exact .inl (List.mem_singleton.mp h)
    · cases h
  · obtain ⟨c, hc, rfl⟩ := List.mem_map.mp h
    exact .inr (.inr ⟨c.1, references _ (List.mem_map_of_mem hc), formed.components c hc⟩)
  · exact .inr (.inl (List.mem_singleton.mp (formed.runtimeHelpers h)))

theorem isPlainName_render (formed : E.Formed) (h : name ∈ E.renderNames) : IsPlainName name := by
  rcases List.mem_append.mp h with h | h
  · have all : ∀ n ∈ renderSignature.names, endsInDigit n = false := by decide
    exact .inl (all name h)
  · exact isPlainName_taken formed h

theorem guarded_render (formed : E.Formed) (h : name ∈ E.renderNames) : Guarded name := by
  rcases Emitter.mem_renderNames formed h with h | ⟨p, rfl⟩ | ⟨k, rfl⟩ | ⟨k, rfl⟩
  · have all : ∀ n ∈ renderSignature.names, n ∈ reservedNames := by decide
    exact .inr (.inr (all name h))
  · exact guarded_primitive p
  · exact guarded_underscore (toList_slotLocalName k)
  · exact guarded_underscore (toList_memoName k)

/-- The parameters of helpers that generated code makes are no names of the render function. -/
theorem render_ne_parameter (formed : E.Formed) (h : name ∈ E.renderNames) :
    name ≠ testName ∧ name ≠ "_" := by
  rcases Emitter.mem_renderNames formed h with h | ⟨p, rfl⟩ | ⟨k, rfl⟩ | ⟨k, rfl⟩
  · have all : ∀ n ∈ renderSignature.names, n ≠ testName ∧ n ≠ "_" := by decide
    exact all name h
  · cases p <;> decide
  · have shape := toList_slotLocalName k
    constructor <;> intro e <;> rw [e] at shape <;> simp [testName] at shape
  · have shape := toList_memoName k
    constructor <;> intro e <;> rw [e] at shape <;> simp [testName] at shape

theorem guarded_outer (formed : E.Formed)
    (references : ∀ c ∈ E.components.keys, isComponentReference c) (h : name ∈ E.outerNames) :
    Guarded name := by
  rcases Emitter.mem_outerNames formed references h with rfl | rfl | ⟨c, hc, rfl⟩
  · exact .inr (.inr (by decide))
  · exact .inr (.inr (by decide))
  · exact guarded_underscore (toList_componentIdentifier c)

/-- A reserved name without a number that is not among the names of the render function. -/
theorem fixed_fresh (formed : E.Formed) (digit : endsInDigit name = false)
    (reserved : name ∈ [namespaceTypeName, sanitizerName]) :
    ¬ IsLocalName name ∧ ¬ IsHelperName name ∧ name ∉ E.renderNames ∧ name ≠ testName ∧
      name ≠ "_" := by
  refine ⟨fun h => h.not_plain (.inl digit), fun h => h.not_plain (.inl digit), fun h => ?_, ?_⟩
  · rcases Emitter.mem_renderNames formed h with h | ⟨p, h⟩ | ⟨k, h⟩ | ⟨k, h⟩
    · have none : ∀ n ∈ renderSignature.names, n ∉ [namespaceTypeName, sanitizerName] := by decide
      exact none name h reserved
    · have none : p.localName ∉ [namespaceTypeName, sanitizerName] := by cases p <;> decide
      exact none (h ▸ reserved)
    · rw [h, slotLocalName, endsInDigit_number] at digit
      cases digit
    · rw [h, memoName, endsInDigit_number] at digit
      cases digit
  · have other : ∀ n ∈ [namespaceTypeName, sanitizerName], n ≠ testName ∧ n ≠ "_" := by decide
    exact other name reserved

theorem component_fresh (formed : E.Formed) {c : String} (hc : isComponentReference c) :
    ¬ IsLocalName (componentIdentifier c) ∧ ¬ IsHelperName (componentIdentifier c) ∧
      componentIdentifier c ∉ E.renderNames ∧ componentIdentifier c ≠ testName ∧
      componentIdentifier c ≠ "_" := by
  have joint := jointed_component hc
  have start := toList_componentIdentifier c
  refine ⟨joint.not_local, not_isHelperName_component c, fun h => ?_, ?_, ?_⟩
  · rcases Emitter.mem_renderNames formed h with h | ⟨p, h⟩ | ⟨k, h⟩ | ⟨k, h⟩
    · have none : ∀ n ∈ renderSignature.names, n.toList.head? ≠ some '_' := by decide
      exact none _ h (by rw [start]; rfl)
    · have none : p.localName.toList.head? ≠ some '_' := by cases p <;> decide
      exact none (by rw [← h, start]; rfl)
    · exact joint.not_numbered (by decide) (h ▸ toList_slotLocalName k)
    · exact joint.not_numbered (u := ['m']) (by decide) (h ▸ toList_memoName k)
  · obtain ⟨u, d, v, hl, -⟩ := joint
    intro e
    rw [e] at hl
    have lengths := congrArg List.length hl
    simp [testName] at lengths
    omega
  · obtain ⟨u, d, v, hl, -⟩ := joint
    intro e
    rw [e] at hl
    have lengths := congrArg List.length hl
    simp at lengths

theorem outer_fresh (formed : E.Formed) (references : ∀ c ∈ E.components.keys, isComponentReference c)
    (h : name ∈ E.outerNames) :
    ¬ IsLocalName name ∧ ¬ IsHelperName name ∧ name ∉ E.renderNames ∧ name ≠ testName ∧
      name ≠ "_" := by
  rcases Emitter.mem_outerNames formed references h with rfl | rfl | ⟨c, hc, rfl⟩
  · exact fixed_fresh formed (by decide) (by decide)
  · exact fixed_fresh formed (by decide) (by decide)
  · exact component_fresh formed hc

end

def Draft.frame (d : Draft) (p : Spot) : Frame :=
  .function p.region.kind ((d.function p).substitute d.decision)

inductive Makes (U : Uses) (d : Draft) (p : Spot) (name : String) : Prop
  | property {u : Usage} (h : u ∈ p.hoisted) (is : name = u.localName)
  | render (root : p.region.helper = none) (h : name ∈ d.emitter.renderNames)
  | parameter (root : p.region.helper ≠ none) (h : name = testName ∨ name = "_")
  | part {f : ForOf} {part : String} (uses : U.loop (.of f)) (h : part ∈ iteratorParts)
      (is : name = partName f.iterator part)
  | helper {c : Tree} (h : c ∈ p.children) (is : name = c.region.helperName)

theorem definedNames_substitute (σ : Placeholder → Expr) (s : Stmt) :
    (s.substitute σ).definedNames = s.definedNames := by
  cases s <;> simp [Stmt.substitute, Stmt.definedNames]

theorem definedNames_destructure (bindings : List (String × Expr)) :
    (Stmt.destructure bindings).definedNames = [] := by
  unfold Stmt.destructure
  split <;> rfl

theorem definedNames_helpers (inherited : Available) : ∀ {ts : List Tree},
    (∀ t ∈ ts, t.region.helper ≠ none) →
    (Tree.helpers inherited (Tree.collectAll ts)).flatMap Stmt.definedNames =
      ts.map fun t => t.region.helperName
  | [], _ => rfl
  | .node region children :: ts, h => by
    obtain ⟨helper, hh⟩ := Option.ne_none_iff_exists'.mp (h _ List.mem_cons_self)
    have rest := definedNames_helpers inherited fun t ht => h t (List.mem_cons_of_mem _ ht)
    simp only [Tree.region] at hh
    simp [Tree.collectAll, Tree.collect, Tree.helpers, hh, Stmt.definedNames, rest, Tree.region]

section

variable {U : Uses} {d : Draft} {p : Spot} {above : List Spot} {loops : List Loop} {name : String}

theorem Draft.Made.frame_helpers (made : d.Made U) (hp : (above, p) ∈ d.scopes) :
    (d.frame p).helpers = p.children.map fun c => c.region.helperName := by
  obtain ⟨loops, nested⟩ := made.nestedAt hp
  obtain ⟨before, after, body, engine, closing⟩ := nested.body
  have children := definedNames_helpers p.passes fun c hc => (made.child hp hc).1
  have first : before.flatMap Stmt.definedNames = [] := by
    rw [List.flatMap_eq_nil_iff]
    intro s hs
    obtain ⟨-, ps, rfl⟩ := engine s hs
    exact definedNames_destructure _
  have last : after.flatMap Stmt.definedNames = [] := by
    rw [List.flatMap_eq_nil_iff]
    intro s hs
    cases closing s hs <;> rfl
  have leading : p.leading.flatMap Stmt.definedNames = p.children.map fun c => c.region.helperName := by
    change (p.collected.hoistStmts p.inherited ++ Tree.helpers p.passes _).flatMap _ = _
    rw [List.flatMap_append, children]
    unfold Region.hoistStmts
    split <;> simp [definedNames_destructure]
  have all : (d.frame p).helpers = ((d.function p).body.map (Stmt.substitute d.decision)).flatMap
      Stmt.definedNames := rfl
  rw [all, List.flatMap_map]
  simp only [definedNames_substitute, body, List.flatMap_append, first, last, leading,
    List.nil_append, List.append_nil]

theorem Nested.mem_assigned (nested : Nested U d (p :: above) loops) :
    name ∈ ((d.function p).substitute d.decision).body.flatMap Stmt.assignedNames ↔
      (∃ u ∈ p.hoisted, name = u.localName) ∨
        p.region.helper = none ∧ name ∈ d.emitter.takenNames := by
  obtain ⟨first, last, assigned, taken⟩ := nested.assignedNames d.decision
  have hoisted : name ∈ p.hoisted.map Usage.localName ↔ ∃ u ∈ p.hoisted, name = u.localName := by
    simp only [List.mem_map, eq_comm]
  rw [← taken name, ← hoisted, assigned]
  simp only [List.mem_append]
  exact ⟨by rintro ((h | h) | h) <;> simp [h], by rintro (h | h | h) <;> simp [h]⟩

theorem generated_parameter (kind : p.region.kind ≠ .forEach)
    (h : name ∈ (d.function p).signature.names) : name ∈ (d.frame p).generated := by
  simp only [Draft.frame, Frame.function, Frame.generated, Function.substitute, List.mem_append]
  cases hk : p.region.kind with
  | forEach => exact absurd hk kind
  | forOf => simp [h]
  | root | conditional | other => simp [h]

theorem Nested.generated_assigned (nested : Nested U d (p :: above) loops)
    (h : (∃ u ∈ p.hoisted, name = u.localName) ∨
      p.region.helper = none ∧ name ∈ d.emitter.takenNames) : name ∈ (d.frame p).generated := by
  have assigned := nested.mem_assigned.mpr h
  simp only [Draft.frame, Frame.function, Frame.generated, List.mem_append]
  exact .inl (.inl (.inr assigned))

/-- The names that generated code makes in the function of a scope, apart from the parts of an iterator and
from helpers. -/
theorem Nested.mem_own (nested : Nested U d (p :: above) loops) (h : name ∈ (d.frame p).own) :
    (∃ u ∈ p.hoisted, name = u.localName) ∨
      p.region.helper = none ∧ name ∈ d.emitter.renderNames ∨
      p.region.helper ≠ none ∧ (name = testName ∨ name = "_") := by
  have split : name ∈ (match p.region.kind with
      | .forEach => (d.function p).signature.rest.toList
      | .forOf => []
      | _ => (d.function p).signature.names) ∨
      name ∈ ((d.function p).substitute d.decision).body.flatMap Stmt.assignedNames := by
    simpa [Draft.frame, Frame.function, Function.substitute] using h
  rcases split with h | h
  · cases nested with
    | root number kind helper coded =>
      simp only [kind, Draft.function, helper] at h
      exact .inr (.inl ⟨helper, List.mem_append_left _ h⟩)
    | conditional around child inherits named kind test helper coded =>
      simp only [kind, Draft.function, helper, testHelper, Signature.names, Option.toList_none,
        List.append_nil, List.mem_singleton] at h
      exact .inr (.inr ⟨by simp [helper], .inl h⟩)
    | @loop _ _ _ _ l body around child inherits uses named kind noted helper coded =>
      cases l with
      | each f =>
        simp only [kind, loopKind, Draft.function, helper, loopHelper, Option.toList_some,
          List.mem_singleton] at h
        exact .inr (.inr ⟨by simp [helper], .inr h⟩)
      | of f => simp [kind, loopKind] at h
  · refine (nested.mem_assigned.mp h).imp_right ?_
    rintro ⟨outermost, taken⟩
    exact .inl ⟨outermost, List.mem_append_right _ taken⟩

theorem Draft.Made.makes (made : d.Made U) (hp : (above, p) ∈ d.scopes)
    (h : name ∈ (d.frame p).generated) : Makes U d p name := by
  obtain ⟨loops, nested⟩ := made.nestedAt hp
  have helpers := made.frame_helpers hp
  simp only [Frame.generated, List.mem_append, helpers, List.mem_map] at h
  rcases h with (h | h) | ⟨c, hc, rfl⟩
  · rcases nested.mem_own h with ⟨u, hu, is⟩ | ⟨root, h⟩ | ⟨root, h⟩
    · exact .property hu is
    · exact .render root h
    · exact .parameter root h
  · have parts : name ∈ if p.region.kind = .forOf then (d.function p).signature.names else [] := h
    cases nested with
    | root number kind helper coded => simp [kind] at parts
    | conditional around child inherits named kind test helper coded => simp [kind] at parts
    | @loop _ _ _ _ l body around child inherits uses named kind noted helper coded =>
      cases l with
      | each f => simp [kind, loopKind] at parts
      | of f =>
        simp only [kind, loopKind, if_true, Draft.function, helper, loopHelper, Signature.names,
          Option.toList_none, List.append_nil, List.mem_map] at parts
        obtain ⟨part, hpart, rfl⟩ := parts
        exact .part uses hpart rfl
  · exact .helper hc rfl

theorem Draft.Made.guarded_own (made : d.Made U) (hp : (above, p) ∈ d.scopes)
    (h : name ∈ (d.frame p).own) : Guarded name := by
  obtain ⟨loops, nested⟩ := made.nestedAt hp
  rcases nested.mem_own h with ⟨u, hu, rfl⟩ | ⟨-, h⟩ | ⟨-, rfl | rfl⟩
  · obtain ⟨k, hk⟩ := localName_of_tabled nested.tabled (List.mem_of_mem_filter hu)
    exact hk ▸ guarded_localName _ k
  · exact guarded_render made.formed h
  · exact guarded_underscore rfl
  · exact guarded_underscore rfl

theorem collects_variableNames : Collects Stmt.variableNames fun _ => [] where
  destructure bs := by
    unfold Stmt.destructure
    split <;> simp [Stmt.variableNames]
  function _ _ _ := rfl

theorem Nested.frame_loopNames (nested : Nested U d (p :: above) loops) :
    (d.frame p).loopNames = [] ∧ (p.region.kind = .root ∨ p.region.kind = .conditional) ∨
      ∃ l outer, loops = l :: outer ∧ U.loop l ∧ p.region.kind = loopKind l ∧
        (d.frame p).loopNames = l.names := by
  have all : (d.frame p).loopNames = (if p.region.kind = .forEach then (d.function p).signature.params
      else []) ++ ((d.function p).body.map (Stmt.substitute d.decision)).flatMap Stmt.variableNames := rfl
  have given := collects_variableNames.substitute d.decision
  rw [all, List.flatMap_map]
  cases nested with
  | root number kind helper coded =>
    refine .inl ⟨?_, .inl kind⟩
    simp only [kind, reduceCtorEq, if_false, List.nil_append, Draft.function, helper, renderBody_eq,
      List.flatMap_append, given.renderPrelude]
    simp [takeEntry, Stmt.substitute, Expr.substitute, Stmt.variableNames]
  | conditional around child inherits named kind test helper coded =>
    refine .inl ⟨?_, .inr kind⟩
    simp only [kind, reduceCtorEq, if_false, List.nil_append, Draft.function, helper, testHelper,
      List.flatMap_append, given.leading]
    simp [Stmt.substitute, Stmt.variableNames]
  | @loop _ _ _ _ l body around child inherits uses named kind noted helper coded =>
    refine .inr ⟨l, _, rfl, uses, kind, ?_⟩
    simp only [Draft.function, helper, List.flatMap_append, given.leading]
    cases l with
    | each f => simp [kind, loopKind, loopHelper, Stmt.substitute, Stmt.variableNames]
    | of f => simp [kind, loopKind, loopHelper, Stmt.substitute, Stmt.variableNames, Expr.substitute,
        Loop.names]

end

/-- Where a name of generated code should be taken from, seen from a function: from a function that starts
with assigning the property, from the function itself, from the render function or from around it. -/
inductive Home (d : Draft) (f : List Function × Function) (name : String) : Nat → Prop
  | property {g : Function} {k : Nat} (place : (f.2 :: f.1)[k]? = some g) (starts : StartsWith g name) :
      Home d f name k
  | helper (defined : name ∈ f.2.body.flatMap Stmt.definedNames) : Home d f name 0
  | parameter (h : name ∈ f.2.signature.names) : Home d f name 0
  | render (h : name ∈ d.emitter.renderNames) : Home d f name f.1.length
  | outer (h : name ∈ d.emitter.outerNames) : Home d f name (f.1.length + 1)

/-- The name is bound by generated code at a place and nowhere before. No loop variable has it up to there,
unless it is the name of a helper of the first scope. -/
structure BoundAt (frames : List Frame) (name : String) (k : Nat) : Prop where
  there : ∃ F, frames[k]? = some F ∧ name ∈ F.generated
  first : ∀ G ∈ frames.take k, name ∉ G.generated
  loops : ∀ G ∈ frames.take (k + 1), name ∈ G.loopNames → IsHelperName name ∧ k = 0

section

variable {all : List Node} {d : Draft} {p q : Spot} {above between around : List Spot}
  {loops : List Loop} {name : String}

theorem Nested.root_last {U : Uses} {path : List Spot} (nested : Nested U d path loops) :
    ∃ between root, path = between ++ [root] ∧ root.region.helper = none ∧
      ∀ r ∈ between, r.region.helper ≠ none := by
  induction nested with
  | @root r children number kind helper coded => exact ⟨[], _, rfl, helper, by simp⟩
  | @conditional p _ _ _ _ _ _ _ _ _ _ _ _ _ helper _ ih
  | @loop p _ _ _ _ _ _ _ _ _ _ _ _ helper _ ih =>
    obtain ⟨between, root, hpath, none, below⟩ := ih
    refine ⟨p :: between, root, by rw [hpath]; rfl, none, ?_⟩
    intro r hr
    rcases List.mem_cons.mp hr with rfl | hr
    · simp [helper]
    · exact below r hr

theorem scope_of_mem {r : Spot} (hp : (above, p) ∈ d.scopes) (hr : r ∈ p :: above) :
    ∃ outer, (outer, r) ∈ d.scopes := by
  obtain ⟨first, last, e⟩ := List.append_of_mem hr
  have suffix : (r :: last) <:+ (p :: above) := ⟨first, e.symm⟩
  exact ⟨last, (Tree.spots_suffix hp suffix).resolve_left (by simp)⟩

theorem Draft.Made.id_ne {U : Uses} (made : d.Made U) (hp : (above, p) ∈ d.scopes)
    (path : p :: above = between ++ q :: around) {r : Spot} (hr : r ∈ between) :
    r.region.id ≠ q.region.id := by
  obtain ⟨first, last, rfl⟩ := List.append_of_mem hr
  have inner : (r :: (last ++ q :: around)) <:+ (p :: above) := ⟨first, by rw [path]; simp⟩
  have outer : (q :: around) <:+ (p :: above) := ⟨_, path.symm⟩
  have hr := (Tree.spots_suffix hp inner).resolve_left (by simp)
  have hq := (Tree.spots_suffix hp outer).resolve_left (by simp)
  intro same
  have equal := congrArg (fun s => s.1.length) (made.scope_unique hr hq same)
  simp at equal
  omega

theorem Draft.Made.loopNames_allowed (made : d.Made (admitted all)) (hp : (above, p) ∈ d.scopes)
    (h : name ∈ (d.frame p).loopNames) : loopNameFault? name = none := by
  obtain ⟨loops, nested⟩ := made.nestedAt hp
  rcases nested.frame_loopNames with ⟨none, -⟩ | ⟨l, _, -, allowed, -, names⟩
  · rw [none] at h
    cases h
  · exact allowed name (names ▸ h)

theorem Draft.Made.not_loopName (made : d.Made (admitted all)) (hp : (above, p) ∈ d.scopes)
    (guarded : Guarded name) {r : Spot} (hr : r ∈ p :: above) : name ∉ (d.frame r).loopNames := by
  obtain ⟨outer, hr⟩ := scope_of_mem hp hr
  exact fun h => not_guarded (made.loopNames_allowed hr h) guarded

theorem Draft.Made.boundAt_path (made : d.Made (admitted all)) (hp : (above, p) ∈ d.scopes)
    (path : p :: above = between ++ q :: around) (guarded : Guarded name)
    (bound : name ∈ (d.frame q).generated) (others : ∀ r ∈ between, name ∉ (d.frame r).generated)
    (outer : Frame) : BoundAt ((p :: above).map d.frame ++ [outer]) name between.length := by
  have frames : (p :: above).map d.frame ++ [outer] =
      between.map d.frame ++ (d.frame q :: (around.map d.frame ++ [outer])) := by
    rw [path]
    simp
  have upTo (n : Nat) (hn : n ≤ between.length + 1) :
      ((p :: above).map d.frame ++ [outer]).take n = ((p :: above).map d.frame).take n := by
    rw [List.take_append_of_le_length]
    rw [path]
    simp
    omega
  refine ⟨⟨d.frame q, ?_, bound⟩, ?_, ?_⟩
  · rw [frames]
    simp
  · rw [frames, List.take_left' (by simp)]
    intro G hG
    obtain ⟨r, hr, rfl⟩ := List.mem_map.mp hG
    exact others r hr
  · rw [upTo _ (Nat.le_refl _)]
    intro G hG hn
    obtain ⟨r, hr, rfl⟩ := List.mem_map.mp (List.mem_of_mem_take hG)
    exact absurd hn (made.not_loopName hp guarded hr)

theorem boundAt_self (bound : name ∈ (d.frame p).generated)
    (loops : name ∈ (d.frame p).loopNames → IsHelperName name) (outer : Frame) :
    BoundAt ((p :: above).map d.frame ++ [outer]) name 0 := by
  refine ⟨⟨d.frame p, rfl, bound⟩, by simp, ?_⟩
  intro G hG hn
  obtain rfl : G = d.frame p := by simpa using hG
  exact ⟨loops hn, rfl⟩

theorem Draft.Made.boundAt_outer (made : d.Made (admitted all)) (hp : (above, p) ∈ d.scopes)
    (guarded : Guarded name) {outer : Frame} (bound : name ∈ outer.generated)
    (none : outer.loopNames = []) (others : ∀ r ∈ p :: above, name ∉ (d.frame r).generated) :
    BoundAt ((p :: above).map d.frame ++ [outer]) name (above.length + 1) := by
  refine ⟨⟨outer, by simp, bound⟩, ?_, ?_⟩
  · rw [List.take_left' (by simp)]
    intro G hG
    obtain ⟨r, hr, rfl⟩ := List.mem_map.mp hG
    exact others r hr
  · intro G hG hn
    rcases List.mem_append.mp (List.mem_of_mem_take hG) with hG | hG
    · obtain ⟨r, hr, rfl⟩ := List.mem_map.mp hG
      exact absurd hn (made.not_loopName hp guarded hr)
    · rw [List.mem_singleton.mp hG, none] at hn
      cases hn

theorem Makes.not_local {U : Uses} {r : Spot} (made : d.Made U) (hr : (around, r) ∈ d.scopes)
    (h : Makes U d r name) {scope k : Nat} (is : name = localName scope k) : r.region.id = scope := by
  have isLocal : IsLocalName name := ⟨scope, k, is⟩
  cases h with
  | property hu e =>
    obtain ⟨loops, nested⟩ := made.nestedAt hr
    obtain ⟨j, hj⟩ := localName_of_tabled nested.tabled (List.mem_of_mem_filter hu)
    exact (localName_injective (hj.symm.trans (e.symm.trans is))).1
  | render root h => exact absurd (isPlainName_render made.formed h) isLocal.not_plain
  | parameter root h =>
    have plain : IsPlainName name := by rcases h with rfl | rfl <;> exact .inl (by decide)
    exact absurd plain isLocal.not_plain
  | part uses h e => exact absurd (e ▸ isPlainName_part h) isLocal.not_plain
  | helper h e => exact absurd (e ▸ (made.child hr h).2) isLocal.not_helper

/-- A guarded name that is none of a property, a helper or a parameter is made by the render function
only. -/
theorem Makes.eq_render {r : Spot} (made : d.Made (admitted all)) (hr : (around, r) ∈ d.scopes)
    (h : Makes (admitted all) d r name) (guarded : Guarded name) (property : ¬ IsLocalName name)
    (helper : ¬ IsHelperName name) (parameter : name ≠ testName ∧ name ≠ "_") :
    r.region.helper = none ∧ name ∈ d.emitter.renderNames := by
  cases h with
  | property hu e =>
    obtain ⟨loops, nested⟩ := made.nestedAt hr
    exact absurd (e ▸ isLocalName_hoisted nested hu) property
  | render root h => exact ⟨root, h⟩
  | parameter root h => exact absurd h (by simp [parameter])
  | @part f part uses h e =>
    have allowed : loopNameFault? f.iterator = none := uses _ List.mem_cons_self
    exact absurd (e ▸ guarded) (partName_not_guarded allowed h)
  | helper h e => exact absurd (e ▸ (made.child hr h).2) helper

theorem Nested.generated_render {U : Uses} (nested : Nested U d (p :: above) loops)
    (root : p.region.helper = none) (h : name ∈ d.emitter.renderNames) :
    name ∈ (d.frame p).generated := by
  rcases List.mem_append.mp h with h | h
  · refine generated_parameter ?_ (by simpa only [Draft.function, root] using h)
    cases nested with
    | root number kind helper coded => simp [kind]
    | conditional around child inherits named kind test helper coded => simp [helper] at root
    | loop around child inherits uses named kind noted helper coded => simp [helper] at root
  · exact nested.generated_assigned (.inr ⟨root, h⟩)

theorem Draft.Made.boundAt_render (made : d.Made (admitted all)) (hp : (above, p) ∈ d.scopes)
    (h : name ∈ d.emitter.renderNames) (outer : Frame) :
    BoundAt ((p :: above).map d.frame ++ [outer]) name above.length := by
  obtain ⟨loops, nested⟩ := made.nestedAt hp
  obtain ⟨between, root, path, helper, below⟩ := nested.root_last
  have plain := isPlainName_render made.formed h
  have guarded := guarded_render made.formed h
  have size : between.length = above.length := by
    have lengths := congrArg List.length path
    simp at lengths
    omega
  have last : root ∈ p :: above := by
    rw [path]
    simp
  obtain ⟨outside, hroot⟩ := scope_of_mem hp last
  obtain ⟨_, top⟩ := made.nestedAt hroot
  rw [← size]
  refine made.boundAt_path hp path guarded (top.generated_render helper h) (fun r hr hn => ?_) outer
  obtain ⟨around, scope⟩ := scope_of_mem hp (path ▸ List.mem_append_left [root] hr)
  have only := (made.makes scope hn).eq_render made scope guarded (fun is => is.not_plain plain)
    (fun is => is.not_plain plain) (render_ne_parameter made.formed h)
  exact below r hr only.1

theorem Draft.Made.boundAt_around (made : d.Made (admitted all)) (hp : (above, p) ∈ d.scopes)
    (h : name ∈ d.emitter.outerNames) {outer : Frame} (bound : name ∈ outer.generated)
    (none : outer.loopNames = []) :
    BoundAt ((p :: above).map d.frame ++ [outer]) name (above.length + 1) := by
  have guarded := guarded_outer made.formed made.references h
  obtain ⟨property, helper, render, parameter⟩ := outer_fresh made.formed made.references h
  refine made.boundAt_outer hp guarded bound none fun r hr hn => ?_
  obtain ⟨around, scope⟩ := scope_of_mem hp hr
  exact render ((made.makes scope hn).eq_render made scope guarded property helper parameter).2

theorem Emitter.Notes.render_or_outer {E : Emitter} (h : E.Notes name) :
    name ∈ E.renderNames ∨ name ∈ E.outerNames := by
  cases h with
  | primitive hp =>
    exact .inl (List.mem_append_right _ (List.mem_append_left _ (List.mem_append_left _
      (List.mem_map_of_mem hp))))
  | slot hs =>
    exact .inl (List.mem_append_right _ (List.mem_append_left _ (List.mem_append_right _
      (List.mem_map_of_mem (mem_of_get? hs)))))
  | @memo n hm =>
    have known : memoName n ∈ E.memoNames := List.mem_map_of_mem (List.mem_range.mpr hm)
    exact .inl (List.mem_append_right _ (List.mem_append_right _ known))
  | component hc =>
    exact .inr (List.mem_append_left _ (List.mem_append_right _ (List.mem_map_of_mem (mem_of_get? hc))))
  | runtime hr => exact .inr (List.mem_append_right _ hr)
  | context => exact .inl (List.mem_append_left _ (by decide))

theorem partName_ne (iterator part : String) : partName iterator part ≠ iterator := by
  intro e
  have lengths := congrArg (fun s => s.toList.length) e
  simp only [toList_partName, List.length_append, List.length_cons] at lengths
  omega

/-- The names that come with the form of a function are parameters of it that are no loop variables, or
that of the namespace type. -/
theorem Nested.introduces {U : Uses} (nested : Nested U d (p :: above) loops)
    (h : Introduces p loops name) :
    name ∈ (d.function p).signature.names ∧ p.region.kind ≠ .forEach ∧
        (Guarded name ∨ name ∉ (d.frame p).loopNames) ∨
      name ∈ d.emitter.outerNames := by
  have names := nested.frame_loopNames
  cases nested with
  | root number kind helper coded =>
    cases h with
    | parameter root h =>
      have known : ∀ n ∈ [apiName, slotSetName, contextName], n ∈ renderSignature.names ∧
          n ∈ reservedNames := by decide
      refine .inl ⟨?_, by simp [kind], .inl (.inr (.inr (known name h).2))⟩
      simpa only [Draft.function, helper] using (known name h).1
    | test other => simp [kind] at other
    | namespaceType other h => simp [kind] at other
    | part other h hp => simp [kind] at other
  | conditional around child inherits named kind test helper coded =>
    cases h with
    | parameter root h => simp [helper] at root
    | test _ =>
      refine .inl ⟨?_, by simp [kind], .inl (guarded_underscore rfl)⟩
      simp [Draft.function, helper, testHelper, Signature.names]
    | namespaceType other h => simp [kind] at other
    | part other h hp => simp [kind] at other
  | @loop _ _ _ _ l body around child inherits uses named kind noted helper coded =>
    cases h with
    | parameter root h => simp [helper] at root
    | test other => cases l <;> simp [kind, loopKind] at other
    | @namespaceType f other h =>
      have needs := noted f (Option.some.inj h)
      exact .inr (List.mem_append_left _ (List.mem_append_left _ (by simp [needs])))
    | @part f part other h hp =>
      obtain rfl : l = .of f := Option.some.inj h
      refine .inl ⟨?_, by simp [kind, loopKind], .inr ?_⟩
      · simp only [Draft.function, helper, loopHelper, Signature.names, Option.toList_none,
          List.append_nil]
        exact List.mem_map_of_mem hp
      · rcases names with ⟨none, -⟩ | ⟨l, _, e, -, -, loopNames⟩
        · simp [none]
        · obtain ⟨rfl, -⟩ := List.cons.inj e
          rw [loopNames, Loop.names, List.mem_singleton]
          exact partName_ne _ _

/-- The finished function of a scope with the functions around it. -/
def Draft.functionAt (d : Draft) (s : List Spot × Spot) : List Function × Function :=
  (s.1.map fun q => (d.function q).substitute d.decision, (d.function s.2).substitute d.decision)

/-- Every name of generated code in a function has a home, and is bound there by generated code. -/
theorem Draft.Made.own_bound (made : d.Made (admitted all)) (hp : (above, p) ∈ d.scopes)
    {o : Occurrence} (ho : o ∈ (d.functionAt (above, p)).2.loads) (is : o.ownName? = some name)
    {outer : Frame} (around : d.emitter.outerNames ⊆ outer.generated) (none : outer.loopNames = []) :
    ∃ k, Home d (d.functionAt (above, p)) name k ∧
      BoundAt ((p :: above).map d.frame ++ [outer]) name k := by
  obtain ⟨loops, nested⟩ := made.nestedAt hp
  have size : (d.functionAt (above, p)).1.length = above.length := by simp [Draft.functionAt]
  have render (h : name ∈ d.emitter.renderNames) : ∃ k, Home d (d.functionAt (above, p)) name k ∧
      BoundAt ((p :: above).map d.frame ++ [outer]) name k :=
    ⟨_, .render h, size ▸ made.boundAt_render hp h outer⟩
  have outside (h : name ∈ d.emitter.outerNames) : ∃ k, Home d (d.functionAt (above, p)) name k ∧
      BoundAt ((p :: above).map d.frame ++ [outer]) name k :=
    ⟨_, .outer h, size ▸ made.boundAt_around hp h (around h) none⟩
  unfold Occurrence.ownName? at is
  split at is
  · next id hatom =>
    obtain rfl := Option.some.inj is
    rcases made.load_origin hp nested ho hatom with origin | introduced
    · cases origin with
      | @property q beyond u suffix hu e =>
        obtain ⟨between, path⟩ := suffix
        obtain ⟨_, outerNested⟩ := made.nestedAt
          ((Tree.spots_suffix hp ⟨between, path⟩).resolve_left (by simp))
        obtain ⟨j, hj⟩ := localName_of_tabled outerNested.tabled (List.mem_of_mem_filter hu)
        have guarded : Guarded id := e ▸ hj ▸ guarded_localName _ _
        refine ⟨between.length, .property ?_ (e ▸ outerNested.startsWith d.decision hu), ?_⟩
        · have functions : (d.functionAt (above, p)).2 :: (d.functionAt (above, p)).1 =
              (p :: above).map fun q => (d.function q).substitute d.decision := rfl
          rw [functions, ← path]
          simp
        · refine made.boundAt_path hp path.symm guarded
            (outerNested.generated_assigned (.inl ⟨u, hu, e⟩)) (fun r hr hn => ?_) outer
          obtain ⟨_, scope⟩ := scope_of_mem hp (path ▸ List.mem_append_left _ hr)
          exact made.id_ne hp path.symm hr ((made.makes scope hn).not_local made scope (e.trans hj))
      | @helper c child e =>
        have defined : id ∈ (d.frame p).helpers := by
          rw [made.frame_helpers hp, e]
          exact List.mem_map_of_mem child
        exact ⟨0, .helper defined, boundAt_self (List.mem_append_right _ defined)
          (fun _ => e ▸ (made.child hp child).2) outer⟩
      | noted h => exact h.render_or_outer.elim render outside
    · rcases nested.introduces introduced with ⟨parameter, kind, free⟩ | h
      · refine ⟨0, .parameter parameter, boundAt_self (generated_parameter kind parameter) ?_ outer⟩
        intro loop
        rcases free with guarded | free
        · exact absurd loop (made.not_loopName hp guarded List.mem_cons_self)
        · exact absurd loop free
      · exact outside h
  · obtain rfl := Option.some.inj is
    exact render (List.mem_append_left _ (by decide))
  · cases is

end

end TemplateCompiler.Generate
