import TemplateCompiler.Load.Registry
import Mathlib.Data.List.Basic

/-!
Sessions with a registry. References are looked up and asked for, and what can be imported changes, in any
order. A reference that has a value keeps it; one that has none is imported afresh at each lookup.
-/

namespace TemplateCompiler.Load

inductive RegistryAction where
  | lookup (reference : String)
  /-- Asks whether a reference has a value. -/
  | test (reference : String)
  /-- The importable modules change. -/
  | change (f : Library → Library)

inductive RegistryAnswer where
  | found (e : Entity)
  | failed (fault : ImportFault)
  | known (b : Bool)
  | done

def RegistryAnswer.ofLookup : Except ImportFault Entity → RegistryAnswer
  | .ok e => found e
  | .error fault => failed fault

structure RegistryEvent where
  action : RegistryAction
  answer : RegistryAnswer

def RegistryEvent.success? : RegistryEvent → Option (String × Entity)
  | ⟨.lookup reference, .found e⟩ => some (reference, e)
  | _ => none

structure RegistrySession where
  registry : Registry
  library : Library
  /-- The references that were imported, also in vain, the latest last. -/
  imports : List String

namespace RegistrySession

def start (r : Registry) (lib : Library) : RegistrySession := ⟨r, lib, []⟩

def load (lib : Library) (reference : String) : StateM (List String) (Except ImportFault Entity) := do
  modify (· ++ [reference])
  return lib.importReference reference

def step (s : RegistrySession) : RegistryAction → RegistryAnswer × RegistrySession
  | .lookup reference =>
    let ((answer, registry), imports) := (s.registry.lookupBy (load s.library) reference).run s.imports
    (.ofLookup answer, { s with registry, imports })
  | .test reference => (.known (s.registry.contains reference), s)
  | .change f => (.done, { s with library := f s.library })

def run (s : RegistrySession) : List RegistryAction → List RegistryEvent × RegistrySession
  | [] => ([], s)
  | a :: rest =>
    let (answer, next) := s.step a
    let (events, last) := next.run rest
    (⟨a, answer⟩ :: events, last)

def value? (s : RegistrySession) (reference : String) : Option Entity := s.registry.entries.get? reference

def firstFound? (reference : String) (events : List RegistryEvent) : Option Entity :=
  (events.filterMap RegistryEvent.success?).lookup reference

def foundIn (events : List RegistryEvent) : List String :=
  (events.filterMap RegistryEvent.success?).map Prod.fst

inductive Steps (s : RegistrySession) : RegistryAction → RegistryAnswer × RegistrySession → Prop
  | known {reference e} : s.value? reference = some e → Steps s (.lookup reference) (.found e, s)
  | enter {reference e} : s.value? reference = none → s.library.importReference reference = .ok e →
      Steps s (.lookup reference)
        (.found e, ⟨⟨s.registry.entries.insert reference e⟩, s.library, s.imports ++ [reference]⟩)
  | fail {reference fault} : s.value? reference = none → s.library.importReference reference = .error fault →
      Steps s (.lookup reference) (.failed fault, ⟨s.registry, s.library, s.imports ++ [reference]⟩)
  | test (reference) : Steps s (.test reference) (.known (s.registry.contains reference), s)
  | change (f) : Steps s (.change f) (.done, { s with library := f s.library })

theorem steps_step (s : RegistrySession) (a : RegistryAction) : Steps s a (s.step a) := by
  cases a with
  | test reference => exact .test reference
  | change f => exact .change f
  | lookup reference =>
    cases value : s.value? reference with
    | some e =>
      have known := Steps.known value
      unfold value? at value
      simp only [step, Registry.lookupBy, value]
      exact known
    | none =>
      cases imported : s.library.importReference reference with
      | ok e =>
        have enter := Steps.enter value imported
        unfold value? at value
        simp only [step, Registry.lookupBy, value, load, imported]
        exact enter
      | error fault =>
        have fail := Steps.fail value imported
        unfold value? at value
        simp only [step, Registry.lookupBy, value, load, imported]
        exact fail

theorem value?_step (s : RegistrySession) (a : RegistryAction) (reference : String) :
    (s.step a).2.value? reference =
      (s.value? reference).or (firstFound? reference [⟨a, (s.step a).1⟩]) := by
  have steps := s.steps_step a
  generalize s.step a = result at steps
  cases steps with
  | @known x e value =>
    by_cases same : reference = x
    · simp [same, value]
    · simp [firstFound?, RegistryEvent.success?, List.lookup_cons, beq_false_of_ne same]
  | @enter x e value imported =>
    by_cases same : reference = x
    · subst same
      rw [value]
      simp [firstFound?, RegistryEvent.success?, value?]
    · simp [firstFound?, RegistryEvent.success?, value?, List.lookup_cons, beq_false_of_ne same]
  | fail | test | change => exact (Option.or_none).symm

theorem value?_run (s : RegistrySession) (actions : List RegistryAction) (reference : String) :
    (s.run actions).2.value? reference =
      (s.value? reference).or (firstFound? reference (s.run actions).1) := by
  induction actions generalizing s with
  | nil => simp [run, firstFound?]
  | cons a rest ih =>
    have split : firstFound? reference (s.run (a :: rest)).1 =
        (firstFound? reference [⟨a, (s.step a).1⟩]).or (firstFound? reference ((s.step a).2.run rest).1) := by
      rw [run, firstFound?, firstFound?, firstFound?, ← List.lookup_append, ← List.filterMap_append]
      rfl
    rw [split, ← Option.or_assoc, ← value?_step]
    exact ih _

theorem keys_step (s : RegistrySession) (a : RegistryAction) : (s.step a).2.registry.keys =
    (foundIn [⟨a, (s.step a).1⟩]).foldl Generate.Emit.addNew s.registry.keys := by
  have steps := s.steps_step a
  generalize s.step a = result at steps
  cases steps with
  | @known x e value =>
    have present : x ∈ s.registry.keys := by
      by_contra absent
      rw [value?, Table.get?_eq_none_iff.mpr absent] at value
      cases value
    simp [foundIn, RegistryEvent.success?, Generate.Emit.addNew, present]
  | @enter x e value imported =>
    have absent : x ∉ s.registry.entries.keys := Table.get?_eq_none_iff.mp value
    simp [foundIn, RegistryEvent.success?, Generate.Emit.addNew, Registry.keys, Table.keys_insert, absent]
  | fail | test | change => rfl

theorem keys_run (s : RegistrySession) (actions : List RegistryAction) :
    (s.run actions).2.registry.keys =
      (foundIn (s.run actions).1).foldl Generate.Emit.addNew s.registry.keys := by
  induction actions generalizing s with
  | nil => rfl
  | cons a rest ih =>
    have split : foundIn (s.run (a :: rest)).1 =
        foundIn [⟨a, (s.step a).1⟩] ++ foundIn ((s.step a).2.run rest).1 := by
      rw [run, foundIn, foundIn, foundIn, ← List.map_append, ← List.filterMap_append]
      rfl
    rw [split, List.foldl_append, ← keys_step]
    exact ih _

theorem step_lookup (s : RegistrySession) (reference : String) :
    (∀ e, s.value? reference = some e → s.step (.lookup reference) = (.found e, s)) ∧
      (s.value? reference = none →
        (s.step (.lookup reference)).1 = .ofLookup (s.library.importReference reference) ∧
        (s.step (.lookup reference)).2.imports = s.imports ++ [reference]) := by
  have steps := s.steps_step (.lookup reference)
  generalize s.step (.lookup reference) = result at steps
  cases steps with
  | known value =>
    rw [value]
    exact ⟨fun e h => Option.some.inj h ▸ rfl, nofun⟩
  | enter value imported | fail value imported =>
    rw [value, imported]
    exact ⟨nofun, fun _ => ⟨rfl, rfl⟩⟩

/-- What holds in a session of a registry after any actions, and after any further ones. -/
structure Stable (r : Registry) (lib : Library) (actions : List RegistryAction) : Prop where
  /-- A reference has the value that it had from the start, or else the one that was found first. -/
  values : ∀ reference, ((start r lib).run actions).2.value? reference =
    (r.entries.get? reference).or (firstFound? reference ((start r lib).run actions).1)
  /-- A reference that has a value is answered with it from then on, without an import. -/
  kept : ∀ reference e later, ((start r lib).run actions).2.value? reference = some e →
    let s := (((start r lib).run actions).2.run later).2
    s.step (.lookup reference) = (.found e, s)
  /-- A lookup that fails changes neither keys nor values. -/
  failed : ∀ reference fault,
    (((start r lib).run actions).2.step (.lookup reference)).1 = .failed fault →
      (((start r lib).run actions).2.step (.lookup reference)).2.registry =
        ((start r lib).run actions).2.registry
  /-- A reference without a value is imported at each lookup, from the modules as they are then. -/
  afresh : ∀ reference, ((start r lib).run actions).2.value? reference = none →
    let s := ((start r lib).run actions).2
    (s.step (.lookup reference)).1 = .ofLookup (s.library.importReference reference) ∧
      (s.step (.lookup reference)).2.imports = s.imports ++ [reference]
  /-- A test tells whether there is a key. It imports nothing and changes nothing. -/
  tests : ∀ reference, let s := ((start r lib).run actions).2
    s.step (.test reference) = (.known (reference ∈ s.registry.keys), s)
  /-- The keys are those from the start and then the others in the order in which they were found first. -/
  keys : ((start r lib).run actions).2.registry.keys = r.keys ++
    ((foundIn ((start r lib).run actions).1).filter fun x => !r.keys.contains x).eraseDups

/-- A registry is stable under lookups, tests and changes of what can be imported. -/
theorem registry_stable (r : Registry) (lib : Library) (actions : List RegistryAction) :
    Stable r lib actions where
  values := value?_run _ actions
  kept reference e later value := by
    refine (step_lookup _ reference).1 e ?_
    rw [value?_run, value, Option.some_or]
  failed reference fault fails := by
    have steps := ((start r lib).run actions).2.steps_step (.lookup reference)
    generalize ((start r lib).run actions).2.step (.lookup reference) = result at steps fails
    cases steps with
    | known value | enter value imported => cases fails
    | fail value imported => rfl
  afresh reference missing := (step_lookup _ reference).2 missing
  tests reference := by
    have same (s : RegistrySession) : s.registry.contains reference = decide (reference ∈ s.registry.keys) := by
      rw [Registry.contains, Table.contains, Bool.eq_iff_iff, decide_eq_true_iff, ← not_iff_not, Registry.keys,
        ← Table.get?_eq_none_iff, Bool.not_eq_true, Option.isSome_eq_false_iff, Option.isNone_iff_eq_none]
    simp only [step, same]
  keys := (keys_run _ actions).trans (Generate.Emit.foldl_addNew _ _)

/-- A reference is looked up in vain, its module appears, it is looked up again, and the module changes. -/
def lateModule : List RegistryAction :=
  let assign (n : Int) : Library → Library := fun lib =>
    { lib with modules := lib.modules.insert "m" (.ofList [("x", .int n)]) }
  [.lookup "m:x", .change (assign 1), .lookup "m:x", .change (assign 2)]

theorem lateModule_stable : let s := ((start .empty ⟨.empty, .empty⟩).run lateModule).2
    s.imports = ["m:x", "m:x"] ∧
      ∃ e, ∀ later, (s.run later).2.step (.lookup "m:x") = (.found e, (s.run later).2) := by
  have found : (((start .empty ⟨.empty, .empty⟩).run lateModule).2.value? "m:x").isSome := by
    decide +kernel
  obtain ⟨e, value⟩ := Option.isSome_iff_exists.mp found
  exact ⟨by decide +kernel, e, fun later => (registry_stable _ _ lateModule).kept "m:x" e later value⟩

end RegistrySession

end TemplateCompiler.Load
