import Mathlib.Data.List.Induction
import TemplateCompiler.Proofs.Generate.Draft
import TemplateCompiler.Render.Loader

/-!
The cache of a loader over whole runs. A run is any sequence of loads and clearings, of which loads may
fail. At each point the cache has for a code the function that the last load of that code without modules
gave since the last clearing, and nothing else. So a code keeps its function until the loader is cleared or
made to load the code anew.
-/

namespace TemplateCompiler.Render

open TemplateCompiler.Load

inductive LoaderAction where
  | load (library : Library) (template : Compiled) (modules : Option (Table Entity)) (useCache : Bool)
  | clear

/-- What was asked of a loader, with the answer to a load. -/
inductive LoaderEvent where
  | loaded (template : Compiled) (modules : Option (Table Entity)) (useCache : Bool) (made : RenderFn)
  | refused (template : Compiled) (modules : Option (Table Entity)) (useCache : Bool) (fault : LoadFault)
  | cleared

namespace LoaderEvent

def isCleared : LoaderEvent → Bool
  | cleared => true
  | _ => false

/-- The function that a load of a code without modules gave. -/
def given? (code : String) : LoaderEvent → Option RenderFn
  | loaded t none _ made => if t.program.code = code then some made else none
  | _ => none

/-- A load without modules that gave a function for a code and was told not to look for a kept one. -/
def renews (code : String) : LoaderEvent → Bool
  | loaded t none false _ => t.program.code = code
  | _ => false

/-- The function that a code was given last, since the last clearing. -/
def latest? (code : String) (events : List LoaderEvent) : Option RenderFn :=
  (events.reverse.takeWhile fun e => !e.isCleared).findSome? (given? code)

theorem latest?_concat (code : String) (es : List LoaderEvent) (e : LoaderEvent) :
    latest? code (es ++ [e]) = if e.isCleared then none else e.given? code <|> latest? code es := by
  unfold latest?
  rw [List.reverse_append, List.reverse_singleton, List.singleton_append, List.takeWhile_cons]
  cases e.isCleared <;> cases h : e.given? code <;> simp [h]

end LoaderEvent

namespace Loader

def step (l : Loader) : LoaderAction → LoaderEvent × Loader
  | .load lib t modules useCache =>
    match l.load lib t modules useCache with
    | (.ok made, after) => (.loaded t modules useCache made, after)
    | (.error fault, after) => (.refused t modules useCache fault, after)
  | .clear => (.cleared, l.clear)

theorem step_load (l : Loader) (lib : Library) (t : Compiled) (modules : Option (Table Entity))
    (useCache : Bool) :
    (l.step (.load lib t modules useCache)).2 = (l.load lib t modules useCache).2 := by
  simp only [step]
  split <;> next hr => rw [hr]

def run (l : Loader) : List LoaderAction → List LoaderEvent × Loader
  | [] => ([], l)
  | a :: as => ((l.step a).1 :: ((l.step a).2.run as).1, ((l.step a).2.run as).2)

theorem run_append (l : Loader) (as bs : List LoaderAction) :
    l.run (as ++ bs) = ((l.run as).1 ++ ((l.run as).2.run bs).1, ((l.run as).2.run bs).2) := by
  induction as generalizing l with
  | nil => rfl
  | cons a as ih => simp [run, ih]

/-- All that a load can do: it is refused and changes nothing, it finds a kept function, or it makes a new
one, which is kept if no modules were given. -/
inductive Loads (l : Loader) (t : Compiled) :
    Option (Table Entity) → Bool → Except LoadFault RenderFn × Loader → Prop where
  | refuse {modules : Option (Table Entity)} {useCache : Bool} (fault : LoadFault) :
    Loads l t modules useCache (.error fault, l)
  | reuse {made : RenderFn} (kept : l.cache.get? t.program.code = some made) :
    Loads l t none true (.ok made, l)
  | keep {useCache : Bool} {made : RenderFn} (new : made.number = l.made)
    (missing : useCache → l.cache.get? t.program.code = none) :
    Loads l t none useCache (.ok made, ⟨l.cache.insert t.program.code made, l.made + 1⟩)
  | pass {modules : Table Entity} {useCache : Bool} {made : RenderFn} (new : made.number = l.made) :
    Loads l t (some modules) useCache (.ok made, ⟨l.cache, l.made + 1⟩)

theorem loads_load (l : Loader) (lib : Library) (t : Compiled) (modules : Option (Table Entity))
    (useCache : Bool) : Loads l t modules useCache (l.load lib t modules useCache) := by
  have made (missing : useCache → modules = none → l.cache.get? t.program.code = none) :
      Loads l t modules useCache (l.make lib t modules) := by
    unfold make
    split
    · exact .refuse _
    · cases modules with
      | none => exact .keep rfl fun use => missing use rfl
      | some modules => exact .pass rfl
  unfold load
  split
  · exact .refuse _
  · split
    · next asked =>
      obtain ⟨rfl, isNone⟩ := Bool.and_eq_true_iff.mp asked
      obtain rfl : modules = none := Option.isNone_iff_eq_none.mp isNone
      split
      · next kept => exact .reuse kept
      · next missing => exact made fun _ _ => missing
    · next asked =>
      refine made fun use is => absurd ?_ asked
      rw [use, is]
      rfl

section

variable {l : Loader} {code : String}

theorem get?_step (l : Loader) (a : LoaderAction) (code : String) :
    (l.step a).2.cache.get? code =
      if (l.step a).1.isCleared then none else (l.step a).1.given? code <|> l.cache.get? code := by
  cases a with
  | clear => rfl
  | load lib t modules useCache =>
    have loads := l.loads_load lib t modules useCache
    generalize hr : l.load lib t modules useCache = result at loads
    cases loads with
    | refuse fault => simp [step, hr, LoaderEvent.isCleared, LoaderEvent.given?]
    | @reuse made kept =>
      by_cases same : t.program.code = code
      · subst same
        simp [step, hr, LoaderEvent.isCleared, LoaderEvent.given?, kept]
      · simp [step, hr, LoaderEvent.isCleared, LoaderEvent.given?, same]
    | @keep _ made new missing =>
      by_cases same : t.program.code = code
      · subst same
        simp [step, hr, LoaderEvent.isCleared, LoaderEvent.given?]
      · simp [step, hr, LoaderEvent.isCleared, LoaderEvent.given?, same, Ne.symm same]
    | pass new => simp [step, hr, LoaderEvent.isCleared, LoaderEvent.given?]

theorem get?_run (actions : List LoaderAction) (code : String) :
    (empty.run actions).2.cache.get? code = LoaderEvent.latest? code (empty.run actions).1 := by
  induction actions using List.reverseRecOn with
  | nil => rfl
  | append_singleton as a ih =>
    rw [run_append]
    change ((empty.run as).2.step a).2.cache.get? code =
      LoaderEvent.latest? code ((empty.run as).1 ++ [((empty.run as).2.step a).1])
    rw [get?_step, LoaderEvent.latest?_concat, ih]

/-- The kept functions were made before. -/
def Numbered (l : Loader) : Prop := ∀ code made, l.cache.get? code = some made → made.number < l.made

theorem Numbered.step (h : l.Numbered) (a : LoaderAction) : (l.step a).2.Numbered := by
  cases a with
  | clear => exact fun _ _ found => nomatch found
  | load lib t modules useCache =>
    have loads := l.loads_load lib t modules useCache
    generalize hr : l.load lib t modules useCache = result at loads
    intro code f
    cases loads with
    | refuse fault => simpa [Loader.step, hr] using h code f
    | reuse kept => simpa [Loader.step, hr] using h code f
    | @keep _ made new missing =>
      simp only [Loader.step, hr, Table.get?_insert]
      split
      · rintro ⟨⟩
        omega
      · intro found
        have := h code f found
        omega
    | pass new =>
      simp only [Loader.step, hr]
      intro found
      have := h code f found
      omega

theorem Numbered.run (h : l.Numbered) (actions : List LoaderAction) : (l.run actions).2.Numbered := by
  induction actions generalizing l with
  | nil => exact h
  | cons a as ih => exact ih (h.step a)

theorem numbered_empty : empty.Numbered := fun _ _ found => nomatch found

/-- Whether an event takes its function away from a code. -/
def disturbs (code : String) (e : LoaderEvent) : Bool := e.isCleared || e.renews code

theorem get?_step_of_quiet {f : RenderFn} (kept : l.cache.get? code = some f) (a : LoaderAction)
    (quiet : ¬ disturbs code (l.step a).1) : (l.step a).2.cache.get? code = some f := by
  rw [disturbs, Bool.or_eq_true, not_or] at quiet
  rw [get?_step, if_neg quiet.1, kept]
  cases a with
  | clear => rfl
  | load lib t modules useCache =>
    have loads := l.loads_load lib t modules useCache
    generalize hr : l.load lib t modules useCache = result at loads quiet
    cases loads with
    | refuse fault | pass new => simp [step, hr, LoaderEvent.given?]
    | reuse found =>
      by_cases same : t.program.code = code
      · rw [same, kept] at found
        simp [step, hr, LoaderEvent.given?, same, found]
      · simp [step, hr, LoaderEvent.given?, same]
    | keep new missing =>
      by_cases same : t.program.code = code
      · cases useCache with
        | true => cases kept.symm.trans (same ▸ missing rfl)
        | false => simp [step, hr, LoaderEvent.renews, same] at quiet
      · simp [step, hr, LoaderEvent.given?, same]

theorem get?_run_of_quiet {f : RenderFn} (kept : l.cache.get? code = some f)
    (actions : List LoaderAction) (quiet : ∀ e ∈ (l.run actions).1, ¬ disturbs code e) :
    (l.run actions).2.cache.get? code = some f := by
  induction actions generalizing l with
  | nil => exact kept
  | cons a as ih =>
    exact ih (get?_step_of_quiet kept a (quiet _ List.mem_cons_self))
      fun e he => quiet e (List.mem_cons_of_mem _ he)

/-- From `n` on new functions are made, and the one that a code has is among these. -/
structure Renewed (n : Nat) (code : String) (l : Loader) : Prop where
  made : n ≤ l.made
  kept : ∀ f, l.cache.get? code = some f → n ≤ f.number

theorem made_step (l : Loader) (a : LoaderAction) : l.made ≤ (l.step a).2.made := by
  cases a with
  | clear => exact Nat.le_refl _
  | load lib t modules useCache =>
    have loads := l.loads_load lib t modules useCache
    generalize hr : l.load lib t modules useCache = result at loads
    cases loads <;> simp [step, hr]

theorem given?_step {n : Nat} {f : RenderFn} (made : n ≤ l.made)
    (kept : ∀ g, l.cache.get? code = some g → n ≤ g.number) (a : LoaderAction)
    (given : (l.step a).1.given? code = some f) : n ≤ f.number := by
  cases a with
  | clear => cases given
  | load lib t modules useCache =>
    have loads := l.loads_load lib t modules useCache
    generalize hr : l.load lib t modules useCache = result at loads
    simp only [step, hr] at given
    cases loads with
    | refuse fault | pass new => cases given
    | reuse found =>
      simp only [LoaderEvent.given?, Option.ite_none_right_eq_some, Option.some.injEq] at given
      obtain ⟨rfl, rfl⟩ := given
      exact kept _ found
    | keep new missing =>
      simp only [LoaderEvent.given?, Option.ite_none_right_eq_some, Option.some.injEq] at given
      obtain ⟨rfl, rfl⟩ := given
      omega

theorem Renewed.step {n : Nat} (h : Renewed n code l) (a : LoaderAction) :
    Renewed n code (l.step a).2 := by
  refine ⟨Nat.le_trans h.made (l.made_step a), fun f found => ?_⟩
  rw [get?_step] at found
  split at found
  · cases found
  · cases given : (l.step a).1.given? code with
    | none =>
      rw [given] at found
      exact h.kept f found
    | some g =>
      rw [given] at found
      obtain rfl : g = f := Option.some.inj found
      exact given?_step h.made h.kept a given

theorem renewed_of_disturbs {n : Nat} (made : n ≤ l.made) (a : LoaderAction)
    (h : disturbs code (l.step a).1) : Renewed n code (l.step a).2 := by
  refine ⟨Nat.le_trans made (l.made_step a), fun f found => ?_⟩
  rw [get?_step] at found
  cases a with
  | clear => cases found
  | load lib t modules useCache =>
    have loads := l.loads_load lib t modules useCache
    generalize hr : l.load lib t modules useCache = result at loads
    simp only [Loader.step, hr] at h found
    cases loads with
    | refuse fault | pass new => simp [disturbs, LoaderEvent.isCleared, LoaderEvent.renews] at h
    | reuse kept => simp [disturbs, LoaderEvent.isCleared, LoaderEvent.renews] at h
    | @keep useCache made' new missing =>
      cases useCache with
      | true => simp [disturbs, LoaderEvent.isCleared, LoaderEvent.renews] at h
      | false =>
        simp only [disturbs, LoaderEvent.isCleared, LoaderEvent.renews, Bool.false_or,
          decide_eq_true_eq] at h
        simp only [LoaderEvent.isCleared, LoaderEvent.given?, h] at found
        obtain rfl : made' = f := Option.some.inj found
        omega

theorem renewed_run {n : Nat} (made : n ≤ l.made) (actions : List LoaderAction)
    (h : ∃ e ∈ (l.run actions).1, disturbs code e) : Renewed n code (l.run actions).2 := by
  have onward {l : Loader} (as : List LoaderAction) (h : Renewed n code l) :
      Renewed n code (l.run as).2 := by
    induction as generalizing l with
    | nil => exact h
    | cons a as ih => exact ih (h.step a)
  induction actions generalizing l with
  | nil =>
    obtain ⟨e, he, -⟩ := h
    cases he
  | cons a as ih =>
    obtain ⟨e, he, disturbing⟩ := h
    rcases List.mem_cons.mp he with rfl | he
    · exact onward as (renewed_of_disturbs made a disturbing)
    · exact ih (Nat.le_trans made (l.made_step a)) ⟨e, he, disturbing⟩

end

theorem get?_load_default {l : Loader} {lib : Library} {t : Compiled} {f : RenderFn}
    (h : (l.load lib t none true).1 = .ok f) :
    (l.load lib t none true).2.cache.get? t.program.code = some f := by
  have loads := l.loads_load lib t none true
  generalize l.load lib t none true = result at loads h
  cases loads with
  | refuse fault => cases h
  | reuse kept =>
    cases h
    exact kept
  | keep new missing =>
    cases h
    simp

/-- Two loads that may use the cache give one function exactly if nothing disturbed the code between
them. -/
theorem same_function_iff {l : Loader} (numbered : l.Numbered) {lib lib' : Library} {t t' : Compiled}
    {f g : RenderFn} {between : List LoaderAction} (code : t.program.code = t'.program.code)
    (first : (l.load lib t none true).1 = .ok f)
    (second : (((l.load lib t none true).2.run between).2.load lib' t' none true).1 = .ok g) :
    f.number = g.number ↔
      ∀ e ∈ ((l.load lib t none true).2.run between).1, ¬ disturbs t.program.code e := by
  have kept := get?_load_default first
  have earlier : f.number < (l.load lib t none true).2.made := by
    have after := numbered.step (.load lib t none true)
    rw [step_load] at after
    exact after _ _ kept
  generalize (l.load lib t none true).2 = m at kept earlier second
  constructor
  · intro same e he disturbing
    have renewed : Renewed m.made t.program.code (m.run between).2 :=
      renewed_run (Nat.le_refl _) between ⟨e, he, disturbing⟩
    have later : m.made ≤ g.number := by
      have loads := (m.run between).2.loads_load lib' t' none true
      generalize (m.run between).2.load lib' t' none true = result at loads second
      cases loads with
      | refuse fault => cases second
      | reuse found =>
        cases second
        exact renewed.kept _ (code ▸ found)
      | keep new missing =>
        cases second
        exact new ▸ renewed.made
    omega
  · intro quiet
    have still := get?_run_of_quiet kept between quiet
    rw [code] at still
    have loads := (m.run between).2.loads_load lib' t' none true
    generalize (m.run between).2.load lib' t' none true = result at loads second
    cases loads with
    | refuse fault => cases second
    | reuse found =>
      cases second
      rw [Option.some.inj (still.symm.trans found)]
    | keep new missing => cases still.symm.trans (missing rfl)

theorem load_some (l : Loader) (lib : Library) (t : Compiled) (modules : Table Entity) (useCache : Bool) :
    (l.load lib t (some modules) useCache).1 =
      if t.config.format ≠ .function then .error (.wrongFormat t.config.format)
      else match runFactory lib modules t.program.stmts with
        | .error fault => .error (.run fault)
        | .ok function => .ok ⟨l.made, function, callDepth t.program.stmts⟩ := by
  have asked : (useCache && (some modules).isNone) = false := Bool.and_false useCache
  rw [load, asked]
  split
  · rfl
  · change (l.make lib t (some modules)).1 = _
    rw [make, Option.getD_some]
    cases runFactory lib modules t.program.stmts <;> rfl

/-- What holds of the cache after any run. -/
structure CacheExact (actions : List LoaderAction) : Prop where
  /-- The cache has the functions that were given last without modules, and nothing else. -/
  latest : ∀ code, (empty.run actions).2.cache.get? code = LoaderEvent.latest? code (empty.run actions).1
  /-- A load that fails changes nothing. -/
  refused : ∀ lib t modules useCache fault,
    ((empty.run actions).2.load lib t modules useCache).1 = .error fault →
      ((empty.run actions).2.load lib t modules useCache).2 = (empty.run actions).2
  /-- A load with modules leaves the cache as it is. -/
  unwritten : ∀ lib t modules useCache,
    ((empty.run actions).2.load lib t (some modules) useCache).2.cache = (empty.run actions).2.cache
  /-- Its answer is the same whatever the cache has. -/
  unread : ∀ lib t modules useCache cache,
    (Loader.load ⟨cache, (empty.run actions).2.made⟩ lib t (some modules) useCache).1 =
      ((empty.run actions).2.load lib t (some modules) useCache).1
  /-- Two loads of one code that may use the cache give the same function exactly if in between the loader
  was not cleared and no load without modules and without the cache gave that code a function. -/
  same : ∀ lib t f between lib' t' g, t.program.code = t'.program.code →
    ((empty.run actions).2.load lib t none true).1 = .ok f →
    ((((empty.run actions).2.load lib t none true).2.run between).2.load lib' t' none true).1 = .ok g →
    (f.number = g.number ↔
      ∀ e ∈ ((((empty.run actions).2.load lib t none true).2.run between).1),
        ¬ e.isCleared ∧ ¬ e.renews t.program.code)

/-- The cache is exact after every run of loads and clearings. -/
theorem cache_exact_after_run (actions : List LoaderAction) : CacheExact actions where
  latest := get?_run actions
  refused lib t modules useCache fault h := by
    have loads := (empty.run actions).2.loads_load lib t modules useCache
    generalize (empty.run actions).2.load lib t modules useCache = result at loads h
    cases loads with
    | refuse fault => rfl
    | reuse kept => cases h
    | keep new missing => cases h
    | pass new => cases h
  unwritten lib t modules useCache := by
    have loads := (empty.run actions).2.loads_load lib t (some modules) useCache
    generalize (empty.run actions).2.load lib t (some modules) useCache = result at loads
    cases loads <;> rfl
  unread lib t modules useCache cache := by rw [load_some, load_some]
  same lib t f between lib' t' g code first second := by
    rw [same_function_iff (numbered_empty.run actions) code first second]
    simp [disturbs]

def emptyPage : Except Failure Compiled :=
  (compile { Config.default with format := .function } (Template.Node.root [])).1

/-- The empty page is loaded twice. With nothing in between it gives one function, and after a load
without the cache another one. -/
theorem emptyPage_cache_exact : ∃ page lib f g h, emptyPage = .ok page ∧
    (empty.load lib page none true).1 = .ok f ∧
    ((empty.load lib page none true).2.load lib page none true).1 = .ok g ∧
    (((empty.load lib page none true).2.run [.load lib page none false]).2.load lib page none true).1 =
      .ok h ∧
    f.number = g.number ∧ f.number ≠ h.number := by
  have ok : emptyPage.isOk := by decide +kernel
  obtain ⟨page, isPage⟩ := Generate.exists_of_isOk ok
  let lib : Library := ⟨.empty, .empty⟩
  have answers : (emptyPage.toOption.map fun page =>
      let l := (empty.load lib page none true).2
      ((empty.load lib page none true).1.isOk && (l.load lib page none true).1.isOk &&
        ((l.run [.load lib page none false]).2.load lib page none true).1.isOk,
        (l.run [.load lib page none false]).1.any (·.renews page.program.code))) = some (true, true) := by
    decide +kernel
  rw [isPage] at answers
  simp only [Except.toOption, Option.map_some, Option.some.injEq, Prod.mk.injEq, Bool.and_eq_true,
    List.any_eq_true] at answers
  obtain ⟨⟨⟨first, second⟩, third⟩, e, he, renews⟩ := answers
  obtain ⟨f, hf⟩ := Generate.exists_of_isOk first
  obtain ⟨g, hg⟩ := Generate.exists_of_isOk second
  obtain ⟨h, hh⟩ := Generate.exists_of_isOk third
  have law := cache_exact_after_run []
  refine ⟨page, lib, f, g, h, isPage, hf, hg, hh, ?_, ?_⟩
  · exact (law.same lib page f [] lib page g rfl hf hg).mpr fun e he => nomatch he
  · intro same
    exact ((law.same lib page f [.load lib page none false] lib page h rfl hf hh).mp same e he).2 renews

end Loader

end TemplateCompiler.Render
