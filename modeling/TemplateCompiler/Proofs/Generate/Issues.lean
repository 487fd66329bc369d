import TemplateCompiler.Proofs.Generate.Demands
import TemplateCompiler.Proofs.Generate.Naming
import TemplateCompiler.Proofs.Generate.Requests

/-!
What the emitter issues. A walk changes the emitter by a sequence of events. `Puts C step xs rs` says of a
step of the emitter that the expressions `xs` stand in its result, that the result demands what they
demand and what the events of the step bring, and that these events serve the requests `rs`.
-/

namespace TemplateCompiler.Generate

open TemplateCompiler.Code TemplateCompiler.Scope TemplateCompiler.Template

/-- A step by which the emitter serves code. -/
inductive Event where
  | call (p : Primitive)
  /-- A call for a slot. -/
  | slot (name id : String)
  /-- A call for a custom element. -/
  | component (tag reference id : String)
  | sanitizer
  /-- A handler, with the number under which it is memoized. -/
  | handler (locals : List String) (value : Expr) (memo : Option Nat)
  /-- A call of the helper of a condition. -/
  | conditional (helper : String)
  /-- The helper of a loop. -/
  | loop (helper : String) (l : Loop)

namespace Event

def request? : Event → Option Request
  | slot name _ => some (.slot name)
  | component tag reference _ => some (.component tag reference)
  | handler locals value _ => some (.handler locals value)
  | _ => none

def loopDemands : Loop → List Demand
  | .each _ => []
  | .of f => demands (namespaceValue f.iterator)

def demands : Event → List Demand
  | call p => [.call p.localName, .name p.localName]
  | slot name id =>
    [.slot (.str name) id, .name id, .call Primitive.slot.localName, .name Primitive.slot.localName]
  | component tag _ id =>
    [.component (.str tag) id, .name id, .call Primitive.customElement.localName,
      .name Primitive.customElement.localName]
  | sanitizer => [.call sanitizerName, .name sanitizerName]
  | handler _ _ memo =>
    memo.elim [] (fun k => [.handler (memoName k) (.str (memoName k)), .name (memoName k), .name contextName]) ++
      [.call Primitive.bind.localName, .name Primitive.bind.localName]
  | conditional helper => [.call helper, .name helper, .name testName]
  | loop helper l => .name helper :: loopDemands l

theorem loopDemands_of (f : ForOf) : loopDemands (.of f) = .call namespaceTypeName ::
    .name namespaceTypeName :: iteratorParts.map fun part => .name (partName f.iterator part) := by
  have parts : ((iteratorParts.map fun part => Expr.keyword (some part)
      (.own (partName f.iterator part))).flatMap Generate.demands) =
      iteratorParts.map fun part => .name (partName f.iterator part) := by
    rw [List.flatMap_map, List.map_eq_flatMap]
    refine List.flatMap_congr fun part _ => ?_
    rw [demands_eq]
    simp [nodeDemands, Expr.parts]
  simp only [loopDemands, namespaceValue, demands_call, parts]
  simp [callDemands, argumentDemands_short]

/-- An event takes the emitter from one state to the next. -/
inductive Enters : Emitter → Event → Emitter → Prop
  | call (E : Emitter) {p : Primitive} (slot : p ≠ .slot) (component : p ≠ .customElement) :
      Enters E (call p) { E with primitives := Emit.addNew E.primitives p }
  | slot (E : Emitter) (name : String) :
      Enters E (slot name (Emit.slotName name E).1)
        { (Emit.slotName name E).2 with
          primitives := Emit.addNew (Emit.slotName name E).2.primitives .slot }
  | component (E : Emitter) (tag reference : String) :
      Enters E (component tag reference (Emit.component reference E).1)
        { (Emit.component reference E).2 with
          primitives := Emit.addNew (Emit.component reference E).2.primitives .customElement }
  | sanitizer (E : Emitter) : Enters E sanitizer (Emit.runtimeHelper sanitizerName E).2
  | bound (E : Emitter) {locals : List String} {value : Expr} (h : memoizes locals value = false) :
      Enters E (handler locals value none) { E with primitives := Emit.addNew E.primitives .bind }
  | memoized (E : Emitter) {locals : List String} {value : Expr} (h : memoizes locals value) :
      Enters E (handler locals value (some E.memoCount))
        { E with memoCount := E.memoCount + 1, primitives := Emit.addNew E.primitives .bind }
  | conditional (E : Emitter) {helper : String} (h : IsHelperName helper) :
      Enters E (conditional helper) E
  | loop (E : Emitter) {helper : String} (h : IsHelperName helper) (l : Loop) :
      Enters E (loop helper l) (noteLoop l E).2

end Event

inductive Issues : Emitter → List Event → Emitter → Prop
  | nil (E : Emitter) : Issues E [] E
  | cons {E F G : Emitter} {e : Event} {es : List Event} (first : e.Enters E F) (rest : Issues F es G) :
      Issues E (e :: es) G

theorem Issues.append {E F G : Emitter} {es fs : List Event} (h : Issues E es F) (h' : Issues F fs G) :
    Issues E (es ++ fs) G := by
  induction h with
  | nil E => exact h'
  | cons first rest ih => exact .cons first (ih h')

theorem Issues.single {E F : Emitter} {e : Event} (h : e.Enters E F) : Issues E [e] F := .cons h (.nil F)

/-- A step of the emitter puts the expressions into its result and serves the requests. -/
def Spends (step : EmitM Expr) (xs : List Expr) (rs : List Request) : Prop :=
  ∀ E : Emitter, ∃ es, Issues E es (step E).2 ∧ es.filterMap Event.request? = rs ∧
    (demands (step E).1).Perm (xs.flatMap demands ++ es.flatMap Event.demands)

section Steps

theorem Spends.pure (x : Expr) : Spends (Pure.pure x) [x] [] := fun E =>
  ⟨[], .nil E, rfl, by rw [List.flatMap_singleton, List.flatMap_nil, List.append_nil]; rfl⟩

theorem Spends.quiet {x : Expr} {xs : List Expr} (h : demands x = xs.flatMap demands) :
    Spends (Pure.pure x) xs [] := fun E =>
  ⟨[], .nil E, rfl, by rw [← h, List.flatMap_nil, List.append_nil]; rfl⟩

theorem Spends.bind {step : EmitM Expr} {next : Expr → EmitM Expr} {xs : List Expr}
    {rs qs : List Request} (h : Spends step xs rs) (h' : ∀ x, Spends (next x) [x] qs) :
    Spends (step >>= next) xs (rs ++ qs) := by
  intro E
  obtain ⟨es, issues, requests, code⟩ := h E
  obtain ⟨fs, issues', requests', code'⟩ := h' (step E).1 (step E).2
  refine ⟨es ++ fs, issues.append issues', ?_, ?_⟩
  · rw [List.filterMap_append, requests, requests']
  · rw [List.flatMap_singleton] at code'
    rw [List.flatMap_append, ← List.append_assoc]
    exact code'.trans (code.append_right _)

theorem Spends.call {p : Primitive} (slot : p ≠ .slot) (component : p ≠ .customElement)
    (args : List Expr) : Spends (Emit.call p args) args [] := by
  intro E
  refine ⟨[.call p], .single (.call E slot component), rfl, ?_⟩
  have other {q : Primitive} (h : p ≠ q) : p.localName ≠ q.localName := fun is =>
    h (Primitive.localName_injective is)
  change (demands (.apply (.own p.localName) args)).Perm _
  rw [demands_apply, argumentDemands_other (other slot) (other component), List.perm_iff_count]
  intro d
  simp only [List.flatMap_singleton, Event.demands, List.count_append, List.count_cons, List.count_nil]
  omega

theorem Spends.slot (name : String) (data children : Expr) :
    Spends (Emit.slot name data children) [data, children] [.slot name] := by
  intro E
  refine ⟨[.slot name (Emit.slotName name E).1], .single (.slot E name), rfl, ?_⟩
  change (demands (.apply (.own Primitive.slot.localName)
    [.str name, data, children, .own (Emit.slotName name E).1])).Perm _
  have taken : argumentDemands Primitive.slot.localName
      [.str name, data, children, .own (Emit.slotName name E).1] =
      [.slot (.str name) (Emit.slotName name E).1] := rfl
  rw [demands_apply, taken, List.perm_iff_count]
  intro d
  simp only [List.flatMap_cons, List.flatMap_nil, demands_str, demands_own, Event.demands,
    List.count_append, List.count_cons, List.count_nil]
  omega

theorem Spends.customElement (tag reference : String) (data children : Expr) :
    Spends (Emit.customElement tag reference data children) [data, children]
      [.component tag reference] := by
  intro E
  refine ⟨[.component tag reference (Emit.component reference E).1], .single (.component E tag reference),
    rfl, ?_⟩
  change (demands (.apply (.own Primitive.customElement.localName)
    [.str tag, .own (Emit.component reference E).1, data, children])).Perm _
  have taken : argumentDemands Primitive.customElement.localName
      [.str tag, .own (Emit.component reference E).1, data, children] =
      [.component (.str tag) (Emit.component reference E).1] := rfl
  rw [demands_apply, taken, List.perm_iff_count]
  intro d
  simp only [List.flatMap_cons, List.flatMap_nil, demands_str, demands_own, Event.demands,
    List.count_append, List.count_cons, List.count_nil]
  omega

theorem Spends.sanitizeAttribute (tag namespaceName name : String) (value : Expr) :
    Spends (Emit.sanitizeAttribute tag namespaceName name value) [value] [] := by
  intro E
  refine ⟨[.sanitizer], .single (.sanitizer E), rfl, ?_⟩
  change (demands (.apply (.own sanitizerName)
    [.str tag, .str namespaceName, .str name, value])).Perm _
  rw [demands_apply, argumentDemands_other (by decide) (by decide), List.perm_iff_count]
  intro d
  simp only [List.flatMap_cons, List.flatMap_nil, demands_str, Event.demands, List.count_append,
    List.count_cons, List.count_nil]
  omega

theorem Spends.perm {step : EmitM Expr} {xs ys : List Expr} {rs : List Request} (h : Spends step xs rs)
    (same : (xs.flatMap demands).Perm (ys.flatMap demands)) : Spends step ys rs := by
  intro E
  obtain ⟨es, issues, requests, code⟩ := h E
  exact ⟨es, issues, requests, code.trans (same.append_right _)⟩

end Steps

theorem Issues.not_kept {E F : Emitter} {es : List Event} (h : Issues E es F)
    (inside : Indoors (es.filterMap Event.request?)) (id : String) (key : Constant) :
    .handler id key ∉ es.flatMap Event.demands := by
  induction h with
  | nil E => simp
  | @cons E F G e es first rest ih =>
    have later : Indoors (es.filterMap Event.request?) := fun locals value hr =>
      inside locals value (((List.sublist_cons_self e es).filterMap _).subset hr)
    rw [List.flatMap_cons, List.mem_append, not_or]
    refine ⟨fun found => ?_, ih later⟩
    cases first with
    | @memoized locals value memo =>
      have nonempty : locals ≠ [] := inside locals value (by simp [Event.request?])
      simp [memoizes, nonempty] at memo
    | loop helper l =>
      cases l with
      | each f => simp [Event.demands, Event.loopDemands] at found
      | of f => simp [Event.demands, Event.loopDemands_of] at found
    | _ => simp [Event.demands] at found

/-- All that is known of a step of the emitter that memoizes no handler. -/
structure Puts (C : String → Prop) (step : EmitM Expr) (xs : List Expr) (rs : List Request) : Prop where
  emits : Emits C step (xs.flatMap Expr.occurrences)
  spends : Spends step xs rs
  quiet : ∀ E : Emitter, (step E).2.memoCount = E.memoCount
  indoors : Indoors rs

namespace Puts

variable {C : String → Prop} {config : Config} {e : Element} {xs ys : List Expr} {rs : List Request}

theorem pure (x : Expr) : Puts C (Pure.pure x) [x] [] where
  emits := by simpa using Emits.pure x
  spends := .pure x
  quiet _ := rfl
  indoors := nofun

theorem bind {step : EmitM Expr} {next : Expr → EmitM Expr} (h : Puts C step xs rs)
    (h' : ∀ x, Puts C (next x) [x] []) : Puts C (step >>= next) xs rs where
  emits := h.emits.bind [] fun x => by simpa using (h' x).emits
  spends := List.append_nil rs ▸ h.spends.bind fun x => (h' x).spends
  quiet E := ((h' _).quiet _).trans (h.quiet E)
  indoors := h.indoors

theorem perm {step : EmitM Expr} (h : Puts C step xs rs)
    (occurrences : (xs.flatMap Expr.occurrences).Perm (ys.flatMap Expr.occurrences))
    (demands : (xs.flatMap demands).Perm (ys.flatMap demands)) : Puts C step ys rs :=
  { h with emits := h.emits.perm occurrences, spends := h.spends.perm demands }

theorem call {p : Primitive} (slot : p ≠ .slot) (component : p ≠ .customElement) (args : List Expr) :
    Puts C (Emit.call p args) args [] where
  emits := by simpa using Emits.call p args
  spends := .call slot component args
  quiet _ := rfl
  indoors := nofun

theorem slot (name : String) (data children : Expr) :
    Puts C (Emit.slot name data children) [data, children] [.slot name] where
  emits := by simpa using Emits.slot name data children
  spends := .slot name data children
  quiet E := by
    change (Emit.slotName name E).2.memoCount = _
    unfold Emit.slotName
    split <;> rfl
  indoors := by simp [Indoors]

theorem customElement (tag : String) {reference : String} (data children : Expr) (hc : C reference) :
    Puts C (Emit.customElement tag reference data children) [data, children]
      [.component tag reference] where
  emits := by simpa using Emits.customElement tag data children hc
  spends := .customElement tag reference data children
  quiet E := by
    change (Emit.component reference E).2.memoCount = _
    unfold Emit.component
    split <;> rfl
  indoors := by simp [Indoors]

theorem sanitizeAttribute (tag namespaceName name : String) (value : Expr) :
    Puts C (Emit.sanitizeAttribute tag namespaceName name value) [value] [] where
  emits := by simpa using Emits.sanitizeAttribute tag namespaceName name value
  spends := .sanitizeAttribute tag namespaceName name value
  quiet _ := rfl
  indoors := nofun

theorem expressionAttribute (name : String) (asAttribute : Bool) (bound : Expr) :
    Puts C (Generate.expressionAttribute config e name asAttribute bound) [bound] [] := by
  unfold Generate.expressionAttribute
  repeat' split
  · refine (pure _).perm ?_ ?_ <;> simp [Emit.booleanAttribute, Expr.str, Expr.none, Expr.occurrences]
  · exact call (by decide) (by decide) _
  · exact call (by decide) (by decide) _
  · exact call (by decide) (by decide) _
  · exact (call (by decide) (by decide) _).bind fun x => sanitizeAttribute _ _ _ x
  · exact pure bound

theorem constant {step : EmitM Expr} {c : Constant} (h : Puts C step [.constant c] rs) :
    Puts C step [] rs := h.perm (by simp [Expr.occurrences]) (by simp)

theorem textAttribute (name : String) (asAttribute : Bool) (value : String) :
    Puts C (Generate.textAttribute config e name asAttribute value) [] [] := by
  have wrapped {p : Primitive} (slot : p ≠ .slot) (component : p ≠ .customElement) :
      Puts C (Emit.call p [.str value]) [] [] := constant (call slot component _)
  unfold Generate.textAttribute
  repeat' split
  · exact wrapped (by decide) (by decide)
  · exact constant (pure _)
  · exact constant (pure _)
  · exact wrapped (by decide) (by decide)
  · exact wrapped (by decide) (by decide)
  · exact (wrapped (by decide) (by decide)).bind fun x => sanitizeAttribute _ _ _ x
  · exact (constant (pure (.str value))).bind fun x => sanitizeAttribute _ _ _ x
  · exact constant (pure _)

end Puts

end TemplateCompiler.Generate
