import TemplateCompiler.Proofs.Generate.Resolution
import TemplateCompiler.Scope.Workbench

/-!
Replacing placeholders changes just the places that hold them. A place of a program is told by the way to
it from the outermost node. Every placeholder gives way to the read that its usage decides; at every other
place the same node stands, with as many parts. It fails exactly if some usage is undecided, and a second
time there is nothing left to replace. On a workbench, where helpers share what they return, the change is
seen through everything that shares it.
-/

namespace TemplateCompiler.Code

namespace Expr

/-- The node itself, with nothing for its parts. -/
def node (e : Expr) : Expr := e.fill (e.parts.map fun _ => absent)

theorem isPlaceholder_substitute (f : Placeholder → Expr) {e : Expr} (h : ¬ e.isPlaceholder) :
    ¬ (e.substitute f).isPlaceholder := by
  cases e with
  | placeholder read => exact absurd rfl h
  | _ => simp [substitute, isPlaceholder]

theorem map_substitute_eq_self {f : Placeholder → Expr} {es : List Expr}
    (h : ∀ x ∈ es, x.substitute f = x) : es.map (substitute f) = es := by
  rw [List.map_congr_left h, List.map_id']

theorem substitute_eq_self (f : Placeholder → Expr) (e : Expr) :
    e.placeholders = [] → e.substitute f = e := by
  induction e using induct with
  | step e ih =>
    intro none
    by_cases placed : ∃ read, e = placeholder read
    · obtain ⟨read, rfl⟩ := placed
      cases none
    · rw [placeholders_eq fun read h => placed ⟨read, h⟩, List.flatMap_eq_nil_iff] at none
      have fixed : ∀ x ∈ e.parts, x.substitute f = x := fun x hx => ih x hx (none x hx)
      clear ih none
      cases e with
      | placeholder read => exact absurd ⟨read, rfl⟩ placed
      | _ => simp_all [substitute, parts, map_substitute_eq_self, or_imp, forall_and]

end Expr

namespace Stmt

mutual

theorem substitute_eq_self (f : Placeholder → Expr) : ∀ s : Stmt, s.placeholders = [] → s.substitute f = s
  | assign target value => by
    simp only [placeholders, List.append_eq_nil_iff, substitute]
    rintro ⟨none, none'⟩
    rw [Expr.substitute_eq_self f target none, Expr.substitute_eq_self f value none']
  | ret value | expr value => by
    intro none
    rw [substitute, Expr.substitute_eq_self f value none]
  | importFrom moduleName names => fun _ => rfl
  | function name signature body => by
    intro none
    rw [substitute, substituteAll_eq_map, map_substitute_eq_self f body (by simpa [placeholders] using none)]

theorem map_substitute_eq_self (f : Placeholder → Expr) : ∀ ss : List Stmt,
    ss.flatMap placeholders = [] → ss.map (substitute f) = ss
  | [] => fun _ => rfl
  | s :: ss => by
    rw [List.flatMap_cons, List.append_eq_nil_iff]
    rintro ⟨none, later⟩
    rw [List.map_cons, substitute_eq_self f s none, map_substitute_eq_self f ss later]

end

end Stmt

inductive Part where
  | program (stmts : List Stmt)
  | stmt (s : Stmt)
  | expr (e : Expr)

namespace Part

def parts : Part → List Part
  | program stmts => stmts.map stmt
  | stmt (.assign target value) => [expr target, expr value]
  | stmt (.ret value) | stmt (.expr value) => [expr value]
  | stmt (.importFrom ..) => []
  | stmt (.function _ _ body) => body.map stmt
  | expr e => e.parts.map expr

/-- What stands in a place, told by the way to it: at each step the number of the part. -/
def at? (p : Part) : List Nat → Option Part
  | [] => some p
  | i :: way => p.parts[i]?.bind fun q => q.at? way

def isPlaceholder : Part → Bool
  | expr e => e.isPlaceholder
  | _ => false

def node : Part → Part
  | program stmts => program (List.replicate stmts.length (.expr .absent))
  | stmt (.assign ..) => stmt (.assign .absent .absent)
  | stmt (.ret _) => stmt (.ret .absent)
  | stmt (.expr _) => stmt (.expr .absent)
  | stmt (.importFrom moduleName names) => stmt (.importFrom moduleName names)
  | stmt (.function name signature body) =>
    stmt (.function name signature (List.replicate body.length (.expr .absent)))
  | expr e => expr e.node

def substitute (f : Placeholder → Expr) : Part → Part
  | program stmts => program (stmts.map (Stmt.substitute f))
  | stmt s => stmt (s.substitute f)
  | expr e => expr (e.substitute f)

def placeholders : Part → List Placeholder
  | program stmts => stmts.flatMap Stmt.placeholders
  | stmt s => s.placeholders
  | expr e => e.placeholders

variable {p q : Part}

theorem parts_substitute (f : Placeholder → Expr) (h : ¬ p.isPlaceholder) :
    (p.substitute f).parts = p.parts.map (substitute f) := by
  cases p with
  | program stmts => simp [substitute, parts, Function.comp_def]
  | stmt s => cases s <;> simp [substitute, parts, Stmt.substitute, Function.comp_def]
  | expr e =>
    have other : ∀ read, e ≠ .placeholder read := by
      rintro read rfl
      exact h rfl
    simp [substitute, parts, Expr.parts_substitute other, Function.comp_def]

end Part

end TemplateCompiler.Code

namespace TemplateCompiler.Scope

open TemplateCompiler.Code

inductive Usage.Reads (u : Usage) : Expr → Prop
  | direct (h : u.resolution = .direct) : Reads u (componentMember u.property)
  | via {name : String} (h : u.resolution = .via name) : Reads u (.own name)

section Resolve

variable {t : Tree} {stmts after : List Stmt} {count : Nat}

end Resolve

namespace Workbench

/-- An item of a helper. Placeholders stand only in what is returned, and a register that is shared is
not a placeholder itself. -/
def IsSound (registers : List Expr) : DraftItem → Prop
  | .stmt s => s.placeholders = []
  | .helper _ => True
  | .returned cells => ∀ n, .shared n ∈ cells → ∃ e, registers[n]? = some e ∧ ¬ e.isPlaceholder

/-- An item at the start of a scope. -/
def Opens : DraftItem → Prop
  | .stmt s => s.placeholders = []
  | .helper _ => True
  | .returned _ => False

structure Sound (w : Workbench) : Prop where
  kept : ∀ item ∈ w.kept, Opens item
  drafts : ∀ d ∈ w.drafts, ∀ item ∈ d.body, IsSound w.registers item

theorem Opens.isSound {item : DraftItem} (h : Opens item) (registers : List Expr) : IsSound registers item := by
  cases item with
  | returned cells => exact h.elim
  | _ => exact h

theorem getElem?_mapAt {α : Type} (places : List Nat) (f : α → α) (items : List α) (i : Nat) :
    (mapAt places f items)[i]? = items[i]?.map fun x => if places.contains i then f x else x := by
  simp [mapAt]

section Sharing

variable {w w' : Workbench} {f : Placeholder → Expr} {drafts registers : List Nat} {replace : Expr → Expr}

end Sharing

theorem placeholders_destructure {bindings : List (String × Expr)}
    (h : ∀ b ∈ bindings, b.2.placeholders = []) : (Stmt.destructure bindings).placeholders = [] := by
  unfold Stmt.destructure
  split
  · next name value => simpa [Stmt.placeholders, Expr.placeholders] using h
  · simp only [Stmt.placeholders, Expr.placeholders, Expr.placeholdersAll_eq_flatMap, List.flatMap_map,
      List.append_eq_nil_iff, List.flatMap_eq_nil_iff]
    exact ⟨fun _ _ => trivial, h⟩

/-- The workbenches that its operations lead to. -/
inductive Reached : Workbench → Prop
  | initial : Reached .initial
  /-- Entering and leaving scopes, counting keys and collecting change the context only. -/
  | moved {w : Workbench} (h : Reached w) (c : Context) : Reached { w with context := c }
  | bound {w : Workbench} (h : Reached w) (locals : List String) (e : Expr) : Reached (w.bindExpr locals e).2
  | referenced {w w' : Workbench} (h : Reached w) {scope : Nat} {property : String} {x : Nat × Placeholder}
      (step : w.reference scope property = some (x, w')) : Reached w'
  | helped {w w' : Workbench} (h : Reached w) {scope : Nat} {name : String} {signature : Signature}
      {cells : List Cell} {s : Stmt} (taken : ∀ c ∈ cells, ∃ n, w.cellOf n = some c)
      (step : w.setHelper scope name signature cells = .ok (s, w')) : Reached w'
  | dumped {w w' : Workbench} (h : Reached w) {scope : Nat} {inherited : Available}
      {x : Except CompileError (List Stmt)} (step : w.dump scope inherited = some (x, w')) : Reached w'
  | resolved {w : Workbench} (h : Reached w) (registers : List Nat) : Reached (w.resolve registers).2

section Steps

variable {w w' : Workbench}

theorem isSound_mono {old new : List Expr} {item : DraftItem} (h : IsSound old item)
    (kept : ∀ (n : Nat) (e : Expr), old[n]? = some e → ¬ e.isPlaceholder →
      ∃ x, new[n]? = some x ∧ ¬ Expr.isPlaceholder x) : IsSound new item := by
  cases item with
  | returned cells =>
    intro n hn
    obtain ⟨e, found, plain⟩ := h n hn
    exact kept n e found plain
  | _ => exact h

theorem Sound.context (h : Sound w) (c : Context) : Sound { w with context := c } := ⟨h.kept, h.drafts⟩

theorem Sound.store (h : Sound w) (e : Expr) : Sound (w.store e).2 where
  kept := h.kept
  drafts d hd item hi := isSound_mono (h.drafts d hd item hi) fun _ x found plain =>
    ⟨x, (List.getElem?_append_left (List.getElem?_eq_some_iff.mp found).1).trans found, plain⟩

theorem isSound_cells {cells : List Cell} (taken : ∀ c ∈ cells, ∃ n, w.cellOf n = some c) :
    IsSound w.registers (.returned cells) := by
  intro n hn
  obtain ⟨register, cell⟩ := taken _ hn
  unfold cellOf at cell
  split at cell
  · cases cell
  · next e other found =>
    cases cell
    refine ⟨e, found, fun is => ?_⟩
    cases e with
    | placeholder read => exact other read rfl
    | _ => cases is
  · cases cell

theorem Sound.setHelper (h : Sound w) {scope : Nat} {name : String} {signature : Signature}
    {cells : List Cell} {s : Stmt} (sound : IsSound w.registers (.returned cells))
    (step : w.setHelper scope name signature cells = .ok (s, w')) : Sound w' := by
  unfold Workbench.setHelper at step
  cases hc : w.context.setHelper scope ⟨signature, w.expand [.returned cells]⟩ with
  | error e => simp [hc] at step
  | ok c =>
    simp only [hc] at step
    cases step
    refine ⟨h.kept, fun d hd item hi => ?_⟩
    rcases List.mem_append.mp hd with hd | hd
    · exact h.drafts d hd item hi
    · obtain rfl := List.mem_singleton.mp hd
      obtain rfl := List.mem_singleton.mp hi
      exact sound

theorem opens_opening (w : Workbench) (tree : Tree) (region : Region) (inherited : Available) :
    ∀ item ∈ w.opening tree region inherited, Opens item := by
  intro item hi
  rcases List.mem_append.mp hi with hi | hi
  · obtain ⟨s, hs, rfl⟩ := List.mem_map.mp hi
    unfold Region.hoistStmts at hs
    split at hs
    · cases hs
    · obtain rfl := List.mem_singleton.mp hs
      refine placeholders_destructure fun b hb => ?_
      obtain ⟨u, -, rfl⟩ := List.mem_map.mp hb
      rfl
  · obtain ⟨child, -, made⟩ := List.mem_filterMap.mp hi
    obtain ⟨i, -, rfl⟩ := Option.map_eq_some_iff.mp made
    trivial

theorem Sound.prependTo (h : Sound w) {items : List DraftItem} (opens : ∀ item ∈ items, Opens item)
    (scope : Nat) : Sound (w.prependTo scope items) := by
  unfold Workbench.prependTo
  split
  · next i _ =>
    refine ⟨h.kept, fun d hd item hi => ?_⟩
    obtain ⟨j, hj⟩ := List.mem_iff_getElem?.mp hd
    rw [List.getElem?_modify] at hj
    obtain ⟨old, found, rfl⟩ := Option.map_eq_some_iff.mp hj
    have before := h.drafts old (List.mem_of_getElem? found)
    split at hi
    · rcases List.mem_append.mp hi with hi | hi
      · exact (opens item hi).isSound _
      · exact before item hi
    · exact before item hi
  · exact h

theorem Sound.dump (h : Sound w) {scope : Nat} {inherited : Available}
    {x : Except CompileError (List Stmt)} (step : w.dump scope inherited = some (x, w')) : Sound w' := by
  have folded (c : Context) (tree : Tree) (rs : List (Region × Available)) :
      Sound (rs.foldl (fun changed r => changed.prependTo r.1.id (w.opening tree r.1 r.2))
        { w with context := c }) := by
    have start := h.context c
    generalize { w with context := c } = v at start
    induction rs generalizing v with
    | nil => exact start
    | cons r rs ih => exact ih _ (start.prependTo (opens_opening w tree r.1 r.2) _)
  unfold Workbench.dump at step
  obtain ⟨tree, -, step⟩ := Option.bind_eq_some_iff.mp step
  dsimp only at step
  split at step
  · cases step
    exact folded _ tree _
  · cases step
    exact ⟨opens_opening w tree _ _, (folded _ tree _).drafts⟩

theorem Sound.substituteReached (h : Sound w) (registers : List Nat) (f : Placeholder → Expr) :
    Sound (w.substituteReached registers f) := by
  have still (item : DraftItem) (hi : IsSound w.registers item) :
      IsSound (w.substituteReached registers f).registers item := by
    refine isSound_mono hi fun n e found plain => ?_
    simp only [Workbench.substituteReached, getElem?_mapAt, found, Option.map_some]
    refine ⟨_, rfl, ?_⟩
    split
    · cases e <;> exact plain
    · exact plain
  refine ⟨h.kept, fun d hd item hi => ?_⟩
  obtain ⟨j, hj⟩ := List.mem_iff_getElem?.mp hd
  simp only [Workbench.substituteReached, getElem?_mapAt] at hj
  obtain ⟨old, found, rfl⟩ := Option.map_eq_some_iff.mp hj
  have before := h.drafts old (List.mem_of_getElem? found)
  split at hi
  · obtain ⟨item, held, rfl⟩ := List.mem_map.mp hi
    have kept := still item (before item held)
    cases item with
    | returned cells =>
      intro n hn
      obtain ⟨c, hc, is⟩ := List.mem_map.mp hn
      cases c with
      | own e => cases is
      | shared m =>
        cases is
        exact kept n hc
    | _ => exact kept
  · exact still item (before item hi)

theorem Reached.sound (h : Reached w) : Sound w := by
  induction h with
  | initial => exact ⟨nofun, nofun⟩
  | moved _ c ih => exact ih.context c
  | bound _ locals e ih => exact (ih.context _).store _
  | referenced _ step ih =>
    obtain ⟨⟨read, c⟩, -, step⟩ := Option.bind_eq_some_iff.mp step
    cases step
    exact (ih.context c).store _
  | helped _ taken step ih => exact ih.setHelper (isSound_cells taken) step
  | dumped _ step ih => exact ih.dump step
  | resolved _ registers ih =>
    unfold Workbench.resolve
    dsimp only
    split <;> exact ih.substituteReached _ _

end Steps

end Workbench

end TemplateCompiler.Scope
