import TemplateCompiler.Proofs.Generate.HelperCalls

/-!
Code without scoped references. A reference into the same document is scoped by a call of one primitive.
Unscoping replaces each such call by the reference itself, but for the arguments of the sanitizer; it
changes nothing else, whether reads are decided before or after it.
-/

namespace TemplateCompiler.Generate

open TemplateCompiler.Code TemplateCompiler.Scope

def scoping (value : Expr) : Expr := .apply (.own Primitive.scopedFragment.localName) [value]

def scopedValue? : Expr → Option Expr
  | .call (.own id) [value] [] => if id = Primitive.scopedFragment.localName then some value else none
  | _ => none

def isSanitizing : Expr → Bool
  | .call (.own id) _ _ => id == sanitizerName
  | _ => false

/-- The names whose calls matter for unscoping. -/
def scopingNames : List String := [Primitive.scopedFragment.localName, sanitizerName]

theorem scopedValue?_eq_some {x v : Expr} : scopedValue? x = some v ↔ x = scoping v := by
  constructor
  · intro h
    unfold scopedValue? at h
    split at h
    · split at h
      · next is =>
        cases h
        rw [is, scoping, Expr.apply]
      · cases h
    · cases h
  · rintro rfl
    rfl

theorem mem_parts_of_scopedValue? {x v : Expr} (h : scopedValue? x = some v) : v ∈ x.parts := by
  rw [scopedValue?_eq_some.mp h]
  simp [scoping, Expr.apply, Expr.parts]

/-- The code without calls that scope references. The flag tells whether it is an argument of the
sanitizer. -/
def unscoped (sanitized : Bool) (x : Expr) : Expr :=
  if h : sanitized = false ∧ (scopedValue? x).isSome then unscoped false ((scopedValue? x).get h.2)
  else x.fill (x.parts.attach.map fun y => unscoped (isSanitizing x) y.1)
termination_by sizeOf x
decreasing_by
  · exact Expr.sizeOf_part (mem_parts_of_scopedValue? (Option.some_get h.2).symm)
  · exact Expr.sizeOf_part y.2

theorem unscoped_scoping (v : Expr) : unscoped false (scoping v) = unscoped false v := by
  rw [unscoped]
  rfl

theorem unscoped_node {sanitized : Bool} {x : Expr} (h : sanitized = true ∨ scopedValue? x = none) :
    unscoped sanitized x = x.fill (x.parts.map (unscoped (isSanitizing x))) := by
  rw [unscoped, dif_neg, List.map_subtype (g := unscoped (isSanitizing x)) (by simp), List.unattach_attach]
  rintro ⟨rfl, some⟩
  rcases h with h | h
  · cases h
  · rw [h] at some
    cases some

/-- Code that calls neither the primitive nor the sanitizer. -/
abbrev Unlinked (x : Expr) : Prop := x.callsAmong scopingNames = []

theorem Unlinked.parts {x : Expr} (h : Unlinked x) : ∀ y ∈ x.parts, Unlinked y := by
  rw [Unlinked, Expr.callsAmong_eq, List.append_eq_nil_iff, List.flatMap_eq_nil_iff] at h
  exact h.2

theorem Unlinked.not_called {id : String} {args keywords : List Expr} (h : Unlinked (.call (.own id) args keywords)) :
    id ∉ scopingNames := by
  intro hid
  rw [Unlinked, Expr.callsAmong_call, Expr.ownAmong_own hid] at h
  cases h

theorem Unlinked.scopedValue? {x : Expr} (h : Unlinked x) : scopedValue? x = none := by
  by_contra some
  obtain ⟨v, is⟩ := Option.ne_none_iff_exists'.mp some
  rw [scopedValue?_eq_some.mp is] at h
  exact h.not_called (by simp [scopingNames])

theorem Unlinked.unscoped {x : Expr} : Unlinked x → ∀ sanitized, unscoped sanitized x = x := by
  induction x using Expr.induct with
  | step x ih =>
    intro h sanitized
    have parts : x.parts.map (Generate.unscoped (Generate.isSanitizing x)) = x.parts := by
      rw [List.map_congr_left fun y hy => ih y hy (h.parts y hy) _, List.map_id']
    rw [unscoped_node (.inr h.scopedValue?), parts, Expr.fill_parts]

theorem Unlinked.of_silent {x : Expr} (h : x.occurrences = []) : Unlinked x :=
  Expr.callsAmong_silent h

theorem Unlinked.node {x : Expr} (other : x.callAmong scopingNames = none) (h : ∀ y ∈ x.parts, Unlinked y) :
    Unlinked x := by
  rw [Unlinked, Expr.callsAmong_eq, other]
  exact List.flatMap_eq_nil_iff.mpr h

theorem unlinked_own (id : String) : Unlinked (.own id) := Expr.callsAmong_own _ _

/-- In the code, references are scoped only for the sanitizer or as values that `P` allows under their
keys. -/
def ScopesOnly (P : String → Expr → Prop) (x : Expr) : Prop :=
  ∀ n ∈ x.nodes, ∀ v, scoping v ∈ n.parts →
    isSanitizing n ∨ ∃ entries key, n = .record entries ∧ (key, scoping v) ∈ entries ∧ P key v

section

variable {P : String → Expr → Prop}

theorem scopesOnly_iff {x : Expr} : ScopesOnly P x ↔
    (∀ v, scoping v ∈ x.parts →
      isSanitizing x ∨ ∃ entries key, x = .record entries ∧ (key, scoping v) ∈ entries ∧ P key v) ∧
    ∀ y ∈ x.parts, ScopesOnly P y := by
  unfold ScopesOnly
  rw [Expr.nodes_eq]
  simp only [List.mem_cons, List.mem_flatMap, forall_eq_or_imp]
  refine and_congr_right fun _ => ⟨fun h y hy n hn => h n ⟨y, hy, hn⟩, ?_⟩
  rintro h n ⟨y, hy, hn⟩
  exact h y hy n hn

theorem Unlinked.scopesOnly {x : Expr} (h : Unlinked x) : ScopesOnly P x := by
  induction x using Expr.induct with
  | step x ih =>
    refine scopesOnly_iff.mpr ⟨fun v hv => ?_, fun y hy => ih y hy (h.parts y hy)⟩
    have none := (h.parts _ hv).scopedValue?
    rw [scopedValue?_eq_some.mpr rfl] at none
    cases none

/-- The same of code that is itself no such call. -/
structure Confined (P : String → Expr → Prop) (x : Expr) : Prop where
  plain : scopedValue? x = none
  scopes : ScopesOnly P x

theorem Unlinked.confined {x : Expr} (h : Unlinked x) : Confined P x := ⟨h.scopedValue?, h.scopesOnly⟩

theorem Confined.ne_scoping {x : Expr} (h : Confined P x) (v : Expr) : x ≠ scoping v := by
  rintro rfl
  have none := h.plain
  rw [scopedValue?_eq_some.mpr rfl] at none
  cases none

theorem Confined.node {x : Expr} (plain : scopedValue? x = none) (h : ∀ y ∈ x.parts, Confined P y) :
    Confined P x :=
  ⟨plain, scopesOnly_iff.mpr ⟨fun v hv => absurd rfl ((h _ hv).ne_scoping v), fun y hy => (h y hy).scopes⟩⟩

def ConfinedEntry (P : String → Expr → Prop) (entry : String × Expr) : Prop :=
  ScopesOnly P entry.2 ∧ ∀ v, entry.2 = scoping v → P entry.1 v

theorem Confined.entry {x : Expr} (h : Confined P x) (key : String) : ConfinedEntry P (key, x) :=
  ⟨h.scopes, fun v is => absurd is (h.ne_scoping v)⟩

theorem scopesOnly_scoping {v : Expr} (plain : Unlinked v) : ScopesOnly P (scoping v) := by
  refine scopesOnly_iff.mpr ⟨fun w hw => ?_, fun y hy => ?_⟩
  · simp only [scoping, Expr.apply, Expr.parts, List.append_nil, List.mem_cons, List.not_mem_nil, or_false,
      reduceCtorEq, false_or] at hw
    exact absurd hw.symm (plain.confined.ne_scoping (P := P) w)
  · simp only [scoping, Expr.apply, Expr.parts, List.append_nil, List.mem_cons, List.not_mem_nil,
      or_false] at hy
    rcases hy with rfl | rfl
    · exact (unlinked_own _).scopesOnly
    · exact plain.scopesOnly

theorem confinedEntry_scoping {v : Expr} {key : String} (plain : Unlinked v) (allowed : P key v) :
    ConfinedEntry P (key, scoping v) :=
  ⟨scopesOnly_scoping plain, fun w is => by cases is; exact allowed⟩

theorem confined_record {entries : List (String × Expr)} (h : ∀ e ∈ entries, ConfinedEntry P e) :
    Confined P (.record entries) := by
  refine ⟨rfl, scopesOnly_iff.mpr ⟨fun v hv => .inr ?_, fun y hy => ?_⟩⟩
  · simp only [Expr.record, Expr.parts, List.mem_append, List.mem_map] at hv
    rcases hv with ⟨e, -, is⟩ | ⟨⟨key, x⟩, he, rfl⟩
    · cases is
    · exact ⟨entries, key, rfl, he, (h _ he).2 v rfl⟩
  · simp only [Expr.record, Expr.parts, List.mem_append, List.mem_map] at hy
    rcases hy with ⟨e, -, rfl⟩ | ⟨e, he, rfl⟩
    · exact (Unlinked.of_silent rfl).scopesOnly
    · exact (h e he).1

theorem scopedValue?_sanitizing (args : List Expr) :
    scopedValue? (.apply (.own sanitizerName) args) = none := by
  unfold scopedValue? Expr.apply
  split
  · next h =>
    cases h
    exact if_neg (by decide)
  · rfl

theorem confined_sanitizing {args : List Expr} (h : ∀ x ∈ args, ScopesOnly P x) :
    Confined P (.apply (.own sanitizerName) args) := by
  refine ⟨scopedValue?_sanitizing args, scopesOnly_iff.mpr ⟨fun v hv => .inl rfl, fun y hy => ?_⟩⟩
  simp only [Expr.apply, Expr.parts, List.append_nil, List.mem_cons] at hy
  rcases hy with rfl | hy
  · exact (unlinked_own _).scopesOnly
  · exact h y hy

theorem scopedValue?_apply {id : String} (other : id ∉ scopingNames) (args : List Expr) :
    scopedValue? (.apply (.own id) args) = none := by
  by_contra some
  obtain ⟨v, is⟩ := Option.ne_none_iff_exists'.mp some
  cases scopedValue?_eq_some.mp is
  exact other (by simp [scopingNames])

theorem confined_apply {id : String} {args : List Expr} (other : id ∉ scopingNames)
    (h : ∀ x ∈ args, Confined P x) : Confined P (.apply (.own id) args) := by
  refine .node (scopedValue?_apply other args) fun y hy => ?_
  simp only [Expr.apply, Expr.parts, List.append_nil, List.mem_cons] at hy
  rcases hy with rfl | hy
  · exact (unlinked_own _).confined
  · exact h y hy

end

section

variable {id : String} (b : Bool)

theorem unscoped_apply (other : id ∉ scopingNames) (args : List Expr) :
    unscoped b (.apply (.own id) args) = .apply (.own id) (args.map (unscoped false)) := by
  have clean : isSanitizing (.apply (.own id) args) = false := by
    rw [Expr.apply, isSanitizing, beq_eq_false_iff_ne]
    rintro rfl
    exact other (by simp [scopingNames])
  have own : unscoped false (.own id) = .own id := (unlinked_own _).unscoped false
  rw [unscoped_node (.inr (scopedValue?_apply other args)), clean]
  simp [Expr.apply, Expr.fill, Expr.parts, own, List.take_of_length_le]

theorem unscoped_true_scoping {v : Expr} (plain : Unlinked v) : unscoped true (scoping v) = scoping v := by
  have clean : isSanitizing (scoping v) = false := rfl
  rw [unscoped_node (.inl rfl), clean]
  simp [scoping, Expr.apply, Expr.fill, Expr.parts, plain.unscoped, (unlinked_own _).unscoped]

theorem unscoped_sanitizing {args : List Expr} (h : ∀ x ∈ args, unscoped true x = x) :
    unscoped b (.apply (.own sanitizerName) args) = .apply (.own sanitizerName) args := by
  have own : unscoped true (.own sanitizerName) = .own sanitizerName :=
    (unlinked_own _).unscoped true
  have clean : isSanitizing (.apply (.own sanitizerName) args) = true := rfl
  rw [unscoped_node (.inr (scopedValue?_sanitizing args)), clean]
  simp [Expr.apply, Expr.fill, Expr.parts, own, List.take_of_length_le, List.map_congr_left h]

theorem unscoped_list (items : List Expr) : unscoped b (.list items) = .list (items.map (unscoped false)) := by
  rw [unscoped_node (.inr rfl)]
  rfl

theorem unscoped_starred (x : Expr) : unscoped b (.starred x) = .starred (unscoped false x) := by
  rw [unscoped_node (.inr rfl)]
  rfl

theorem unscoped_conditional (test body otherwise : Expr) :
    unscoped b (.conditional test body otherwise) =
      .conditional (unscoped false test) (unscoped false body) (unscoped false otherwise) := by
  rw [unscoped_node (.inr rfl)]
  rfl

theorem unscoped_record (entries : List (String × Expr)) :
    unscoped b (.record entries) = .record (entries.map fun e => (e.1, unscoped false e.2)) := by
  have str (key : String) : unscoped false (.str key) = .str key := (Unlinked.of_silent rfl).unscoped false
  rw [unscoped_node (.inr rfl)]
  simp [Expr.record, Expr.fill, Expr.parts, isSanitizing, Function.comp_def, str]

end

section Substitution

variable {f : Placeholder → Expr} {P Q : String → Expr → Prop}

theorem unlinked_placeholder (read : Placeholder) : Unlinked (.placeholder read) := .node rfl nofun

theorem Unlinked.substitute {x : Expr} (avoids : Expr.Avoids scopingNames f) (h : Unlinked x) :
    Unlinked (x.substitute f) := (Expr.callsAmong_substitute avoids x).trans h

theorem own_of_substitute {x : Expr} {id : String} (avoids : Expr.Avoids scopingNames f)
    (hid : id ∈ scopingNames) (h : x.substitute f = .own id) : x = .own id := by
  cases x with
  | placeholder read => exact absurd h (avoids.2 read id hid)
  | own id => exact h
  | _ => simp [Expr.substitute] at h

theorem scoping_of_substitute {x w : Expr} (avoids : Expr.Avoids scopingNames f)
    (h : x.substitute f = scoping w) : ∃ v, x = scoping v ∧ w = v.substitute f := by
  cases x with
  | placeholder read =>
    rcases avoids.1 read with is | ⟨n, is⟩ | ⟨id, -, is⟩ <;>
      simp [Expr.substitute, is, scoping, Expr.apply, componentMember] at h
  | call callee args keywords =>
    simp only [Expr.substitute, Expr.substituteAll_eq_map, scoping, Expr.apply, Expr.call.injEq,
      List.map_eq_nil_iff, List.map_eq_singleton_iff] at h
    obtain ⟨called, ⟨v, rfl, is⟩, rfl⟩ := h
    rw [own_of_substitute avoids (by simp [scopingNames]) called]
    exact ⟨v, rfl, is.symm⟩
  | _ => simp [Expr.substitute, scoping, Expr.apply] at h

theorem isSanitizing_substitute {x : Expr} (avoids : Expr.Avoids scopingNames f)
    (other : ¬ x.isPlaceholder) : isSanitizing (x.substitute f) = isSanitizing x := by
  cases x with
  | placeholder read => exact absurd rfl other
  | call callee args keywords =>
    rw [Bool.eq_iff_iff]
    simp only [Expr.substitute, isSanitizing]
    constructor
    · intro h
      split at h
      · next id _ _ is =>
        obtain rfl := beq_iff_eq.mp h
        rw [own_of_substitute avoids (by simp [scopingNames]) (Expr.call.inj is).1]
        rfl
      · cases h
    · intro h
      split at h
      · next is =>
        cases is
        exact h
      · cases h
  | _ => rfl

theorem unscoped_substitute (avoids : Expr.Avoids scopingNames f) (x : Expr) :
    ∀ b, unscoped b (x.substitute f) = (unscoped b x).substitute f := by
  induction x using Expr.induct with
  | step x ih =>
    intro b
    by_cases placed : x.isPlaceholder
    · obtain ⟨read, rfl⟩ : ∃ read, x = .placeholder read := by cases x <;> simp_all [Expr.isPlaceholder]
      have quiet := unlinked_placeholder read
      rw [(quiet.substitute avoids).unscoped, quiet.unscoped]
    · by_cases scopes : b = false ∧ ∃ v, x = scoping v
      · obtain ⟨rfl, v, rfl⟩ := scopes
        have is : (scoping v).substitute f = scoping (v.substitute f) := rfl
        rw [is, unscoped_scoping, unscoped_scoping, ih v (mem_parts_of_scopedValue? rfl)]
      · have plain {y : Expr} (h : ∀ v, y = scoping v → ∃ v, x = scoping v) :
            b = true ∨ scopedValue? y = none := by
          cases b with
          | true => exact .inl rfl
          | false =>
            refine .inr (Option.eq_none_iff_forall_ne_some.mpr fun v is => scopes ⟨rfl, ?_⟩)
            exact h v (scopedValue?_eq_some.mp is)
        have after := plain (y := x.substitute f) fun w is =>
          (scoping_of_substitute avoids is).imp fun _ => And.left
        rw [unscoped_node after, isSanitizing_substitute avoids placed,
          unscoped_node (plain fun v is => ⟨v, is⟩), Expr.substitute_eq_fill f placed,
          Expr.fill_fill (by simp), Expr.parts_fill (by simp), Expr.substitute_fill f placed (by simp),
          List.map_map, List.map_map]
        exact congrArg (Expr.fill · x) (List.map_congr_left fun y hy => ih y hy _)

theorem ScopesOnly.substitute {x : Expr} (avoids : Expr.Avoids scopingNames f)
    (decided : ∀ key v, P key v → Q key (v.substitute f)) :
    ScopesOnly P x → ScopesOnly Q (x.substitute f) := by
  induction x using Expr.induct with
  | step x ih =>
    intro h
    by_cases placed : ∃ read, x = .placeholder read
    · obtain ⟨read, rfl⟩ := placed
      exact ((unlinked_placeholder read).substitute avoids).scopesOnly
    · have other : ∀ read, x ≠ .placeholder read := fun read is => placed ⟨read, is⟩
      have notPlaced : ¬ x.isPlaceholder := by cases x <;> simp_all [Expr.isPlaceholder]
      obtain ⟨here, below⟩ := scopesOnly_iff.mp h
      rw [scopesOnly_iff, Expr.parts_substitute other]
      refine ⟨fun w hw => ?_, fun y hy => ?_⟩
      · obtain ⟨y, hy, is⟩ := List.mem_map.mp hw
        obtain ⟨v, rfl, rfl⟩ := scoping_of_substitute avoids is
        rw [isSanitizing_substitute avoids notPlaced]
        refine (here v hy).imp id ?_
        rintro ⟨entries, key, rfl, he, allowed⟩
        exact ⟨_, key, Expr.substitute_record f entries,
          List.mem_map.mpr ⟨(key, scoping v), he, rfl⟩, decided key v allowed⟩
      · obtain ⟨z, hz, rfl⟩ := List.mem_map.mp hy
        exact ih z hz (below z hz)

theorem Confined.substitute {x : Expr} (avoids : Expr.Avoids scopingNames f)
    (decided : ∀ key v, P key v → Q key (v.substitute f)) (h : Confined P x) :
    Confined Q (x.substitute f) := by
  refine ⟨Option.eq_none_iff_forall_ne_some.mpr fun w is => ?_, h.scopes.substitute avoids decided⟩
  obtain ⟨v, rfl, -⟩ := scoping_of_substitute avoids (scopedValue?_eq_some.mp is)
  exact h.ne_scoping v rfl

end Substitution

section Heads

variable {P : String → Expr → Prop} {x : Expr}

theorem Confined.unscoped (h : Confined P x) :
    unscoped false x = x.fill (x.parts.map (Generate.unscoped (isSanitizing x))) :=
  unscoped_node (.inr h.plain)

theorem Confined.isStarred (h : Confined P x) : (Generate.unscoped false x).isStarred = x.isStarred := by
  rw [h.unscoped]
  cases x <;> rfl

theorem Confined.emptyAs (h : Confined P x) : emptyAs (Generate.unscoped false x) = emptyAs x := by
  rw [h.unscoped]
  cases x with
  | list items => simp [Expr.fill, Expr.parts, Generate.emptyAs, Function.comp_def]
  | _ => rfl

theorem Confined.isListValued (h : Confined P x) :
    isListValued (Generate.unscoped false x) = isListValued x := by
  rw [h.unscoped]
  cases x with
  | call callee args keywords =>
    simp only [Expr.fill, Expr.parts, List.map_append, List.map_cons, List.getD_cons_zero]
    cases callee with
    | own id =>
      rw [(unlinked_own id).unscoped]
      rfl
    | name id =>
      rw [Unlinked.unscoped (x := .name id) (Expr.callsAmong_name _ _)]
      rfl
    | call callee' args' keywords' =>
      have plain : scopedValue? (.call callee' args' keywords') = none := by
        refine Option.eq_none_iff_forall_ne_some.mpr fun v is => ?_
        have here : scoping v ∈ (Expr.call (.call callee' args' keywords') args keywords).parts := by
          rw [← scopedValue?_eq_some.mp is]
          simp [Expr.parts]
        rcases (scopesOnly_iff.mp h.scopes).1 v here with clean | ⟨entries, key, record, -⟩
        · cases clean
        · cases record
      rw [unscoped_node (.inr plain)]
      rfl
    | _ =>
      rw [unscoped_node (.inr rfl)]
      rfl
  | _ => rfl

end Heads

mutual

def unscopedStmt : Stmt → Stmt
  | .assign target value => .assign (unscoped false target) (unscoped false value)
  | .ret value => .ret (unscoped false value)
  | .expr value => .expr (unscoped false value)
  | .importFrom moduleName names => .importFrom moduleName names
  | .function name signature body => .function name signature (unscopedStmts body)

def unscopedStmts : List Stmt → List Stmt
  | [] => []
  | s :: rest => unscopedStmt s :: unscopedStmts rest

end

mutual

/-- In the statement, references are scoped only for the sanitizer or as values that `P` allows. -/
def ConfinedStmt (P : String → Expr → Prop) : Stmt → Prop
  | .assign target value => Confined P target ∧ Confined P value
  | .ret value | .expr value => Confined P value
  | .importFrom .. => True
  | .function _ _ body => ConfinedStmts P body

def ConfinedStmts (P : String → Expr → Prop) : List Stmt → Prop
  | [] => True
  | s :: rest => ConfinedStmt P s ∧ ConfinedStmts P rest

end

@[simp] theorem unscopedStmts_eq_map (ss : List Stmt) : unscopedStmts ss = ss.map unscopedStmt := by
  induction ss with
  | nil => simp [unscopedStmts]
  | cons s ss ih => simp [unscopedStmts, ih]

section Statements

variable {P Q : String → Expr → Prop}

theorem confinedStmts_iff {ss : List Stmt} : ConfinedStmts P ss ↔ ∀ s ∈ ss, ConfinedStmt P s := by
  induction ss with
  | nil => simp [ConfinedStmts]
  | cons s ss ih => simp [ConfinedStmts, ih]

variable {f : Placeholder → Expr}

mutual

theorem unscopedStmt_substitute (avoids : Expr.Avoids scopingNames f) : ∀ s : Stmt,
    unscopedStmt (s.substitute f) = (unscopedStmt s).substitute f
  | .assign .. | .ret _ | .expr _ => by simp only [Stmt.substitute, unscopedStmt, unscoped_substitute avoids]
  | .importFrom .. => rfl
  | .function _ _ body => by rw [Stmt.substitute, unscopedStmt, unscopedStmts_substitute avoids body]; rfl

theorem unscopedStmts_substitute (avoids : Expr.Avoids scopingNames f) : ∀ ss : List Stmt,
    unscopedStmts (Stmt.substituteAll f ss) = Stmt.substituteAll f (unscopedStmts ss)
  | [] => rfl
  | s :: ss => by
    rw [Stmt.substituteAll, unscopedStmts, unscopedStmt_substitute avoids s,
      unscopedStmts_substitute avoids ss]
    rfl

end

mutual

theorem ConfinedStmt.substitute (avoids : Expr.Avoids scopingNames f)
    (decided : ∀ key v, P key v → Q key (v.substitute f)) : ∀ s : Stmt,
    ConfinedStmt P s → ConfinedStmt Q (s.substitute f)
  | .assign .. => fun h => ⟨h.1.substitute avoids decided, h.2.substitute avoids decided⟩
  | .ret _ | .expr _ => fun h => Confined.substitute avoids decided h
  | .importFrom .. => fun _ => trivial
  | .function _ _ body => fun h => ConfinedStmts.substitute avoids decided body h

theorem ConfinedStmts.substitute (avoids : Expr.Avoids scopingNames f)
    (decided : ∀ key v, P key v → Q key (v.substitute f)) : ∀ ss : List Stmt,
    ConfinedStmts P ss → ConfinedStmts Q (Stmt.substituteAll f ss)
  | [] => fun _ => trivial
  | s :: ss => fun h =>
    ⟨ConfinedStmt.substitute avoids decided s h.1, ConfinedStmts.substitute avoids decided ss h.2⟩

end

end Statements

def unscopedHelper (h : Helper) : Helper := ⟨h.signature, h.body.map unscopedStmt⟩

/-- The scope with the helper function unscoped, and otherwise as it is. -/
def unscopedRegion (r : Region) : Region := { r with helper := r.helper.map unscopedHelper }

/-- The helper function scopes references only where `P` allows it. -/
def ConfinedHelper (P : String → Expr → Prop) (r : Region) : Prop :=
  ∀ h ∈ r.helper, ∀ s ∈ h.body, ConfinedStmt P s

end TemplateCompiler.Generate

namespace TemplateCompiler.Scope.Tree

open TemplateCompiler.Code TemplateCompiler.Generate

mutual

theorem used_unscoped : ∀ t : Tree, (t.map unscopedRegion).used = t.used
  | .node _ children => by rw [map, used, used, usedAll_unscoped children]; rfl

theorem usedAll_unscoped : ∀ ts : List Tree, usedAll (mapAll unscopedRegion ts) = usedAll ts
  | [] => rfl
  | t :: ts => by rw [mapAll, usedAll, usedAll, used_unscoped t, usedAll_unscoped ts]

end

mutual

theorem collect_unscoped : ∀ t : Tree, (t.map unscopedRegion).collect = t.collect.map unscopedRegion
  | .node _ children => by
    rw [map, collect, collect, map, usedAll_unscoped children, collectAll_unscoped children]
    rfl

theorem collectAll_unscoped : ∀ ts : List Tree,
    collectAll (mapAll unscopedRegion ts) = mapAll unscopedRegion (collectAll ts)
  | [] => rfl
  | t :: ts => by rw [mapAll, collectAll, collectAll, mapAll, collect_unscoped t, collectAll_unscoped ts]

end

mutual

theorem decide_unscoped : ∀ (t : Tree) (inherited : Available),
    (t.map unscopedRegion).decide inherited = (t.decide inherited).map unscopedRegion
  | .node region children, inherited => by
    rw [map, decide, decide, map, ← decideAll_unscoped children]
    rfl

theorem decideAll_unscoped : ∀ (ts : List Tree) (inherited : Available),
    decideAll inherited (mapAll unscopedRegion ts) = mapAll unscopedRegion (decideAll inherited ts)
  | [], _ => rfl
  | t :: ts, inherited => by
    rw [mapAll, decideAll, decideAll, mapAll, decide_unscoped t, decideAll_unscoped ts]

end

mutual

theorem inheritedAt_unscoped : ∀ (t : Tree) (inherited : Available),
    (t.map unscopedRegion).inheritedAt inherited =
      (t.inheritedAt inherited).map fun x => (unscopedRegion x.1, x.2)
  | .node region children, inherited => by
    rw [map, inheritedAt, inheritedAt, List.map_cons, ← inheritedAtAll_unscoped children]
    rfl

theorem inheritedAtAll_unscoped : ∀ (ts : List Tree) (inherited : Available),
    inheritedAtAll inherited (mapAll unscopedRegion ts) =
      (inheritedAtAll inherited ts).map fun x => (unscopedRegion x.1, x.2)
  | [], _ => rfl
  | t :: ts, inherited => by
    rw [mapAll, inheritedAtAll, inheritedAtAll, List.map_append, inheritedAt_unscoped t,
      inheritedAtAll_unscoped ts]

end

theorem hoistings_unscoped (t : Tree) (inherited : Available) :
    (t.map unscopedRegion).hoistings inherited = t.hoistings inherited := by
  unfold hoistings
  rw [inheritedAt_unscoped, List.filterMap_map]
  rfl

theorem target_unscoped (t : Tree) : (t.map unscopedRegion).target = t.target := by
  funext read
  have usage : (t.map unscopedRegion).usageOf? read = t.usageOf? read := by
    unfold usageOf?
    rw [regions_map, List.find?_map]
    change (Option.map unscopedRegion (t.regions.find? fun r => r.id = read.scope)).bind _ = _
    rw [Option.bind_map]
    rfl
  rw [target, target, target?, target?, usage]

end TemplateCompiler.Scope.Tree

namespace TemplateCompiler.Generate

open TemplateCompiler.Code TemplateCompiler.Scope

section Leading

variable {P : String → Expr → Prop}

theorem confinedStmt_quiet {s : Stmt} (plain : s.isPlain) (h : s.callsAmong scopingNames = []) :
    ConfinedStmt P s ∧ unscopedStmt s = s := by
  cases s with
  | assign target value =>
    obtain ⟨ht, hv⟩ : Unlinked target ∧ Unlinked value := List.append_eq_nil_iff.mp h
    rw [unscopedStmt, ht.unscoped, hv.unscoped]
    exact ⟨⟨ht.confined, hv.confined⟩, rfl⟩
  | ret value | expr value =>
    have hv : Unlinked value := h
    rw [unscopedStmt, hv.unscoped]
    exact ⟨hv.confined, rfl⟩
  | importFrom moduleName names => exact ⟨trivial, rfl⟩
  | function name signature body => cases plain

theorem hoistStmts_unscoped (r : Region) (inherited : Available) :
    (∀ s ∈ r.hoistStmts inherited, ConfinedStmt P s) ∧
      (r.hoistStmts inherited).map unscopedStmt = r.hoistStmts inherited := by
  unfold Region.hoistStmts
  generalize r.hoisted inherited = us
  split
  · exact ⟨nofun, rfl⟩
  · have quiet : (Stmt.destructure (us.map fun u => (u.localName, componentMember u.property))).callsAmong
        scopingNames = [] := by simp [collects_calls.destructure, componentMember]
    obtain ⟨confined, same⟩ :=
      confinedStmt_quiet (P := P) (by unfold Stmt.destructure; split <;> rfl) quiet
    exact ⟨fun s hs => List.mem_singleton.mp hs ▸ confined, by rw [List.map_singleton, same]⟩

mutual

theorem leading_unscoped : ∀ (t : Tree) (inherited : Available), (∀ r ∈ t.regions, ConfinedHelper P r) →
    (∀ s ∈ t.leading inherited, ConfinedStmt P s) ∧
      (t.map unscopedRegion).leading inherited = (t.leading inherited).map unscopedStmt
  | .node region children, inherited => by
    intro h
    have below := helpers_unscoped children (region.available inherited)
      fun r hr => h r (List.mem_cons_of_mem _ hr)
    have own := hoistStmts_unscoped (P := P) region inherited
    rw [Scope.Tree.map, Tree.leading, Tree.leading, List.map_append, own.2, ← below.2]
    exact ⟨fun s hs => (List.mem_append.mp hs).elim (own.1 s) (below.1 s), rfl⟩

theorem helpers_unscoped : ∀ (ts : List Tree) (inherited : Available),
    (∀ r ∈ Tree.regionsAll ts, ConfinedHelper P r) →
    (∀ s ∈ Tree.helpers inherited ts, ConfinedStmt P s) ∧
      Tree.helpers inherited (Tree.mapAll unscopedRegion ts) = (Tree.helpers inherited ts).map unscopedStmt
  | [], _ => fun _ => ⟨nofun, rfl⟩
  | .node region children :: ts, inherited => by
    intro h
    rw [Tree.regionsAll] at h
    have inner := leading_unscoped (.node region children) inherited
      fun r hr => h r (List.mem_append_left _ hr)
    have later := helpers_unscoped ts inherited fun r hr => h r (List.mem_append_right _ hr)
    have start := inner.2
    rw [Scope.Tree.map] at start
    have coded : (unscopedRegion region).helper = region.helper.map unscopedHelper := rfl
    rw [Tree.mapAll, Scope.Tree.map, Tree.helpers, Tree.helpers, List.map_append, later.2, coded, start]
    cases helper : region.helper with
    | none => exact ⟨later.1, rfl⟩
    | some code =>
      have body := h region (List.mem_append_left _ List.mem_cons_self) code helper
      refine ⟨fun s hs => ?_, ?_⟩
      · rcases List.mem_append.mp hs with hs | hs
        · rw [List.mem_singleton.mp hs, ConfinedStmt, confinedStmts_iff]
          exact fun s hs => (List.mem_append.mp hs).elim (inner.1 s) (body s)
        · exact later.1 s hs
      · simp only [Option.map_some, List.map_singleton, unscopedStmt, unscopedStmts_eq_map, List.map_append]
        rfl

end

end Leading

end TemplateCompiler.Generate
