import Mathlib.Data.List.Basic
import TemplateCompiler.Proofs.Code.Functions

/-!
Calls that generated code makes itself. A call counts if the called name is one that generated code
introduces and is among given names; with it are listed those of the names that are passed to it.
Replacing undecided reads changes no such call, as long as no decision has one of the names.
-/

namespace TemplateCompiler.Code

open TemplateCompiler.Scope

namespace Expr

theorem sizeOf_part {e x : Expr} (h : x ∈ e.parts) : sizeOf x < sizeOf e := by
  have item {xs : List Expr} (h : x ∈ xs) : sizeOf x < sizeOf xs := List.sizeOf_lt_of_mem h
  cases e <;> simp only [parts, List.mem_cons, List.mem_append, List.not_mem_nil, or_false] at h <;>
    grind

def nodes (e : Expr) : List Expr := e :: e.parts.attach.flatMap fun x => x.1.nodes
termination_by sizeOf e
decreasing_by exact sizeOf_part x.2

theorem nodes_eq (e : Expr) : e.nodes = e :: e.parts.flatMap nodes := by
  rw [nodes, List.flatMap_subtype (g := nodes) (by simp), List.unattach_attach]

/-- A name that generated code introduces, if it is one of the given. -/
def ownAmong (names : List String) : Expr → Option String
  | own id => if id ∈ names then some id else Option.none
  | _ => Option.none

theorem ownAmong_own {names : List String} {id : String} (h : id ∈ names) :
    (own id).ownAmong names = some id := if_pos h

/-- A call of one of the names, with those of the names that are passed to it. -/
def callAmong (names : List String) : Expr → Option (String × List String)
  | call callee args _ => (ownAmong names callee).map fun id => (id, args.filterMap (ownAmong names))
  | _ => Option.none

def callsAmong (names : List String) (e : Expr) : List (String × List String) :=
  e.nodes.filterMap (callAmong names)

theorem callsAmong_eq (names : List String) (e : Expr) :
    e.callsAmong names = (callAmong names e).toList ++ e.parts.flatMap (callsAmong names) := by
  unfold callsAmong
  rw [nodes_eq, List.filterMap_cons, List.filterMap_flatMap]
  cases callAmong names e <;> rfl

section

variable (names : List String)

@[simp] theorem callsAmong_own (id : String) : (own id).callsAmong names = [] := by
  rw [callsAmong_eq]
  rfl

@[simp] theorem callsAmong_name (id : String) : (name id).callsAmong names = [] := by
  rw [callsAmong_eq]
  rfl

@[simp] theorem callsAmong_constant (value : Constant) : (constant value).callsAmong names = [] := by
  rw [callsAmong_eq]
  rfl

@[simp] theorem callsAmong_str (value : String) : (str value).callsAmong names = [] :=
  callsAmong_constant names _

@[simp] theorem callsAmong_member (base : Expr) (attr : String) :
    (member base attr).callsAmong names = base.callsAmong names := by
  rw [callsAmong_eq, parts, List.flatMap_singleton]
  rfl

@[simp] theorem callsAmong_list (items : List Expr) :
    (list items).callsAmong names = items.flatMap (callsAmong names) := by
  rw [callsAmong_eq]
  rfl

@[simp] theorem callsAmong_tuple (items : List Expr) :
    (tuple items).callsAmong names = items.flatMap (callsAmong names) := by
  rw [callsAmong_eq]
  rfl

@[simp] theorem callsAmong_record (entries : List (String × Expr)) :
    (record entries).callsAmong names = entries.flatMap fun e => e.2.callsAmong names := by
  have keys : (entries.map fun e => str e.1).flatMap (callsAmong names) = [] := by
    simp [List.flatMap_map]
  rw [callsAmong_eq, record, parts, List.flatMap_append, keys, List.flatMap_map]
  rfl

@[simp] theorem callsAmong_starred (value : Expr) :
    (starred value).callsAmong names = value.callsAmong names := by
  rw [callsAmong_eq, parts, List.flatMap_singleton]
  rfl

@[simp] theorem callsAmong_keyword (param : Option String) (value : Expr) :
    (keyword param value).callsAmong names = value.callsAmong names := by
  rw [callsAmong_eq, parts, List.flatMap_singleton]
  rfl

@[simp] theorem callsAmong_conditional (test body orelse : Expr) :
    (conditional test body orelse).callsAmong names =
      test.callsAmong names ++ (body.callsAmong names ++ orelse.callsAmong names) := by
  rw [callsAmong_eq, parts]
  simp [callAmong]

@[simp] theorem callsAmong_logical (op : LogicalOp) (operands : List Expr) :
    (logical op operands).callsAmong names = operands.flatMap (callsAmong names) := by
  rw [callsAmong_eq]
  rfl

theorem callsAmong_call (callee : Expr) (args keywords : List Expr) :
    (call callee args keywords).callsAmong names =
      ((callee.ownAmong names).map fun id => (id, args.filterMap (ownAmong names))).toList ++
        (callee.callsAmong names ++ (args ++ keywords).flatMap (callsAmong names)) := by
  rw [callsAmong_eq, parts, List.flatMap_cons]
  rfl

theorem callsAmong_apply {id : String} (absent : id ∉ names) (args : List Expr) :
    (apply (own id) args).callsAmong names = args.flatMap (callsAmong names) := by
  simp [apply, callsAmong_call, ownAmong, absent]

end

section

variable {names : List String} {f : Placeholder → Expr}

/-- Decisions that have none of the names. -/
def Avoids (names : List String) (f : Placeholder → Expr) : Prop :=
  Decides f ∧ ∀ p, ∀ id ∈ names, f p ≠ own id

theorem parts_substitute {e : Expr} (h : ∀ p, e ≠ placeholder p) (f : Placeholder → Expr) :
    (e.substitute f).parts = e.parts.map (substitute f) := by
  cases e with
  | placeholder p => exact absurd rfl (h p)
  | _ => simp [substitute, parts]

theorem Avoids.ownAmong (hf : Avoids names f) (e : Expr) :
    (e.substitute f).ownAmong names = e.ownAmong names := by
  cases e with
  | placeholder p =>
    obtain ⟨decides, other⟩ := hf
    rcases decides p with h | ⟨n, h⟩ | ⟨id, -, h⟩
    · simp [substitute, h]
    · simp [substitute, h, componentMember, Expr.ownAmong]
    · have absent : id ∉ names := fun hid => other p id hid h
      simp [substitute, h, Expr.ownAmong, absent]
  | _ => simp [substitute, Expr.ownAmong]

theorem Avoids.callAmong (hf : Avoids names f) (e : Expr) :
    (e.substitute f).callAmong names = e.callAmong names := by
  cases e with
  | placeholder p =>
    rcases hf.1 p with h | ⟨n, h⟩ | ⟨id, -, h⟩ <;>
      simp [substitute, h, componentMember, Expr.callAmong]
  | call callee args keywords =>
    have passed : (args.map (substitute f)).filterMap (Expr.ownAmong names) =
        args.filterMap (Expr.ownAmong names) := by
      rw [List.filterMap_map]
      exact congrArg (List.filterMap · args) (funext hf.ownAmong)
    simp [substitute, Expr.callAmong, hf.ownAmong, passed]
  | _ => simp [substitute, Expr.callAmong]

theorem callsAmong_substitute (hf : Avoids names f) (e : Expr) :
    (e.substitute f).callsAmong names = e.callsAmong names := by
  induction e using induct with
  | step e ih =>
    rw [callsAmong_eq, callsAmong_eq names e, hf.callAmong]
    congr 1
    by_cases h : ∃ p, e = placeholder p
    · obtain ⟨p, rfl⟩ := h
      rcases hf.1 p with h | ⟨n, h⟩ | ⟨id, -, h⟩ <;> simp [substitute, h, componentMember, parts]
    · rw [parts_substitute (fun p hp => h ⟨p, hp⟩), List.flatMap_map]
      exact List.flatMap_congr ih

theorem mem_clauseOccurrences_of_mem {scope : List Inner} {cs : List Expr} {c : Expr} {o : Occurrence}
    (hc : c ∈ cs) (ho : o ∈ c.occurrences) : ∃ o' ∈ clauseOccurrences scope cs, o'.atom = o.atom := by
  cases cs with
  | nil => cases hc
  | cons d cs =>
    have rest (h : c ∈ cs) : o.under scope ∈ (occurrencesAll cs).map (.under scope) := by
      rw [occurrencesAll_eq_flatMap]
      exact List.mem_map_of_mem (List.mem_flatMap.mpr ⟨c, h, ho⟩)
    rcases d.isNoClause_or with hd | ⟨isAsync, target, iterable, conditions, rfl⟩
    · rw [clauseOccurrences_cons hd]
      rcases List.mem_cons.mp hc with rfl | hc
      · exact ⟨o.under scope, List.mem_append_left _ (List.mem_map_of_mem ho), rfl⟩
      · exact ⟨_, List.mem_append_right _ (rest hc), rfl⟩
    · rw [clauseOccurrences]
      rcases List.mem_cons.mp hc with rfl | hc
      · simp only [occurrences, List.mem_append] at ho
        rcases ho with (ho | ho) | ho
        · exact ⟨o.under scope, by simp only [List.mem_append, List.mem_map_of_mem ho, true_or], rfl⟩
        · exact ⟨o, by simp only [List.mem_append, ho, true_or, or_true], rfl⟩
        · exact ⟨o.under scope, by simp only [List.mem_append, List.mem_map_of_mem ho, true_or, or_true],
            rfl⟩
      · exact ⟨_, List.mem_append_right _ (rest hc), rfl⟩

/-- What occurs in a part of a node occurs in the node, but for an attribute of an own name: generated code
reads a property by its own name and an attribute, which is one occurrence. -/
theorem occurrence_of_member {e x : Expr} (hx : x ∈ e.parts)
    (other : ∀ id attr, e ≠ member (own id) attr) {o : Occurrence}
    (ho : o ∈ x.occurrences) : ∃ o' ∈ e.occurrences, o'.atom = o.atom := by
  have same {e : Expr} (h : o ∈ e.occurrences) : ∃ o' ∈ e.occurrences, o'.atom = o.atom := ⟨o, h, rfl⟩
  have moved {w : List Inner} {os : List Occurrence} (h : o.under w ∈ os) :
      ∃ o' ∈ os, o'.atom = o.atom := ⟨_, h, rfl⟩
  cases e with
  | absent | name id | own id | placeholder read | constant value => cases hx
  | member base attr =>
    obtain rfl := List.mem_singleton.mp hx
    have named : ∀ id, x ≠ own id := fun id is => other id attr (by rw [is])
    exact ⟨o, by rwa [occurrences_member attr named], rfl⟩
  | lambda params keywordDefaults defaults body =>
    simp only [parts, List.mem_append, List.mem_singleton] at hx
    rcases hx with (hx | hx) | rfl
    · refine same ?_
      simp only [occurrences, occurrencesAll_eq_flatMap, List.mem_append, List.mem_flatMap]
      exact .inl (.inl ⟨x, hx, ho⟩)
    · refine same ?_
      simp only [occurrences, occurrencesAll_eq_flatMap, List.mem_append, List.mem_flatMap]
      exact .inl (.inr ⟨x, hx, ho⟩)
    · refine moved (w := [⟨true, params.names ++ stored x.occurrences⟩]) ?_
      simp only [occurrences, List.mem_append]
      exact .inr (List.mem_map_of_mem ho)
  | comprehension form element clauses =>
    simp only [parts, List.mem_cons] at hx
    rw [occurrences]
    rcases hx with rfl | hx
    · exact moved (List.mem_append_left _ (List.mem_map_of_mem ho))
    · obtain ⟨o', ho', ha⟩ := mem_clauseOccurrences_of_mem hx ho
      exact ⟨o', List.mem_append_right _ ho', ha⟩
  | dictComprehension key value clauses =>
    simp only [parts, List.mem_cons] at hx
    rw [occurrences]
    rcases hx with rfl | rfl | hx
    · exact moved (List.mem_append_left _ (List.mem_append_left _ (List.mem_map_of_mem ho)))
    · exact moved (List.mem_append_left _ (List.mem_append_right _ (List.mem_map_of_mem ho)))
    · obtain ⟨o', ho', ha⟩ := mem_clauseOccurrences_of_mem hx ho
      exact ⟨o', List.mem_append_right _ ho', ha⟩
  | _ =>
    refine same ?_
    simp only [parts, List.mem_cons, List.mem_append, List.not_mem_nil, or_false] at hx
    simp only [occurrences, occurrencesAll_eq_flatMap, List.mem_append, List.mem_flatMap,
      List.mem_cons]
    grind

theorem occurrence_of_part {e x : Expr} (hx : x ∈ e.parts) (other : ∀ id, x ≠ own id) {o : Occurrence}
    (ho : o ∈ x.occurrences) : ∃ o' ∈ e.occurrences, o'.atom = o.atom := by
  refine occurrence_of_member hx ?_ ho
  rintro id attr rfl
  exact other id (List.mem_singleton.mp hx)

theorem callsAmong_eq_nil {e : Expr} (h : ∀ o ∈ e.occurrences, ∀ id ∈ names, o.atom ≠ .own id) :
    e.callsAmong names = [] := by
  induction e using induct with
  | step e ih =>
    rw [callsAmong_eq, List.append_eq_nil_iff, List.flatMap_eq_nil_iff]
    constructor
    · cases e with
      | call callee args keywords =>
        cases callee with
        | own id =>
          have absent : id ∉ names := fun hid =>
            h (.free (.own id)) (by simp [occurrences]) id hid rfl
          simp [Expr.callAmong, Expr.ownAmong, absent]
        | _ => rfl
      | _ => rfl
    · intro x hx
      by_cases own : ∃ id, x = .own id
      · obtain ⟨id, rfl⟩ := own
        exact callsAmong_own names id
      · refine ih x hx fun o ho id hid => ?_
        obtain ⟨o', ho', ha⟩ := occurrence_of_part hx (fun id is => own ⟨id, is⟩) ho
        exact ha ▸ h o' ho' id hid

theorem callsAmong_silent {e : Expr} (h : e.occurrences = []) : e.callsAmong names = [] :=
  callsAmong_eq_nil fun o ho => by simp [h] at ho

end

end Expr

/-- The calls of the names that a statement makes when it is reached. -/
def Stmt.callsAmong (names : List String) : Stmt → List (String × List String)
  | .assign target value => target.callsAmong names ++ value.callsAmong names
  | .ret value | .expr value => value.callsAmong names
  | .importFrom .. | .function .. => []

def Function.callsAmong (names : List String) (f : Function) : List (String × List String) :=
  f.body.flatMap (Stmt.callsAmong names)

theorem Function.callsAmong_substitute {names : List String} {σ : Placeholder → Expr}
    (hσ : Expr.Avoids names σ) (f : Function) :
    (f.substitute σ).callsAmong names = f.callsAmong names := by
  unfold Function.callsAmong Function.substitute
  rw [List.flatMap_map]
  refine List.flatMap_congr fun s _ => ?_
  cases s <;> simp [Stmt.substitute, Stmt.callsAmong, Expr.callsAmong_substitute hσ]

end TemplateCompiler.Code
