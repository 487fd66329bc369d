import TemplateCompiler.Generate.Program
import TemplateCompiler.Proofs.Code.Calls

/-!
What generated code demands of the statements before it: the names of its own that stand in it, the calls
of such names, slots and custom elements with the local names that they take, and the handlers that are
kept in the context. Deciding reads adds demands for local names and for the component only.
-/

namespace TemplateCompiler.Generate

open TemplateCompiler.Code TemplateCompiler.Scope

inductive Demand where
  /-- A name of generated code's own. -/
  | name (id : String)
  /-- A call of such a name. -/
  | call (id : String)
  /-- A slot, with the local name of what fills it. -/
  | slot (name : Constant) (id : String)
  /-- A custom element, with the local name of its class. -/
  | component (tag : Constant) (id : String)
  /-- A handler that is kept under a key of the context, with the local name of what was kept before. -/
  | handler (id : String) (key : Constant)
  deriving DecidableEq

/-- The name of generated code's own that is demanded. -/
def Demand.id : Demand → String
  | name id | call id | slot _ id | component _ id | handler id _ => id

/-- The primitive whose call brings the demand with it. -/
def Demand.caller? : Demand → Option Primitive
  | .slot .. => some .slot
  | .component .. => some .customElement
  | .name _ | .call _ | .handler .. => none

def constant? : Expr → Option Constant
  | .constant value => some value
  | _ => none

def own? : Expr → Option String
  | .own id => some id
  | _ => none

def callee? : Expr → Option String
  | .call (.own id) _ _ => some id
  | _ => none

def kept? : Expr → Option Constant
  | .call (.member (.own mapping) attr) [key, value] _ =>
    if mapping = contextName ∧ attr = "setdefault" ∧ callee? value = some Primitive.bind.localName then
      constant? key
    else none
  | _ => none

def slotDemands : List Expr → List Demand
  | [name, _, _, content] =>
    ((constant? name).bind fun name => (own? content).map (Demand.slot name)).toList
  | _ => []

def componentDemands : List Expr → List Demand
  | [tag, constructor, _, _] =>
    ((constant? tag).bind fun tag => (own? constructor).map (Demand.component tag)).toList
  | _ => []

def argumentDemands (callee : String) (args : List Expr) : List Demand :=
  if callee = Primitive.slot.localName then slotDemands args
  else if callee = Primitive.customElement.localName then componentDemands args
  else []

def callDemands : Expr → List Expr → List Demand
  | .own id, args => .call id :: argumentDemands id args
  | _, _ => []

def logicalDemands : LogicalOp → List Expr → List Demand
  | .or, [held, kept] => ((kept? kept).bind fun key => (own? held).map (Demand.handler · key)).toList
  | _, _ => []

def nodeDemands : Expr → List Demand
  | .own id => [.name id]
  | .call callee args _ => callDemands callee args
  | .logical op operands => logicalDemands op operands
  | _ => []

def demands (e : Expr) : List Demand := e.nodes.flatMap nodeDemands

theorem demands_eq (e : Expr) : demands e = nodeDemands e ++ e.parts.flatMap demands := by
  unfold demands
  rw [Expr.nodes_eq, List.flatMap_cons, List.flatMap_assoc]

@[simp] theorem demands_own (id : String) : demands (.own id) = [.name id] := by
  rw [demands_eq]
  rfl

@[simp] theorem demands_constant (value : Constant) : demands (.constant value) = [] := by
  rw [demands_eq]
  rfl

@[simp] theorem demands_str (value : String) : demands (.str value) = [] := demands_constant _

@[simp] theorem demands_member (base : Expr) (attr : String) :
    demands (.member base attr) = demands base := by
  rw [demands_eq]
  simp [nodeDemands, Expr.parts]

@[simp] theorem demands_list (items : List Expr) : demands (.list items) = items.flatMap demands := by
  rw [demands_eq]
  rfl

@[simp] theorem demands_tuple (items : List Expr) : demands (.tuple items) = items.flatMap demands := by
  rw [demands_eq]
  rfl

@[simp] theorem demands_record (entries : List (String × Expr)) :
    demands (.record entries) = entries.flatMap fun e => demands e.2 := by
  have keys : (entries.map fun e => Expr.str e.1).flatMap demands = [] := by
    rw [List.flatMap_map, List.flatMap_eq_nil_iff]
    exact fun e _ => demands_str e.1
  rw [demands_eq, Expr.record, Expr.parts, List.flatMap_append, keys, List.flatMap_map]
  rfl

@[simp] theorem demands_starred (value : Expr) : demands (.starred value) = demands value := by
  rw [demands_eq]
  simp [nodeDemands, Expr.parts]

@[simp] theorem demands_conditional (test body orelse : Expr) :
    demands (.conditional test body orelse) = demands test ++ demands body ++ demands orelse := by
  rw [demands_eq]
  simp [nodeDemands, Expr.parts]

theorem demands_logical (op : LogicalOp) (operands : List Expr) :
    demands (.logical op operands) = logicalDemands op operands ++ operands.flatMap demands := by
  rw [demands_eq]
  rfl

theorem demands_call (callee : Expr) (args keywords : List Expr) :
    demands (.call callee args keywords) = callDemands callee args ++
      (demands callee ++ (args.flatMap demands ++ keywords.flatMap demands)) := by
  rw [demands_eq]
  simp [nodeDemands, Expr.parts]

theorem demands_apply (id : String) (args : List Expr) :
    demands (.apply (.own id) args) =
      .call id :: argumentDemands id args ++ .name id :: args.flatMap demands := by
  rw [Expr.apply, demands_call]
  simp [callDemands]

theorem argumentDemands_other {id : String} (slot : id ≠ Primitive.slot.localName)
    (component : id ≠ Primitive.customElement.localName) (args : List Expr) :
    argumentDemands id args = [] := by
  rw [argumentDemands, if_neg slot, if_neg component]

theorem argumentDemands_short (id : String) {args : List Expr} (short : args.length < 4) :
    argumentDemands id args = [] := by
  unfold argumentDemands slotDemands componentDemands
  split
  · split
    · simp at short
    · rfl
  · split
    · split
      · simp at short
      · rfl
    · rfl

theorem demands_eq_nil {e : Expr}
    (h : ∀ o ∈ e.occurrences, (∀ id, o.atom ≠ .own id) ∧ ∀ n, o.atom ≠ .read n) : demands e = [] := by
  induction e using Expr.induct with
  | step e ih =>
    -- a part that is an own name would occur, alone or in the read of a property
    have part : ∀ x ∈ e.parts, ∀ id, x ≠ .own id := by
      rintro x hx id rfl
      by_cases based : ∃ base attr, e = .member (.own base) attr
      · obtain ⟨base, attr, rfl⟩ := based
        rw [Expr.occurrences] at h
        split at h
        · exact (h _ (List.mem_singleton_self _)).2 attr rfl
        · exact (h _ (List.mem_singleton_self _)).1 base rfl
      · have mine : Occurrence.free (.own id) ∈ (Expr.own id).occurrences := by simp [Expr.occurrences]
        obtain ⟨o, ho, is⟩ := Expr.occurrence_of_member hx (fun b attr is => based ⟨b, attr, is⟩) mine
        exact (h o ho).1 id is
    have below : ∀ x ∈ e.parts, demands x = [] := by
      intro x hx
      refine ih x hx fun o ho => ?_
      obtain ⟨o', ho', ha⟩ := Expr.occurrence_of_part hx (part x hx) ho
      exact ha ▸ h o' ho'
    rw [demands_eq, List.append_eq_nil_iff, List.flatMap_eq_nil_iff]
    refine ⟨?_, below⟩
    cases e with
    | own id => exact absurd rfl ((h (.free (.own id)) (by simp [Expr.occurrences])).1 id)
    | call callee args keywords =>
      cases callee with
      | own id => exact absurd rfl (part (.own id) (by simp [Expr.parts]) id)
      | _ => rfl
    | logical op operands =>
      have held : ∀ x ∈ operands, own? x = none := by
        intro x hx
        cases x with
        | own id => exact absurd rfl (part (.own id) (by simpa [Expr.parts] using hx) id)
        | _ => rfl
      change logicalDemands op operands = []
      unfold logicalDemands
      split
      · simp [held]
      · rfl
    | _ => rfl

theorem argumentDemands_spec (id : String) (args : List Expr) : (argumentDemands id args).length ≤ 1 ∧
    ∀ x ∈ argumentDemands id args, ∃ p, x.caller? = some p ∧ id = p.localName := by
  have option {x : Option Demand} : x.toList.length ≤ 1 := by cases x <;> simp
  have own {c : Option Constant} {o : Option String} {g : Constant → String → Demand}
      {x : Demand} (h : x ∈ (c.bind fun c => o.map (g c)).toList) : ∃ c o, x = g c o := by
    obtain ⟨c, -, h⟩ := Option.bind_eq_some_iff.mp (Option.mem_toList.mp h)
    obtain ⟨o, -, rfl⟩ := Option.map_eq_some_iff.mp h
    exact ⟨c, o, rfl⟩
  unfold argumentDemands
  split
  · next is =>
    unfold slotDemands
    split
    · refine ⟨option, fun x hx => ?_⟩
      obtain ⟨c, o, rfl⟩ := own hx
      exact ⟨.slot, rfl, is⟩
    · simp
  · split
    · next is =>
      unfold componentDemands
      split
      · refine ⟨option, fun x hx => ?_⟩
        obtain ⟨c, o, rfl⟩ := own hx
        exact ⟨.customElement, rfl, is⟩
      · simp
    · simp

theorem mem_logicalDemands {op : LogicalOp} {operands : List Expr} {x : Demand}
    (h : x ∈ logicalDemands op operands) : ∃ id key, x = .handler id key := by
  unfold logicalDemands at h
  split at h
  · obtain ⟨key, -, h⟩ := Option.bind_eq_some_iff.mp (Option.mem_toList.mp h)
    obtain ⟨id, -, rfl⟩ := Option.map_eq_some_iff.mp h
    exact ⟨id, key, rfl⟩
  · cases h

theorem occurrence_of_call {e : Expr} {id : String} (h : .call id ∈ demands e) :
    ∃ o ∈ e.occurrences, o.atom = .own id := by
  induction e using Expr.induct with
  | step e ih =>
    have based : ∀ base attr, e ≠ .member (.own base) attr := by
      rintro base attr rfl
      rw [demands_member, demands_own] at h
      simp at h
    have part {x : Expr} (hx : x ∈ e.parts) (found : ∃ o ∈ x.occurrences, o.atom = .own id) :
        ∃ o ∈ e.occurrences, o.atom = .own id := by
      obtain ⟨o, ho, is⟩ := found
      obtain ⟨o', ho', same⟩ := Expr.occurrence_of_member hx based ho
      exact ⟨o', ho', same.trans is⟩
    rw [demands_eq, List.mem_append, List.mem_flatMap] at h
    rcases h with h | ⟨x, hx, h⟩
    · cases e with
      | call callee args keywords =>
        cases callee with
        | own callee =>
          have same : id = callee := by
            rcases List.mem_cons.mp h with is | h
            · exact Demand.call.inj is
            · obtain ⟨p, caller, -⟩ := (argumentDemands_spec callee args).2 _ h
              cases caller
          subst same
          have occurs : Occurrence.free (.own id) ∈ (Expr.own id).occurrences := by simp [Expr.occurrences]
          exact part (x := .own id) (by simp [Expr.parts]) ⟨_, occurs, rfl⟩
        | _ => cases h
      | own name => simp [nodeDemands] at h
      | logical op operands =>
        obtain ⟨_, _, is⟩ := mem_logicalDemands h
        cases is
      | _ => cases h
    · exact part hx (ih x hx h)

section Decisions

variable {σ : Placeholder → Expr} {d : Demand}

theorem constant?_substitute (hσ : Expr.Decides σ) (e : Expr) :
    constant? (e.substitute σ) = constant? e := by
  cases e with
  | placeholder p =>
    rcases hσ p with h | ⟨n, h⟩ | ⟨id, -, h⟩ <;>
      simp [Expr.substitute, h, constant?, componentMember]
  | _ => simp [Expr.substitute, constant?]

theorem count_own?_substitute {f : String → Demand} (hf : ∀ id, (f id).id = id)
    (other : ∀ p, σ p ≠ .own d.id) (e : Expr) :
    ((own? (e.substitute σ)).map f).toList.count d = ((own? e).map f).toList.count d := by
  cases e with
  | placeholder p =>
    have none : ((own? (.placeholder p)).map f).toList.count d = 0 := rfl
    rw [none, Expr.substitute]
    cases h : σ p with
    | own id =>
      refine List.count_eq_zero.mpr fun hd => other p ?_
      rw [h, List.mem_singleton.mp hd, hf]
    | _ => rfl
  | _ => simp [Expr.substitute, own?]

theorem count_argumentDemands (hσ : Expr.Decides σ) (other : ∀ p, σ p ≠ .own d.id) (callee : String)
    (args : List Expr) : (argumentDemands callee (args.map (.substitute σ))).count d =
      (argumentDemands callee args).count d := by
  unfold argumentDemands
  split
  · match args with
    | [name, _, _, content] =>
      simp only [List.map_cons, List.map_nil, slotDemands, constant?_substitute hσ]
      cases constant? name with
      | none => rfl
      | some value => exact count_own?_substitute (fun _ => rfl) other content
    | [] | [_] | [_, _] | [_, _, _] | _ :: _ :: _ :: _ :: _ :: _ => rfl
  · split
    · match args with
      | [tag, constructor, _, _] =>
        simp only [List.map_cons, List.map_nil, componentDemands, constant?_substitute hσ]
        cases constant? tag with
        | none => rfl
        | some value => exact count_own?_substitute (fun _ => rfl) other constructor
      | [] | [_] | [_, _] | [_, _, _] | _ :: _ :: _ :: _ :: _ :: _ => rfl
    · rfl

theorem count_callDemands (hσ : Expr.Decides σ) (other : ∀ p, σ p ≠ .own d.id)
    (plain : ∀ x (p : Primitive), σ x ≠ .own p.localName) (callee : Expr)
    (args : List Expr) : (callDemands (callee.substitute σ) (args.map (.substitute σ))).count d =
      (callDemands callee args).count d := by
  cases callee with
  | own id =>
    simp only [Expr.substitute, callDemands, List.count_cons, count_argumentDemands hσ other]
  | placeholder x =>
    have none : callDemands (.placeholder x) args = [] := by simp [callDemands]
    rw [none, Expr.substitute, List.count_nil, List.count_eq_zero]
    intro hd
    rcases hσ x with h | ⟨n, h⟩ | ⟨id, -, h⟩
    · rw [h] at hd
      simp [callDemands] at hd
    · rw [h] at hd
      simp [callDemands, componentMember] at hd
    · have slot : id ≠ Primitive.slot.localName := fun is => plain x .slot (is ▸ h)
      have constructor : id ≠ Primitive.customElement.localName := fun is => plain x .customElement (is ▸ h)
      rw [h, callDemands, argumentDemands_other slot constructor] at hd
      exact other x (by rw [h, List.mem_singleton.mp hd]; rfl)
  | _ => simp [Expr.substitute, callDemands]

theorem callee?_substitute (hσ : Expr.Decides σ) (plain : ∀ x (p : Primitive), σ x ≠ .own p.localName)
    (e : Expr) (p : Primitive) :
    callee? (e.substitute σ) = some p.localName ↔ callee? e = some p.localName := by
  cases e with
  | placeholder x =>
    rcases hσ x with h | ⟨n, h⟩ | ⟨id, -, h⟩ <;> simp [Expr.substitute, h, callee?, componentMember]
  | call callee args keywords =>
    cases callee with
    | placeholder x =>
      have none : callee? (.call (.placeholder x) args keywords) = none := rfl
      rw [none, Expr.substitute, Expr.substitute]
      simp only [reduceCtorEq, iff_false]
      intro is
      cases h : σ x with
      | own id =>
        rw [h] at is
        exact plain x p (by rw [h, Option.some.inj is])
      | _ =>
        rw [h] at is
        cases is
    | _ => simp [Expr.substitute, callee?]
  | _ => simp [Expr.substitute, callee?]

theorem kept?_substitute (hσ : Expr.Decides σ) (plain : ∀ x (p : Primitive), σ x ≠ .own p.localName)
    (context : ∀ x, σ x ≠ .own contextName) (e : Expr) : kept? (e.substitute σ) = kept? e := by
  have component : componentName ≠ contextName := by decide
  cases e with
  | placeholder x =>
    rcases hσ x with h | ⟨n, h⟩ | ⟨id, -, h⟩ <;> simp [Expr.substitute, h, kept?, componentMember]
  | call callee args keywords =>
    rcases args with _ | ⟨key, _ | ⟨value, _ | ⟨_, _⟩⟩⟩
    case cons.cons.nil =>
      cases callee with
      | placeholder x =>
        rcases hσ x with h | ⟨n, h⟩ | ⟨id, -, h⟩ <;>
          simp [Expr.substitute, h, kept?, componentMember, component]
      | member base attr =>
        cases base with
        | own mapping =>
          simp only [Expr.substitute, Expr.substituteAll, kept?, constant?_substitute hσ,
            callee?_substitute hσ plain value .bind]
        | placeholder x =>
          rcases hσ x with h | ⟨n, h⟩ | ⟨id, -, h⟩
          · simp [Expr.substitute, h, kept?]
          · simp [Expr.substitute, h, kept?, componentMember]
          · have other : id ≠ contextName := fun is => context x (is ▸ h)
            simp [Expr.substitute, h, kept?, other]
        | _ => simp [Expr.substitute, kept?]
      | _ => simp [Expr.substitute, kept?]
    all_goals simp [Expr.substitute, kept?]
  | _ => simp [Expr.substitute, kept?]

theorem count_logicalDemands (hσ : Expr.Decides σ) (other : ∀ p, σ p ≠ .own d.id)
    (plain : ∀ x (p : Primitive), σ x ≠ .own p.localName) (context : ∀ x, σ x ≠ .own contextName)
    (op : LogicalOp) (operands : List Expr) :
    (logicalDemands op (operands.map (.substitute σ))).count d = (logicalDemands op operands).count d := by
  match op, operands with
  | .or, [held, kept] =>
    simp only [List.map_cons, List.map_nil, logicalDemands, kept?_substitute hσ plain context]
    cases kept? kept with
    | none => rfl
    | some key => exact count_own?_substitute (fun _ => rfl) other held
  | .and, _ | .or, [] | .or, [_] | .or, _ :: _ :: _ :: _ => rfl

/-- Deciding reads changes no demand but for the names that are decided and the component. -/
theorem count_demands_substitute (hσ : Expr.Decides σ) (other : ∀ p, σ p ≠ .own d.id)
    (plain : ∀ x (p : Primitive), σ x ≠ .own p.localName) (context : ∀ x, σ x ≠ .own contextName)
    (component : d.id ≠ componentName) (e : Expr) : (demands (e.substitute σ)).count d = (demands e).count d := by
  induction e using Expr.induct with
  | step e ih =>
    by_cases placed : ∃ p, e = .placeholder p
    · obtain ⟨p, rfl⟩ := placed
      have none : demands (.placeholder p) = [] := by
        rw [demands_eq]
        rfl
      rw [none, Expr.substitute, List.count_nil, List.count_eq_zero]
      intro hd
      rcases hσ p with h | ⟨n, h⟩ | ⟨id, -, h⟩
      · rw [h, none] at hd
        cases hd
      · rw [h, componentMember, demands_member, demands_own] at hd
        exact component (List.mem_singleton.mp hd ▸ rfl)
      · rw [h, demands_own] at hd
        exact other p (by rw [h, List.mem_singleton.mp hd]; rfl)
    · have free : ∀ p, e ≠ .placeholder p := fun p h => placed ⟨p, h⟩
      rw [demands_eq, demands_eq e, Expr.parts_substitute free, List.flatMap_map, List.count_append,
        List.count_append, List.count_flatMap, List.count_flatMap]
      congr 1
      · cases e with
        | placeholder p => exact absurd rfl (free p)
        | call callee args keywords =>
          simpa [Expr.substitute, nodeDemands] using count_callDemands hσ other plain callee args
        | logical op operands =>
          simpa [Expr.substitute, nodeDemands] using count_logicalDemands hσ other plain context op operands
        | _ => simp [Expr.substitute, nodeDemands]
      · exact congrArg List.sum (List.map_congr_left ih)

end Decisions

def stmtDemands : Stmt → List Demand
  | .assign _ value | .ret value | .expr value => demands value
  | .importFrom .. | .function .. => []

def functionDemands (f : Function) : List Demand := f.body.flatMap stmtDemands

theorem count_functionDemands_substitute {σ : Placeholder → Expr} {d : Demand} (hσ : Expr.Decides σ)
    (other : ∀ p, σ p ≠ .own d.id) (plain : ∀ x (p : Primitive), σ x ≠ .own p.localName)
    (context : ∀ x, σ x ≠ .own contextName) (component : d.id ≠ componentName) (f : Function) :
    (functionDemands (f.substitute σ)).count d = (functionDemands f).count d := by
  have stmt (s : Stmt) : (stmtDemands (s.substitute σ)).count d = (stmtDemands s).count d := by
    cases s <;> simp [Stmt.substitute, stmtDemands, count_demands_substitute hσ other plain context component]
  unfold functionDemands Function.substitute
  rw [List.flatMap_map, List.count_flatMap, List.count_flatMap]
  exact congrArg List.sum (List.map_congr_left fun s _ => stmt s)

end TemplateCompiler.Generate
