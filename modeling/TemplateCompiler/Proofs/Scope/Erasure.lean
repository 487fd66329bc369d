import TemplateCompiler.Proofs.Generate.Runs
import TemplateCompiler.Proofs.Scope.Hoisting
import TemplateCompiler.Proofs.Scope.Lexical

/-!
Binding loses nothing and records what it says. If every placeholder of a bound expression is replaced by
the name of its property, the expression is there again as it was. The placeholders, from left to right,
are those that the usages of the current scope give out for one read after the other, so the usages tell
how often every property stands in the bound expression.
-/

namespace TemplateCompiler.Code.Expr

/-- The expression with the name of its property for every placeholder. -/
def unbound (e : Expr) : Expr := e.substitute fun read => name read.property

def unboundAll (es : List Expr) : List Expr := substituteAll (fun read => name read.property) es

theorem substitute_asWritten (f : Placeholder → Expr) (e : Expr) :
    e.asWritten.substitute f = e.asWritten := by
  induction e using induct with
  | step e ih =>
    cases e with
    | absent | name id | own id | placeholder read | constant value => rfl
    | _ =>
      simp only [parts, List.mem_cons, List.mem_append, List.not_mem_nil, or_false] at ih
      simp only [asWritten, asWrittenAll_eq_map, substitute, substituteAll_eq_map, List.map_map]
      grind [List.map_congr_left]

theorem placeholders_asWritten (e : Expr) : e.asWritten.placeholders = [] := by
  induction e using induct with
  | step e ih =>
    cases e with
    | absent | name id | own id | placeholder read | constant value => rfl
    | _ =>
      simp only [parts, List.mem_cons, List.mem_append, List.not_mem_nil, or_false] at ih
      simp only [asWritten, asWrittenAll_eq_map, placeholders, placeholdersAll_eq_flatMap,
        List.flatMap_map]
      grind [List.flatMap_eq_nil_iff]

end TemplateCompiler.Code.Expr

namespace TemplateCompiler.Scope

open TemplateCompiler.Code

def recordAll (scope : Nat) : List String → List Usage → List Placeholder × List Usage
  | [], us => ([], us)
  | property :: rest, us =>
    let first := recordRead scope property us
    let later := recordAll scope rest first.2
    (first.1 :: later.1, later.2)

/-- The placeholders are given out for reads of their properties one after the other. -/
def Logs (scope : Nat) (us : List Usage) (reads : List Placeholder) (us' : List Usage) : Prop :=
  recordAll scope (reads.map Placeholder.property) us = (reads, us')

@[simp] theorem property_recordRead (scope : Nat) (property : String) (us : List Usage) :
    (recordRead scope property us).1.property = property := by
  unfold recordRead
  cases us.find? (·.property = property) <;> rfl

theorem recordAll_append (scope : Nat) (ps qs : List String) (us : List Usage) :
    recordAll scope (ps ++ qs) us =
      let first := recordAll scope ps us
      let later := recordAll scope qs first.2
      (first.1 ++ later.1, later.2) := by
  induction ps generalizing us with
  | nil => rfl
  | cons p ps ih => simp only [List.cons_append, recordAll, ih]

namespace Logs

variable {scope : Nat} {us us' us'' : List Usage} {reads later : List Placeholder}

theorem nil : Logs scope us [] us := rfl

theorem single (scope : Nat) (property : String) (us : List Usage) :
    Logs scope us [(recordRead scope property us).1] (recordRead scope property us).2 := by
  unfold Logs
  rw [List.map_singleton, property_recordRead]
  rfl

theorem trans (h : Logs scope us reads us') (h' : Logs scope us' later us'') :
    Logs scope us (reads ++ later) us'' := by
  unfold Logs at *
  simp only [List.map_append, recordAll_append, h, h']

theorem cons_iff {read : Placeholder} : Logs scope us (read :: reads) us' ↔
    read = (recordRead scope read.property us).1 ∧
      Logs scope (recordRead scope read.property us).2 reads us' := by
  simp only [Logs, List.map_cons, recordAll, Prod.ext_iff, List.cons.injEq]
  tauto

end Logs

/-- Binding turns the expression `e` into `e'`. -/
structure Keeps (scope : Nat) (us : List Usage) (e : Expr) (us' : List Usage) (e' : Expr) : Prop where
  unbound : e'.unbound = e
  logs : Logs scope us e'.placeholders us'

structure KeepsAll (scope : Nat) (us : List Usage) (es : List Expr) (us' : List Usage)
    (es' : List Expr) : Prop where
  unbound : Expr.unboundAll es' = es
  logs : Logs scope us (Expr.placeholdersAll es') us'

section

variable {scope : Nat} {locals : List String}

theorem Keeps.written {e : Expr} (h : e.Written) (us : List Usage) : Keeps scope us e us e := by
  rw [← h]
  refine ⟨e.substitute_asWritten _, ?_⟩
  rw [e.placeholders_asWritten]
  exact .nil

theorem KeepsAll.cons {us us' us'' : List Usage} {e e' : Expr} {es es' : List Expr}
    (h : Keeps scope us e us' e') (hs : KeepsAll scope us' es us'' es') :
    KeepsAll scope us (e :: es) us'' (e' :: es') :=
  ⟨congrArg₂ List.cons h.unbound hs.unbound, h.logs.trans hs.logs⟩

def KeepsBound (scope : Nat) (locals : List String) (e : Expr) : Prop :=
  ∀ us, Keeps scope us e (bind scope locals e us).2 (bind scope locals e us).1

theorem keeps_bindThrough {bs : List (Expr × Option (List String))}
    (h : ∀ b ∈ bs, ∀ us, Keeps scope us b.1 (bindPart scope b us).2 (bindPart scope b us).1) (us : List Usage) :
    KeepsAll scope us (bs.map Prod.fst) (bindThrough scope bs us).2 (bindThrough scope bs us).1 := by
  induction bs generalizing us with
  | nil => exact ⟨rfl, .nil⟩
  | cons b bs ih =>
    exact .cons (h b List.mem_cons_self us) (ih (fun c hc => h c (List.mem_cons_of_mem b hc)) _)

end

theorem keeps_bind (scope : Nat) (locals : List String) {e : Expr} (he : e.Written) :
    KeepsBound scope locals e := by
  induction e using Expr.induct generalizing locals with
  | step e ih =>
    intro us
    by_cases named : ∃ id, e = .name id
    · obtain ⟨id, rfl⟩ := named
      by_cases h : locals.contains id
      · rw [bind, if_pos h]
        exact .written he us
      · rw [bind, if_neg h]
        exact ⟨congrArg Expr.name (property_recordRead scope id us), .single scope id us⟩
    · have plain : ¬ e.isPlaceholder := by
        cases e with
        | placeholder read => cases he
        | _ => exact Bool.false_ne_true
      have size : (bindThrough scope (boundParts locals e) us).1.length = _ := length_boundParts e us
      have each : ∀ b ∈ boundParts locals e, ∀ us,
          Keeps scope us b.1 (bindPart scope b us).2 (bindPart scope b us).1 := by
        intro b hb us
        have inside := he.part (mem_parts_of_bound hb)
        obtain ⟨x, _ | inner⟩ := b
        · exact .written inside us
        · exact ih x (mem_parts_of_bound hb) inner inside us
      have all := keeps_bindThrough each us
      rw [map_fst_boundParts] at all
      rw [bind_eq_fill fun id h => named ⟨id, h⟩]
      refine ⟨?_, ?_⟩
      · have back := all.unbound
        rw [Expr.unboundAll, Expr.substituteAll_eq_map] at back
        rw [Expr.unbound, Expr.substitute_fill _ plain size, back, Expr.fill_parts]
      · rw [Expr.placeholders_fill plain size, ← Expr.placeholdersAll_eq_flatMap]
        exact all.logs

/-- How often a table says that a property is read. -/
def occurrencesOf (us : List Usage) (property : String) : Nat :=
  ((us.find? (·.property = property)).map Usage.occurrences).getD 0

def sitesFor (scope : Nat) (us : List Usage) (property : String) : List Placeholder :=
  ((us.find? (·.property = property)).map (Usage.sites scope)).getD []

theorem length_sitesFor (scope : Nat) (us : List Usage) (property : String) :
    (sitesFor scope us property).length = occurrencesOf us property := by
  unfold sitesFor occurrencesOf
  cases us.find? (·.property = property) <;> simp

theorem find?_recount (property other : String) (us : List Usage) :
    (recount property us).find? (·.property = other) =
      if property = other then (us.find? (·.property = other)).map Usage.again
      else us.find? (·.property = other) := by
  induction us with
  | nil => simp [recount]
  | cons u us ih =>
    by_cases hu : u.property = property
    · by_cases ho : property = other
      · simp [recount, hu, ho, Usage.again]
      · simp [recount, hu, ho]
    · by_cases ho : u.property = other
      · have apart : property ≠ other := fun e => hu (ho.trans e.symm)
        rw [recount, if_neg hu, if_neg apart]
        simp [ho]
      · simp [recount, hu, ho, ih]

/-- What is recorded for the placeholders of an expression: every property has been read so many times more
as it stands in it, with these placeholders as its new sites. What the table had keeps its local names, and
new properties follow in the order of their first reads, with local names that tell their places. -/
structure Recorded (scope : Nat) (us : List Usage) (reads : List Placeholder) (us' : List Usage) :
    Prop where
  sites : ∀ property, sitesFor scope us' property =
    sitesFor scope us property ++ reads.filter (·.property = property)
  properties : us'.map Usage.property = union (us.map Usage.property) (reads.map Placeholder.property)
  kept : ∀ (i : Nat) (u : Usage), us[i]? = some u → ∃ n, us'[i]? = some { u with occurrences := n }
  fresh : ∀ (i : Nat) (u : Usage), us'[i]? = some u → us.length ≤ i → u.localName = localName scope i

theorem Recorded.occurrences {scope : Nat} {us us' : List Usage} {reads : List Placeholder}
    (h : Recorded scope us reads us') (property : String) : occurrencesOf us' property =
      occurrencesOf us property + reads.countP (·.property = property) := by
  rw [← length_sitesFor scope, h.sites, List.length_append, length_sitesFor,
    List.countP_eq_length_filter]

theorem Recorded.nil (scope : Nat) (us : List Usage) : Recorded scope us [] us := by
  refine ⟨by simp, rfl, fun i u hu => ⟨u.occurrences, hu⟩, fun i u hu beyond => ?_⟩
  have within := (List.getElem?_eq_some_iff.mp hu).1
  omega

theorem Recorded.trans {scope : Nat} {us us' us'' : List Usage} {reads later : List Placeholder}
    (h : Recorded scope us reads us') (h' : Recorded scope us' later us'') :
    Recorded scope us (reads ++ later) us'' where
  sites property := by rw [h'.sites, h.sites, List.filter_append, List.append_assoc]
  properties := by
    rw [h'.properties, h.properties, List.map_append]
    simp only [union, List.foldl_append]
  kept i u hu := by
    obtain ⟨n, hn⟩ := h.kept i u hu
    obtain ⟨m, hm⟩ := h'.kept i _ hn
    exact ⟨m, hm⟩
  fresh i u hu beyond := by
    rcases Nat.lt_or_ge i us'.length with within | outside
    · have old : us'[i]? = some us'[i] := List.getElem?_eq_getElem within
      obtain ⟨n, hn⟩ := h'.kept i _ old
      obtain rfl := Option.some.inj (hu.symm.trans hn)
      exact h.fresh i us'[i] old beyond
    · exact h'.fresh i u hu outside

theorem getElem?_recount {property : String} {us : List Usage} {i : Nat} {u : Usage}
    (h : us[i]? = some u) : ∃ n, (recount property us)[i]? = some { u with occurrences := n } := by
  induction us generalizing i with
  | nil => simp at h
  | cons v us ih =>
    by_cases hv : v.property = property
    · cases i with
      | zero =>
        obtain rfl : v = u := by simpa using h
        exact ⟨v.occurrences + 1, by simp [recount, hv]⟩
      | succ i => exact ⟨u.occurrences, by simpa [recount, hv] using h⟩
    · cases i with
      | zero =>
        obtain rfl : v = u := by simpa using h
        exact ⟨v.occurrences, by simp [recount, hv]⟩
      | succ i =>
        obtain ⟨n, hn⟩ := ih (by simpa using h)
        exact ⟨n, by simpa [recount, hv] using hn⟩

theorem recorded_recordRead (scope : Nat) (property : String) (us : List Usage) :
    Recorded scope us [(recordRead scope property us).1] (recordRead scope property us).2 := by
  cases hf : us.find? (·.property = property) with
  | some u =>
    obtain rfl : u.property = property := by simpa using List.find?_some hf
    have listed : u.property ∈ us.map Usage.property := List.mem_map_of_mem (List.mem_of_find?_eq_some hf)
    simp only [recordRead, hf]
    refine ⟨fun other => ?_, ?_, fun i v hv => getElem?_recount hv, fun i v hv beyond => ?_⟩
    · simp only [sitesFor, find?_recount]
      by_cases ho : u.property = other
      · subst ho
        simp [hf, sites_again]
      · simp [ho]
    · simp [union, listed]
    · have within := (List.getElem?_eq_some_iff.mp hv).1
      rw [length_recount] at within
      omega
  | none =>
    have absent : property ∉ us.map Usage.property := by
      rw [List.mem_map]
      rintro ⟨u, hu, rfl⟩
      simpa using List.find?_eq_none.mp hf u hu
    simp only [recordRead, hf]
    refine ⟨fun other => ?_, ?_, fun i v hv => ⟨v.occurrences, ?_⟩, fun i v hv beyond => ?_⟩
    · simp only [sitesFor, List.find?_append]
      by_cases ho : property = other
      · subst ho
        simp [hf, Usage.sites]
      · simp [ho]
    · simp [union, absent]
    · have within := (List.getElem?_eq_some_iff.mp hv).1
      rw [List.getElem?_append_left within]
      exact hv
    · have within := (List.getElem?_eq_some_iff.mp hv).1
      obtain rfl : i = us.length := by
        rw [List.length_append, List.length_singleton] at within
        omega
      rw [List.getElem?_append_right (Nat.le_refl _), Nat.sub_self] at hv
      exact (congrArg Usage.localName (Option.some.inj hv)).symm

theorem Logs.recorded {scope : Nat} {us us' : List Usage} {reads : List Placeholder}
    (h : Logs scope us reads us') : Recorded scope us reads us' := by
  induction reads generalizing us with
  | nil =>
    obtain rfl : us = us' := (Prod.ext_iff.mp h).2
    exact .nil scope us
  | cons read reads ih =>
    obtain ⟨first, rest⟩ := Logs.cons_iff.mp h
    have one := recorded_recordRead scope read.property us
    rw [← first] at one
    exact one.trans (ih rest)

end TemplateCompiler.Scope

namespace TemplateCompiler.Generate

open TemplateCompiler.Code TemplateCompiler.Scope

/-- Binding always succeeds. The bound expression is the given one but for its placeholders; of the whole
state only the usages of the current scope change, and by just these placeholders. A name stays as it is
exactly if it is local, listed by a function or comprehension around it, or a built-in name that a call
takes directly. -/
theorem binding_loses_nothing (locals : List String) (e : Expr) (s : WalkState) :
    ∃ x t, Runs (Walk.bindExpr locals e) s x t ∧ x.unbound = e.asWritten ∧
      t = { s with context.current.region.usages := t.context.current.region.usages } ∧
      Recorded s.context.currentId s.context.current.region.usages x.placeholders
        t.context.current.region.usages ∧
      (∀ property, occurrencesOf t.context.current.region.usages property =
        occurrencesOf s.context.current.region.usages property +
          x.placeholders.countP (·.property = property)) ∧
      x.uses = e.asWritten.uses.map (settle locals) ∧
      ∀ u ∈ e.asWritten.uses, u.isRead = false ∧ ((settle locals u).isRead = false ↔
        u.id ∈ locals ∨ u.id ∈ u.listed ∨ u.isDirect ∧ u.id ∈ builtinNames) := by
  have written := e.written_asWritten
  have keeps := keeps_bind s.context.currentId locals written s.context.current.region.usages
  have recorded := keeps.logs.recorded
  refine ⟨_, _, Walk.runs_bindExpr.mpr ⟨rfl, rfl⟩, keeps.unbound, rfl, recorded, recorded.occurrences,
    settles _ locals written _, fun u hu => ?_⟩
  have unread : u.isRead = false := (Expr.Reads.of_written written ⟨u, .inl hu, rfl, rfl⟩).2
  have reads : (settle locals u).isRead ↔ ¬Stays locals u := isRead_settle unread
  refine ⟨unread, ?_⟩
  rw [← Bool.not_eq_true, reads, not_not]
  rfl

end TemplateCompiler.Generate
