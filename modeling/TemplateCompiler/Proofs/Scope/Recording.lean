import TemplateCompiler.Proofs.Scope.BoundParts
import Mathlib.Data.List.Perm.Basic

/-!
What binding records. A table of usages has one entry for each property, with numbered local names. The
placeholders that were ever given out for it are the sites of its entries. Binding an expression adds to
the sites exactly the undecided reads of the bound expression.
-/

namespace TemplateCompiler.Scope

open TemplateCompiler.Code

def sitesOf (scope : Nat) (us : List Usage) : List Placeholder := us.flatMap (Usage.sites scope)

theorem mem_sites {scope : Nat} {u : Usage} {s : Placeholder} (h : s ∈ u.sites scope) :
    s.scope = scope ∧ s.property = u.property := by
  obtain ⟨i, -, rfl⟩ := List.mem_map.mp h
  exact ⟨rfl, rfl⟩

/-- A table that was filled by recording reads. -/
structure Tabled (scope : Nat) (us : List Usage) : Prop where
  distinct : (us.map Usage.property).Nodup
  localNames : us.map Usage.localName = (List.range us.length).map (localName scope)
  isRead : ∀ u ∈ us, 0 < u.occurrences

/-- The second table comes from the first by recording the undecided reads among the occurrences. -/
structure Records (scope : Nat) (us : List Usage) (os : List Occurrence) (us' : List Usage) : Prop where
  tabled : Tabled scope us → Tabled scope us'
  sites : Tabled scope us → (sitesOf scope us').Perm (sitesOf scope us ++ holes os)

theorem tabled_nil (scope : Nat) : Tabled scope [] := ⟨List.nodup_nil, rfl, by simp⟩

@[simp] theorem sitesOf_nil (scope : Nat) : sitesOf scope [] = [] := rfl

namespace Records

variable {scope : Nat} {us us' us'' : List Usage} {os ps : List Occurrence}

theorem refl (h : holes os = []) : Records scope us os us :=
  ⟨id, fun _ => by rw [h, List.append_nil]⟩

theorem trans (h : Records scope us os us') (h' : Records scope us' ps us'') :
    Records scope us (os ++ ps) us'' := by
  refine ⟨h'.tabled ∘ h.tabled, fun ht => (h'.sites (h.tabled ht)).trans ?_⟩
  rw [holes_append, ← List.append_assoc]
  exact (h.sites ht).append_right (holes ps)

theorem congr (h : Records scope us os us') (e : (holes os).Perm (holes ps)) :
    Records scope us ps us' :=
  ⟨h.tabled, fun ht => (h.sites ht).trans (e.append_left _)⟩

end Records

/-- One more read of a property. -/
def Usage.again (u : Usage) : Usage := { u with occurrences := u.occurrences + 1 }

theorem sites_again (scope : Nat) (u : Usage) :
    u.again.sites scope = u.sites scope ++ [⟨scope, u.property, u.localName, u.occurrences⟩] := by
  simp [Usage.again, Usage.sites, List.range_succ]

@[simp] theorem length_recount (property : String) (us : List Usage) :
    (recount property us).length = us.length := by
  induction us with
  | nil => rfl
  | cons u us ih => by_cases h : u.property = property <;> simp [recount, h, ih]

theorem isRead_recount {property : String} {us : List Usage} (h : ∀ u ∈ us, 0 < u.occurrences) :
    ∀ u ∈ recount property us, 0 < u.occurrences := by
  induction us with
  | nil => exact h
  | cons v us ih =>
    intro u hu
    have tail := ih fun w hw => h w (List.mem_cons_of_mem v hw)
    by_cases hv : v.property = property
    · rw [recount, if_pos hv] at hu
      rcases List.mem_cons.mp hu with rfl | hu
      · exact Nat.succ_pos v.occurrences
      · exact h u (List.mem_cons_of_mem v hu)
    · rw [recount, if_neg hv] at hu
      rcases List.mem_cons.mp hu with rfl | hu
      · exact h u List.mem_cons_self
      · exact tail u hu

theorem sitesOf_recount {scope : Nat} {us : List Usage} {u : Usage} (hu : u ∈ us)
    (h : (us.map Usage.property).Nodup) :
    (sitesOf scope (recount u.property us)).Perm
      (sitesOf scope us ++ [⟨scope, u.property, u.localName, u.occurrences⟩]) := by
  induction us with
  | nil => cases hu
  | cons v us ih =>
    rw [List.map_cons, List.nodup_cons] at h
    rcases List.mem_cons.mp hu with rfl | hm
    · have e : recount u.property (u :: us) = u.again :: us := by simp [recount, Usage.again]
      rw [e]
      simp only [sitesOf, List.flatMap_cons, sites_again, List.append_assoc]
      exact List.Perm.append_left _ List.perm_append_comm
    · have hv : v.property ≠ u.property := by
        intro hp
        exact h.1 (hp ▸ List.mem_map_of_mem hm)
      have e : recount u.property (v :: us) = v :: recount u.property us := by simp [recount, hv]
      rw [e]
      simp only [sitesOf, List.flatMap_cons, List.append_assoc] at ih ⊢
      exact List.Perm.append_left _ (ih hm h.2)

theorem records_recordRead (scope : Nat) (property : String) (us : List Usage) :
    Records scope us [.free (.hole (recordRead scope property us).1)] (recordRead scope property us).2 := by
  unfold recordRead
  cases hf : us.find? (·.property = property) with
  | some u =>
    have hm : u ∈ us := List.mem_of_find?_eq_some hf
    obtain rfl : u.property = property := by simpa using List.find?_some hf
    refine ⟨fun h => ⟨?_, ?_, isRead_recount h.isRead⟩,
      fun h => sitesOf_recount hm h.distinct⟩
    · rw [map_property_recount]
      exact h.distinct
    · rw [map_localName_recount, length_recount]
      exact h.localNames
  | none =>
    have fresh : property ∉ us.map Usage.property := by
      rw [List.mem_map]
      rintro ⟨u, hu, rfl⟩
      simpa using List.find?_eq_none.mp hf u hu
    refine ⟨fun h => ⟨?_, ?_, ?_⟩, fun _ => ?_⟩
    · simpa [List.nodup_append] using ⟨h.distinct, fun u hu => (fresh <| · ▸ List.mem_map_of_mem hu)⟩
    · simp [h.localNames, List.range_succ]
    · intro u hu
      rcases List.mem_append.mp hu with hu | hu
      · exact h.isRead u hu
      · rw [List.mem_singleton.mp hu]
        exact Nat.one_pos
    · simp [sitesOf, Usage.sites, holes, Occurrence.hole?, Occurrence.free]

/-- The name that an occurrence stands for in the template. -/
def erase (o : Occurrence) : Occurrence :=
  match o.atom with
  | .hole site => ⟨.name site.property, o.within⟩
  | _ => o

@[simp] theorem erase_under (w : List Inner) (o : Occurrence) :
    erase (o.under w) = (erase o).under w := by
  obtain ⟨a, v⟩ := o
  cases a <;> rfl

@[simp] theorem map_erase_under (w : List Inner) (os : List Occurrence) :
    (os.map (.under w)).map erase = (os.map erase).map (.under w) := by
  simp [Function.comp_def]

theorem stored_erase (os : List Occurrence) : stored (os.map erase) = stored os := by
  rw [stored, List.filterMap_map]
  congr 1
  funext o
  obtain ⟨a, w⟩ := o
  cases a <;> rfl

/-- Binding turns the occurrences `os` into `os'`: only some names become recorded reads. -/
structure Binds (scope : Nat) (us : List Usage) (os : List Occurrence) (us' : List Usage)
    (os' : List Occurrence) : Prop where
  records : Records scope us os' us'
  erased : os'.map erase = os

namespace Binds

variable {scope : Nat} {us us' us'' : List Usage} {os os' ps ps' : List Occurrence}

theorem trans (h : Binds scope us os us' os') (h' : Binds scope us' ps us'' ps') :
    Binds scope us (os ++ ps) us'' (os' ++ ps') :=
  ⟨h.records.trans h'.records, by rw [List.map_append, h.erased, h'.erased]⟩

theorem nil : Binds scope us [] us [] := ⟨.refl rfl, rfl⟩

theorem stored (h : Binds scope us os us' os') : stored os' = stored os := by
  rw [← h.erased, stored_erase]

theorem under (w : List Inner) (h : Binds scope us os us' os') :
    Binds scope us (os.map (.under w)) us' (os'.map (.under w)) :=
  ⟨h.records.congr (by rw [holes_map_under]), by rw [map_erase_under, h.erased]⟩

theorem written {e : Expr} (h : e.Written) (us : List Usage) :
    Binds scope us e.occurrences us e.occurrences := by
  refine ⟨.refl ?_, ?_⟩
  · rw [holes, List.filterMap_eq_nil_iff]
    intro o ho
    obtain ⟨id, hid | hid⟩ := h.name o ho <;> simp [Occurrence.hole?, hid]
  · refine (List.map_congr_left fun o ho => ?_).trans (List.map_id _)
    obtain ⟨id, hid | hid⟩ := h.name o ho <;> simp [erase, hid]

end Binds

section

variable {scope : Nat} {locals : List String}

def BindsExpr (scope : Nat) (locals : List String) (e : Expr) : Prop :=
  ∀ us, Binds scope us e.occurrences (bind scope locals e us).2
    (bind scope locals e us).1.occurrences

def BindsAll (scope : Nat) (locals : List String) (es : List Expr) : Prop :=
  ∀ us, Binds scope us (Expr.occurrencesAll es) (bindAll scope locals es us).2
    (Expr.occurrencesAll (bindAll scope locals es us).1)

/-- What binding the clauses of a comprehension does, seen in the scopes `w`. -/
def BindsClauses (scope : Nat) (locals : List String) (w : List Inner) (cs : List Expr) : Prop :=
  ∀ us, Binds scope us (Expr.clauseOccurrences w cs) (bindAll scope locals cs us).2
    (Expr.clauseOccurrences w (bindAll scope locals cs us).1)

theorem bindsAll {es : List Expr} (h : ∀ e ∈ es, BindsExpr scope locals e) :
    BindsAll scope locals es := by
  induction es with
  | nil => exact fun us => .nil
  | cons e es ih =>
    intro us
    exact (h e List.mem_cons_self us).trans (ih (fun x hx => h x (List.mem_cons_of_mem e hx)) _)

theorem binds_bindThrough {bs : List (Expr × Option (List String))}
    (h : ∀ b ∈ bs, ∀ us, Binds scope us b.1.occurrences (bindPart scope b us).2
      (bindPart scope b us).1.occurrences) (us : List Usage) :
    Binds scope us ((bs.map Prod.fst).flatMap Expr.occurrences) (bindThrough scope bs us).2
      ((bindThrough scope bs us).1.flatMap Expr.occurrences) := by
  induction bs generalizing us with
  | nil => exact .nil
  | cons b bs ih =>
    rw [List.map_cons, List.flatMap_cons]
    exact (h b List.mem_cons_self us).trans (ih (fun c hc => h c (List.mem_cons_of_mem b hc)) _)

theorem isNoClause_bind {c : Expr} (h : c.IsNoClause) (us : List Usage) :
    (bind scope locals c us).1.IsNoClause := by
  cases c with
  | clause isAsync target iterable conditions => exact absurd rfl (h _ _ _ _)
  | name id =>
    rw [bind]
    split <;> exact fun _ _ _ _ is => by cases is
  | _ =>
    rw [bind_eq_fill (by simp)]
    exact fun _ _ _ _ is => by cases is

theorem clauseBinders_bindAll (scope : Nat) (locals : List String) (cs : List Expr)
    (us : List Usage) :
    Expr.clauseBinders (bindAll scope locals cs us).1 = Expr.clauseBinders cs := by
  induction cs generalizing us with
  | nil => rfl
  | cons c cs ih =>
    rw [bindAll_cons]
    rcases c.isNoClause_or with hc | ⟨isAsync, target, iterable, conditions, rfl⟩
    · rw [Expr.clauseBinders_cons (isNoClause_bind hc us), Expr.clauseBinders_cons hc, ih]
    · exact congrArg (_ ++ ·) (ih _)

theorem bindsClauses {cs : List Expr} (w : List Inner) (hw : ∀ c ∈ cs, c.Written)
    (h : ∀ c ∈ cs, BindsExpr scope locals c ∧ ∀ x ∈ c.parts, BindsExpr scope locals x) :
    BindsClauses scope locals w cs := by
  cases cs with
  | nil => exact fun us => .nil
  | cons c cs =>
    intro us
    have rest := fun us => (bindsAll (fun x hx => (h x (List.mem_cons_of_mem c hx)).1) us).under w
    rcases c.isNoClause_or with hc | ⟨isAsync, target, iterable, conditions, rfl⟩
    · rw [bindAll_cons, Expr.clauseOccurrences_cons (isNoClause_bind hc us),
        Expr.clauseOccurrences_cons hc]
      exact (((h c List.mem_cons_self).1 us).under w).trans (rest _)
    · have part := (h _ List.mem_cons_self).2
      have ht : target.Written := (hw _ List.mem_cons_self).part (by simp [Expr.parts])
      have conds : BindsAll scope locals conditions :=
        bindsAll fun x hx => part x (by simp [Expr.parts, hx])
      exact ((((Binds.written ht us).under w).trans
        (part iterable (by simp [Expr.parts]) _)).trans ((conds _).under w)).trans (rest _)

end

theorem bindsExpr (scope : Nat) (locals : List String) {e : Expr} (he : e.Written) :
    BindsExpr scope locals e := by
  induction e using Expr.inductDeep generalizing locals with
  | step e ih =>
    have part : ∀ {x} (locals : List String), x ∈ e.parts → BindsExpr scope locals x :=
      fun locals hx => (ih _ hx).1 locals (he.part hx)
    have all : ∀ {xs} (locals : List String), xs ⊆ e.parts → BindsAll scope locals xs :=
      fun locals hxs => bindsAll fun x hx => part locals (hxs hx)
    have clauses : ∀ {cs} (locals : List String) (w : List Inner), cs ⊆ e.parts →
        BindsClauses scope locals w cs :=
      fun locals w hcs => bindsClauses w (fun c hc => he.part (hcs hc)) fun c hc =>
        ⟨part locals (hcs hc), fun x hx => (ih c (hcs hc)).2 x hx locals ((he.part (hcs hc)).part hx)⟩
    by_cases flat : e.isFlat
    · intro us
      have other : ∀ id, e ≠ .name id := by
        rintro id rfl
        cases flat
      rw [bind_eq_fill other, Expr.occurrences_flat flat, Expr.occurrences_flat (by rwa [Expr.isFlat_fill]),
        Expr.parts_fill (length_boundParts e us)]
      conv => arg 3; rw [← map_fst_boundParts locals e]
      refine binds_bindThrough (fun b hb us => ?_) us
      have inside := mem_parts_of_bound hb
      obtain ⟨x, _ | inner⟩ := b
      · exact Binds.written (he.part inside) us
      · exact part inner inside us
    cases e with
    | name id =>
      intro us
      by_cases h : locals.contains id
      · have hb : bind scope locals (.name id) us = (.name id, us) := by
          rw [bind, if_pos h]
          rfl
        rw [hb]
        exact Binds.written he us
      · have hb : bind scope locals (.name id) us =
            (.placeholder (recordRead scope id us).1, (recordRead scope id us).2) := by
          rw [bind, if_neg h]
          rfl
        rw [hb]
        refine ⟨records_recordRead scope id us, ?_⟩
        unfold recordRead
        cases us.find? (·.property = id) <;> rfl
    | own id | placeholder read => exact Binds.written he
    | member base attr =>
      intro us
      have hb := part locals (List.mem_singleton_self base) us
      have ho : ∀ id, (bind scope locals base us).1 ≠ .own id := by
        intro id h
        have hm : Occurrence.free (.own id) ∈ base.occurrences := by
          rw [← hb.erased, h]
          exact List.mem_singleton_self _
        obtain ⟨n, hn | hn⟩ := (he.part (List.mem_singleton_self base)).name _ hm <;> cases hn
      have ho' : ∀ id, base ≠ .own id := by
        rintro id rfl
        cases he
      have ha := Expr.occurrences_member attr ho
      rw [Expr.occurrences_member attr ho']
      exact ha ▸ hb
    | named target value =>
      intro us
      have hv := part locals (List.mem_singleton_self value) us
      have ht : Binds scope us [.free (.store target)] us [.free (.store target)] :=
        ⟨.refl rfl, rfl⟩
      exact ht.trans hv
    | lambda params keywordDefaults defaults body =>
      intro us
      have hk : BindsAll scope (locals ++ params.names) keywordDefaults := all _ (by simp [Expr.parts])
      have hd : BindsAll scope (locals ++ params.names) defaults := all _ (by simp [Expr.parts])
      have hb : BindsExpr scope (locals ++ params.names) body := part _ (by simp [Expr.parts])
      show Binds scope us _ _ (_ ++ List.map (.under [⟨true, params.names ++ stored _⟩]) _)
      rw [(hb _).stored]
      exact ((hk us).trans (hd _)).trans ((hb _).under _)
    | comprehension form element cs =>
      intro us
      have hx : BindsExpr scope (locals ++ clauseNames cs) element := part _ (by simp [Expr.parts])
      have hc : BindsClauses scope (locals ++ clauseNames cs) [⟨false, Expr.clauseBinders cs⟩] cs :=
        clauses _ _ (by simp [Expr.parts])
      have same := clauseBinders_bindAll scope (locals ++ clauseNames cs) cs
      show Binds scope us _ _ (_ ++ Expr.clauseOccurrences [⟨false, Expr.clauseBinders _⟩] _)
      rw [same]
      exact ((hx us).under _).trans (hc _)
    | dictComprehension key value cs =>
      intro us
      have hk : BindsExpr scope (locals ++ clauseNames cs) key := part _ (by simp [Expr.parts])
      have hv : BindsExpr scope (locals ++ clauseNames cs) value := part _ (by simp [Expr.parts])
      have hc : BindsClauses scope (locals ++ clauseNames cs) [⟨false, Expr.clauseBinders cs⟩] cs :=
        clauses _ _ (by simp [Expr.parts])
      have same := clauseBinders_bindAll scope (locals ++ clauseNames cs) cs
      show Binds scope us _ _ (_ ++ _ ++ Expr.clauseOccurrences [⟨false, Expr.clauseBinders _⟩] _)
      rw [same]
      exact (((hk us).under _).trans ((hv _).under _)).trans (hc _)
    | _ => exact absurd rfl flat

end TemplateCompiler.Scope
