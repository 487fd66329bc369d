import TemplateCompiler.Proofs.Generate.LoweringAccounts

/-!
What an accepted template has. Its expressions stand in the loops of the elements around them, its loops
and components are named as the rules ask, and no member of a chain iterates, so that arranging the
siblings into chains moves no expression into another loop.
-/

namespace TemplateCompiler.Template

open TemplateCompiler.Code TemplateCompiler.Generate

/-- The expressions of an element, each with the loops that it stands in. -/
def Element.uses (loops : List Loop) (e : Element) : List (List Loop × Expr) :=
  e.loop?.toList.map (fun l => (loops, l.items)) ++
    (dataUses e ++ e.dynamic.toList ++ (branchTest e).toList).map fun y => (innerLoops loops e, y)

mutual

/-- The expressions of a node and of all nodes below it, each with the loops that it stands in. -/
def Node.uses (loops : List Loop) : Node → List (List Loop × Expr)
  | .dynamicText _ value => [(loops, value)]
  | .element e children => e.uses loops ++ Node.usesAll (innerLoops loops e) children
  | .text .. | .comment .. | .bare _ => []

def Node.usesAll (loops : List Loop) : List Node → List (List Loop × Expr)
  | [] => []
  | n :: ns => n.uses loops ++ Node.usesAll loops ns

end

def Node.content : Node → List Node
  | .element _ children => children
  | _ => []

/-- Siblings without a fault, in themselves and below them. -/
structure Accepted (ns : List Node) : Prop where
  heads : iteratingHead? (siblingElements ns) = none
  faults : ∀ n ∈ Node.preorderAll ns, n.fault? false = none

theorem accepted_of_validate {root : Node} {filename : Data} (h : root.validate filename = .ok ()) :
    Accepted root.content := by
  unfold Node.validate at h
  split at h
  · cases h
  · next none =>
    simp only [Node.firstFault?, Option.orElse_eq_orElse, Option.orElse_eq_or, Option.or_eq_none_iff,
      List.findSome?_eq_none_iff] at none
    obtain ⟨-, heads, faults⟩ := none
    cases root with
    | element e children =>
      simp only [Node.fault?, if_true, Option.orElse_eq_orElse, Option.orElse_eq_or,
        Option.or_eq_none_iff, Option.map_eq_none_iff, true_and] at heads
      exact ⟨heads, faults⟩
    | _ => exact ⟨rfl, fun n hn => by cases hn⟩

structure Element.Faultless (e : Element) : Prop where
  branch : ∀ b ∈ e.branch, e.branchFault? b = none
  forEach : ∀ f ∈ e.forEach, f.fault? = none
  forOf : ∀ f ∈ e.forOf, loopNameFault? f.iterator = none
  component : ∀ reference, e.kind = .component reference → isComponentReference reference

theorem Element.faultless_of_fault? {e : Element} (h : e.fault? = none) : e.Faultless := by
  simp only [Element.fault?, Option.orElse_eq_orElse, Option.orElse_eq_or, Option.or_eq_none_iff,
    Option.bind_eq_none_iff] at h
  obtain ⟨branch, -, forEach, forOf, -, kind⟩ := h
  refine ⟨branch, forEach, forOf, fun reference hk => ?_⟩
  rw [hk] at kind
  by_contra bad
  simp [bad] at kind

theorem iteratingHead?_cons {e f : Element} {rest : List Element}
    (h : iteratingHead? (e :: f :: rest) = none) :
    iteratingHead? (f :: rest) = none ∧
      (f.branchKind? = some .alternative ∨ f.branchKind? = some .fallback →
        e.branchKind? = some .opening → e.iterates = false) := by
  rw [iteratingHead?] at h
  simp only [ite_eq_iff, reduceCtorEq, and_false, false_or] at h
  refine ⟨h.2, fun hf he => ?_⟩
  rcases hf with hf | hf <;> simpa [hf, he] using h.1

theorem Accepted.cons {n : Node} {ns : List Node} (h : Accepted (n :: ns)) : Accepted ns := by
  refine ⟨?_, fun m hm => h.faults m (List.mem_append_right _ hm)⟩
  have heads := h.heads
  cases n with
  | element e children =>
    rw [siblingElements] at heads
    cases hs : siblingElements ns with
    | nil => rfl
    | cons f rest =>
      rw [hs] at heads
      exact (iteratingHead?_cons heads).1
  | _ => exact heads

theorem Accepted.element {e : Element} {children ns : List Node}
    (h : Accepted (.element e children :: ns)) : e.Faultless ∧ Accepted children := by
  have own := h.faults _ List.mem_cons_self
  simp only [Node.fault?, Bool.false_eq_true, if_false, Option.orElse_eq_orElse, Option.orElse_eq_or,
    Option.or_eq_none_iff, Option.map_eq_none_iff] at own
  refine ⟨Element.faultless_of_fault? own.1, own.2, fun n hn => h.faults n ?_⟩
  exact List.mem_append_left _ (List.mem_cons_of_mem _ hn)

theorem Element.Faultless.not_iterates {e : Element} (h : e.Faultless) {kind : BranchKind}
    (hk : e.branchKind? = some kind) (other : kind ≠ .opening) : e.loop? = none := by
  obtain ⟨b, hb, rfl⟩ := Option.map_eq_some_iff.mp hk
  have fault := h.branch b hb
  simp only [Element.branchFault?, Option.orElse_eq_orElse, Option.orElse_eq_or,
    Option.or_eq_none_iff] at fault
  have still : e.iterates = false := by
    by_contra iterates
    simp [other, iterates] at fault
  rw [iterates_eq] at still
  simpa using still

def Loop.Allowed (l : Loop) : Prop := ∀ name ∈ l.names, loopNameFault? name = none

theorem Element.Faultless.allowed {e : Element} (h : e.Faultless) {l : Loop} (hl : e.loop? = some l) :
    l.Allowed := by
  unfold Element.loop? at hl
  split at hl
  · next f hf =>
    cases hl
    have fault := h.forEach f hf
    simp only [ForEach.fault?, Option.orElse_eq_orElse, Option.orElse_eq_or,
      Option.or_eq_none_iff] at fault
    intro name hn
    rcases List.mem_cons.mp hn with rfl | hn
    · exact fault.1
    · have index := Option.mem_toList.mp (List.mem_of_mem_filter hn)
      simp only [index, Option.or_eq_none_iff] at fault
      exact fault.2.1
  · next f _ hf =>
    cases hl
    intro name hn
    rw [List.mem_singleton.mp hn]
    exact h.forOf f hf
  · cases hl

end TemplateCompiler.Template

namespace TemplateCompiler.Generate

open TemplateCompiler.Code TemplateCompiler.Template Block

/-- What accepted siblings of a template have: the expressions that stand in them, and what the rules
allow. -/
def admitted (ns : List Node) : Uses where
  expr loops e := (loops, e) ∈ Node.usesAll [] ns
  loop := Loop.Allowed
  component reference := isComponentReference reference = true

section

variable {U : Uses} {loops : List Loop}

theorem BlocksUse.takeBranches : ∀ {bs members rest : List Block}, BlocksUse U loops bs →
    takeBranches bs = some (members, rest) → MembersUse U loops members ∧ BlocksUse U loops rest
  | [], _, _, _, h => by cases h
  | .stray ms :: bs, _, _, hu, h => by
    obtain ⟨rfl, rfl⟩ := Prod.mk.inj (Option.some.inj h)
    exact hu
  | .text value :: bs, _, _, hu, h => by
    rw [Block.takeBranches] at h
    split at h
    · exact BlocksUse.takeBranches hu.2 h
    · cases h
    · simp
  | .dynamicText _ :: _, _, _, _, h | .comment _ :: _, _, _, _, h | .bare _ :: _, _, _, _, h
  | .element _ _ :: _, _, _, _, h | .chain _ :: _, _, _, _, h => by cases h

theorem MembersUse.cons {e : Element} {children members : List Block}
    (h : BlockUses U loops (.element e children)) (still : e.loop? = none)
    (hm : MembersUse U loops members) : MembersUse U loops (.element e children :: members) := by
  obtain ⟨hu, hc⟩ := h
  have same : innerLoops loops e = loops := by simp [innerLoops, still]
  refine ⟨hu, ?_, ?_, hm⟩
  · have test := hu.test
    rwa [same] at test
  · rw [same] at hc ⊢
    simpa using hc

/-- An element takes its place among arranged siblings, if it does not iterate where it becomes the member
of a chain. -/
theorem BlocksUse.attach {e : Element} {children bs : List Block}
    (here : BlockUses U loops (.element e children)) (rest : BlocksUse U loops bs)
    (branch : ∀ kind, e.branchKind? = some kind → kind ≠ .opening → e.loop? = none)
    (head : ∀ x, e.branchKind? = some .opening → Block.takeBranches bs = some x → e.loop? = none) :
    BlocksUse U loops (Block.attach (.element e children) bs) := by
  cases hk : e.branchKind? with
  | none =>
    simp only [Block.attach, Block.branchKind?, hk]
    exact ⟨here, rest⟩
  | some kind =>
    cases kind with
    | unknown label =>
      simp only [Block.attach, Block.branchKind?, hk]
      exact ⟨here, rest⟩
    | fallback =>
      simp only [Block.attach, Block.branchKind?, hk]
      exact ⟨.cons here (branch _ hk (by simp)) trivial, rest⟩
    | alternative =>
      have still := branch _ hk (by simp)
      simp only [Block.attach, Block.branchKind?, hk]
      split
      · next ms later taken =>
        obtain ⟨members, later⟩ := rest.takeBranches taken
        exact ⟨.cons here still members, later⟩
      · exact ⟨.cons here still trivial, rest⟩
    | opening =>
      simp only [Block.attach, Block.branchKind?, hk]
      split
      · next ms later taken =>
        obtain ⟨members, later⟩ := rest.takeBranches taken
        exact ⟨.cons here (head _ hk taken) members, later⟩
      · exact ⟨here, rest⟩

end

theorem head_of_takeBranches : ∀ {ns : List Node} {x : List Block × List Block},
    takeBranches (arrange (ofNodes ns)) = some x → ∃ f rest, siblingElements ns = f :: rest ∧
      (f.branchKind? = some .alternative ∨ f.branchKind? = some .fallback)
  | [], _, h => by cases h
  | .text _ value :: ns, x, h => by
    change takeBranches (.text value :: arrange (ofNodes ns)) = some x at h
    rw [takeBranches] at h
    split at h
    · have later := head_of_takeBranches h
      exact later
    · cases h
    · simp
  | .dynamicText _ _ :: _, _, h | .comment _ _ :: _, _, h | .bare _ :: _, _, h => by cases h
  | .element e children :: ns, x, h => by
    refine ⟨e, siblingElements ns, rfl, ?_⟩
    change takeBranches (attach (.element e _) _) = some x at h
    cases hk : e.branchKind? with
    | none => simp [attach, Block.branchKind?, hk, takeBranches, isBlank] at h
    | some kind =>
      cases kind with
      | alternative => exact .inl rfl
      | fallback => exact .inr rfl
      | unknown label => simp [attach, Block.branchKind?, hk, takeBranches, isBlank] at h
      | opening =>
        simp only [attach, Block.branchKind?, hk] at h
        split at h <;> simp [takeBranches, isBlank] at h

section

variable {all : List Node} {loops : List Loop}

theorem elementUses_of_faultless {e : Element} (h : e.Faultless)
    (hu : e.uses loops ⊆ Node.usesAll [] all) : ElementUses (admitted all) loops e := by
  simp only [Element.uses, List.append_subset, List.map_append] at hu
  obtain ⟨items, ⟨data, dynamic⟩, test⟩ := hu
  refine ⟨?_, ?_, ?_, ?_, h.component⟩
  · exact fun y hy => data (List.mem_map_of_mem hy)
  · exact fun y hy => dynamic (List.mem_map_of_mem (Option.mem_toList.mpr hy))
  · exact fun y hy => test (List.mem_map_of_mem (Option.mem_toList.mpr hy))
  · exact fun l hl => ⟨h.allowed hl, items (List.mem_map.mpr ⟨l, Option.mem_toList.mpr hl, rfl⟩)⟩

theorem blocksUse_arrange : ∀ (ns : List Node) {loops : List Loop}, Accepted ns →
    Node.usesAll loops ns ⊆ Node.usesAll [] all →
    BlocksUse (admitted all) loops (arrange (ofNodes ns))
  | [], _, _, _ => trivial
  | .text _ _ :: ns, _, h, hu => ⟨trivial, blocksUse_arrange ns h.cons hu⟩
  | .comment _ _ :: ns, _, h, hu => ⟨trivial, blocksUse_arrange ns h.cons hu⟩
  | .bare _ :: ns, _, h, hu => ⟨trivial, blocksUse_arrange ns h.cons hu⟩
  | .dynamicText _ value :: ns, _, h, hu =>
    ⟨hu List.mem_cons_self, blocksUse_arrange ns h.cons fun x hx => hu (List.mem_cons_of_mem _ hx)⟩
  | .element e children :: ns, loops, h, hu => by
    simp only [Node.usesAll, Node.uses, List.append_subset] at hu
    obtain ⟨⟨own, inner⟩, later⟩ := hu
    obtain ⟨faultless, below⟩ := h.element
    have rest := blocksUse_arrange ns h.cons later
    have here : BlockUses (admitted all) loops (.element e (arrange (ofNodes children))) :=
      ⟨elementUses_of_faultless faultless own, blocksUse_arrange children below inner⟩
    refine BlocksUse.attach here rest (fun kind hk => faultless.not_iterates hk) fun x hk taken => ?_
    obtain ⟨f, fs, hs, joined⟩ := head_of_takeBranches taken
    have heads := h.heads
    rw [siblingElements, hs] at heads
    have still := (iteratingHead?_cons heads).2 joined hk
    rw [iterates_eq] at still
    simpa using still

end

end TemplateCompiler.Generate
