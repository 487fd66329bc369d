import TemplateCompiler.Proofs.Generate.Outline
import TemplateCompiler.Proofs.Generate.Scoping
import TemplateCompiler.Proofs.Generate.Tallies

/-!
Calls of helpers. The code of a scope calls the helper of every scope right below it once: directly for a
condition, through the iterator for a loop. So each directive of a template has exactly one such call in
the whole render function.
-/

namespace TemplateCompiler.Generate

open TemplateCompiler.Code TemplateCompiler.Scope TemplateCompiler.Template

/-- How the helper of a scope is called: by its name, or passed to the iterator. -/
def invocation (r : Region) : String × List String :=
  if r.kind.isIteration then (Primitive.iterator.localName, [r.helperName]) else (r.helperName, [])

structure CallNames (names : List String) : Prop where
  iterator : Primitive.iterator.localName ∈ names
  others : ∀ id ∈ names, id = Primitive.iterator.localName ∨ IsHelperName id

/-- Every scope of the trees has its helper among the names. -/
def Covers (names : List String) (cs : List Tree) : Prop :=
  ∀ r ∈ Tree.regionsAll cs, r.helperName ∈ names

/-- A closed scope whose helper calls the helpers of the scopes right below it, and so do they. -/
inductive Calling (names : List String) : Tree → Prop
  | node {region : Region} {children : List Tree}
      (own : ∀ helper, region.helper = some helper →
        (helper.body.flatMap (Stmt.callsAmong names)).Perm (children.map fun c => invocation c.region))
      (below : ∀ c ∈ children, Calling names c) : Calling names (.node region children)

/-- Calls of exactly the helpers of the given scopes. -/
def CallsAll (names : List String) (cs : List Tree) (calls : List (String × List String)) : Prop :=
  calls.Perm (cs.map fun c => invocation c.region) ∧ ∀ c ∈ cs, Calling names c

section

variable {names : List String} {cs ds : List Tree}

theorem covers_append (h : Covers names (cs ++ ds)) : Covers names cs ∧ Covers names ds := by
  unfold Covers at h ⊢
  simp only [Tree.regionsAll_eq_flatMap, List.flatMap_append, List.mem_append] at h ⊢
  exact ⟨fun r hr => h r (.inl hr), fun r hr => h r (.inr hr)⟩

theorem covers_node {r : Region} (h : Covers names (.node r cs :: ds)) :
    r.helperName ∈ names ∧ Covers names cs ∧ Covers names ds := by
  unfold Covers at h ⊢
  simp only [Tree.regionsAll, Tree.regions, List.mem_append, List.mem_cons] at h
  exact ⟨h r (.inl (.inl rfl)), fun s hs => h s (.inl (.inr hs)), fun s hs => h s (.inr hs)⟩

theorem CallsAll.append {xs ys : List (String × List String)} (h : CallsAll names cs xs)
    (h' : CallsAll names ds ys) : CallsAll names (cs ++ ds) (xs ++ ys) := by
  refine ⟨?_, fun c hc => (List.mem_append.mp hc).elim (h.2 c) (h'.2 c)⟩
  rw [List.map_append]
  exact h.1.append h'.1

end

section

variable {names : List String} {scope : Nat} {locals : List String} {e x : Expr}

theorem Bound.callsAmong (h : Bound scope locals e x) : x.callsAmong names = [] :=
  Expr.callsAmong_eq_nil fun o ho id _ => h.not_own o ho id

theorem Bound.ownAmong (h : Bound scope locals e x) : x.ownAmong names = none := by
  cases x with
  | own id => exact absurd rfl (h.not_own (.free (.own id)) (by simp [Expr.occurrences]) id)
  | _ => rfl

end

/-- Names that the code for attributes does not call. -/
structure Quiet (names : List String) : Prop where
  primitive : ∀ p ∈ [Primitive.tabIndex, .scopedId, .scopedFragment], p.localName ∉ names
  sanitizer : sanitizerName ∉ names

section Names

variable {names : List String} (hn : CallNames names)
include hn

theorem CallNames.plain {id : String} (plain : IsPlainName id)
    (other : id ≠ Primitive.iterator.localName) : id ∉ names := fun h =>
  (hn.others id h).elim other fun helper => helper.not_plain plain

theorem CallNames.primitive {p : Primitive} (h : p ≠ .iterator) : p.localName ∉ names := by
  refine hn.plain (isPlainName_primitive p) ?_
  cases p with
  | iterator => exact absurd rfl h
  | _ => decide

theorem CallNames.quiet : Quiet names where
  primitive p hp := hn.primitive (by rintro rfl; simp at hp)
  sanitizer := hn.plain (.inl (by decide)) (by decide)

end Names

section Data

variable {names : List String} {L : Ledger} {config : Config} {e : Element} {scope number : Nat}
  {locals : List String} {x y : Expr}

theorem calls_emitted {p : Primitive} {args : List Expr} (absent : p.localName ∉ names)
    (h : Emitted L (Emit.call p args) x) : x.callsAmong names = args.flatMap (Expr.callsAmong names) := by
  obtain ⟨E, rfl, -⟩ := h
  exact Expr.callsAmong_apply names absent args

section

variable (quiet : Quiet names)
include quiet

theorem calls_sanitizeAttribute {tag namespaceName name : String} (hy : y.callsAmong names = [])
    (E : Emitter) : (Emit.sanitizeAttribute tag namespaceName name y E).1.callsAmong names = [] := by
  change (Expr.apply (.own sanitizerName) _).callsAmong names = []
  rw [Expr.callsAmong_apply names quiet.sanitizer]
  simp [hy]

theorem calls_expressionAttribute {name : String} {asAttribute : Bool} (hy : y.callsAmong names = [])
    (h : Emitted L (expressionAttribute config e name asAttribute y) x) : x.callsAmong names = [] := by
  have call {p : Primitive} (data : p ∈ [.tabIndex, .scopedId, .scopedFragment]) (E : Emitter) :
      (Emit.call p [y] E).1.callsAmong names = [] := by
    have absent := quiet.primitive p data
    change (Expr.apply (.own p.localName) [y]).callsAmong names = []
    rw [Expr.callsAmong_apply names absent]
    simp [hy]
  obtain ⟨E, rfl, -⟩ := h
  unfold expressionAttribute
  split
  · change (Emit.booleanAttribute y).callsAmong names = []
    simp [Emit.booleanAttribute, Expr.none, hy]
  · split
    · exact call (by decide) E
    · split
      · exact call (by decide) E
      · split
        · exact call (by decide) E
        · split
          · exact calls_sanitizeAttribute quiet (call (by decide) E) _
          · exact hy

theorem calls_textAttribute {name value : String} {asAttribute : Bool}
    (h : Emitted L (textAttribute config e name asAttribute value) x) : x.callsAmong names = [] := by
  have call {p : Primitive} (data : p ∈ [.tabIndex, .scopedId, .scopedFragment]) (E : Emitter) :
      (Emit.call p [.str value] E).1.callsAmong names = [] := by
    have absent := quiet.primitive p data
    change (Expr.apply (.own p.localName) [.str value]).callsAmong names = []
    rw [Expr.callsAmong_apply names absent]
    simp
  obtain ⟨E, rfl, -⟩ := h
  unfold textAttribute
  split
  · exact call (by decide) E
  · split
    · exact Expr.callsAmong_constant names _
    · split
      · exact Expr.callsAmong_constant names _
      · split
        · exact call (by decide) E
        · split
          · exact call (by decide) E
          · split
            · split
              · exact calls_sanitizeAttribute quiet (call (by decide) E) _
              · exact calls_sanitizeAttribute quiet (Expr.callsAmong_str names value) _
            · exact Expr.callsAmong_str names value

theorem calls_attributeShape {asAttribute : Bool} {a : Attribute}
    (h : AttributeShape L config e scope locals asAttribute a x) : x.callsAmong names = [] := by
  unfold AttributeShape at h
  split at h
  · cases h
  · obtain ⟨y, bound, emitted⟩ := h
    exact calls_expressionAttribute quiet bound.callsAmong emitted
  · exact calls_textAttribute quiet h
  · rw [h]
    split
    · exact Expr.callsAmong_str names ""
    · exact Expr.callsAmong_silent (occurrences_toExpr _)

end

theorem calls_handlerShape (absent : Primitive.bind.localName ∉ names) {handler : Expr}
    (h : HandlerShape L scope locals handler x) : x.callsAmong names = [] := by
  cases h with
  | bound each bound emitted =>
    rw [calls_emitted absent emitted]
    simp [bound.callsAmong]
  | @memoized y E once bound plain grows memo =>
    have call : (Expr.apply (.own Primitive.bind.localName) [y]).callsAmong names = [] := by
      rw [Expr.callsAmong_apply names absent]
      simp [bound.callsAmong]
    have kept : (Expr.apply (.member (.own contextName) "setdefault")
        [.str (memoName E.memoCount), .apply (.own Primitive.bind.localName) [y]]).callsAmong names = [] := by
      rw [Expr.apply, Expr.callsAmong_call]
      simp [Expr.ownAmong, call]
    change (Expr.logical .or [.own _, _]).callsAmong names = []
    rw [Expr.callsAmong_logical, List.flatMap_cons, List.flatMap_singleton, kept, Expr.callsAmong_own]
    rfl

theorem calls_keyShape (absent : Primitive.key.localName ∉ names) {key : Option Expr}
    (h : KeyShape L scope locals number key x) : x.callsAmong names = [] := by
  cases key with
  | none =>
    rw [h]
    exact Expr.callsAmong_constant names _
  | some key =>
    obtain ⟨y, bound, emitted⟩ := h
    rw [calls_emitted absent emitted]
    simp [bound.callsAmong]

theorem entries_tableShape {α : Type} {name : String} {t : Table α} {value : α → Expr → Prop}
    {entries : List (String × Expr)} (h : TableShape name t value entries)
    (silent : ∀ a x, value a x → x.callsAmong names = []) :
    ∀ b ∈ entries, b.1 = name ∧ b.2.callsAmong names = [] := by
  unfold TableShape at h
  split at h
  · simp [h]
  · obtain ⟨inner, values, rfl⟩ := h
    rw [List.forall_mem_singleton, Expr.callsAmong_record]
    refine ⟨rfl, ?_⟩
    unfold EntriesShape at values
    generalize t.entries = given at values
    induction values with
    | nil => rfl
    | cons here _ ih => rw [List.flatMap_cons, silent _ _ here.2, ih, List.append_nil]

theorem entries_boundShape {name : String} {value : Option Expr} {entries : List (String × Expr)}
    (h : BoundShape scope locals name value entries) :
    ∀ b ∈ entries, b.1 = name ∧ b.2.callsAmong names = [] := by
  unfold BoundShape at h
  split at h
  · simp [h]
  · obtain ⟨x, bound, rfl⟩ := h
    simp [bound.callsAmong]

theorem entries_domEntry (dom : Option String) :
    ∀ b ∈ domEntry dom, b.1 = "context" ∧ b.2.callsAmong names = [] := by
  unfold domEntry
  split <;> simp

/-- The data of an element: entries that call none of the names, the key, and the handlers. -/
theorem split_dataShape (quiet : Quiet names) (h : DataShape L config e scope locals number x) :
    ∃ before key handlers, x = .record (before ++ ("key", key) :: handlers) ∧
      (∀ b ∈ before, b.1 ≠ "key" ∧ b.2.callsAmong names = []) ∧
      KeyShape L scope locals number e.key key ∧
      TableShape "on" e.handlers (HandlerShape L scope locals) handlers := by
  obtain ⟨className, classMap, styleMap, style, attrs, props, key, handlers, hclass, hmap, hstyles, hstyle,
    hattrs, hprops, hkey, hhandlers, rfl⟩ := h
  refine ⟨className ++ classMap ++ styleMap ++ style ++ attrs ++ props ++ domEntry e.dom, key, handlers,
    by simp, ?_, hkey, hhandlers⟩
  have other {name : String} {entries : List (String × Expr)} (h : name ≠ "key")
      (each : ∀ b ∈ entries, b.1 = name ∧ b.2.callsAmong names = []) :
      ∀ b ∈ entries, b.1 ≠ "key" ∧ b.2.callsAmong names = [] :=
    fun b hb => ⟨(each b hb).1.symm ▸ h, (each b hb).2⟩
  simp only [List.forall_mem_append]
  refine ⟨⟨⟨⟨⟨⟨?_, ?_⟩, ?_⟩, ?_⟩, ?_⟩, ?_⟩, other (by decide) (entries_domEntry e.dom)⟩
  · exact other (by decide) (entries_boundShape hclass)
  · exact other (by decide) (entries_tableShape hmap fun _ _ is => is ▸ Expr.callsAmong_constant names _)
  · exact other (by decide) (entries_tableShape hstyles fun _ _ is => is ▸ Expr.callsAmong_str names _)
  · exact other (by decide) (entries_boundShape hstyle)
  · exact other (by decide) (entries_tableShape hattrs fun _ _ => calls_attributeShape quiet)
  · exact other (by decide) (entries_tableShape hprops fun _ _ => calls_attributeShape quiet)

theorem calls_dataShape (quiet : Quiet names)
    (absent : Primitive.key.localName ∉ names ∧ Primitive.bind.localName ∉ names)
    (h : DataShape L config e scope locals number x) : x.callsAmong names = [] := by
  obtain ⟨before, key, handlers, rfl, silent, hkey, hhandlers⟩ := split_dataShape quiet h
  rw [Expr.callsAmong_record, List.flatMap_eq_nil_iff]
  intro b hb
  rcases List.mem_append.mp hb with hb | hb
  · exact (silent b hb).2
  · rcases List.mem_cons.mp hb with rfl | hb
    · exact calls_keyShape absent.1 hkey
    · exact (entries_tableShape hhandlers (fun _ _ => calls_handlerShape absent.2) b hb).2

end Data

section Elements

variable {names : List String} (hn : CallNames names) {L : Ledger} {config : Config} {e : Element}
  {shape : Shape} {scope number : Nat} {locals : List String} {x data children body otherwise : Expr}
  {r : Rendered} {cs : List Tree} {c : Tree}
include hn

theorem gathers_calls : Gathers (Expr.callsAmong names) where
  list := Expr.callsAmong_list names
  starred := Expr.callsAmong_starred names
  flatten xs E := by
    have call := Expr.callsAmong_apply names (hn.primitive (p := .flatten) (by decide)) [.list xs]
    rwa [List.flatMap_singleton, Expr.callsAmong_list] at call

theorem calls_elementCall (hdata : data.callsAmong names = [])
    (h : ElementCall L scope locals e data children x) :
    x.callsAmong names = children.callsAmong names := by
  cases h with
  | dynamic is bound emitted =>
    rw [calls_emitted (hn.primitive (by decide)) emitted]
    simp [bound.callsAmong, hdata]
  | component static is emitted =>
    obtain ⟨E, rfl, -⟩ := emitted
    change (Expr.apply (.own Primitive.customElement.localName) [_, .own _, _, _]).callsAmong names = _
    rw [Expr.callsAmong_apply names (hn.primitive (by decide))]
    simp [hdata]
  | slot static is emitted =>
    obtain ⟨E, rfl, -⟩ := emitted
    change (Expr.apply (.own Primitive.slot.localName) [_, _, _, .own _]).callsAmong names = _
    rw [Expr.callsAmong_apply names (hn.primitive (by decide))]
    simp [hdata]
  | plain static is emitted =>
    rw [calls_emitted (hn.primitive (by decide)) emitted]
    simp [hdata]

omit hn in
theorem calls_test (absent : testName ∉ names) {modifier : Modifier} {condition : Expr}
    (h : testExpr? modifier = some condition) : condition.callsAmong names = [] := by
  refine Expr.callsAmong_eq_nil fun o ho id hid is => absent ?_
  have tests : o.atom = .own testName := by
    cases modifier <;> cases h <;>
      simp_all [Expr.occurrences, Expr.bool, Occurrence.free]
  rw [is] at tests
  cases tests
  exact hid

omit hn in
theorem calls_namespaceValue (absent : namespaceTypeName ∉ names) (iterator : String) :
    (namespaceValue iterator).callsAmong names = [] := by
  rw [namespaceValue, Expr.callsAmong_call]
  simp [Expr.ownAmong, absent, List.flatMap_map]

theorem callsAll_tested (covers : Covers names [c])
    (below : Covers names cs → CallsAll names cs (body.callsAmong names ++ otherwise.callsAmong names))
    (h : Tested scope locals e body otherwise cs x c) : CallsAll names [c] (x.callsAmong names) := by
  cases h with
  | mk has asks reads named kind helper bound is =>
    obtain ⟨mine, inner, -⟩ := covers_node covers
    obtain ⟨calls, all⟩ := below inner
    subst is
    refine ⟨?_, fun c hc => ?_⟩
    · rw [Expr.apply, Expr.callsAmong_call]
      simp [Expr.ownAmong_own mine, bound.ownAmong, bound.callsAmong, invocation, kind,
        ScopeKind.isIteration, Tree.region]
    · rw [List.mem_singleton.mp hc]
      refine .node (fun _ hh => ?_) all
      rw [helper] at hh
      cases hh
      simpa [testHelper, Stmt.callsAmong, calls_test (hn.plain (.inl (by decide)) (by decide)) reads] using calls

theorem callsAll_iterated (covers : Covers names [c])
    (below : Covers names cs → CallsAll names cs (body.callsAmong names))
    (h : Iterated L scope locals e body cs x c) : CallsAll names [c] (x.callsAmong names) := by
  cases h with
  | @mk l y x region has named kind helper bound emitted =>
    obtain ⟨mine, inner, -⟩ := covers_node covers
    obtain ⟨calls, all⟩ := below inner
    obtain ⟨E, rfl, -⟩ := emitted
    refine ⟨?_, fun c hc => ?_⟩
    · have iteration : region.kind.isIteration := by
        rw [kind]
        cases l <;> rfl
      change List.Perm ((Expr.apply (.own Primitive.iterator.localName)
        [y, .own region.helperName]).callsAmong names) _
      rw [Expr.apply, Expr.callsAmong_call]
      simp [Expr.ownAmong_own mine, Expr.ownAmong_own hn.iterator, bound.ownAmong, bound.callsAmong,
        invocation, iteration, Tree.region]
    · rw [List.mem_singleton.mp hc]
      refine .node (fun _ hh => ?_) all
      rw [helper] at hh
      cases hh
      cases l with
      | each f => simpa [loopHelper, Stmt.callsAmong] using calls
      | of f =>
        have made := calls_namespaceValue (hn.plain (.inl (by decide)) (by decide)) f.iterator
        simpa [loopHelper, Stmt.callsAmong, made] using calls

theorem tally_calls : Tally L config (Expr.callsAmong names)
    fun _ _ _ calls cs => Covers names cs → CallsAll names cs calls where
  gathers := gathers_calls hn
  silent := Expr.callsAmong_silent
  bound h := h.callsAmong
  leaf is := calls_emitted (hn.primitive (by rintro rfl; simp at is))
  empty _ := ⟨.nil, by simp⟩
  append h h' covers := (h (covers_append covers).1).append (h' (covers_append covers).2)
  made hdata call below covers := by
    rw [calls_elementCall hn (calls_dataShape hn.quiet ⟨hn.primitive (by decide), hn.primitive (by decide)⟩ hdata) call]
    exact below covers
  tested h below covers := callsAll_tested hn covers below h
  iterated h below covers := callsAll_iterated hn covers below h

end Elements

def Draft.callNames (d : Draft) : List String :=
  Primitive.iterator.localName :: (Tree.regionsAll d.tree.children).map Region.helperName

section Draft

variable {names : List String}

theorem collects_calls : Collects (Stmt.callsAmong names) fun b => b.2.callsAmong names where
  destructure bs := by
    unfold Stmt.destructure
    split
    · simp [Stmt.callsAmong]
    · simp [Stmt.callsAmong, List.flatMap_map]
  function _ _ _ := rfl

theorem calls_leading (p : Spot) : p.leading.flatMap (Stmt.callsAmong names) = [] := by
  simp [collects_calls.leading, componentMember]

theorem calls_renderPrelude (E : Emitter) (p : Spot) :
    (renderPrelude E p.leading).flatMap (Stmt.callsAmong names) = [] := by
  simp [collects_calls.renderPrelude, componentMember, takeEntry, Stmt.callsAmong, Expr.apply,
    Expr.callsAmong_call, Expr.ownAmong]

theorem calls_renderBody (E : Emitter) (p : Spot) (root : Expr) :
    (renderBody E p.leading root).flatMap (Stmt.callsAmong names) = root.callsAmong names := by
  simp only [renderBody_eq, List.flatMap_append, calls_renderPrelude, List.nil_append,
    List.flatMap_singleton, Stmt.callsAmong]

mutual

theorem perm_children (above : List Spot) (inherited : Available) : ∀ t : Tree,
    ((t.spots above inherited).flatMap fun x => x.2.children.map Tree.region).Perm
      (Tree.regionsAll t.children)
  | .node region children => by
    rw [Tree.spots, List.flatMap_cons]
    exact perm_childrenAll _ _ children

theorem perm_childrenAll (above : List Spot) (inherited : Available) : ∀ ts : List Tree,
    (ts.map Tree.region ++
      (Tree.spotsAll above inherited ts).flatMap fun x => x.2.children.map Tree.region).Perm
      (Tree.regionsAll ts)
  | [] => .nil
  | t :: ts => by
    have first := perm_children above inherited t
    have rest := perm_childrenAll above inherited ts
    obtain ⟨region, children⟩ := t
    rw [Tree.spotsAll, List.flatMap_append, Tree.regionsAll, Tree.regions, List.map_cons,
      List.cons_append, List.cons_append]
    refine .cons _ ?_
    rw [← List.append_assoc]
    refine (List.perm_append_comm.append_right _).trans ?_
    rw [List.append_assoc]
    exact first.append rest

end

theorem calling_spotsAll {above : List Spot} {inherited : Available} {ts : List Tree}
    (h : ∀ t ∈ ts, Calling names t) : ∀ x ∈ Tree.spotsAll above inherited ts,
      Calling names (.node x.2.region x.2.children) :=
  Tree.forall_spotsAll (P := fun _ _ t => Calling names t) (fun | .node _ below => below) h

variable {U : Uses} {d : Draft}

theorem Draft.Made.named (made : d.Made U) {r : Region} (h : r ∈ Tree.regionsAll d.tree.children) :
    Named r ∧ r.kind ∈ helperKinds := by
  obtain ⟨helper, has, -⟩ := made.helpers.2 r h
  have inside : r ∈ d.scopes.map fun x => x.2.region := by
    rw [Draft.scopes, Tree.map_region_spots, Tree.regions_eq]
    exact List.mem_cons_of_mem _ h
  obtain ⟨x, hx, rfl⟩ := List.mem_map.mp inside
  obtain ⟨loops, nested⟩ := made.nested x hx
  exact nested.named (by simp [has])

theorem Draft.Made.callNames (made : d.Made U) : CallNames d.callNames := by
  refine ⟨List.mem_cons_self, fun id hid => ?_⟩
  rcases List.mem_cons.mp hid with rfl | hid
  · exact .inl rfl
  · obtain ⟨r, hr, rfl⟩ := List.mem_map.mp hid
    obtain ⟨⟨k, is⟩, kind⟩ := made.named hr
    exact .inr ⟨_, kind, _, k, is⟩

theorem Draft.Made.nodup_callNames (made : d.Made U) : d.callNames.Nodup := by
  unfold Draft.callNames
  rw [List.nodup_cons]
  constructor
  · intro h
    obtain ⟨r, hr, is⟩ := List.mem_map.mp h
    obtain ⟨⟨k, named⟩, kind⟩ := made.named hr
    have helper : IsHelperName r.helperName := ⟨_, kind, _, k, named⟩
    exact helper.not_plain (is ▸ isPlainName_primitive .iterator)
  · have numbers : ((Tree.regionsAll d.tree.children).map Region.id).Nodup := by
      have all := made.numbers
      rw [Tree.regions_eq, List.map_cons, List.nodup_cons] at all
      exact all.2
    refine List.Nodup.map_on (fun r hr s hs same => ?_) (List.Nodup.of_map _ numbers)
    obtain ⟨⟨k, isR⟩, kindR⟩ := made.named hr
    obtain ⟨⟨j, isS⟩, kindS⟩ := made.named hs
    rw [isR, isS] at same
    have ids := (Context.helperName_injective (isDigit_label kindR) (isDigit_label kindS) same).1
    exact List.inj_on_of_nodup_map numbers hr hs ids

theorem Draft.Made.avoids (made : d.Made U) {names : List String}
    (other : ∀ id ∈ names, IsPlainName id ∨ IsHelperName id) : Expr.Avoids names d.decision := by
  refine ⟨made.decides, fun read id hid is => ?_⟩
  rcases made.decided read with h | h | ⟨scope, k, h⟩
  · rw [h] at is
    cases is
  · rw [h] at is
    cases is
  · rw [h] at is
    cases is
    have own : IsLocalName (localName scope k) := ⟨scope, k, rfl⟩
    exact (other _ hid).elim own.not_plain own.not_helper

/-- The function of a scope calls the helpers of the scopes right below it. -/
theorem Draft.Made.calls_scope {config : Config} {bs : List Block} (made : d.Made U)
    (shaped : d.Shaped fun L => BlocksShape L config bs) : ∀ x ∈ d.scopes,
    ((d.function x.2).callsAmong d.callNames).Perm ((x.2.children.map Tree.region).map invocation) := by
  obtain ⟨-, -, tree, -, -, shape, packed⟩ := shaped
  have covers : Covers d.callNames d.tree.children := fun r hr =>
    List.mem_cons_of_mem _ (List.mem_map_of_mem hr)
  have helpers := made.helpers
  have names := made.callNames
  rw [tree] at covers helpers
  obtain ⟨own, below⟩ := (tally_calls names).blocks bs shape covers
  intro x hx
  rw [Draft.scopes, tree, Tree.spots] at hx
  rw [List.map_map]
  rcases List.mem_cons.mp hx with rfl | hx
  · have root : (Scope.Tree.node _ _).region.helper = none := helpers.1
    simp only [Tree.region] at root
    simp only [Function.callsAmong, Draft.function, root, calls_renderBody,
      (gathers_calls names).packed packed]
    exact own
  · have calling := calling_spotsAll below x hx
    obtain ⟨helper, has, -⟩ := helpers.2 x.2.region (by
      rw [Tree.children, ← Tree.map_region_spotsAll]
      exact List.mem_map_of_mem hx)
    cases calling with
    | node own _ =>
      simp only [Function.callsAmong, Draft.function, has, List.flatMap_append, calls_leading,
        List.nil_append]
      exact own helper has

theorem Draft.Made.calls {config : Config} {bs : List Block} (made : d.Made U)
    (shaped : d.Shaped fun L => BlocksShape L config bs) :
    ((d.finished.functions []).flatMap fun f => f.2.callsAmong d.callNames).Perm
      ((Tree.regionsAll d.tree.children).map invocation) := by
  have avoids : Expr.Avoids d.callNames d.decision := made.avoids fun id hid =>
    (made.callNames.others id hid).imp_left fun is => by rw [is]; exact isPlainName_primitive .iterator
  rw [made.functions_finished, List.flatMap_map]
  simp only [Function.callsAmong_substitute avoids]
  refine (List.Perm.flatMap_left _ (made.calls_scope shaped)).trans ?_
  have all := (perm_children [] [] d.tree).map invocation
  rwa [List.map_flatMap] at all

end Draft

/-- The scopes of a draft and the calls in its render function are those that the directives of a template
ask for. -/
structure Mirrors (ns : List Node) (d : Draft) (render : Stmt) : Prop where
  /-- The outline has every directive once, in document order. -/
  directives : (Node.outlineAll ns none 0 1).map Outlined.directive =
    (Node.preorderAll ns).flatMap Node.directives
  scopes : List.Forall₂ Realizes (Node.outlineAll ns none 0 1) (Tree.entriesAll 0 d.tree.children)
  /-- Scopes are numbered in document order; the first is the root. -/
  numbers : d.tree.regions.map Region.id = List.range d.tree.regions.length
  /-- The iterator and all helpers, which have different names. -/
  names : d.callNames.Nodup
  calls : ((render.functions []).flatMap fun f => f.2.callsAmong d.callNames).Perm
    ((Tree.regionsAll d.tree.children).map invocation)

/-- No directive of an accepted template is lost: every loop and every test has exactly one scope, where the
outline of the template puts it, and the helper of each is called exactly once in the render function. -/
theorem scopes_mirror_directives {config : Config} {root : Node} {compiled : Compiled}
    (h : (compile config root).1 = .ok compiled) :
    ∃ d render, draft? config root = some d ∧ renderOf compiled.program.stmts = some render ∧
      Mirrors root.content d render := by
  obtain ⟨d, hd, hr, -⟩ := draft_of_generate (generate_of_compile h)
  have made := made_of_draft? hd
  have shaped := shaped_of_accepted (accepted_of_validate (validate_of_compile h)) hd
  refine ⟨d, d.finished, hd, hr, Node.directives_outlineAll _ _ _ _, ?_, ?_, made.nodup_callNames,
    made.calls (shaped_of_draft hd)⟩
  · obtain ⟨-, -, tree, -, numbers, shape, -⟩ := shaped
    rw [tree]
    exact (outlinesAll _ config root.content).apart shape numbers
  · obtain ⟨-, -, tree, number, numbers, -, -⟩ := shaped
    have all : d.tree.regions.map Region.id = 0 :: idsOf d.tree.children := by
      rw [Tree.regions_eq, List.map_cons, tree]
      exact congrArg (· :: _) number
    have length : d.tree.regions.length = (idsOf d.tree.children).length + 1 := by
      rw [← List.length_map, all, List.length_cons]
    rw [all, length, List.range_eq_range', List.range'_succ, tree]
    exact congrArg (0 :: ·) numbers

/-- A loop over an element with a condition, and a chain with a condition in its fallback. -/
def guardedRows : Node :=
  .root [.element { Element.ofTag "li" with
      forEach := some ⟨.name "rows", "row", none⟩
      branch := some ⟨some (.name "shown"), .holds, .opening⟩ } [.show (.name "row")],
    .element { Element.ofTag "p" with branch := some ⟨some (.name "wide"), .isTrue, .opening⟩ } [],
    .text ⟨0, 0⟩ " ",
    .element { Element.ofTag "i" with branch := some ⟨some (.name "tall"), .fails, .alternative⟩ } [],
    .element { Element.ofTag "b" with branch := some ⟨none, .holds, .fallback⟩ }
      [.element { Element.ofTag "u" with branch := some ⟨some (.name "odd"), .holds, .opening⟩ } []]]

theorem guardedRows_mirrored : ∃ compiled, (compile .default guardedRows).1 = .ok compiled ∧
    (∃ d render, draft? .default guardedRows = some d ∧
      renderOf compiled.program.stmts = some render ∧ Mirrors guardedRows.content d render) ∧
    (Node.outlineAll guardedRows.content none 0 1).map (fun o => (o.number, o.around)) =
      [(1, 0), (2, 1), (3, 0), (4, 3), (5, 4)] := by
  have ok : (compile .default guardedRows).1.isOk := by decide +kernel
  obtain ⟨compiled, h⟩ := exists_of_isOk ok
  exact ⟨compiled, h, scopes_mirror_directives h, by decide +kernel⟩

end TemplateCompiler.Generate
