import TemplateCompiler.Proofs.Generate.HelperCalls

/-!
How lowered code is assembled. Expressions of the template stand only in certain places of it: as data of
elements, as tests and as items of iterations. Around them stand calls of primitives, and calls of the
helpers of scopes that are closed in the code.
-/

namespace TemplateCompiler.Generate

open TemplateCompiler.Code TemplateCompiler.Scope TemplateCompiler.Template

def boundHandler (handler : Expr) : Expr := .apply (.own Primitive.bind.localName) [handler]

def keptHandler (name : String) (handler : Expr) : Expr :=
  .logical .or
    [.own name, .apply (.member (.own contextName) "setdefault") [.str name, boundHandler handler]]

/-- What a render function takes or finds around it to pass on: contents of slots, classes of components. -/
def Emitter.passed (E : Emitter) : List String := E.slots.values ++ E.components.values

/-- How many arguments of a primitive follow the children among them, if it takes children. -/
def Primitive.afterChildren : Primitive → Option Nat
  | .flatten | .element | .customElement | .dynamicComponent => some 0
  | .slot => some 1
  | _ => none

def Primitive.isSimple : Primitive → Bool
  | .text | .dynamicText | .comment | .key | .tabIndex | .scopedId | .scopedFragment => true
  | _ => false

/-- Code for the data of an element, given what the expressions of the template become. -/
inductive Datum (E : Emitter) (src : Expr → Prop) : Expr → Prop
  | source {x : Expr} (h : src x) : Datum E src x
  | literal {x : Expr} (silent : x.occurrences = []) : Datum E src x
  | passed {id : String} (h : id ∈ E.passed) : Datum E src (.own id)
  | record {entries : List (String × Expr)} (h : ∀ e ∈ entries, Datum E src e.2) :
      Datum E src (.record entries)
  | flag {x : Expr} (h : src x) : Datum E src (Emit.booleanAttribute x)
  | primitive {q : Primitive} {args : List Expr} (simple : q.isSimple) (known : q ∈ E.primitives)
      (h : ∀ x ∈ args, Datum E src x) : Datum E src (.apply (.own q.localName) args)
  | sanitized {args : List Expr} (h : ∀ x ∈ args, Datum E src x) :
      Datum E src (.apply (.own sanitizerName) args)
  | bound {x : Expr} (known : .bind ∈ E.primitives) (h : src x) : Datum E src (boundHandler x)
  | kept {k : Nat} {x : Expr} (known : .bind ∈ E.primitives) (counted : k < E.memoCount)
      (plain : x.isPlaceholder) (h : src x) : Datum E src (keptHandler (memoName k) x)

/-- Code for nodes that calls helpers of the given scopes. -/
inductive Assembled (E : Emitter) (src : Expr → Prop) (cs : List Tree) : Expr → Prop
  | nothing : Assembled E src cs Expr.none
  | leaf {q : Primitive} {args : List Expr} (simple : q.isSimple) (known : q ∈ E.primitives)
      (h : ∀ x ∈ args, Datum E src x) : Assembled E src cs (.apply (.own q.localName) args)
  /-- A call with the code for children among its arguments. -/
  | element {q : Primitive} {before : List Expr} {children : Expr} {after : List String}
      (known : q ∈ E.primitives) (first : ∀ x ∈ before, Datum E src x)
      (content : Assembled E src cs children) (whole : children.isStarred = false)
      (last : ∀ id ∈ after, id ∈ E.passed) (place : q.afterChildren = some after.length) :
      Assembled E src cs (.apply (.own q.localName) (before ++ children :: after.map .own))
  | list {items : List Expr} (h : ∀ x ∈ items, Assembled E src cs x) : Assembled E src cs (.list items)
  | starred {x : Expr} (h : Assembled E src cs x) : Assembled E src cs (.starred x)
  | tested {c : Tree} {modifier : Modifier} {condition body otherwise test : Expr} (child : c ∈ cs)
      (reads : testExpr? modifier = some condition)
      (helper : c.region.helper = some (testHelper condition body otherwise)) (h : src test) :
      Assembled E src cs (.apply (.own c.region.helperName) [test])
  | iterated {c : Tree} {l : Loop} {body items : Expr} (known : .iterator ∈ E.primitives) (child : c ∈ cs)
      (helper : c.region.helper = some (loopHelper body l)) (h : src items) :
      Assembled E src cs (.apply (.own Primitive.iterator.localName) [items, .own c.region.helperName])

theorem Assembled.mono {E : Emitter} {src : Expr → Prop} {cs ds : List Tree} {x : Expr} (sub : cs ⊆ ds)
    (h : Assembled E src cs x) : Assembled E src ds x := by
  induction h with
  | nothing => exact .nothing
  | leaf simple known h => exact .leaf simple known h
  | element known first content whole last place ih => exact .element known first ih whole last place
  | list h ih => exact .list ih
  | starred h ih => exact .starred ih
  | tested child reads helper h => exact .tested (sub child) reads helper h
  | iterated known child helper h => exact .iterated known (sub child) helper h

def Sources (src : Expr → Prop) (locals : List String) (e : Expr) : Prop :=
  ∀ scope x, Bound scope locals e x → src x

section Data

variable {L : Ledger} {src : Expr → Prop} {config : Config} {e : Element} {scope number : Nat}
  {locals : List String} {x y : Expr}

theorem datum_str (value : String) : Datum L.emitter src (.str value) := .literal rfl

theorem known_of_call {q : Primitive} {args : List Expr} {E : Emitter}
    (grows : (Emit.call q args E).2.Grows Uses.any.component L.emitter) : q ∈ L.emitter.primitives :=
  grows.primitives (mem_addNew _ _)

theorem datum_single {q : Primitive} (simple : q.isSimple) (hy : Datum L.emitter src y)
    (h : Emitted L (Emit.call q [y]) x) : Datum L.emitter src x := by
  obtain ⟨E, rfl, grows⟩ := h
  exact .primitive simple (known_of_call grows) (by simpa using hy)

theorem datum_sanitizeAttribute {tag namespaceName name : String} {E : Emitter}
    (hy : Datum L.emitter src y) :
    Datum L.emitter src (Emit.sanitizeAttribute tag namespaceName name y E).1 := by
  refine .sanitized ?_
  simp only [List.mem_cons, List.not_mem_nil, or_false, forall_eq_or_imp, forall_eq]
  exact ⟨datum_str _, datum_str _, datum_str _, hy⟩

theorem datum_sanitizedFragment {tag namespaceName name : String} (hy : Datum L.emitter src y)
    (h : Emitted L (do
      Emit.sanitizeAttribute tag namespaceName name (← Emit.scopedFragment y)) x) :
    Datum L.emitter src x := by
  obtain ⟨E, rfl, grows⟩ := h
  have known : Primitive.scopedFragment ∈ L.emitter.primitives := grows.primitives (mem_addNew _ _)
  exact datum_sanitizeAttribute (.primitive rfl known (by simpa using hy))

theorem datum_expressionAttribute {name : String} {asAttribute : Bool} (hy : src y)
    (h : Emitted L (expressionAttribute config e name asAttribute y) x) : Datum L.emitter src x := by
  unfold expressionAttribute at h
  split at h
  · obtain ⟨E, rfl, -⟩ := h
    exact .flag hy
  · split at h
    · exact datum_single rfl (.source hy) h
    · split at h
      · exact datum_single rfl (.source hy) h
      · split at h
        · exact datum_single rfl (.source hy) h
        · split at h
          · exact datum_sanitizedFragment (.source hy) h
          · obtain ⟨E, rfl, -⟩ := h
            exact .source hy

theorem datum_textAttribute {name value : String} {asAttribute : Bool}
    (h : Emitted L (textAttribute config e name asAttribute value) x) : Datum L.emitter src x := by
  have text : Datum L.emitter src (.str value) := datum_str value
  unfold textAttribute at h
  split at h
  · exact datum_single rfl text h
  · split at h
    · obtain ⟨E, rfl, -⟩ := h
      exact .literal rfl
    · split at h
      · obtain ⟨E, rfl, -⟩ := h
        exact .literal rfl
      · split at h
        · exact datum_single rfl text h
        · split at h
          · exact datum_single rfl text h
          · split at h
            · split at h
              · exact datum_sanitizedFragment text h
              · obtain ⟨E, rfl, -⟩ := h
                exact datum_sanitizeAttribute text
            · obtain ⟨E, rfl, -⟩ := h
              exact text

theorem datum_attributeShape {asAttribute : Bool} {a : Attribute}
    (uses : ∀ y ∈ attributeUses a, Sources src locals y)
    (h : AttributeShape L config e scope locals asAttribute a x) : Datum L.emitter src x := by
  unfold AttributeShape at h
  unfold attributeUses at uses
  split at h
  · cases h
  · next value is =>
    obtain ⟨y, bound, emitted⟩ := h
    rw [is] at uses
    exact datum_expressionAttribute (uses value (by simp) scope y bound) emitted
  · exact datum_textAttribute h
  · rw [h]
    split
    · exact datum_str ""
    · exact .literal (occurrences_toExpr _)

theorem datum_handlerShape {handler : Expr} (uses : Sources src locals handler)
    (h : HandlerShape L scope locals handler x) : Datum L.emitter src x := by
  cases h with
  | bound each bound emitted =>
    obtain ⟨E, rfl, grows⟩ := emitted
    exact .bound (known_of_call grows) (uses scope _ bound)
  | @memoized y E once bound plain grows memo =>
    have counted : E.memoCount + 1 ≤ L.emitter.memoCount := grows.memoCount
    exact .kept (grows.primitives (mem_addNew _ _)) counted plain (uses scope y bound)

theorem datum_keyShape {key : Option Expr} (uses : ∀ y ∈ key, Sources src locals y)
    (h : KeyShape L scope locals number key x) : Datum L.emitter src x := by
  cases key with
  | none =>
    rw [h]
    exact .literal rfl
  | some key =>
    obtain ⟨y, bound, E, rfl, grows⟩ := h
    refine .primitive (q := .key) rfl (known_of_call grows) ?_
    simp only [List.mem_cons, List.not_mem_nil, or_false, forall_eq_or_imp, forall_eq]
    exact ⟨.literal rfl, .source (uses key rfl scope y bound)⟩

theorem datum_tableShape {α : Type} {name : String} {t : Table α} {value : α → Expr → Prop}
    {entries : List (String × Expr)} (h : TableShape name t value entries)
    (each : ∀ a ∈ t.values, ∀ x, value a x → Datum L.emitter src x) :
    ∀ e ∈ entries, Datum L.emitter src e.2 := by
  unfold TableShape at h
  split at h
  · simp [h]
  · obtain ⟨inner, values, rfl⟩ := h
    simp only [List.mem_singleton, forall_eq]
    unfold EntriesShape at values
    have inside : ∀ entry ∈ inner, ∃ a ∈ t.entries, value a.2 entry.2 := by
      generalize t.entries = given at values
      induction values with
      | nil => simp
      | cons here _ ih =>
        intro entry he
        rcases List.mem_cons.mp he with rfl | he
        · exact ⟨_, List.mem_cons_self, here.2⟩
        · obtain ⟨a, ha, is⟩ := ih entry he
          exact ⟨a, List.mem_cons_of_mem _ ha, is⟩
    refine .record fun entry he => ?_
    obtain ⟨a, ha, is⟩ := inside entry he
    exact each a.2 (List.mem_map_of_mem ha) entry.2 is

theorem datum_boundShape {name : String} {value : Option Expr} {entries : List (String × Expr)}
    (uses : ∀ y ∈ value, Sources src locals y) (h : BoundShape scope locals name value entries) :
    ∀ e ∈ entries, Datum L.emitter src e.2 := by
  unfold BoundShape at h
  split at h
  · simp [h]
  · obtain ⟨x, bound, rfl⟩ := h
    simpa using Datum.source (uses _ rfl scope x bound)

theorem datum_dataShape (uses : ∀ y ∈ dataUses e, Sources src locals y)
    (h : DataShape L config e scope locals number x) : Datum L.emitter src x := by
  simp only [dataUses, List.mem_append, List.mem_flatMap, Option.mem_toList, or_assoc] at uses
  obtain ⟨className, classMap, styleMap, style, attrs, props, key, handlers, hclass, hmap, hstyles, hstyle,
    hattrs, hprops, hkey, hhandlers, rfl⟩ := h
  have flags : ∀ e ∈ classMap, Datum L.emitter src e.2 :=
    datum_tableShape hmap fun _ _ _ is => is ▸ .literal rfl
  have styles : ∀ e ∈ styleMap, Datum L.emitter src e.2 :=
    datum_tableShape hstyles fun _ _ _ is => is ▸ datum_str _
  have classes := datum_boundShape (L := L) (fun y hy => uses y (.inl hy)) hclass
  have style := datum_boundShape (L := L) (fun y hy => uses y (.inr (.inl hy))) hstyle
  have attributes := datum_tableShape hattrs fun a ha _ =>
    datum_attributeShape fun y hy => uses y (.inr (.inr (.inl ⟨a, ha, hy⟩)))
  have properties := datum_tableShape hprops fun a ha _ =>
    datum_attributeShape fun y hy => uses y (.inr (.inr (.inr (.inl ⟨a, ha, hy⟩))))
  have keyed := datum_keyShape (fun y hy => uses y (.inr (.inr (.inr (.inr (.inl hy)))))) hkey
  have handled := datum_tableShape hhandlers fun y hy _ =>
    datum_handlerShape (uses y (.inr (.inr (.inr (.inr (.inr hy))))))
  have dom : ∀ entry ∈ domEntry e.dom, Datum L.emitter src entry.2 := by
    intro entry he
    exact .literal (occurrences_domEntry e.dom entry he)
  refine .record fun entry he => ?_
  simp only [List.mem_append, List.mem_singleton, or_assoc] at he
  rcases he with he | he | he | he | he | he | he | rfl | he
  · exact classes entry he
  · exact flags entry he
  · exact styles entry he
  · exact style entry he
  · exact attributes entry he
  · exact properties entry he
  · exact dom entry he
  · exact keyed
  · exact handled entry he

end Data

section Nodes

variable {L : Ledger} {src : Expr → Prop} {e : Element} {scope : Nat} {locals : List String}
  {x data children : Expr} {r : Rendered} {cs : List Tree}

theorem isStarred_packed (h : Packed L r x) : x.isStarred = false := by
  cases h with
  | plain flat => rfl
  | single nested only => exact isStarred_of_single? only
  | flattened nested several emitted =>
    obtain ⟨E, rfl, -⟩ := emitted
    rfl

theorem assembled_packed (entries : ∀ y ∈ r.entries, Assembled L.emitter src cs y) (h : Packed L r x) :
    Assembled L.emitter src cs x := by
  cases h with
  | plain flat => exact .list entries
  | single nested only =>
    rw [Rendered.entries_of_single? only] at entries
    exact entries x List.mem_cons_self
  | flattened nested several emitted =>
    obtain ⟨E, rfl, grows⟩ := emitted
    have first : ∀ y ∈ ([] : List Expr), Datum L.emitter src y := nofun
    have last : ∀ id ∈ ([] : List String), id ∈ L.emitter.passed := nofun
    have made := Assembled.element (q := .flatten) (known_of_call grows) first (.list entries) rfl last rfl
    exact made

theorem assembled_fragmentBody (entries : ∀ y ∈ r.entries, Assembled L.emitter src cs y)
    (h : FragmentBody L r x) : Assembled L.emitter src cs x := by
  unfold FragmentBody at h
  split at h
  · next single only =>
    rw [Rendered.entries_of_single? only] at entries
    exact h ▸ entries single List.mem_cons_self
  · exact assembled_packed entries h

theorem assembled_elementCall (hdata : Datum L.emitter src data)
    (hchildren : Assembled L.emitter src cs children) (whole : children.isStarred = false)
    (dynamic : ∀ y ∈ e.dynamic, Sources src locals y) (h : ElementCall L scope locals e data children x) :
    Assembled L.emitter src cs x := by
  have text {s : String} : Datum L.emitter src (.str s) := datum_str s
  have nothing : ∀ id ∈ ([] : List String), id ∈ L.emitter.passed := nofun
  cases h with
  | @dynamic constructor y _ is bound emitted =>
    obtain ⟨E, rfl, grows⟩ := emitted
    have constructed : Datum L.emitter src y := .source (dynamic _ is scope _ bound)
    have first : ∀ z ∈ [.str e.tag, y, data], Datum L.emitter src z := by simp [text, constructed, hdata]
    have made := Assembled.element (q := .dynamicComponent) (known_of_call grows) first hchildren whole
      nothing rfl
    exact made
  | @component reference _ static is emitted =>
    obtain ⟨E, rfl, grows⟩ := emitted
    have named : L.emitter.components.get? reference = some (Emit.component reference E).1 :=
      grows.components _ _ (component_noted reference E)
    have constructor : Datum L.emitter src (.own (Emit.component reference E).1) :=
      .passed (List.mem_append_right _ (List.mem_map_of_mem (mem_of_get? named)))
    have first : ∀ z ∈ [.str e.tag, .own (Emit.component reference E).1, data], Datum L.emitter src z := by
      simp [text, constructor, hdata]
    have made := Assembled.element (q := .customElement) (known_of_call grows) first hchildren whole
      nothing rfl
    exact made
  | @slot name _ static is emitted =>
    obtain ⟨E, rfl, grows⟩ := emitted
    have named : L.emitter.slots.get? name = some (Emit.slotName name E).1 :=
      grows.slots _ _ (slotName_noted name E)
    have content : (Emit.slotName name E).1 ∈ L.emitter.passed :=
      List.mem_append_left _ (List.mem_map_of_mem (mem_of_get? named))
    have first : ∀ z ∈ [.str name, data], Datum L.emitter src z := by simp [text, hdata]
    have last : ∀ id ∈ [(Emit.slotName name E).1], id ∈ L.emitter.passed := by simpa using content
    have made := Assembled.element (q := .slot) (known_of_call grows) first hchildren whole last rfl
    exact made
  | plain static is emitted =>
    obtain ⟨E, rfl, grows⟩ := emitted
    have first : ∀ z ∈ [.str e.tag, data], Datum L.emitter src z := by simp [text, hdata]
    have made := Assembled.element (q := .element) (known_of_call grows) first hchildren whole nothing rfl
    exact made

end Nodes

end TemplateCompiler.Generate
