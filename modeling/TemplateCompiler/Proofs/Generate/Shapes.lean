import TemplateCompiler.Proofs.Generate.Accounts
import TemplateCompiler.Proofs.Generate.Requests

/-!
The shape of lowered code. For each part of a template these definitions tell which expression stands for it
and which scopes are closed on the way, without the state that the walk carries along: what was noted on
the way is looked up in a ledger that knows all that is ever noted.
-/

namespace TemplateCompiler.Generate

open TemplateCompiler.Code TemplateCompiler.Scope TemplateCompiler.Template

/-- All that is noted in the end. -/
structure Ledger where
  emitter : Emitter
  /-- The handlers that are memoized, by their numbers. -/
  memo : Nat → Option Expr

/-- An expression of the template as it stands in the code of a scope. -/
def Bound (scope : Nat) (locals : List String) (e x : Expr) : Prop :=
  ∃ us, x = (Scope.bind scope locals e.asWritten us).1

theorem Bound.atom {scope : Nat} {locals : List String} {e x : Expr} (h : Bound scope locals e x)
    {o : Occurrence} (ho : o ∈ x.occurrences) :
    (∃ id, o.atom = .name id ∨ o.atom = .store id) ∨ ∃ site, o.atom = .hole site := by
  obtain ⟨us, rfl⟩ := h
  have binds := bindsExpr scope locals e.written_asWritten us
  have written (same : erase o = o) : ∃ id, o.atom = .name id ∨ o.atom = .store id := by
    refine e.written_asWritten.name o ?_
    rw [← binds.erased, ← same]
    exact List.mem_map_of_mem ho
  cases is : o.atom with
  | hole site => exact .inr ⟨site, rfl⟩
  | _ => exact .inl (is ▸ written (by simp [erase, is]))

theorem Bound.not_own {scope : Nat} {locals : List String} {e x : Expr} (h : Bound scope locals e x) :
    ∀ o ∈ x.occurrences, ∀ id, o.atom ≠ .own id := by
  intro o ho id is
  rcases h.atom ho with ⟨id', other | other⟩ | ⟨site, other⟩ <;> cases is.symm.trans other

def Emitted (L : Ledger) (step : EmitM Expr) (x : Expr) : Prop :=
  ∃ E : Emitter, x = (step E).1 ∧ (step E).2.Grows Uses.any.component L.emitter

section Data

variable (L : Ledger) (config : Config) (e : Element) (scope : Nat) (locals : List String)

def AttributeShape (asAttribute : Bool) (a : Attribute) (x : Expr) : Prop :=
  match a.value with
  | .expression none => False
  | .expression (some value) => ∃ bound, Bound scope locals value bound ∧
      Emitted L (expressionAttribute config e a.name asAttribute bound) x
  | .text value => Emitted L (textAttribute config e a.name asAttribute value) x
  | .flag value => x = if asAttribute then .str "" else value.toExpr

/-- A handler is bound when the code runs, or it is memoized under the next number. -/
inductive HandlerShape (handler : Expr) : Expr → Prop
  | bound {y x : Expr} (each : memoizes locals handler = false) (bound : Bound scope locals handler y)
      (emitted : Emitted L (Emit.bind y) x) : HandlerShape handler x
  | memoized {y : Expr} {E : Emitter} (once : memoizes locals handler)
      (bound : Bound scope locals handler y) (plain : y.isPlaceholder)
      (grows : (Emit.memoizedHandler y E).2.Grows Uses.any.component L.emitter)
      (memo : L.memo E.memoCount = some y) : HandlerShape handler (Emit.memoizedHandler y E).1

def KeyShape (number : Nat) (key : Option Expr) (x : Expr) : Prop :=
  match key with
  | none => x = .nat number
  | some key => ∃ y, Bound scope locals key y ∧ Emitted L (Emit.key number y) x

/-- The values of a table, each in its place. -/
def EntriesShape {α : Type} (value : α → Expr → Prop) :
    List (String × α) → List (String × Expr) → Prop :=
  List.Forall₂ fun a b => a.1 = b.1 ∧ value a.2 b.2

def TableShape {α : Type} (name : String) (t : Table α) (value : α → Expr → Prop)
    (entries : List (String × Expr)) : Prop :=
  if t.isEmpty then entries = []
  else ∃ inner, EntriesShape value t.entries inner ∧ entries = [(name, .record inner)]

def BoundShape (name : String) (value : Option Expr) (entries : List (String × Expr)) : Prop :=
  match value with
  | none => entries = []
  | some value => ∃ x, Bound scope locals value x ∧ entries = [(name, x)]

def DataShape (number : Nat) (x : Expr) : Prop :=
  ∃ className classMap styleMap style attrs props key handlers,
    BoundShape scope locals "className" e.className className ∧
    TableShape "classMap" e.classMap (fun _ y => y = .bool true) classMap ∧
    TableShape "styleMap" e.styleMap (fun value y => y = .str value) styleMap ∧
    BoundShape scope locals "style" e.style style ∧
    TableShape "attrs" e.attrs (AttributeShape L config e scope locals true) attrs ∧
    TableShape "props" e.props (AttributeShape L config e scope locals false) props ∧
    KeyShape L scope locals number e.key key ∧
    TableShape "on" e.handlers (HandlerShape L scope locals) handlers ∧
    x = .record (className ++ classMap ++ styleMap ++ style ++ attrs ++ props ++ domEntry e.dom ++
      [("key", key)] ++ handlers)

end Data

/-- One expression for a list of all entries. -/
inductive Packed (L : Ledger) (r : Rendered) : Expr → Prop
  | plain (flat : r.nested = false) : Packed L r (.list r.entries)
  | single {x : Expr} (nested : r.nested) (only : r.single? = some x) : Packed L r x
  | flattened {x : Expr} (nested : r.nested) (several : r.single? = none)
      (emitted : Emitted L (Emit.flatten r.entries) x) : Packed L r x

inductive ElementCall (L : Ledger) (scope : Nat) (locals : List String) (e : Element)
    (data children : Expr) : Expr → Prop
  | dynamic {constructor y x : Expr} (is : e.dynamic = some constructor)
      (bound : Bound scope locals constructor y)
      (emitted : Emitted L (Emit.dynamicElement e.tag y data children) x) :
      ElementCall L scope locals e data children x
  | component {reference : String} {x : Expr} (static : e.dynamic = none)
      (is : e.kind = .component reference)
      (emitted : Emitted L (Emit.customElement e.tag reference data children) x) :
      ElementCall L scope locals e data children x
  | slot {name : String} {x : Expr} (static : e.dynamic = none) (is : e.kind = .slot name)
      (emitted : Emitted L (Emit.slot name data children) x) :
      ElementCall L scope locals e data children x
  | plain {x : Expr} (static : e.dynamic = none) (is : e.kind = .plain)
      (emitted : Emitted L (Emit.element e.tag data children) x) :
      ElementCall L scope locals e data children x

/-- A call of the helper of a conditional scope. -/
inductive Tested (scope : Nat) (locals : List String) (e : Element) (body otherwise : Expr)
    (children : List Tree) : Expr → Tree → Prop
  | mk {branch : Branch} {test condition y x : Expr} {region : Region} (has : e.branch = some branch)
      (asks : branch.test = some test) (reads : testExpr? branch.modifier = some condition)
      (named : Named region) (kind : region.kind = .conditional)
      (helper : region.helper = some (testHelper condition body otherwise))
      (bound : Bound scope locals test y) (is : x = .apply (.own region.helperName) [y]) :
      Tested scope locals e body otherwise children x (.node region children)

/-- A call of the iterator with the helper of a loop. -/
inductive Iterated (L : Ledger) (scope : Nat) (locals : List String) (e : Element) (body : Expr)
    (children : List Tree) : Expr → Tree → Prop
  | mk {l : Loop} {y x : Expr} {region : Region} (has : e.loop? = some l)
      (named : Named region) (kind : region.kind = loopKind l)
      (helper : region.helper = some (loopHelper body l)) (bound : Bound scope locals l.items y)
      (emitted : Emitted L (Emit.iterator y (.own region.helperName)) x) :
      Iterated L scope locals e body children x (.node region children)

/-- Code for siblings in a scope: given the number of the scope, the number of the first element and the
loop names around, the entries and the scopes that are closed. -/
abbrev Shape := Nat → Nat → List String → Rendered → List Tree → Prop

section Elements

variable (L : Ledger) (config : Config) (e : Element) (children : Shape)

/-- An element without regard to its directives. -/
def MadeShape (scope number : Nat) (locals : List String) (x : Expr) (cs : List Tree) : Prop :=
  ∃ data r packed, DataShape L config e scope locals number data ∧
    children scope (number + 1) locals r cs ∧ Packed L r packed ∧
    ElementCall L scope locals e data packed x

/-- The children of a fragment, or an element without regard to its directives. -/
def CoreShape : Shape :=
  if e.isFragment then children
  else fun scope number locals r cs =>
    ∃ x, MadeShape L config e children scope number locals x cs ∧ r = ⟨[x], e.isSlot⟩

/-- One expression for the content of a condition, what stands in its place where the condition fails, and
the entry that a call of the helper becomes. -/
inductive Chosen (content : Rendered) : Expr → Expr → (Expr → Expr) → Prop
  | single {body : Expr} (only : content.single? = some body) : Chosen content body
      (if (if e.isFragment then isListValued body else e.isSlot) then .list [] else emptyAs body) id
  | several (several : content.single? = none) :
      Chosen content (.list content.entries) (emptyAs (.list content.entries)) .starred

def ConditionalShape : Shape := fun scope number locals r cs =>
  ∃ content inner body otherwise entry x c, children c.region.id number locals content inner ∧
    Chosen e content body otherwise entry ∧ Tested scope locals e body otherwise inner x c ∧
    r = ⟨[entry x], content.nested⟩ ∧ cs = [c]

/-- The same if the element has a condition. -/
def ContentShape : Shape := if e.branch.isSome then ConditionalShape e children else children

def FragmentBody (r : Rendered) (x : Expr) : Prop :=
  match r.single? with
  | some single => x = single
  | none => Packed L r x

def LoopShape : Shape := fun scope number locals r cs =>
  match e.loop? with
  | none => children scope number locals r cs
  | some l => ∃ content inner body x c,
      children c.region.id number (locals ++ l.names) content inner ∧
      FragmentBody L content body ∧ Iterated L scope locals e body inner x c ∧ r = ⟨[x], true⟩ ∧
      cs = [c]

def ElementShape : Shape := LoopShape L e (ContentShape e (CoreShape L config e children))

def MemberContent : Shape :=
  if e.isFragment then children else LoopShape L e (CoreShape L config e children)

def BranchShape (scope number : Nat) (locals : List String) (x : Expr) (cs : List Tree) : Prop :=
  ∃ r, MemberContent L config e children scope number locals r cs ∧ Packed L r x

end Elements

/-- A shape that is a case of another. -/
def Shape.Within (shape other : Shape) : Prop :=
  ∀ scope number locals r cs, shape scope number locals r cs → other scope number locals r cs

section Monotone

variable {L : Ledger} {config : Config} {e : Element} {shape other : Shape} {scope number : Nat}
  {locals : List String} {x : Expr} {cs : List Tree} (within : shape.Within other)
include within

theorem within_coreShape : Shape.Within (CoreShape L config e shape) (CoreShape L config e other) := by
  unfold CoreShape
  split
  · exact within
  · rintro scope number locals r cs ⟨x, ⟨data, r, packed, hdata, below, rest⟩, is⟩
    exact ⟨x, ⟨data, r, packed, hdata, within _ _ _ _ _ below, rest⟩, is⟩

theorem within_contentShape : Shape.Within (ContentShape e shape) (ContentShape e other) := by
  unfold ContentShape
  split
  · rintro scope number locals r cs ⟨content, inner, body, otherwise, entry, x, c, below, rest⟩
    exact ⟨content, inner, body, otherwise, entry, x, c, within _ _ _ _ _ below, rest⟩
  · exact within

theorem within_loopShape : Shape.Within (LoopShape L e shape) (LoopShape L e other) := by
  intro scope number locals r cs h
  unfold LoopShape at h ⊢
  split at h
  · exact within _ _ _ _ _ h
  · obtain ⟨content, inner, body, x, c, below, rest⟩ := h
    exact ⟨content, inner, body, x, c, within _ _ _ _ _ below, rest⟩

theorem within_memberContent : Shape.Within (MemberContent L config e shape) (MemberContent L config e other) := by
  unfold MemberContent
  split
  · exact within
  · exact within_loopShape (within_coreShape within)

theorem BranchShape.mono (h : BranchShape L config e shape scope number locals x cs) :
    BranchShape L config e other scope number locals x cs := by
  obtain ⟨r, below, packed⟩ := h
  exact ⟨r, within_memberContent within _ _ _ _ _ below, packed⟩

end Monotone

section Content

variable {L : Ledger} {config : Config} {e : Element} {shape : Shape} {scope number : Nat}
  {locals : List String} {x body otherwise : Expr} {cs : List Tree} {r : Rendered} {entry : Expr → Expr}

theorem isStarred_of_single? (only : r.single? = some x) : x.isStarred = false := by
  unfold Rendered.single? at only
  split at only
  · split at only
    · cases only
    · next whole =>
      cases only
      simpa using whole
  · cases only

theorem Rendered.single?_one {nested : Bool} (whole : x.isStarred = false) :
    Rendered.single? ⟨[x], nested⟩ = some x := by
  simp [Rendered.single?, whole]

theorem MadeShape.whole (h : MadeShape L config e shape scope number locals x cs) : x.isStarred = false := by
  obtain ⟨data, r, packed, -, -, -, call⟩ := h
  cases call with
  | dynamic _ _ emitted | component _ _ emitted | slot _ _ emitted | plain _ _ emitted =>
    obtain ⟨E, rfl, -⟩ := emitted
    rfl

theorem memberContent_still (still : e.loop? = none) :
    MemberContent L config e shape = CoreShape L config e shape := by
  unfold MemberContent
  split
  · next fragment => rw [CoreShape, if_pos fragment]
  · funext scope number locals r cs
    simp only [LoopShape, still]

end Content

mutual

def Block.numbered : Block → Nat
  | .text _ | .dynamicText _ | .comment _ | .bare _ => 0
  | .element e children => (if e.isFragment then 0 else 1) + Block.numberedAll children
  | .chain members | .stray members => Block.numberedChain members

def Block.numberedAll : List Block → Nat
  | [] => 0
  | b :: bs => b.numbered + Block.numberedAll bs

def Block.numberedChain : List Block → Nat
  | .element e children :: rest =>
    (if e.isFragment then 0 else 1) + Block.numberedAll children +
      (if e.branchKind? = some .fallback then 0 else Block.numberedChain rest)
  | _ => 0

end

mutual

def BlockShape (L : Ledger) (config : Config) : Block → Shape
  | .text value, _, _, _, r, cs => ∃ x, Emitted L (Emit.text value) x ∧ r = ⟨[x], false⟩ ∧ cs = []
  | .dynamicText value, scope, _, locals, r, cs =>
    ∃ y x, Bound scope locals value y ∧ Emitted L (Emit.dynamicText y) x ∧ r = ⟨[x], false⟩ ∧ cs = []
  | .comment value, _, _, _, r, cs =>
    ∃ x, Emitted L (Emit.comment value) x ∧ r = ⟨[x], false⟩ ∧ cs = []
  | .bare _, _, _, _, _, _ => False
  | .element e children, scope, number, locals, r, cs =>
    ElementShape L config e (BlocksShape L config children) scope number locals r cs
  | .chain members, scope, number, locals, r, cs =>
    ∃ x, ChainShape L config members scope number locals x cs ∧ r = ⟨[.starred x], false⟩
  | .stray (.element _ _ :: _), _, _, _, _, _ => False
  | .stray _, _, _, _, r, cs => r = .empty ∧ cs = []

def BlocksShape (L : Ledger) (config : Config) : List Block → Shape
  | [], _, _, _, r, cs => r = .empty ∧ cs = []
  | b :: bs, scope, number, locals, r, cs =>
    ∃ first rest inner later, BlockShape L config b scope number locals first inner ∧
      BlocksShape L config bs scope (number + b.numbered) locals rest later ∧
      r = first.append rest ∧ cs = inner ++ later

def ChainShape (L : Ledger) (config : Config) :
    List Block → Nat → Nat → List String → Expr → List Tree → Prop
  | .element e children :: rest, scope, number, locals, x, cs =>
    if e.branchKind? = some .fallback then
      BranchShape L config e (BlocksShape L config children) scope number locals x cs
    else
      ∃ body otherwise inner later c,
        BranchShape L config e (BlocksShape L config children) c.region.id number locals body inner ∧
        ChainShape L config rest c.region.id (number + Block.numbered (.element e children)) locals
          otherwise later ∧
        Tested scope locals e body otherwise (inner ++ later) x c ∧ cs = [c]
  | _, _, _, _, x, cs => x = .list [] ∧ cs = []

end

end TemplateCompiler.Generate
