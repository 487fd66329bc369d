import TemplateCompiler.Proofs.Generate.Assembly

/-!
Searches of generated code. A search looks at every node of code in which the reads are decided, and finds
something only where certain primitives are called. What it finds for an element is at the call that makes
the element, in its data or in its children. What it finds in all functions of a draft is in the expression
of the root and in the helpers of the scopes. So an account of what is found for each element becomes one
for the whole template.
-/

namespace TemplateCompiler.Template

namespace Element

def maker (e : Element) : Generate.Primitive :=
  match e.dynamic, e.kind with
  | some _, _ => .dynamicComponent
  | none, .component _ => .customElement
  | none, .slot _ => .slot
  | none, .plain => .element

/-- What an element is made as: the name of a slot, or else a tag. -/
def label (e : Element) : String :=
  match e.dynamic, e.kind with
  | none, .slot name => name
  | _, _ => e.tag

end Element

end TemplateCompiler.Template

namespace TemplateCompiler.Code

theorem Expr.callsAmong_of_node {names : List String} {e x : Expr} (hx : x ∈ e.nodes)
    (h : e.callsAmong names = []) : x.callsAmong names = [] := by
  induction e using Expr.induct with
  | step e ih =>
    rw [nodes_eq] at hx
    rcases List.mem_cons.mp hx with rfl | hx
    · exact h
    · obtain ⟨y, hy, hx⟩ := List.mem_flatMap.mp hx
      rw [callsAmong_eq, List.append_eq_nil_iff, List.flatMap_eq_nil_iff] at h
      exact ih y hy hx (h.2 y hy)

def Stmt.exprs : Stmt → List Expr
  | .assign target value => [target, value]
  | .ret value | .expr value => [value]
  | .importFrom .. | .function .. => []

def Function.exprs (f : Function) : List Expr := f.body.flatMap Stmt.exprs

theorem Function.exprs_substitute (σ : Placeholder → Expr) (f : Function) :
    (f.substitute σ).exprs = f.exprs.map (.substitute σ) := by
  unfold exprs substitute
  rw [List.flatMap_map, List.map_flatMap]
  refine List.flatMap_congr fun s _ => ?_
  cases s <;> simp [Stmt.substitute, Stmt.exprs]

end TemplateCompiler.Code

namespace TemplateCompiler.Generate

open TemplateCompiler.Code TemplateCompiler.Scope TemplateCompiler.Template Block

/-- The call that makes an element, with what calls none of the names before its data. -/
theorem form_of_elementCall (names : List String) {L : Ledger} {scope : Nat} {locals : List String}
    {e : Element} {data children x : Expr} (h : ElementCall L scope locals e data children x) :
    ∃ (front : List Expr) (after : List String),
      x = .apply (.own e.maker.localName) ((front ++ [data]) ++ children :: after.map .own) ∧
      e.maker.afterChildren = some after.length ∧ ∀ y ∈ front, y.callsAmong names = [] := by
  cases h with
  | @dynamic constructor y _ is bound emitted =>
    obtain ⟨E, rfl, -⟩ := emitted
    have maker : e.maker = .dynamicComponent := by simp [Element.maker, is]
    exact ⟨[.str e.tag, y], [], by rw [maker]; rfl, by rw [maker]; rfl, by simp [bound.callsAmong]⟩
  | @component reference _ static is emitted =>
    obtain ⟨E, rfl, -⟩ := emitted
    have maker : e.maker = .customElement := by simp [Element.maker, static, is]
    exact ⟨[.str e.tag, .own _], [], by rw [maker]; rfl, by rw [maker]; rfl, by simp⟩
  | @slot name _ static is emitted =>
    obtain ⟨E, rfl, -⟩ := emitted
    have maker : e.maker = .slot := by simp [Element.maker, static, is]
    exact ⟨[.str name], [_], by rw [maker]; rfl, by rw [maker]; rfl, by simp⟩
  | plain static is emitted =>
    obtain ⟨E, rfl, -⟩ := emitted
    have maker : e.maker = .element := by simp [Element.maker, static, is]
    exact ⟨[.str e.tag], [], by rw [maker]; rfl, by rw [maker]; rfl, by simp⟩

/-- A search that finds something only at calls of the primitives, and at what holds such calls. -/
structure Search (ps : List Primitive) {β : Type} (g : Expr → List β) : Prop where
  quiet : ∀ {e}, e.callsAmong (ps.map Primitive.localName) = [] → g e = []
  call : ∀ {id args}, id ∉ ps.map Primitive.localName → g (.apply (.own id) args) = []
  list : ∀ xs, g (.list xs) = []
  starred : ∀ x, g (.starred x) = []
  dict : ∀ keys values, g (.dict keys values) = []
  conditional : ∀ test body otherwise, g (.conditional test body otherwise) = []
  /-- These primitives are not looked for. -/
  apart : ∀ p ∈ [Primitive.iterator, .flatten, .text, .dynamicText, .comment], p ∉ ps

/-- What is found in code once its reads are decided. -/
def found {β : Type} (g : Expr → List β) (f : Placeholder → Expr) (e : Expr) : List β :=
  (e.substitute f).nodes.flatMap g

/-- What is found in the helpers of all scopes of trees. -/
def foundBelow {β : Type} (g : Expr → List β) (f : Placeholder → Expr) (cs : List Tree) : List β :=
  (Tree.regionsAll cs).flatMap fun r => r.helper.elim [] fun h => (h.body.flatMap Stmt.exprs).flatMap (found g f)

section

variable {β : Type} {g : Expr → List β} {f : Placeholder → Expr}

theorem found_eq {e : Expr} (h : ∀ p, e ≠ .placeholder p) :
    found g f e = g (e.substitute f) ++ e.parts.flatMap (found g f) := by
  unfold found
  rw [Expr.nodes_eq, List.flatMap_cons, List.flatMap_assoc, Expr.parts_substitute h, List.flatMap_map]

theorem foundBelow_append (cs ds : List Tree) :
    foundBelow g f (cs ++ ds) = foundBelow g f cs ++ foundBelow g f ds := by
  simp [foundBelow, Tree.regionsAll_eq_flatMap]

theorem foundBelow_node {r : Region} {h : Helper} (has : r.helper = some h) (cs : List Tree) :
    foundBelow g f [.node r cs] = (h.body.flatMap Stmt.exprs).flatMap (found g f) ++ foundBelow g f cs := by
  simp [foundBelow, Tree.regionsAll, Tree.regions, has]

end

namespace Search

variable {ps : List Primitive} {β : Type} {g : Expr → List β} {f : Placeholder → Expr}
  (search : Search ps g) (avoids : Expr.Avoids (ps.map Primitive.localName) f)

theorem plain {id : String} (h : id ∈ ps.map Primitive.localName) : IsPlainName id := by
  obtain ⟨p, -, rfl⟩ := List.mem_map.mp h
  exact isPlainName_primitive p

theorem absent {p : Primitive} (h : p ∉ ps) : p.localName ∉ ps.map Primitive.localName := by
  rw [List.mem_map]
  rintro ⟨q, hq, is⟩
  exact h (Primitive.localName_injective is ▸ hq)

theorem other {id : String} (h : id ∉ Primitive.all.map Primitive.localName) :
    id ∉ ps.map Primitive.localName := by
  refine fun listed => h ?_
  obtain ⟨p, -, rfl⟩ := List.mem_map.mp listed
  exact List.mem_map_of_mem (Primitive.mem_all p)

include search avoids

theorem silent {e : Expr} (h : e.callsAmong (ps.map Primitive.localName) = []) : found g f e = [] := by
  rw [found, List.flatMap_eq_nil_iff]
  exact fun x hx => search.quiet (Expr.callsAmong_of_node hx ((Expr.callsAmong_substitute avoids e).trans h))

theorem found_apply (id : String) (args : List Expr) : found g f (.apply (.own id) args) =
    g ((Expr.apply (.own id) args).substitute f) ++ args.flatMap (found g f) := by
  have own : found g f (.own id) = [] := search.silent avoids (Expr.callsAmong_own _ id)
  rw [Expr.apply, found_eq (by simp), Expr.parts, List.append_nil, List.flatMap_cons, own, List.nil_append]

theorem found_call {id : String} (h : id ∉ ps.map Primitive.localName) (args : List Expr) :
    found g f (.apply (.own id) args) = args.flatMap (found g f) := by
  have none : g ((Expr.apply (.own id) args).substitute f) = [] := by
    rw [Expr.apply, Expr.substitute, Expr.substitute]
    exact search.call h
  rw [search.found_apply avoids, none, List.nil_append]

omit avoids in
theorem found_list (xs : List Expr) : found g f (.list xs) = xs.flatMap (found g f) := by
  rw [found_eq (by simp), Expr.substitute, search.list]
  rfl

theorem gathers : Gathers (found g f) where
  list := search.found_list
  starred x := by
    rw [found_eq (by simp), Expr.substitute, search.starred, Expr.parts, List.flatMap_singleton]
    rfl
  flatten xs E := by
    have call := search.found_call avoids (absent (search.apart .flatten (by decide))) [.list xs]
    rwa [List.flatMap_singleton, search.found_list] at call

section Elements

variable {L : Ledger} {config : Config} {e : Element} {scope number : Nat} {locals : List String}
  {x data children body otherwise : Expr} {cs : List Tree} {c : Tree}

theorem found_emitted {p : Primitive} {args : List Expr} (other : p ∉ ps)
    (h : Emitted L (Emit.call p args) x) : found g f x = args.flatMap (found g f) := by
  obtain ⟨E, rfl, -⟩ := h
  exact search.found_call avoids (absent other) args

theorem found_elementCall (h : ElementCall L scope locals e data children x) :
    found g f x = g (x.substitute f) ++ (found g f data ++ found g f children) := by
  obtain ⟨front, after, rfl, -, quiet⟩ := form_of_elementCall (ps.map Primitive.localName) h
  have first : front.flatMap (found g f) = [] :=
    List.flatMap_eq_nil_iff.mpr fun y hy => search.silent avoids (quiet y hy)
  have last : (after.map Expr.own).flatMap (found g f) = [] := by
    rw [List.flatMap_map, List.flatMap_eq_nil_iff]
    exact fun id _ => search.silent avoids (Expr.callsAmong_own _ id)
  rw [search.found_apply avoids, List.flatMap_append, List.flatMap_append, List.flatMap_singleton,
    List.flatMap_cons, first, last, List.nil_append, List.append_nil]

theorem found_tested (h : Tested scope locals e body otherwise cs x c) :
    found g f x ++ foundBelow g f [c] = found g f body ++ found g f otherwise ++ foundBelow g f cs := by
  cases h with
  | @mk branch test condition y x region has asks reads named kind helper bound is =>
    subst is
    have called : region.helperName ∉ ps.map Primitive.localName := fun listed =>
      (named.isHelperName (by rw [kind]; decide)).not_plain (plain listed)
    have test : found g f condition = [] := search.silent avoids (calls_test (other (by decide)) reads)
    have chosen : found g f (.conditional condition body otherwise) = found g f body ++ found g f otherwise := by
      rw [found_eq (by simp), Expr.substitute, search.conditional]
      simp [Expr.parts, test]
    rw [search.found_call avoids called, foundBelow_node helper]
    simp [search.silent avoids bound.callsAmong, testHelper, Stmt.exprs, chosen]

theorem found_iterated (h : Iterated L scope locals e body cs x c) :
    found g f x ++ foundBelow g f [c] = found g f body ++ foundBelow g f cs := by
  cases h with
  | @mk l y x region has named kind helper bound emitted =>
    have items := search.silent avoids bound.callsAmong
    have callback := search.silent avoids (Expr.callsAmong_own _ region.helperName)
    rw [search.found_emitted avoids (search.apart .iterator (by decide)) emitted, foundBelow_node helper]
    cases l with
    | each f => simp [items, callback, loopHelper, Stmt.exprs]
    | of f =>
      have made := search.silent avoids (calls_namespaceValue (other (by decide)) f.iterator)
      have target := search.silent avoids (Expr.callsAmong_name _ f.iterator)
      simp [items, callback, loopHelper, Stmt.exprs, made, target]

end Elements

end Search

theorem exists_of_forall₂ {α β : Type} {R : α → β → Prop} {as : List α} {bs : List β}
    (h : List.Forall₂ R as bs) {b : β} (hb : b ∈ bs) : ∃ a ∈ as, R a b := by
  induction h with
  | nil => cases hb
  | @cons a _ as _ here _ ih =>
    rcases List.mem_cons.mp hb with rfl | hb
    · exact ⟨a, List.mem_cons_self, here⟩
    · obtain ⟨a', ha, is⟩ := ih hb
      exact ⟨a', List.mem_cons_of_mem a ha, is⟩

/-- What is found for each of several things, in any order. -/
def Splits {α β : Type} (R : α → List β → Prop) (xs : List α) (us : List β) : Prop :=
  ∃ each, List.Forall₂ R xs each ∧ us.Perm each.flatten

namespace Splits

variable {α β : Type} {R : α → List β → Prop} {xs ys : List α} {us vs : List β}

theorem nil : Splits R [] [] := ⟨[], .nil, .nil⟩

theorem of_forall₂ {each : List (List β)} (h : List.Forall₂ R xs each) : Splits R xs each.flatten :=
  ⟨each, h, .refl _⟩

theorem append (first : Splits R xs us) (second : Splits R ys vs) : Splits R (xs ++ ys) (us ++ vs) := by
  obtain ⟨each, all, perm⟩ := first
  obtain ⟨each', all', perm'⟩ := second
  refine ⟨each ++ each', List.rel_append all all', ?_⟩
  rw [List.flatten_append]
  exact perm.append perm'

theorem perm (h : Splits R xs us) (same : vs.Perm us) : Splits R xs vs := by
  obtain ⟨each, all, perm⟩ := h
  exact ⟨each, all, same.trans perm⟩

theorem mem (h : Splits R xs us) {u : β} (hu : u ∈ us) : ∃ x ∈ xs, ∃ part, R x part ∧ u ∈ part := by
  obtain ⟨each, all, perm⟩ := h
  obtain ⟨part, listed, within⟩ := List.mem_flatten.mp (perm.subset hu)
  obtain ⟨x, hx, related⟩ := exists_of_forall₂ all listed
  exact ⟨x, hx, part, related, within⟩

end Splits

/-- An account of what is found for elements and their requests, whatever the order. -/
structure Account {β : Type} (g : Expr → List β) (f : Placeholder → Expr) (L : Ledger) (config : Config)
    (Q : List Element → List Request → Nat → List β → Prop) : Prop where
  empty : ∀ {number}, Q [] [] number []
  append : ∀ {number es fs rs qs us vs}, Q es rs number us → Q fs qs (number + es.length) vs →
    Q (es ++ fs) (rs ++ qs) number (us ++ vs)
  perm : ∀ {number es rs us vs}, Q es rs number us → vs.Perm us → Q es rs number vs
  made : ∀ {scope number locals e data children x es rs us}, DataShape L config e scope locals number data →
    ElementCall L scope locals e data children x → Q es rs (number + 1) us →
    Q (e :: es) (e.dataRequests locals ++ rs ++ e.callRequests) number
      (g (x.substitute f) ++ found g f data ++ us)

section

variable {ps : List Primitive} {β : Type} {g : Expr → List β}
  {Q : List Element → List Request → Nat → List β → Prop}

theorem Account.tally {f : Placeholder → Expr} {L : Ledger} {config : Config} (account : Account g f L config Q)
    (search : Search ps g) (avoids : Expr.Avoids (ps.map Primitive.localName) f) :
    Tally L config (found g f) fun es rs number us cs => Q es rs number (us ++ foundBelow g f cs) where
  gathers := search.gathers avoids
  silent h := search.silent avoids (Expr.callsAmong_silent h)
  bound h := search.silent avoids h.callsAmong
  leaf {p args x} is emitted := by
    have leaves : ∀ p ∈ [Primitive.text, .dynamicText, .comment], p ∉ ps := fun p hp =>
      search.apart p (by simp only [List.mem_cons, List.not_mem_nil, or_false] at hp ⊢; tauto)
    exact search.found_emitted avoids (leaves p is) emitted
  empty := account.empty
  append {number es fs rs qs us vs cs ds} h h' := by
    refine account.perm (account.append h h') ?_
    simp only [foundBelow_append, List.append_assoc]
    refine .append_left us ?_
    rw [← List.append_assoc, ← List.append_assoc (foundBelow g f cs)]
    exact List.perm_append_comm.append_right _
  made hdata call below := by
    have all := account.made hdata call below
    rwa [← List.append_assoc, List.append_assoc (g _), ← search.found_elementCall avoids call] at all
  tested h below := by
    rw [search.found_tested avoids h]
    exact below
  iterated h below := by
    rw [search.found_iterated avoids h]
    exact below

/-- What is found in the functions of a draft is in the expression of the root and in the helpers. -/
theorem Search.found_scopes (search : Search ps g) {U : Uses} {d : Draft} (made : d.Made U)
    (avoids : Expr.Avoids (ps.map Primitive.localName) d.decision) :
    (d.scopes.flatMap fun s => (d.function s.2).exprs.flatMap (found g d.decision)) =
      found g d.decision d.root ++ foundBelow g d.decision d.tree.children := by
  have quiet {stmts : List Stmt} (h : stmts.flatMap (Stmt.callsAmong (ps.map Primitive.localName)) = []) :
      (stmts.flatMap Stmt.exprs).flatMap (found g d.decision) = [] := by
    rw [List.flatMap_eq_nil_iff] at h ⊢
    intro x hx
    obtain ⟨s, hs, hx⟩ := List.mem_flatMap.mp hx
    have none := h s hs
    cases s with
    | assign target value =>
      obtain ⟨first, second⟩ := List.append_eq_nil_iff.mp none
      simp only [Stmt.exprs, List.mem_cons, List.not_mem_nil, or_false] at hx
      rcases hx with rfl | rfl
      · exact search.silent avoids first
      · exact search.silent avoids second
    | ret value | expr value => exact List.mem_singleton.mp hx ▸ search.silent avoids none
    | _ => cases hx
  have helpers := made.helpers
  unfold Draft.scopes
  generalize hspots : d.tree = t at helpers ⊢
  obtain ⟨root, cs⟩ := t
  have none : root.helper = none := helpers.1
  rw [Tree.spots, List.flatMap_cons]
  congr 1
  · simp only [Function.exprs, Draft.function, none, renderBody_eq, List.flatMap_append,
      quiet (calls_renderPrelude d.emitter _), List.nil_append]
    simp [Stmt.exprs]
  · rw [foundBelow, Tree.children, ← Tree.map_region_spotsAll, List.flatMap_map]
    refine List.flatMap_congr fun x hx => ?_
    obtain ⟨helper, has, -⟩ := helpers.2 x.2.region (by
      rw [Tree.children, ← Tree.map_region_spotsAll]
      exact List.mem_map_of_mem hx)
    simp only [Function.exprs, Draft.function, has, List.flatMap_append, quiet (calls_leading x.2),
      List.nil_append, Option.elim]

/-- The account holds of all that is found in the functions of a finished draft. -/
theorem Search.account (search : Search ps g) {config : Config} {root : Node} {d : Draft}
    (h : draft? config root = some d)
    (account : ∀ L, Expr.Avoids (ps.map Primitive.localName) d.decision → Account g d.decision L config Q) :
    Q (Node.countedAll root.content) (Block.requestsAll [] (arrange (ofNodes root.content))) 0
      ((d.finished.functions []).flatMap fun s => s.2.exprs.flatMap fun e => e.nodes.flatMap g) := by
  have made := made_of_draft? h
  have avoids : Expr.Avoids (ps.map Primitive.localName) d.decision := made.avoids fun id h => .inl (plain h)
  obtain ⟨-, -, tree, -, -, shape, packed⟩ := shaped_of_draft h
  have all := ((account _ avoids).tally search avoids).blocks _ shape
  have uses := search.found_scopes made avoids
  rw [(search.gathers avoids).packed packed, tree, Tree.children] at uses
  rw [← uses, countedAll_arrange] at all
  rw [made.functions_finished, List.flatMap_map]
  simp only [Function.exprs_substitute, List.flatMap_map]
  exact all

end

end TemplateCompiler.Generate
