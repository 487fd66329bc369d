import TemplateCompiler.Proofs.Render.Packing
import TemplateCompiler.Proofs.Render.Reading

/-!
How many positions children take. A node takes one, and so does nothing in its place. A fragment under a
condition has what its children are lowered to if the condition holds; if not, it has one empty position for
each entry of its code. Where an entry is spread over several positions these two differ, so the length of a
list of children can depend on conditions, but only on those of fragments that contain such entries.
-/

namespace TemplateCompiler.Template

/-- Whether the node is no slot, and only a condition of its own decides if it is shown. -/
def Node.onlyTests : Node → Bool
  | .element e _ => e.loop?.isNone && !e.isSlot && (e.branch.isNone || e.branchKind? == some .opening)
  | .text .. | .dynamicText .. | .comment .. | .bare _ => true

/-- An element that gets a number, with its children. -/
def Node.makings : Node → List (Element × List Node)
  | .element e children => e.counted.map (·, children)
  | .text .. | .dynamicText .. | .comment .. | .bare _ => []

/-- The elements that get a number, in document order, with their children. -/
def Node.makingsAll (ns : List Node) : List (Element × List Node) :=
  (Node.preorderAll ns).flatMap Node.makings

theorem makingsAll_cons (n : Node) (ns : List Node) :
    Node.makingsAll (n :: ns) = Node.makingsAll [n] ++ Node.makingsAll ns := by
  simp [Node.makingsAll]

theorem makingsAll_element (e : Element) (children : List Node) : Node.makingsAll [.element e children] =
    e.counted.map (·, children) ++ Node.makingsAll children := by
  simp [Node.makingsAll, Node.preorder, Node.makings]

mutual

theorem length_makings : ∀ n : Node, (Node.makingsAll [n]).length = n.numbered
  | .element e children => by
    rw [makingsAll_element, List.length_append, List.length_map, e.length_counted,
      length_makingsAll children, Node.numbered]
  | .text .. | .dynamicText .. | .comment .. | .bare _ => rfl

theorem length_makingsAll : ∀ ns : List Node, (Node.makingsAll ns).length = Node.numberedAll ns
  | [] => rfl
  | n :: ns => by
    rw [makingsAll_cons, List.length_append, length_makings n, length_makingsAll ns, Node.numberedAll]

end

theorem not_continued : ∀ {ns : List Node}, (∀ n ∈ Node.preorderAll ns, n.onlyTests) → continued ns = false
  | [], _ => rfl
  | .element e children :: ns, h => by
    have here := h (.element e children) (by simp [Node.preorder])
    simp only [Node.onlyTests, Bool.and_eq_true, Bool.or_eq_true, beq_iff_eq, Option.isNone_iff_eq_none] at here
    rcases here.2 with absent | opens
    · simp [continued, Element.continues, Element.branchKind?, absent]
    · simp [continued, Element.continues, BranchKind.continues, opens]
  | .text .. :: ns, h | .dynamicText .. :: ns, h | .comment .. :: ns, h | .bare _ :: ns, h => by
    rw [continued, not_continued fun n hn => h n (List.mem_append_right _ hn), Bool.and_false]
    simp

mutual

/-- The entries that the code for a node has, each with whether it is spread. -/
def Node.stars : Node → List Bool
  | .element e children =>
    if e.isFragment then
      match e.branch with
      | none => Node.starsAll children
      | some _ => if Node.starsAll children = [false] then [false] else [true]
    else [false]
  | .text .. | .dynamicText .. | .comment .. => [false]
  | .bare _ => []

def Node.starsAll : List Node → List Bool
  | [] => []
  | n :: ns => n.stars ++ Node.starsAll ns

end

mutual

/-- How many positions a node takes, given which conditions hold. -/
def Node.positions (holds : Branch → Bool) : Node → Nat
  | .element e children =>
    if e.isFragment then
      match e.branch with
      | none => Node.positionsAll holds children
      | some b =>
        if Node.starsAll children = [false] then 1
        else if holds b then Node.positionsAll holds children
        else (Node.starsAll children).length
    else 1
  | .text .. | .dynamicText .. | .comment .. => 1
  | .bare _ => 0

def Node.positionsAll (holds : Branch → Bool) : List Node → Nat
  | [] => 0
  | n :: ns => n.positions holds + Node.positionsAll holds ns

end

mutual

/-- Whether nothing that is spread stands in a fragment under a condition. -/
def Node.steady : Node → Bool
  | .element e children =>
    if e.isFragment then
      match e.branch with
      | none => Node.steadyAll children
      | some _ => (Node.starsAll children).all (!·)
    else true
  | .text .. | .dynamicText .. | .comment .. | .bare _ => true

def Node.steadyAll : List Node → Bool
  | [] => true
  | n :: ns => n.steady && Node.steadyAll ns

end

mutual

/-- A node takes as many positions as its code has entries, if none of them is spread. -/
theorem Node.positions_of_unstarred (holds : Branch → Bool) : ∀ {n : Node}, (∀ b ∈ n.stars, b = false) →
    n.positions holds = n.stars.length
  | .element e children, h => by
    rw [Node.stars] at h ⊢
    rw [Node.positions]
    split
    · next fragment =>
      rw [if_pos fragment] at h
      split
      · next plain =>
        simp only [plain] at h
        exact Node.positionsAll_of_unstarred holds h
      · next b has =>
        simp only [has] at h
        split
        · rfl
        · next several => simp [several] at h
    · rfl
  | .text .., _ | .dynamicText .., _ | .comment .., _ | .bare _, _ => rfl

theorem Node.positionsAll_of_unstarred (holds : Branch → Bool) : ∀ {ns : List Node},
    (∀ b ∈ Node.starsAll ns, b = false) → Node.positionsAll holds ns = (Node.starsAll ns).length
  | [], _ => rfl
  | n :: ns, h => by
    rw [Node.starsAll] at h ⊢
    rw [Node.positionsAll, List.length_append,
      Node.positions_of_unstarred holds fun b hb => h b (List.mem_append_left _ hb),
      Node.positionsAll_of_unstarred holds fun b hb => h b (List.mem_append_right _ hb)]

end

mutual

theorem Node.positions_of_steady (holds other : Branch → Bool) : ∀ {n : Node}, n.steady →
    n.positions holds = n.positions other
  | .element e children, h => by
    rw [Node.steady] at h
    rw [Node.positions, Node.positions]
    split
    · next fragment =>
      rw [if_pos fragment] at h
      split
      · next plain =>
        simp only [plain] at h
        exact Node.positionsAll_of_steady holds other h
      · next b has =>
        simp only [has, List.all_eq_true, Bool.not_eq_true'] at h
        rw [Node.positionsAll_of_unstarred holds h, Node.positionsAll_of_unstarred other h, ite_self, ite_self]
    · rfl
  | .text .., _ | .dynamicText .., _ | .comment .., _ | .bare _, _ => rfl

theorem Node.positionsAll_of_steady (holds other : Branch → Bool) : ∀ {ns : List Node}, Node.steadyAll ns →
    Node.positionsAll holds ns = Node.positionsAll other ns
  | [], _ => rfl
  | n :: ns, h => by
    rw [Node.steadyAll, Bool.and_eq_true] at h
    rw [Node.positionsAll, Node.positionsAll, Node.positions_of_steady holds other h.1,
      Node.positionsAll_of_steady holds other h.2]

end

end TemplateCompiler.Template

namespace TemplateCompiler.Render

open TemplateCompiler.Code TemplateCompiler.Generate TemplateCompiler.Scope TemplateCompiler.Template

def Value.under (key : String) : Value → Option Value
  | .dict keys values => (List.zip keys values).lookup key
  | _ => none

/-- The data of an element has its number as the key, alone or joined with the value of an expression. -/
def Numbers (engine : Engine) (k : Nat) (e : Element) (data : Value) : Prop :=
  match e.key with
  | none => data.under "key" = some (.int k .constant)
  | some _ => ∃ us v, engine.make .key (.int k .constant :: us) = .ok v ∧ data.under "key" = some v

section Data

variable {callFn : CallFn} {frames : List Frame} {w : World} {f : Placeholder → Expr}

theorem ok_of_bind {α β : Type} {m : RunM α} {next : α → RunM β} {b : β}
    (h : ((m >>= next).run.run w).1 = .ok b) :
    ∃ a w', (m.run.run w).1 = .ok a ∧ ((next a).run.run w').1 = .ok b := by
  rw [run_bind] at h
  rcases hm : m.run.run w with ⟨fault | a, w'⟩
  · rw [hm] at h
    cases h
  · rw [hm] at h
    exact ⟨a, w', rfl, h⟩

theorem ok_of_lift {α : Type} {x : Except Fault α} {a : α}
    (h : ((liftM x : RunM α).run.run w).1 = .ok a) : x = .ok a := by
  cases x with
  | error fault => cases h
  | ok b =>
    cases h
    rfl

theorem eval_record (entries : List (String × Expr)) : eval callFn frames (.record entries) = (do
    let vs ← evalEach callFn frames (entries.map Prod.snd)
    return .dict (entries.map Prod.fst) vs) := by
  have keys : evalEach callFn frames (entries.map fun e => .str e.1) =
      pure (entries.map fun e => .text e.1 .constant) := by
    induction entries with
    | nil =>
      rw [List.map_nil, evalEach]
      rfl
    | cons e entries ih =>
      rw [List.map_cons, evalEach, eval_str, pure_bind, ih, pure_bind]
      rfl
  have texts : textsOf (entries.map fun e => .text e.1 .constant) = .ok (entries.map Prod.fst) := by
    clear keys
    induction entries with
    | nil => rfl
    | cons e entries ih =>
      change (textsOf (entries.map fun e => .text e.1 .constant) >>= fun rest => .ok (e.1 :: rest)) = _
      rw [ih]
      rfl
  rw [Expr.record, eval, visit_plain rfl, keys, pure_bind, texts]
  rfl

theorem each_of_evalEach {es : List Expr} {vs : List Value}
    (h : ((evalEach callFn frames es).run.run w).1 = .ok vs) :
    List.Forall₂ (fun e v => ∃ w, ((eval callFn frames e).run.run w).1 = .ok v) es vs := by
  induction es generalizing w vs with
  | nil =>
    rw [evalEach] at h
    cases h
    exact .nil
  | cons e es ih =>
    rw [evalEach] at h
    obtain ⟨v, w1, first, h⟩ := ok_of_bind h
    obtain ⟨rest, w2, later, h⟩ := ok_of_bind h
    cases h
    exact .cons ⟨w, first⟩ (ih later)

theorem lookup_zip_forall₂ {R : String × Expr → Value → Prop} {before after : List (String × Expr)}
    {key : String} {x : Expr} {vs : List Value} (other : ∀ e ∈ before, e.1 ≠ key)
    (each : List.Forall₂ R (before ++ (key, x) :: after) vs) :
    ∃ u, (List.zip ((before ++ (key, x) :: after).map Prod.fst) vs).lookup key = some u ∧ R (key, x) u := by
  induction before generalizing vs with
  | nil =>
    cases each with
    | cons here rest => exact ⟨_, by simp, here⟩
  | cons e before ih =>
    cases each with
    | cons here rest =>
      obtain ⟨u, found, is⟩ := ih (fun e' he => other e' (List.mem_cons_of_mem e he)) rest
      refine ⟨u, ?_, is⟩
      have ne : (key == e.1) = false := beq_eq_false_iff_ne.mpr (other e List.mem_cons_self).symm
      rw [List.cons_append, List.map_cons, List.zip_cons_cons, List.lookup_cons, ne]
      exact found

theorem under_record {before after : List (String × Expr)} {key : String} {x : Expr} {v : Value}
    (other : ∀ e ∈ before, e.1 ≠ key)
    (h : ((eval callFn frames ((Expr.record (before ++ (key, x) :: after)).substitute f)).run.run w).1 =
      .ok v) :
    ∃ u w', v.under key = some u ∧ ((eval callFn frames (x.substitute f)).run.run w').1 = .ok u := by
  rw [Expr.substitute_record, eval_record] at h
  obtain ⟨vs, w1, values, h⟩ := ok_of_bind h
  have each := each_of_evalEach values
  rw [List.map_map, List.forall₂_map_left_iff] at each
  obtain ⟨u, found, w', is⟩ := lookup_zip_forall₂ other each
  cases h
  refine ⟨u, w', ?_, is⟩
  rw [Value.under, List.map_map]
  exact found

variable {L : Ledger} {config : Config} {e : Element} {scope number : Nat} {locals : List String} {data : Expr}

theorem told_numbers {σ : Stage} {R : Regime σ} {all : List Node} {engine : Engine} {front : List Expr}
    {vs : List Value} (ready : σ.Ready all) (knows : L.emitter = σ.draft.emitter)
    (shape : DataShape L config e scope locals number data) (told : R.Told engine (front ++ [data]) vs) :
    ∃ us u, vs = us ++ [u] ∧ Numbers engine number e u := by
  obtain ⟨path, frames, depth, w, scene, evaluated⟩ := told
  obtain ⟨before, key, after, rfl, other, keyShape, -⟩ := split_dataShape quiet_childNames shape
  rw [List.map_append, evalItems_append] at evaluated
  obtain ⟨us, w1, -, evaluated⟩ := ok_of_bind evaluated
  obtain ⟨ws, w2, last, evaluated⟩ := ok_of_bind evaluated
  cases evaluated
  rw [List.map_singleton, Expr.substitute_record, evalItems_cons (by simp [Expr.record]),
    ← Expr.substitute_record] at last
  obtain ⟨u, w3, made, last⟩ := ok_of_bind last
  rw [evalItems, pure_bind] at last
  cases last
  obtain ⟨v, w4, found, value⟩ := under_record (fun b hb => (other b hb).1) made
  refine ⟨us, u, rfl, ?_⟩
  unfold Numbers
  cases hk : e.key with
  | none =>
    rw [hk] at keyShape
    obtain rfl : key = .nat number := keyShape
    rw [Expr.nat, Expr.substitute, eval, visit_plain rfl] at value
    cases value
    exact found
  | some source =>
    rw [hk] at keyShape
    obtain ⟨y, -, E, rfl, grows⟩ := keyShape
    have known : .key ∈ σ.draft.emitter.primitives := knows ▸ known_of_call grows
    change ((eval _ frames ((Expr.apply (.own Primitive.key.localName) [.nat number, y]).substitute _)).run.run
      w4).1 = _ at value
    rw [Expr.substitute_apply, eval_apply (by decide), eval_own (scene.lookup_primitive ready known),
      pure_bind] at value
    obtain ⟨args, w5, given, value⟩ := ok_of_bind value
    rw [List.map_cons, Expr.nat, Expr.substitute, evalItems_cons (by simp)] at given
    obtain ⟨first, w6, constant, given⟩ := ok_of_bind given
    obtain ⟨rest, w7, -, given⟩ := ok_of_bind given
    rw [eval, visit_plain rfl] at constant
    cases constant
    cases given
    cases depth with
    | zero => cases value
    | succ depth =>
      rw [callWithin, callOnce] at value
      obtain ⟨_, w8, -, value⟩ := ok_of_bind value
      exact ⟨rest, v, ok_of_lift value, found⟩

end Data

def RenderFn.around (f : RenderFn) : List Frame :=
  match f.function with
  | .closure _ _ _ frames => frames
  | _ => []

/-- Whether a condition outside loops holds for a component with the given properties. -/
def RenderFn.holds (f : RenderFn) (properties : Table Data) (b : Branch) : Bool :=
  let reading := readingAt (componentOf properties) f.around
  match b.test with
  | none => false
  | some test =>
    match ((evalItems reading.callFn reading.frames [resolved [] test]).run (.start .empty)).1 with
    | .ok [v] => admits b.modifier v
    | _ => false

section Tests

variable {σ : Stage} {A : Value → Prop} {all : List Node} {path : List Spot} {frames : List Frame}

theorem Stage.Scene.still (ready : σ.Ready all)
    (still : ∀ x ∈ σ.draft.scopes, x.1 ≠ [] → x.2.region.helper.elim [] loopNames = [])
    (scene : Stage.Scene σ A path frames) : namesAlong path = [] := by
  induction scene with
  | top here reads => exact Stage.namesAlong_top ready.made here
  | inside here names values locals helpers bound around ih =>
    rw [namesAlong_cons, ih, still _ here (by simp)]
    rfl

theorem holds_of_told {d : Generate.Draft} {f : RenderFn} {F : Frame} {properties slots : Table Data}
    {context : Table Value} {engine : Engine} {R : Regime σ} {b : Branch} {test y : Expr} {scope : Nat}
    {u : Value} (loaded : Loaded d f F) (is : σ = ⟨d, F, properties, slots, context⟩) (ready : σ.Ready all)
    (still : ∀ x ∈ σ.draft.scopes, x.1 ≠ [] → x.2.region.helper.elim [] loopNames = [])
    (asks : b.test = some test) (bound : Bound scope [] test y) (told : R.Told engine [y] [u]) :
    f.holds properties b = admits b.modifier u := by
  obtain ⟨path, frames, depth, w, scene, evaluated⟩ := told
  have meets : ∀ e ∈ [y], e.Meets (withinLoops []) := by simpa using bound.meets
  have refines := scene.refines_reading ready (scene.still ready still) engine depth meets
  obtain ⟨-, read⟩ := refines w (.start .empty) [u] evaluated
  have component : σ.component = componentOf properties := by
    rw [is]
    rfl
  have around : f.around = [σ.outer] := by
    rw [RenderFn.around, loaded.function, is]
  have same : y.substitute inPlace = resolved [] test := by
    obtain ⟨us, rfl⟩ := bound
    exact inPlace_bind scope 0 [] _ us []
  have settings : readingAt (componentOf properties) f.around = σ.reading := by
    rw [Stage.reading, component, around]
  have value : ((evalItems σ.reading.callFn σ.reading.frames [resolved [] test]).run (.start .empty)).1 =
      .ok [u] := by
    rw [← same]
    exact read
  simp only [RenderFn.holds, asks, settings, value]

end Tests

/-- Siblings take the given number of positions, which does not depend on conditions if they are steady. -/
def Fills (holds : Branch → Bool) (ns : List Node) (n : Nat) : Prop :=
  n = Node.positionsAll holds ns ∧ (Node.steadyAll ns → ∀ other, n = Node.positionsAll other ns)

/-- Children that are passed on with the data of an element fill the positions of its children. -/
def Positioned (engine : Engine) (holds : Branch → Bool) (all : List Node) (q : Primitive)
    (before : List Value) (v : Value) : Prop :=
  ∃ k e children front data items identity, (Node.makingsAll all)[k]? = some (e, children) ∧ e.maker = q ∧
    before = front ++ [data] ∧ Numbers engine k e data ∧ v = .list items identity ∧
    Fills holds children items.length

theorem fills_positionsAll (holds : Branch → Bool) (ns : List Node) :
    Fills holds ns (Node.positionsAll holds ns) :=
  ⟨rfl, fun steady other => Node.positionsAll_of_steady holds other steady⟩

theorem eq_of_packed {L : Ledger} {r : Rendered} {x : Expr} (flat : r.nested = false) (h : Packed L r x) :
    x = .list r.entries := by
  cases h with
  | plain => rfl
  | single nested only | flattened nested several emitted =>
    rw [flat] at nested
    cases nested

theorem stars_of_several {r : Rendered} (several : r.single? = none) :
    r.entries.map Expr.isStarred ≠ [false] := by
  intro is
  obtain ⟨x, entries, whole⟩ := List.map_eq_singleton_iff.mp is
  simp [Rendered.single?, entries, whole] at several

section Laid

abbrev Stage.positioning (σ : Stage) (engine : Engine) (holds : Branch → Bool) (all : List Node) : Regime σ :=
  σ.packing (Positioned engine holds all)

variable {σ : Stage} {engine : Engine} {holds : Branch → Bool} {all : List Node} {above : List Spot} {p : Spot}
  {r s : Rendered} {ns : List Node} {stars stars' : List Bool} {n m : Nat}

/-- Entries, each spread or not as told, that fill the given number of positions. -/
structure LaidAs (σ : Stage) (engine : Engine) (holds : Branch → Bool) (all : List Node) (stars : List Bool)
    (n : Nat) (r : Rendered) (p : Spot) : Prop where
  flat : r.nested = false
  stars : r.entries.map Expr.isStarred = stars
  packed : ∀ x ∈ r.entries, (σ.positioning engine holds all).PacksIn engine p.children x
  size : ∀ vs, Spreads engine ((σ.positioning engine holds all).Told engine) p.children r.entries vs →
    vs.length = n

/-- Siblings are lowered to entries that fill their positions. -/
abbrev Laid (σ : Stage) (engine : Engine) (holds : Branch → Bool) (all ns : List Node) (r : Rendered)
    (p : Spot) : Prop :=
  LaidAs σ engine holds all (Node.starsAll ns) (Node.positionsAll holds ns) r p

theorem LaidAs.append (h : LaidAs σ engine holds all stars n r p) (h' : LaidAs σ engine holds all stars' m s p) :
    LaidAs σ engine holds all (stars ++ stars') (n + m) (r.append s) p where
  flat := by simp [Rendered.append, h.flat, h'.flat]
  stars := by rw [Rendered.append, List.map_append, h.stars, h'.stars]
  packed x hx := (List.mem_append.mp hx).elim (h.packed x) (h'.packed x)
  size vs hvs := by
    obtain ⟨us, ws, rfl, first, second⟩ := spreads_append hvs
    rw [List.length_append, h.size us first, h'.size ws second]

theorem laid_one {x : Expr} (whole : x.isStarred = false)
    (packed : (σ.positioning engine holds all).PacksIn engine p.children x) :
    LaidAs σ engine holds all [false] 1 ⟨[x], false⟩ p where
  flat := rfl
  stars := by simp [whole]
  packed := by simpa using packed
  size vs hvs := length_of_spreads (by simpa using whole) hvs

variable {L : Ledger} {config : Config} {e : Element} {children : List Node} {scope number : Nat} {x : Expr}
  {cs : List Tree} {c : Tree} {body otherwise : Expr} {trees : List Tree}

/-- The elements of siblings have their numbers among those of the template. -/
def NumberedFrom (all : List Node) (number : Nat) (ns : List Node) : Prop :=
  ∀ i x, (Node.makingsAll ns)[i]? = some x → (Node.makingsAll all)[number + i]? = some x

theorem packsIn_made (ready : σ.Ready all) (knows : L.emitter = σ.draft.emitter)
    (data : Expr) (shape : DataShape L config e scope [] number data)
    (listed : (Node.makingsAll all)[number]? = some (e, children)) (laid : Laid σ engine holds all children r p)
    (call : ElementCall L scope [] e data (.list r.entries) x) :
    (σ.positioning engine holds all).PacksIn engine p.children x := by
  refine Regime.packsIn_elementCall shape call (Regime.packsIn_list laid.packed)
    fun front vs v told yields => ?_
  obtain ⟨us, u, rfl, numbers⟩ := told_numbers ready knows shape told
  obtain ⟨items, rfl, spreads⟩ := yields_list yields
  have size := laid.size items spreads
  exact ⟨number, e, children, us, u, items, _, listed, rfl, rfl, numbers, rfl,
    size ▸ fills_positionsAll holds children⟩

/-- What a test gives decides whether its condition holds. -/
def Asked (σ : Stage) (engine : Engine) (holds : Branch → Bool) (all : List Node) : Prop :=
  ∀ {b : Branch} {test y : Expr} {scope : Nat} {u : Value}, b.test = some test → Bound scope [] test y →
    (σ.positioning engine holds all).Told engine [y] [u] → holds b = admits b.modifier u

theorem laid_tested (made : σ.draft.Made (admitted all)) (here : (above, p) ∈ σ.draft.scopes)
    (asked : Asked σ engine holds all) (child : c ∈ p.children)
    (tested : Tested scope [] e body otherwise trees x c) :
    ∃ b, e.branch = some b ∧ c.children = trees ∧
      ∀ v, Yields engine ((σ.positioning engine holds all).Told engine) p.children x v →
        Yields engine ((σ.positioning engine holds all).Told engine) trees
          (if holds b then body else otherwise) v := by
  have content : c.children = trees := by
    cases tested
    rfl
  obtain ⟨b, has⟩ : ∃ b, e.branch = some b := by
    cases tested with
    | mk has => exact ⟨_, has⟩
  refine ⟨b, has, content, fun v yields => ?_⟩
  obtain ⟨b', test, y, u, has', asks, bound, told, yields⟩ := called_of_tested made here child tested yields
  obtain rfl := Option.some.inj (has'.symm.trans has)
  rwa [asked asks bound told]

/-- An element that is no fragment takes one position, a fragment those of its children. -/
theorem laid_core (ready : σ.Ready all) (knows : L.emitter = σ.draft.emitter) (unslotted : e.isSlot = false)
    (listed : e.isFragment = false → (Node.makingsAll all)[number]? = some (e, children))
    (below : ∀ {scope : Nat} {r : Rendered} {cs : List Tree},
      NodesShape L config children scope (number + e.counted.length) [] r cs → cs ⊆ p.children →
      Laid σ engine holds all children r p ∧ ∀ c ∈ cs, (σ.positioning engine holds all).PacksBelow engine c)
    (shape : CoreShape L config e (NodesShape L config children) scope number [] r cs)
    (within : cs ⊆ p.children) :
    LaidAs σ engine holds all (if e.isFragment then Node.starsAll children else [false])
      (if e.isFragment then Node.positionsAll holds children else 1) r p ∧
      ∀ c ∈ cs, (σ.positioning engine holds all).PacksBelow engine c := by
  unfold CoreShape at shape
  unfold Element.counted at below
  split at shape
  · next fragment =>
    simp only [fragment, if_true] at below ⊢
    exact below shape within
  · next fragment =>
    obtain ⟨x, ⟨data, r, packed, hdata, shape, hpacked, call⟩, rfl⟩ := shape
    simp only [fragment, if_false, Bool.false_eq_true, unslotted] at below ⊢
    obtain ⟨laid, inner⟩ := below shape within
    obtain rfl := eq_of_packed laid.flat hpacked
    refine ⟨laid_one ?_ (packsIn_made ready knows data hdata (listed (by simpa using fragment)) laid call), inner⟩
    obtain ⟨front, after, rfl, -⟩ := form_of_elementCall [] call
    rfl

/-- Under a condition, several entries are spread from one call: all of them, or an empty position for
each. -/
theorem laid_content {shape : Shape} (ready : σ.Ready all) (here : (above, p) ∈ σ.draft.scopes)
    (asked : Asked σ engine holds all)
    (below : ∀ {scope : Nat} {r : Rendered} {cs : List Tree} {above : List Spot} {p : Spot},
      shape scope number [] r cs → (above, p) ∈ σ.draft.scopes → cs ⊆ p.children →
      LaidAs σ engine holds all stars n r p ∧ ∀ c ∈ cs, (σ.positioning engine holds all).PacksBelow engine c)
    (h : ContentShape e shape scope number [] r cs) (within : cs ⊆ p.children) :
    LaidAs σ engine holds all
      (match e.branch with
        | none => stars
        | some _ => if stars = [false] then [false] else [true])
      (match e.branch with
        | none => n
        | some b => if stars = [false] then 1 else if holds b then n else stars.length) r p ∧
      ∀ c ∈ cs, (σ.positioning engine holds all).PacksBelow engine c := by
  unfold ContentShape at h
  split at h
  · obtain ⟨content, trees, body, otherwise, entry, x, c, shape, chosen, tested, rfl, rfl⟩ := h
    have child : c ∈ p.children := within List.mem_cons_self
    obtain ⟨b, has, rfl, yields⟩ := laid_tested ready.made here asked child tested
    have packed : (σ.positioning engine holds all).PacksIn engine p.children x :=
      Regime.packsIn_tested ready.made here child tested
    obtain ⟨laid, inner⟩ := below shape (p := p.child c) (Tree.spots_child here child) (List.Subset.refl _)
    have closed (first : (σ.positioning engine holds all).PacksIn engine c.children body) :
        ∀ c' ∈ [c], (σ.positioning engine holds all).PacksBelow engine c' := by
      simpa using Regime.packsBelow_tested tested first (Regime.packsIn_silent chosen.silent) inner
    have whole := tested.whole
    simp only [has]
    cases chosen with
    | single only =>
      have entries := Rendered.entries_of_single? only
      have one : stars = [false] := by
        rw [← laid.stars, entries, List.map_singleton, isStarred_of_single? only]
      rw [laid.flat, if_pos one, if_pos one]
      exact ⟨laid_one whole packed, closed (laid.packed body (by simp [entries]))⟩
    | several several =>
      have other : stars ≠ [false] := laid.stars ▸ stars_of_several several
      rw [if_neg other, if_neg other]
      refine ⟨⟨laid.flat, rfl, by simpa using Regime.packsIn_starred packed, fun vs hvs => ?_⟩,
        closed (Regime.packsIn_list laid.packed)⟩
      obtain ⟨v, us, rest, rfl, first, items, last⟩ := spreads_starred hvs
      cases last
      have selected := yields v first
      rw [List.append_nil]
      split at selected
      · next h =>
        obtain ⟨ws, rfl, spreads⟩ := yields_list selected
        cases items
        rw [if_pos h]
        exact laid.size us spreads
      · next h =>
        obtain ⟨ws, rfl, spreads⟩ := yields_list selected
        have nothing : ∀ y ∈ content.entries.map fun _ => Expr.none, y.isStarred = false := by
          simp [Expr.none, Expr.isStarred]
        cases items
        rw [if_neg h, length_of_spreads nothing spreads, List.length_map, ← laid.stars, List.length_map]
  · next asks =>
    have absent : e.branch = none := by simpa using asks
    rw [absent]
    exact below h here within

theorem laid_leaf {n : Node} (leaf : ∀ e children, n ≠ .element e children)
    (shape : NodeShape L config n scope number [] r []) :
    LaidAs σ engine holds all n.stars (n.positions holds) r p := by
  cases n with
  | element e children => exact absurd rfl (leaf e children)
  | bare position => cases shape
  | dynamicText position value =>
    obtain ⟨y, x, bound, ⟨E, rfl, -⟩, rfl, -⟩ := shape
    exact laid_one rfl (Regime.packsIn_call (by decide) (by simp [bound.callsAmong]))
  | text position value =>
    obtain ⟨x, ⟨E, rfl, -⟩, rfl, -⟩ := shape
    exact laid_one rfl (Regime.packsIn_call (by decide) (by simp))
  | comment position value =>
    obtain ⟨x, ⟨E, rfl, -⟩, rfl, -⟩ := shape
    exact laid_one rfl (Regime.packsIn_call (by decide) (by simp))

theorem NumberedFrom.cons {n : Node} (h : NumberedFrom all number (n :: ns)) :
    NumberedFrom all number [n] ∧ NumberedFrom all (number + n.numbered) ns := by
  unfold NumberedFrom at h
  rw [makingsAll_cons] at h
  refine ⟨fun i x hx => h i x ?_, fun i x hx => ?_⟩
  · rw [List.getElem?_append_left (List.getElem?_eq_some_iff.mp hx).1, hx]
  · rw [Nat.add_assoc, ← length_makings n]
    exact h _ x (by rw [List.getElem?_append_right (by omega), Nat.add_sub_cancel_left, hx])

theorem NumberedFrom.element (h : NumberedFrom all number [.element e children]) :
    (e.isFragment = false → (Node.makingsAll all)[number]? = some (e, children)) ∧
      NumberedFrom all (number + e.counted.length) children := by
  unfold NumberedFrom at h
  rw [makingsAll_element] at h
  refine ⟨fun plain => h 0 _ (by simp [Element.counted, plain]), fun i x hx => ?_⟩
  rw [Nat.add_assoc]
  exact h _ x (by rw [List.getElem?_append_right (by simp), List.length_map, Nat.add_sub_cancel_left, hx])

/-- Siblings outside loops, slots and chains fill their positions, and so do all children below them. -/
theorem laid (ready : σ.Ready all) (knows : L.emitter = σ.draft.emitter) (asked : Asked σ engine holds all) :
    ∀ {ns : List Node} {scope number : Nat} {r : Rendered} {cs : List Tree} {above : List Spot} {p : Spot},
      (∀ n ∈ Node.preorderAll ns, n.onlyTests) → NumberedFrom all number ns →
      NodesShape L config ns scope number [] r cs → (above, p) ∈ σ.draft.scopes → cs ⊆ p.children →
      Laid σ engine holds all ns r p ∧
        ∀ c ∈ cs, (σ.packing (Positioned engine holds all)).PacksBelow engine c
  | [], scope, number, r, cs, above, p, _, _, shape, here, within => by
    obtain ⟨rfl, rfl⟩ := shape
    refine ⟨⟨rfl, rfl, nofun, fun vs hvs => ?_⟩, nofun⟩
    cases hvs
    rfl
  | .text .. :: ns, scope, number, r, cs, above, p, tests, numbers, shape, here, within
  | .dynamicText .. :: ns, scope, number, r, cs, above, p, tests, numbers, shape, here, within
  | .comment .. :: ns, scope, number, r, cs, above, p, tests, numbers, shape, here, within
  | .bare _ :: ns, scope, number, r, cs, above, p, tests, numbers, shape, here, within => by
    obtain ⟨first, rest, leaf, later, rfl⟩ := shape.leaf (by simp)
    obtain ⟨laid, inner⟩ := laid ready knows asked (fun n hn => tests n (List.mem_append_right _ hn))
      numbers.cons.2 later here within
    exact ⟨(laid_leaf (by simp) leaf).append laid, inner⟩
  | .element e children :: ns, scope, number, r, cs, above, p, tests, numbers, shape, here, within => by
    have own := tests (.element e children) (by simp [Node.preorder])
    simp only [Node.onlyTests, Bool.and_eq_true, Option.isNone_iff_eq_none, Bool.not_eq_true'] at own
    obtain ⟨⟨still, unslotted⟩, -⟩ := own
    have testsInside : ∀ n ∈ Node.preorderAll children, n.onlyTests := fun n hn =>
      tests n (List.mem_append_left _ (List.mem_cons_of_mem _ hn))
    have testsAfter : ∀ n ∈ Node.preorderAll ns, n.onlyTests := fun n hn =>
      tests n (List.mem_append_right _ hn)
    obtain ⟨numbersHere, numbersAfter⟩ := numbers.cons
    rw [NodesShape, if_neg (by simp [not_continued testsAfter])] at shape
    obtain ⟨first, rest, inner, later, ⟨-, shape⟩, shapeAfter, rfl, rfl⟩ := shape
    obtain ⟨withinHere, withinAfter⟩ := List.append_subset.mp within
    obtain ⟨after, belowAfter⟩ := laid ready knows asked testsAfter numbersAfter shapeAfter here withinAfter
    obtain ⟨listed, numbersInside⟩ := numbersHere.element
    rw [ElementShape, LoopShape, still] at shape
    have both := laid_content ready here asked (fun core here => laid_core ready knows unslotted listed
      (fun shape => laid ready knows asked testsInside numbersInside shape here) core) shape withinHere
    have stars : (Node.element e children).stars = match e.branch with
        | none => if e.isFragment then Node.starsAll children else [false]
        | some _ => if (if e.isFragment then Node.starsAll children else [false]) = [false] then [false]
          else [true] := by
      rw [Node.stars]
      cases e.isFragment <;> cases e.branch <;> simp
    have positions : (Node.element e children).positions holds = match e.branch with
        | none => if e.isFragment then Node.positionsAll holds children else 1
        | some b => if (if e.isFragment then Node.starsAll children else [false]) = [false] then 1
          else if holds b then (if e.isFragment then Node.positionsAll holds children else 1)
          else (if e.isFragment then Node.starsAll children else [false]).length := by
      rw [Node.positions]
      cases e.isFragment <;> cases e.branch <;> simp
    rw [← stars, ← positions] at both
    exact ⟨both.1.append after, fun c hc => (List.mem_append.mp hc).elim (both.2 c) (belowAfter c)⟩

end Laid

theorem still_of_onlyTests {config : Config} {ns : List Node} {d : Generate.Draft}
    (shaped : d.Shaped fun L => NodesShape L config ns) (tests : ∀ n ∈ Node.preorderAll ns, n.onlyTests) :
    ∀ x ∈ d.scopes, x.1 ≠ [] → x.2.region.helper.elim [] loopNames = [] := by
  obtain @⟨L, region, r, cs, -, -, tree, -, numbers, shape, -⟩ := shaped
  intro x hx inner
  rw [Draft.scopes, tree, Tree.spots] at hx
  have listed : x.2.region ∈ (Tree.entriesAll 0 cs).map Prod.snd := by
    rw [Tree.map_entriesAll, ← Tree.map_region_spotsAll]
    exact List.mem_map_of_mem ((List.mem_cons.mp hx).resolve_left fun is => inner (by rw [is]))
  obtain ⟨entry, hentry, is⟩ := List.mem_map.mp listed
  obtain ⟨o, ho, realizes⟩ := exists_of_forall₂ ((outlinesAll L config ns).apart shape numbers) hentry
  have directive : o.directive ∈ (Node.preorderAll ns).flatMap Node.directives := by
    rw [← Node.directives_outlineAll ns none 0 1]
    exact List.mem_map_of_mem ho
  obtain ⟨n, hn, mine⟩ := List.mem_flatMap.mp directive
  have stands := realizes.directive
  rw [is] at stands
  cases hd : o.directive with
  | loop l =>
    have own := tests n hn
    rw [hd] at mine
    cases n with
    | element e children =>
      simp only [Node.onlyTests, Bool.and_eq_true, Option.isNone_iff_eq_none] at own
      simp [Node.directives, Element.directives, Element.conditions, own.1.1] at mine
    | _ => cases mine
  | condition b =>
    rw [hd] at stands
    obtain ⟨-, condition, body, otherwise, -, helper⟩ := stands
    rw [helper]
    rfl

theorem mem_preorderAll_of_makings {ns children : List Node} {e : Element}
    (h : (e, children) ∈ Node.makingsAll ns) : .element e children ∈ Node.preorderAll ns := by
  obtain ⟨n, hn, listed⟩ := List.mem_flatMap.mp h
  cases n with
  | element e' children' =>
    obtain ⟨x, hx, is⟩ := List.mem_map.mp listed
    obtain ⟨rfl, rfl⟩ := Prod.mk.inj is
    have same : x = e' := by
      unfold Element.counted at hx
      split at hx
      · cases hx
      · exact List.mem_singleton.mp hx
    exact same ▸ hn
  | _ => cases listed

theorem afterChildren_maker {e : Element} (unslotted : e.isSlot = false) : e.maker.afterChildren = some 0 := by
  unfold Element.maker
  split
  · rfl
  · rfl
  · next name _ is => simp [Element.isSlot, is] at unslotted
  · rfl

/-- In a render of a template without loops, slots and chains, the list for the root and the lists of
children of all elements fill the positions of the nodes in them: a fragment under a condition that fails
leaves one empty position for each entry of its code. Lists in which no entry that is spread stands under a
condition always have the same length. -/
theorem children_fill_positions {config : Config} {root : Node} {compiled : Compiled} {loader : Loader}
    {lib : Load.Library} {modules : Option (Table Load.Entity)} {f : RenderFn} {engine : Engine}
    {properties slots : Table Data} {context : Table Value}
    (h : (compile config root).1 = .ok compiled)
    (load : (loader.load lib compiled modules false).1 = .ok f)
    (tests : ∀ n ∈ Node.preorderAll root.content, n.onlyTests) (honest : engine.Honest)
    (kept : ∀ key v, context.get? key = some v → v.Plain) :
    (∀ v, (f.renderBy engine properties slots context).result = .ok v → ∃ items identity,
      v = .list items identity ∧ Fills (f.holds properties) root.content items.length) ∧
    ∀ q args, .primitive q args ∈ (f.renderBy engine properties slots context).calls →
      q.afterChildren.isSome → ∃ k e children front data items identity,
        (Node.makingsAll root.content)[k]? = some (e, children) ∧ e.maker = q ∧
        args = front ++ [data, .list items identity] ∧ Numbers engine k e data ∧
        Fills (f.holds properties) children items.length := by
  obtain ⟨d, F, hd, made, loaded⟩ := loaded_of_load h load
  have shaped := shaped_of_accepted (accepted_of_validate (validate_of_compile h)) hd
  have still := still_of_onlyTests shaped tests
  obtain ⟨σ, hσ⟩ : ∃ σ, σ = Stage.mk d F properties slots context := ⟨_, rfl⟩
  have drafted : σ.draft = d := by rw [hσ]
  have ready : σ.Ready root.content := hσ ▸ loaded.ready made kept
  have asked : Asked σ engine (f.holds properties) root.content := fun asks bound told =>
    holds_of_told loaded hσ ready (drafted ▸ still) asks bound told
  cases shaped with
  | @mk L region r cs knows memo tree number numbers shape packed =>
    have children : d.tree.children = cs := by rw [tree, Tree.children]
    have within : cs ⊆ σ.draft.outermost.children := by
      rw [drafted, Draft.outermost, children]
      exact List.Subset.refl cs
    obtain ⟨laid, below⟩ := laid ready (knows.trans (congrArg _ drafted.symm)) asked tests
      (fun i x hx => by simpa using hx) shape σ.draft.mem_outermost within
    have result : d.root = .list r.entries := eq_of_packed laid.flat packed
    rw [drafted, Draft.outermost] at laid
    rw [← children] at below
    obtain ⟨calls, yields⟩ := loaded.packed made (.mk knows memo tree number numbers shape packed) honest kept
      hσ below (result ▸ Regime.packsIn_list laid.packed)
    refine ⟨fun v hv => ?_, fun q args listed takes => ?_⟩
    · obtain ⟨items, rfl, spreads⟩ := yields_list (result ▸ yields v hv)
      exact ⟨items, _, rfl, laid.size items spreads ▸ fills_positionsAll _ _⟩
    · obtain ⟨n, takes⟩ := Option.isSome_iff_exists.mp takes
      obtain ⟨before, v, after, rfl, size, k, e, children, front, data, items, identity, found, maker, rfl,
        numbers, rfl, fills⟩ := calls _ listed n takes
      have own : (Node.element e children).onlyTests :=
        tests _ (mem_preorderAll_of_makings (List.mem_of_getElem? found))
      simp only [Node.onlyTests, Bool.and_eq_true, Bool.not_eq_true'] at own
      rw [← maker, afterChildren_maker own.1.2, Option.some.injEq] at takes
      obtain rfl := List.length_eq_zero_iff.mp (size.trans takes.symm)
      exact ⟨k, e, children, front, data, items, identity, found, maker, by simp, numbers, fills⟩

/-- Two paragraphs in a fragment under a condition, in a fragment under another condition. -/
def nestedTests : Node :=
  .root [.element { Element.ofTag "template" with branch := some ⟨some (.name "a"), .holds, .opening⟩ }
    [.element { Element.ofTag "template" with branch := some ⟨some (.name "b"), .holds, .opening⟩ }
      [.element (Element.ofTag "p") [], .element (Element.ofTag "p") []]]]

def nestedProperties (a b : Bool) : Table Data := (Table.empty.insert "a" (.bool a)).insert "b" (.bool b)

theorem nestedTests_fill_positions : ∃ compiled f, (compile Config.factory nestedTests).1 = .ok compiled ∧
    (Loader.empty.load { modules := .empty } compiled none false).1 = .ok f ∧
    (∀ n ∈ Node.preorderAll nestedTests.content, n.onlyTests) ∧
    ∀ v, (f.render (nestedProperties false true) .empty .empty).result = .ok v → ∃ items identity,
      v = .list items identity ∧
        Fills (f.holds (nestedProperties false true)) nestedTests.content items.length := by
  obtain ⟨compiled, f, h, load, -⟩ := loads_of_passes nestedTests (fun _ _ => true) (by decide +kernel)
  have tests : ∀ n ∈ Node.preorderAll nestedTests.content, n.onlyTests := by decide +kernel
  exact ⟨compiled, f, h, load, tests,
    (children_fill_positions h load tests Engine.honest_standard fun _ _ found => by cases found).1⟩

def itemCount? : Except Fault Value → Option Nat
  | .ok (.list items _) => some items.length
  | _ => none

/-- With the outer condition false there is one position less. -/
theorem nestedTests_lose_position : (∀ n ∈ Node.preorderAll nestedTests.content, n.onlyTests) ∧
    ∃ compiled f, (compile Config.factory nestedTests).1 = .ok compiled ∧
      (Loader.empty.load { modules := .empty } compiled none false).1 = .ok f ∧
      itemCount? (f.render (nestedProperties true true) .empty .empty).result = some 2 ∧
      itemCount? (f.render (nestedProperties false true) .empty .empty).result = some 1 := by
  refine ⟨by decide +kernel, ?_⟩
  obtain ⟨compiled, f, h, load, sizes⟩ := loads_of_passes nestedTests (fun _ f =>
    itemCount? (f.render (nestedProperties true true) .empty .empty).result == some 2 &&
      itemCount? (f.render (nestedProperties false true) .empty .empty).result == some 1) (by decide +kernel)
  rw [Bool.and_eq_true, beq_iff_eq, beq_iff_eq] at sizes
  exact ⟨compiled, f, h, load, sizes⟩

end TemplateCompiler.Render
