/-!
Tables that keep the order in which their keys were first entered. Entering a key again replaces its
value and leaves it in its place.
-/

namespace TemplateCompiler

structure Table (α : Type) where
  entries : List (String × α)
  deriving Repr

namespace Table

variable {α : Type}

def empty : Table α := ⟨[]⟩

instance : Inhabited (Table α) := ⟨empty⟩

def keys (t : Table α) : List String := t.entries.map Prod.fst

def values (t : Table α) : List α := t.entries.map Prod.snd

def size (t : Table α) : Nat := t.entries.length

def isEmpty (t : Table α) : Bool := t.entries.isEmpty

def get? (t : Table α) (key : String) : Option α := t.entries.lookup key

def contains (t : Table α) (key : String) : Bool := (t.get? key).isSome

/-- Replaces the value of the first entry with the key, or adds an entry at the end. -/
def insertEntry (key : String) (value : α) : List (String × α) → List (String × α)
  | [] => [(key, value)]
  | e :: rest => if key == e.1 then (key, value) :: rest else e :: insertEntry key value rest

def insert (t : Table α) (key : String) (value : α) : Table α := ⟨insertEntry key value t.entries⟩

def ofList (pairs : List (String × α)) : Table α :=
  pairs.foldl (fun t p => t.insert p.1 p.2) empty

@[simp] theorem get?_empty (key : String) : (empty : Table α).get? key = none := rfl

@[simp] theorem keys_empty : (empty : Table α).keys = [] := rfl

theorem lookup_insertEntry (key : String) (value : α) (es : List (String × α)) (k : String) :
    (insertEntry key value es).lookup k = if k == key then some value else es.lookup k := by
  induction es with
  | nil => cases h : k == key <;> simp [insertEntry, List.lookup_cons, h]
  | cons e rest ih =>
    obtain ⟨first, found⟩ := e
    simp only [insertEntry]
    by_cases he : key = first
    · subst he
      cases h : k == key <;> simp [List.lookup_cons, h]
    · rw [if_neg (by simpa using he)]
      by_cases hk : k = first
      · subst hk
        have : (k == key) = false := by simpa using fun h => he h.symm
        simp [this]
      · have : (k == first) = false := by simpa using hk
        simp [List.lookup_cons, this, ih]

@[simp] theorem get?_insert (t : Table α) (key : String) (value : α) (k : String) :
    (t.insert key value).get? k = if k == key then some value else t.get? k :=
  lookup_insertEntry key value t.entries k

theorem get?_eq_none_iff {t : Table α} {key : String} : t.get? key = none ↔ key ∉ t.keys := by
  rw [get?, List.lookup_eq_none_iff, keys, List.mem_map]
  simp only [not_exists, not_and, bne_iff_ne, ne_eq]
  exact ⟨fun h e he is => h e he is.symm, fun h e he is => h e he is.symm⟩

theorem map_fst_insertEntry (key : String) (value : α) (es : List (String × α)) :
    (insertEntry key value es).map Prod.fst =
      if key ∈ es.map Prod.fst then es.map Prod.fst else es.map Prod.fst ++ [key] := by
  induction es with
  | nil => rfl
  | cons e rest ih =>
    by_cases h : key = e.1
    · simp [insertEntry, h]
    · by_cases hm : key ∈ rest.map Prod.fst
      · simp only [insertEntry, beq_iff_eq, h, if_false, List.map_cons, ih, if_pos hm]
        simp [h, hm]
      · simp only [insertEntry, beq_iff_eq, h, if_false, List.map_cons, ih, if_neg hm]
        simp [h, hm]

/-- A new key goes to the end, a known key stays where it is. -/
theorem keys_insert (t : Table α) (key : String) (value : α) :
    (t.insert key value).keys = if key ∈ t.keys then t.keys else t.keys ++ [key] :=
  map_fst_insertEntry key value t.entries

end Table

end TemplateCompiler
