set_option autoImplicit false

/-! # Maps that keep the order of insertion

A map from keys to values that remembers in which order its keys first came. Inserting a key that
is present replaces its value where it stands; a new key goes to the end. -/

namespace Retrieval

/-- Puts a value at a key: in the place of the key if it is present, else at the end. -/
def insertEntry {κ α : Type} [DecidableEq κ] (key : κ) (value : α) : List (κ × α) → List (κ × α)
  | [] => [(key, value)]
  | entry :: rest =>
    if entry.1 = key then (key, value) :: rest else entry :: insertEntry key value rest

theorem map_fst_insertEntry {κ α : Type} [DecidableEq κ] (key : κ) (value : α)
    (entries : List (κ × α)) :
    (insertEntry key value entries).map Prod.fst =
      if key ∈ entries.map Prod.fst then entries.map Prod.fst
      else entries.map Prod.fst ++ [key] := by
  induction entries with
  | nil => simp [insertEntry]
  | cons entry rest ih =>
    by_cases h : entry.1 = key
    · simp [insertEntry, h]
    · have h' : ¬ key = entry.1 := fun he => h he.symm
      simp only [insertEntry, if_neg h, List.map_cons, ih, List.mem_cons, h', false_or]
      split <;> simp

theorem lookup_cons_ite {κ α : Type} [DecidableEq κ] (entry : κ × α) (rest : List (κ × α))
    (key : κ) :
    (entry :: rest).lookup key = if key = entry.1 then some entry.2 else rest.lookup key := by
  obtain ⟨k, v⟩ := entry
  rw [List.lookup_cons]
  by_cases h : key = k
  · simp [h]
  · simp [h, beq_false_of_ne h]

/-- A map whose entries stand in the order in which their keys were first inserted. -/
structure OrderedMap (κ α : Type) where
  entries : List (κ × α)
  nodup_keys : (entries.map Prod.fst).Nodup
  deriving DecidableEq

namespace OrderedMap

variable {κ α : Type}

/-- The map without entries. -/
def empty : OrderedMap κ α := ⟨[], by simp⟩

instance : Inhabited (OrderedMap κ α) := ⟨empty⟩

@[ext] theorem ext {m n : OrderedMap κ α} (h : m.entries = n.entries) : m = n := by
  cases m; cases n; cases h; rfl

/-- The keys, in the order of their first insertion. -/
def keys (m : OrderedMap κ α) : List κ := m.entries.map Prod.fst

/-- The number of keys. -/
def size (m : OrderedMap κ α) : Nat := m.entries.length

/-- The map with every value replaced by its image. -/
def map {β : Type} (f : α → β) (m : OrderedMap κ α) : OrderedMap κ β :=
  ⟨m.entries.map (fun entry => (entry.1, f entry.2)), by
    simpa [Function.comp_def] using m.nodup_keys⟩

variable [DecidableEq κ]

/-- The value at a key. -/
def get? (m : OrderedMap κ α) (key : κ) : Option α := m.entries.lookup key

/-- The value at a key, or a default if the key is absent. -/
def getD (m : OrderedMap κ α) (key : κ) (default : α) : α := (m.get? key).getD default

/-- Whether a key is present. -/
def contains (m : OrderedMap κ α) (key : κ) : Bool := (m.get? key).isSome

/-- The map with a value put at a key. -/
def insert (m : OrderedMap κ α) (key : κ) (value : α) : OrderedMap κ α :=
  ⟨insertEntry key value m.entries, by
    rw [map_fst_insertEntry]
    split
    · exact m.nodup_keys
    · next h =>
      rw [List.nodup_append]
      refine ⟨m.nodup_keys, by simp, ?_⟩
      intro a ha b hb
      rw [List.mem_singleton] at hb
      exact fun hab => h (hb ▸ hab ▸ ha)⟩

/-- The map that inserting these entries one after the other gives: a key keeps the place of its
first entry and the value of its last. -/
def ofList (entries : List (κ × α)) : OrderedMap κ α :=
  entries.foldl (fun m entry => m.insert entry.1 entry.2) empty

theorem keys_insert (m : OrderedMap κ α) (key : κ) (value : α) :
    (m.insert key value).keys = if key ∈ m.keys then m.keys else m.keys ++ [key] :=
  map_fst_insertEntry key value m.entries

theorem get?_insert (m : OrderedMap κ α) (key : κ) (value : α) (other : κ) :
    (m.insert key value).get? other = if other = key then some value else m.get? other := by
  simp only [get?, insert]
  induction m.entries with
  | nil => simp only [insertEntry, lookup_cons_ite, List.lookup_nil]
  | cons entry rest ih =>
    obtain ⟨k, v⟩ := entry
    by_cases hk : k = key
    · subst hk
      simp only [insertEntry, if_true, lookup_cons_ite]
      split <;> rfl
    · simp only [insertEntry, if_neg hk, lookup_cons_ite, ih]
      by_cases h : other = k
      · simp [h, hk]
      · simp [h]

end OrderedMap

end Retrieval
