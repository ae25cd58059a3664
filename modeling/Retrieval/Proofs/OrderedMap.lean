import Retrieval.OrderedMap
import Retrieval.Proofs.FirstSeen

set_option autoImplicit false

/-! # Laws of ordered maps

What an ordered map holds is read off its keys and off the value at each key. Here both are said of
the maps that the library makes: a list of entries inserted one after the other, and the map that
numbers the elements of a list from zero (`OrderedMap.numbering`). -/

namespace Retrieval

variable {κ α β : Type}

/-! ## Entries -/

section Entries

variable [DecidableEq κ]

theorem lookup_eq_some_iff_mem {entries : List (κ × α)} (h : (entries.map Prod.fst).Nodup) (key : κ)
    (value : α) : entries.lookup key = some value ↔ (key, value) ∈ entries := by
  induction entries with
  | nil => simp
  | cons entry rest ih =>
    obtain ⟨k, v⟩ := entry
    rw [List.map_cons, List.nodup_cons] at h
    obtain ⟨hk, hrest⟩ := h
    rw [lookup_cons_ite, List.mem_cons]
    by_cases hkey : key = k
    · have hnot : (key, value) ∉ rest := fun hm => hk (List.mem_map.2 ⟨_, hm, hkey⟩)
      simp [hkey, hkey ▸ hnot, eq_comm]
    · simp [hkey, ih hrest]

theorem lookup_eq_none_iff_not_mem {entries : List (κ × α)} {key : κ} :
    entries.lookup key = none ↔ key ∉ entries.map Prod.fst := by
  rw [List.lookup_eq_none_iff, List.mem_map]
  constructor
  · rintro h ⟨entry, hentry, rfl⟩
    simpa using h entry hentry
  · intro h entry hentry
    simpa using fun hkey : key = entry.1 => h ⟨entry, hentry, hkey.symm⟩

theorem insertEntry_of_not_mem {key : κ} {entries : List (κ × α)}
    (h : key ∉ entries.map Prod.fst) (value : α) :
    insertEntry key value entries = entries ++ [(key, value)] := by
  induction entries with
  | nil => rfl
  | cons entry rest ih =>
    rw [List.map_cons, List.mem_cons, not_or] at h
    rw [insertEntry, if_neg (Ne.symm h.1), ih h.2]
    rfl

theorem mem_insertEntry {key : κ} {value : α} {entries : List (κ × α)} {entry : κ × α}
    (h : entry ∈ insertEntry key value entries) : entry = (key, value) ∨ entry ∈ entries := by
  induction entries with
  | nil => exact Or.inl (List.mem_singleton.1 h)
  | cons first rest ih =>
    rw [insertEntry] at h
    split at h
    · rcases List.mem_cons.1 h with rfl | h
      · exact Or.inl rfl
      · exact Or.inr (List.mem_cons_of_mem first h)
    · rcases List.mem_cons.1 h with rfl | h
      · exact Or.inr List.mem_cons_self
      · exact (ih h).imp id (List.mem_cons_of_mem first)

end Entries

namespace OrderedMap

theorem nodup_entries (m : OrderedMap κ α) : m.entries.Nodup :=
  List.Pairwise.of_map Prod.fst (fun _ _ hne heq => hne (congrArg Prod.fst heq)) m.nodup_keys

/-! ## Looking up -/

section Lookup

variable [DecidableEq κ]

theorem get?_eq_some_iff {m : OrderedMap κ α} {key : κ} {value : α} :
    m.get? key = some value ↔ (key, value) ∈ m.entries :=
  lookup_eq_some_iff_mem m.nodup_keys key value

theorem get?_eq_none_iff {m : OrderedMap κ α} {key : κ} : m.get? key = none ↔ key ∉ m.keys :=
  lookup_eq_none_iff_not_mem

/-- Maps that give the same value for every key differ in the order of their entries alone. -/
theorem entries_perm_of_get?_eq {m n : OrderedMap κ α} (h : ∀ key, m.get? key = n.get? key) :
    m.entries.Perm n.entries := by
  rw [List.perm_ext_iff_of_nodup m.nodup_entries n.nodup_entries]
  rintro ⟨key, value⟩
  rw [← get?_eq_some_iff, ← get?_eq_some_iff, h]

/-- A value is what `getD` gives wherever there is a key. -/
theorem get?_eq_ite_getD (m : OrderedMap κ α) (key : κ) (default : α) :
    m.get? key = if key ∈ m.keys then some (m.getD key default) else none := by
  by_cases hkey : key ∈ m.keys
  · rw [if_pos hkey, getD]
    cases hget : m.get? key with
    | none => exact absurd hkey (get?_eq_none_iff.1 hget)
    | some value => rfl
  · rw [if_neg hkey]
    exact get?_eq_none_iff.2 hkey

/-- A map is its keys in order, each with the value at it. -/
theorem entries_eq_map_keys (m : OrderedMap κ α) (default : α) :
    m.entries = m.keys.map fun key => (key, m.getD key default) := by
  rw [keys, List.map_map]
  refine (List.map_id _).symm.trans (List.map_congr_left fun entry hentry => ?_)
  have hget : m.get? entry.1 = some entry.2 := get?_eq_some_iff.2 hentry
  simp [getD, hget]

theorem keys_insert_eq_see (m : OrderedMap κ α) (key : κ) (value : α) :
    (m.insert key value).keys = see m.keys key :=
  keys_insert m key value

/-! ## Inserting a list of entries -/

theorem entries_insert_of_not_mem {m : OrderedMap κ α} {key : κ} (h : key ∉ m.keys) (value : α) :
    (m.insert key value).entries = m.entries ++ [(key, value)] :=
  insertEntry_of_not_mem h value

theorem entries_foldl_insert (m : OrderedMap κ α) (entries : List (κ × α))
    (h : ((m.entries ++ entries).map Prod.fst).Nodup) :
    (entries.foldl (fun m entry => m.insert entry.1 entry.2) m).entries = m.entries ++ entries := by
  induction entries generalizing m with
  | nil => simp
  | cons entry rest ih =>
    have hnew : entry.1 ∉ m.keys := by
      rw [List.map_append, List.nodup_append] at h
      exact fun hm => h.2.2 _ hm _ List.mem_cons_self rfl
    have hstep : (m.insert entry.1 entry.2).entries = m.entries ++ [entry] :=
      entries_insert_of_not_mem hnew entry.2
    rw [List.foldl_cons, ih _ (by rw [hstep]; simpa using h), hstep, List.append_assoc]
    rfl

/-- Entries with different keys are kept as they are. -/
theorem entries_ofList {entries : List (κ × α)} (h : (entries.map Prod.fst).Nodup) :
    (ofList entries).entries = entries :=
  entries_foldl_insert empty entries h

theorem keys_foldl_insert (m : OrderedMap κ α) (entries : List (κ × α)) :
    (entries.foldl (fun m entry => m.insert entry.1 entry.2) m).keys =
      (entries.map Prod.fst).foldl see m.keys := by
  induction entries generalizing m with
  | nil => rfl
  | cons entry rest ih =>
    rw [List.foldl_cons, ih, keys_insert_eq_see, List.map_cons, List.foldl_cons]

/-- The keys of a map made of a list are those of the list, each at its first place. -/
theorem keys_ofList (entries : List (κ × α)) :
    (ofList entries).keys = (entries.map Prod.fst).eraseDups := by
  rw [ofList, keys_foldl_insert, ← foldl_see_nil]
  rfl

theorem get?_foldl_insert (m : OrderedMap κ α) (entries : List (κ × α)) (key : κ) :
    (entries.foldl (fun m entry => m.insert entry.1 entry.2) m).get? key =
      (entries.reverse.lookup key).or (m.get? key) := by
  induction entries generalizing m with
  | nil => rfl
  | cons entry rest ih =>
    rw [List.foldl_cons, ih, get?_insert, List.reverse_cons, List.lookup_append, Option.or_assoc,
      lookup_cons_ite, List.lookup_nil]
    split <;> simp

/-- The value at a key is that of the last entry with this key. -/
theorem get?_ofList_of_last {before after : List (κ × α)} {key : κ} {value : α}
    (h : key ∉ after.map Prod.fst) :
    (ofList (before ++ (key, value) :: after)).get? key = some value := by
  have hafter : after.reverse.lookup key = none := by
    rw [lookup_eq_none_iff_not_mem, List.map_reverse, List.mem_reverse]
    exact h
  rw [ofList, get?_foldl_insert, List.reverse_append, List.reverse_cons, List.append_assoc,
    List.lookup_append, hafter, Option.none_or, List.singleton_append, lookup_cons_ite, if_pos rfl,
    Option.some_or]

theorem mem_entries_foldl_insert {m : OrderedMap κ α} {entries : List (κ × α)} {entry : κ × α}
    (h : entry ∈ (entries.foldl (fun m entry => m.insert entry.1 entry.2) m).entries) :
    entry ∈ m.entries ∨ entry ∈ entries := by
  induction entries generalizing m with
  | nil => exact Or.inl h
  | cons first rest ih =>
    rw [List.foldl_cons] at h
    rcases ih h with h | h
    · rcases mem_insertEntry h with rfl | h
      · exact Or.inr List.mem_cons_self
      · exact Or.inl h
    · exact Or.inr (List.mem_cons_of_mem first h)

/-- Whatever a map made of a list holds stands in the list. -/
theorem mem_of_mem_entries_ofList {entries : List (κ × α)} {entry : κ × α}
    (h : entry ∈ (ofList entries).entries) : entry ∈ entries :=
  (mem_entries_foldl_insert h).resolve_left List.not_mem_nil

end Lookup

/-! ## Replacing the values -/

theorem keys_map (f : α → β) (m : OrderedMap κ α) : (m.map f).keys = m.keys := by
  simp [keys, map]

/-! ## Numbering a list -/

theorem map_fst_mapIdx (xs : List α) :
    (xs.mapIdx fun i x => ((i : Int), x)).map Prod.fst =
      (List.range xs.length).map fun i : Nat => (i : Int) := by
  apply List.ext_getElem <;> simp

theorem nodup_map_range (n : Nat) : ((List.range n).map fun i : Nat => (i : Int)).Nodup :=
  List.pairwise_map.2 (List.nodup_range.imp fun h => by omega)

/-- The map from positions to the elements of a list. -/
def numbering (xs : List α) : OrderedMap Int α where
  entries := xs.mapIdx fun i x => ((i : Int), x)
  nodup_keys := map_fst_mapIdx xs ▸ nodup_map_range xs.length

theorem ofList_mapIdx (xs : List α) : ofList (xs.mapIdx fun i x => ((i : Int), x)) = numbering xs :=
  ext (entries_ofList (numbering xs).nodup_keys)

/-- The keys of a numbering are the positions. -/
theorem keys_numbering (xs : List α) :
    (numbering xs).keys = (List.range xs.length).map fun i : Nat => (i : Int) :=
  map_fst_mapIdx xs

theorem get?_numbering (xs : List α) (position : Int) :
    (numbering xs).get? position = if 0 ≤ position then xs[position.toNat]? else none := by
  ext value
  rw [get?_eq_some_iff, numbering, List.mem_mapIdx]
  constructor
  · rintro ⟨i, hi, h⟩
    cases h
    simp [hi]
  · intro h
    split at h
    · next hpos =>
      obtain ⟨hi, hv⟩ := List.getElem?_eq_some_iff.1 h
      exact ⟨position.toNat, hi, by simp [hv, Int.toNat_of_nonneg hpos]⟩
    · simp at h

theorem map_numbering (f : α → β) (xs : List α) : (numbering xs).map f = numbering (xs.map f) := by
  apply ext
  apply List.ext_getElem <;> simp [map, numbering]

end OrderedMap

end Retrieval
