import Retrieval.Vocabulary

set_option autoImplicit false

/-! # The order of first occurrence

The keys of an ordered map and the terms of a vocabulary both stand in the order in which they were
first seen. Each grows by one element at a time: a new one goes to the end, a known one changes
nothing (`see`). Seeing a whole list after another one gives the duplicate-free list of both
(`foldl_see_eraseDups`), so that what is maintained step by step is `List.eraseDups` of everything
that came. That is the one list which holds every element once and in which an element stands before
another if its first place among everything that came does (`isFirstSeenOrder_iff`). -/

namespace Retrieval

variable {α : Type} [DecidableEq α]

/-- What has been seen, in order, after one more element. -/
def see (seen : List α) (x : α) : List α := if x ∈ seen then seen else seen ++ [x]

theorem eraseDups_concat (xs : List α) (x : α) : (xs ++ [x]).eraseDups = see xs.eraseDups x := by
  rw [List.eraseDups_append, see]
  by_cases h : x ∈ xs
  · simp [List.removeAll, h]
  · simp [List.removeAll, h, List.eraseDups_cons]

/-- Seeing a list after what has been seen before is the same as going through both at once. -/
theorem foldl_see_eraseDups (before xs : List α) :
    xs.foldl see before.eraseDups = (before ++ xs).eraseDups := by
  induction xs generalizing before with
  | nil => simp
  | cons x rest ih =>
    rw [List.foldl_cons, ← eraseDups_concat, ih, List.append_assoc]
    rfl

theorem foldl_see_nil (xs : List α) : xs.foldl see [] = xs.eraseDups := by
  simpa using foldl_see_eraseDups [] xs

theorem see_append_filter (before fresh : List α) (x : α) :
    see (before ++ fresh.filter fun y => y ∉ before) x =
      before ++ (see fresh x).filter fun y => y ∉ before := by
  by_cases hbefore : x ∈ before
  · by_cases hfresh : x ∈ fresh <;> simp [see, hbefore, hfresh]
  · by_cases hfresh : x ∈ fresh <;> simp [see, hbefore, hfresh]

/-- What is new of a list comes behind what was known before, in the order in which it is first seen
in the list. -/
theorem foldl_see_eq_append (before xs : List α) :
    xs.foldl see before = before ++ xs.eraseDups.filter fun x => x ∉ before := by
  have hfold : ∀ fresh, xs.foldl see (before ++ fresh.filter fun x => x ∉ before) =
      before ++ (xs.foldl see fresh).filter fun x => x ∉ before := by
    induction xs with
    | nil => exact fun fresh => rfl
    | cons x rest ih =>
      intro fresh
      rw [List.foldl_cons, see_append_filter, ih, List.foldl_cons]
  simpa [foldl_see_nil] using hfold []

theorem eraseDups_of_nodup {xs : List α} (h : xs.Nodup) : xs.eraseDups = xs := by
  induction xs with
  | nil => rfl
  | cons x rest ih =>
    obtain ⟨hx, hrest⟩ := List.nodup_cons.1 h
    have hkept : rest.filter (fun y => !y == x) = rest := by
      rw [List.filter_eq_self]
      intro y hy
      have hne : y ≠ x := fun hyx => hx (hyx ▸ hy)
      simp [hne]
    rw [List.eraseDups_cons, hkept, ih hrest]

/-- Different elements are seen in their order, those left out that were known before. -/
theorem foldl_see_of_nodup (seen : List α) {xs : List α} (h : xs.Nodup) :
    xs.foldl see seen = seen ++ xs.filter fun x => x ∉ seen := by
  rw [foldl_see_eq_append, eraseDups_of_nodup h]

/-! ## What the order says -/

/-- The list holds what has been seen, and an element stands before another only if it was seen
earlier, so that none stands twice. -/
structure IsFirstSeenOrder (seen order : List α) : Prop where
  mem_iff : ∀ x, x ∈ order ↔ x ∈ seen
  ordered : order.Pairwise fun x y => seen.idxOf x < seen.idxOf y

namespace IsFirstSeenOrder

variable {seen order other : List α}

theorem nodup (h : IsFirstSeenOrder seen order) : order.Nodup := by
  refine List.Pairwise.imp (fun {x y} hlt heq => ?_) h.ordered
  rw [heq] at hlt
  exact Nat.lt_irrefl _ hlt

theorem unique (h : IsFirstSeenOrder seen order) (h' : IsFirstSeenOrder seen other) :
    order = other := by
  have hperm : order.Perm other := (List.perm_ext_iff_of_nodup h.nodup h'.nodup).2 fun x =>
    (h.mem_iff x).trans (h'.mem_iff x).symm
  exact hperm.eq_of_pairwise (fun _ _ _ _ hxy hyx => absurd hxy (Nat.lt_asymm hyx)) h.ordered
    h'.ordered

/-- What is seen later does not change the first places of what was seen before. -/
theorem concat (h : IsFirstSeenOrder seen order) (x : α) :
    IsFirstSeenOrder (seen ++ [x]) (see order x) := by
  have hplace : ∀ y ∈ order, (seen ++ [x]).idxOf y = seen.idxOf y := by
    intro y hy
    rw [List.idxOf_append, if_pos ((h.mem_iff y).1 hy)]
  have hordered : order.Pairwise fun y z => (seen ++ [x]).idxOf y < (seen ++ [x]).idxOf z := by
    refine h.ordered.imp_of_mem fun {y z} hy hz hlt => ?_
    rwa [hplace y hy, hplace z hz]
  rw [see]
  by_cases hx : x ∈ order
  · rw [if_pos hx]
    refine ⟨fun y => ?_, hordered⟩
    rw [List.mem_append, List.mem_singleton, h.mem_iff]
    exact ⟨Or.inl, fun hy => hy.elim id fun heq => heq ▸ (h.mem_iff x).1 hx⟩
  · rw [if_neg hx]
    refine ⟨fun y => by rw [List.mem_append, List.mem_append, h.mem_iff], ?_⟩
    rw [List.pairwise_append]
    refine ⟨hordered, List.pairwise_singleton _ x, fun y hy z hz => ?_⟩
    rw [List.mem_singleton.1 hz, hplace y hy, List.idxOf_append,
      if_neg fun hseen => hx ((h.mem_iff x).2 hseen)]
    have hlt := List.idxOf_lt_length_of_mem ((h.mem_iff y).1 hy)
    exact Nat.lt_of_lt_of_le hlt (Nat.le_add_left _ _)

theorem foldl_see (h : IsFirstSeenOrder seen order) (xs : List α) :
    IsFirstSeenOrder (seen ++ xs) (xs.foldl see order) := by
  induction xs generalizing seen order with
  | nil => simpa using h
  | cons x rest ih => simpa using ih (h.concat x)

end IsFirstSeenOrder

theorem isFirstSeenOrder_iff {seen order : List α} :
    IsFirstSeenOrder seen order ↔ order = seen.eraseDups := by
  have hnil : IsFirstSeenOrder ([] : List α) [] := ⟨fun _ => Iff.rfl, List.Pairwise.nil⟩
  have herase : IsFirstSeenOrder seen seen.eraseDups := by
    simpa [foldl_see_nil] using hnil.foldl_see seen
  exact ⟨fun h => h.unique herase, fun h => h ▸ herase⟩

/-! ## Terms of a vocabulary -/

namespace Vocabulary

/-- The dimension of a term is the place at which it stands, for it stands nowhere else. -/
theorem dimension?_eq_some_iff (v : Vocabulary) {term : String} {i : Nat} :
    v.dimension? term = some i ↔ v.terms[i]? = some term := by
  rw [dimension?, List.idxOf?_eq_some_iff, List.getElem?_eq_some_iff]
  constructor
  · rintro ⟨hi, hterm, -⟩
    exact ⟨hi, hterm⟩
  · rintro ⟨hi, hterm⟩
    refine ⟨hi, hterm, ?_⟩
    intro j hj heq
    have hj' : j < v.terms.length := Nat.lt_trans hj hi
    have hsame : v.terms[j]? = v.terms[i]? := by
      rw [List.getElem?_eq_getElem hj', List.getElem?_eq_getElem hi, heq, hterm]
    exact Nat.ne_of_lt hj ((List.getElem?_inj hj' v.nodup).1 hsame)

theorem terms_addAll (v : Vocabulary) (terms : List String) :
    (v.addAll terms).terms = terms.foldl see v.terms := by
  induction terms generalizing v with
  | nil => rfl
  | cons t rest ih =>
    rw [addAll, List.foldl_cons, ← addAll, ih, terms_add, List.foldl_cons, see]

/-- New terms go behind the known ones, so that no term leaves its place. -/
theorem terms_prefix_addAll (v : Vocabulary) (terms : List String) :
    v.terms <+: (v.addAll terms).terms := by
  rw [terms_addAll, foldl_see_eq_append]
  exact List.prefix_append _ _

theorem size_le_size_addAll (v : Vocabulary) (terms : List String) :
    v.size ≤ (v.addAll terms).size :=
  (v.terms_prefix_addAll terms).length_le

end Vocabulary

end Retrieval
