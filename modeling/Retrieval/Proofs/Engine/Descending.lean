import Mathlib.Data.List.Chain
import Retrieval.Proofs.Engine.Ties

set_option autoImplicit false

/-! # Similarities do not rise

Among similarities that may be not-a-number the comparison is neither total nor transitive, so a
sort by it need not give an order. What it does give, whatever the comparison is, is that of two
neighbours the second does not come before the first (`isChain_mergeSort`): each was put there by a
comparison with the other, or by a sort of fewer elements. Hence of two neighbouring hits of a
search the second is not more similar than the first (`Engine.isChain_search`). -/

namespace Retrieval

variable {τ : Type}

/-! ## Neighbours in a sorted list -/

section Sorting

variable {α : Type} {le : α → α → Bool} {related : α → α → Prop}

theorem head?_merge {xs ys : List α} {x : α} (h : x ∈ (xs.merge ys le).head?) :
    x ∈ xs.head? ∨ x ∈ ys.head? := by
  cases xs with
  | nil => exact Or.inr (by simpa using h)
  | cons x xs =>
    cases ys with
    | nil => exact Or.inl (by simpa using h)
    | cons y ys =>
      rw [List.cons_merge_cons] at h
      split at h
      · exact Or.inl h
      · exact Or.inr h

theorem isChain_merge (hle : ∀ a b, le a b = true → related a b)
    (hnot : ∀ a b, le a b = false → related b a) {xs ys : List α} (hxs : xs.IsChain related)
    (hys : ys.IsChain related) : (xs.merge ys le).IsChain related := by
  induction xs generalizing ys with
  | nil => simpa using hys
  | cons x xs ihx =>
    induction ys with
    | nil => simpa using hxs
    | cons y ys ihy =>
      rw [List.isChain_cons] at hxs hys
      rw [List.cons_merge_cons]
      split
      · next hxy =>
        refine List.isChain_cons.2 ⟨?_, ihx hxs.2 (List.isChain_cons.2 hys)⟩
        intro z hz
        rcases head?_merge hz with hz | hz
        · exact hxs.1 z hz
        · cases hz
          exact hle x y hxy
      · next hxy =>
        refine List.isChain_cons.2 ⟨?_, ihy hys.2⟩
        intro z hz
        rcases head?_merge hz with hz | hz
        · cases hz
          exact hnot x y (Bool.eq_false_iff.2 hxy)
        · exact hys.1 z hz

/-- Neighbours in a sorted list are related, if each answer of the comparison relates what it
compares in the order in which it puts them. -/
theorem isChain_mergeSort (hle : ∀ a b, le a b = true → related a b)
    (hnot : ∀ a b, le a b = false → related b a) (xs : List α) :
    (xs.mergeSort le).IsChain related := by
  fun_induction List.mergeSort xs le with
  | case1 => exact .nil
  | case2 _ a => exact .singleton a
  | case3 a b xs le halves _ _ ihleft ihright =>
    exact isChain_merge hle hnot (ihleft hle hnot) (ihright hle hnot)

end Sorting

/-! ## Neighbours in a ranking -/

theorem Binary64.not_lt_of_le {x y : Binary64} (h : y.le x = true) : x.lt y = false := by
  unfold le at h
  unfold lt
  cases hx : x.position <;> cases hy : y.position <;> simp_all

/-- Of two scores that were sorted, the second is not more similar than the first. -/
theorem isChain_sortBySimilarity (scores : List (Int × Binary64)) :
    (sortBySimilarity scores).IsChain fun a b => a.2.lt b.2 = false := by
  refine isChain_mergeSort (fun a b => Binary64.not_lt_of_le) ?_ scores
  intro a b hnot
  rw [Bool.eq_false_iff] at hnot ⊢
  exact mt Binary64.le_of_lt hnot

/-- The hits have the similarities of what was kept, in the same order. -/
theorem similarities_of_kept {textOf : Int → Except Error τ} {kept : List (Int × Binary64)}
    {hits : List (Hit τ)} (h : (kept.mapM fun entry => do
      return ({ text := ← textOf entry.1, similarity := entry.2 } : Hit τ)) = .ok hits) :
    hits.map Hit.similarity = kept.map Prod.snd := by
  refine map_eq_map_of_mapM_eq_ok h ?_
  intro entry hit hhit
  obtain ⟨text, -, rfl⟩ := map_eq_ok_iff.1 hhit
  rfl

theorem isChain_rank {query : List Number} {vectors : OrderedMap Int (List Number)}
    {textOf : Int → Except Error τ} {limit : Limit} {hits : List (Hit τ)}
    (h : rank query vectors textOf limit = .ok hits) :
    hits.IsChain fun a b => a.similarity.lt b.similarity = false := by
  rcases rank_ok_cases h with rfl | ⟨scores, kept, -, hcut, hread⟩
  · exact .nil
  · obtain ⟨rest, hrest⟩ := Limit.prefix_of_cut hcut
    have hsorted := isChain_sortBySimilarity scores
    rw [← hrest] at hsorted
    have hsimilarities : (hits.map Hit.similarity).IsChain fun x y => x.lt y = false := by
      rw [similarities_of_kept hread]
      exact (List.isChain_map _).2 hsorted.left_of_append
    exact (List.isChain_map _).1 hsimilarities

namespace Engine

/-- Of two neighbouring hits of a search, the second is not more similar than the first. -/
theorem isChain_search {engine : Engine τ} {query : τ} {limit : Limit} {hits : List (Hit τ)}
    (h : (engine.search query limit).1 = .ok hits) :
    hits.IsChain fun a b => a.similarity.lt b.similarity = false := by
  by_cases hne : hits = []
  · rw [hne]
    exact .nil
  · obtain ⟨v, after, hranks⟩ := exists_ranks_of_hits h hne
    rw [hranks.search_eq] at h
    exact isChain_rank h

end Engine

end Retrieval
