import Retrieval.Ranking
import Retrieval.Proofs.OrderedMap
import Retrieval.Proofs.Similarity

set_option autoImplicit false

/-! # What a ranking reads

A ranking reads the texts of hits only, and the ids of hits are keys of the map of vectors. Hence
two ways of reading that agree on these keys give the same ranking (`rank_congr`), and a ranking
fails only because of its limit, of a similarity, or of a text of one of these keys
(`rank_error_cases`). -/

namespace Retrieval

variable {τ : Type}

/-! ## The ids of hits -/

/-- A score is that of the vector at its key. -/
theorem exists_entry_of_score {query : List Number} {vectors : OrderedMap Int (List Number)}
    {scores : List (Int × Binary64)} (h : score query vectors = .ok scores) {hit : Int × Binary64}
    (hhit : hit ∈ scores) :
    ∃ entry ∈ vectors.entries, entry.1 = hit.1 ∧ cosine query entry.2 = .ok hit.2 := by
  obtain ⟨entry, hentry, hstep⟩ := exists_mem_of_mapM_eq_ok h hhit
  obtain ⟨similarity, hcosine, rfl⟩ := map_eq_ok_iff.1 hstep
  exact ⟨entry, List.mem_mergeSort.1 hentry, rfl, hcosine⟩

/-- What a limit leaves stands at the beginning. -/
theorem Limit.prefix_of_cut {α : Type} {limit : Limit} {hits kept : List α}
    (h : limit.cut hits = .ok kept) : kept <+: hits := by
  cases limit with
  | unbounded =>
    cases h
    exact List.prefix_rfl
  | count n =>
    cases h
    exact List.take_prefix _ _
  | real x => cases h
  | unordered kind => cases h

theorem Limit.mem_of_cut {α : Type} {limit : Limit} {hits kept : List α}
    (h : limit.cut hits = .ok kept) {hit : α} (hhit : hit ∈ kept) : hit ∈ hits :=
  (prefix_of_cut h).subset hhit

/-- What is kept of the sorted scores belongs to entries of the map. -/
theorem exists_entry_of_kept {query : List Number} {vectors : OrderedMap Int (List Number)}
    {scores kept : List (Int × Binary64)} {limit : Limit}
    (hscore : score query vectors = .ok scores)
    (hcut : limit.cut (sortBySimilarity scores) = .ok kept) {hit : Int × Binary64}
    (hhit : hit ∈ kept) :
    ∃ entry ∈ vectors.entries, entry.1 = hit.1 ∧ cosine query entry.2 = .ok hit.2 := by
  have hsorted : hit ∈ sortBySimilarity scores := Limit.mem_of_cut hcut hhit
  exact exists_entry_of_score hscore (List.mem_mergeSort.1 hsorted)

theorem mem_keys_of_kept {query : List Number} {vectors : OrderedMap Int (List Number)}
    {scores kept : List (Int × Binary64)} {limit : Limit}
    (hscore : score query vectors = .ok scores)
    (hcut : limit.cut (sortBySimilarity scores) = .ok kept) {hit : Int × Binary64}
    (hhit : hit ∈ kept) : hit.1 ∈ vectors.keys := by
  obtain ⟨entry, hentry, hkey, -⟩ := exists_entry_of_kept hscore hcut hhit
  exact hkey ▸ List.mem_map_of_mem hentry

/-! ## Vectors of different lengths -/

theorem length_ne_of_score {query : List Number} {vectors : OrderedMap Int (List Number)}
    {left right : Nat} (h : score query vectors = .error (.mismatch left right)) :
    ∃ entry ∈ vectors.entries, query.length ≠ entry.2.length := by
  obtain ⟨entry, hentry, hstep⟩ := exists_mem_of_mapM_eq_error h
  have hcosine := map_eq_error_iff.1 hstep
  exact ⟨entry, List.mem_mergeSort.1 hentry, (cosine_eq_mismatch_iff.1 hcosine).1⟩

/-! ## Reading the texts of hits -/

/-- Texts that belong to no vector do not matter. -/
theorem rank_congr {query : List Number} {vectors : OrderedMap Int (List Number)}
    {textOf other : Int → Except Error τ} (h : ∀ id ∈ vectors.keys, textOf id = other id)
    (limit : Limit) : rank query vectors textOf limit = rank query vectors other limit := by
  unfold rank
  cases limit.excludesAll with
  | error error => rfl
  | ok excluded =>
    cases hscore : score query vectors with
    | error error => rfl
    | ok scores =>
      cases hcut : limit.cut (sortBySimilarity scores) with
      | error error => simp only [mapError_ok, ok_bind, hcut, error_bind]
      | ok kept =>
        have hkept : ∀ hit ∈ kept, textOf hit.1 = other hit.1 :=
          fun hit hhit => h hit.1 (mem_keys_of_kept hscore hcut hhit)
        have hread : (kept.mapM fun entry => do
              return ({ text := ← textOf entry.1, similarity := entry.2 } : Hit τ)) =
            kept.mapM fun entry => do
              return { text := ← other entry.1, similarity := entry.2 } :=
          mapM_congr fun hit hhit => by rw [hkept hit hhit]
        simp only [mapError_ok, ok_bind, hcut, hread]

/-- A ranking has no hits because of its limit, or its hits are read along what is kept of the
sorted scores. -/
theorem rank_ok_cases {query : List Number} {vectors : OrderedMap Int (List Number)}
    {textOf : Int → Except Error τ} {limit : Limit} {hits : List (Hit τ)}
    (h : rank query vectors textOf limit = .ok hits) :
    hits = [] ∨ ∃ scores kept, score query vectors = .ok scores ∧
      limit.cut (sortBySimilarity scores) = .ok kept ∧
      (kept.mapM fun entry => do
        return ({ text := ← textOf entry.1, similarity := entry.2 } : Hit τ)) = .ok hits := by
  unfold rank at h
  obtain ⟨excluded, -, h⟩ := bind_eq_ok_iff.1 h
  cases excluded with
  | true =>
    cases h
    exact Or.inl rfl
  | false =>
    obtain ⟨scores, hscore, h⟩ := bind_eq_ok_iff.1 h
    obtain ⟨kept, hcut, hread⟩ := bind_eq_ok_iff.1 h
    exact Or.inr ⟨scores, kept, mapError_eq_ok_iff.1 hscore, hcut, hread⟩

/-- Each hit of a ranking has the text of a key and the similarity of the vector at this key. -/
theorem exists_entry_of_rank {query : List Number} {vectors : OrderedMap Int (List Number)}
    {textOf : Int → Except Error τ} {limit : Limit} {hits : List (Hit τ)}
    (h : rank query vectors textOf limit = .ok hits) {hit : Hit τ} (hhit : hit ∈ hits) :
    ∃ entry ∈ vectors.entries,
      textOf entry.1 = .ok hit.text ∧ cosine query entry.2 = .ok hit.similarity := by
  rcases rank_ok_cases h with rfl | ⟨scores, kept, hscore, hcut, hread⟩
  · cases hhit
  · -- a hit is made of what was kept at some place
    obtain ⟨scored, hscored, hstep⟩ := exists_mem_of_mapM_eq_ok hread hhit
    obtain ⟨text, htext, rfl⟩ := map_eq_ok_iff.1 hstep
    obtain ⟨entry, hentry, hkey, hcosine⟩ := exists_entry_of_kept hscore hcut hscored
    exact ⟨entry, hentry, hkey ▸ htext, hcosine⟩

/-- Why a ranking fails. -/
theorem rank_error_cases {query : List Number} {vectors : OrderedMap Int (List Number)}
    {textOf : Int → Except Error τ} {limit : Limit} {error : Error}
    (h : rank query vectors textOf limit = .error error) :
    limit.excludesAll = .error error ∨
    (∃ cause, score query vectors = .error cause ∧ error = cause.toError) ∨
    (∃ scores : List (Int × Binary64), limit.cut scores = .error error) ∨
    (∃ id ∈ vectors.keys, textOf id = .error error) := by
  unfold rank at h
  cases hexcludes : limit.excludesAll with
  | error cause =>
    rw [hexcludes, error_bind] at h
    cases h
    exact Or.inl rfl
  | ok excluded =>
    rw [hexcludes, ok_bind] at h
    cases excluded with
    | true => cases h
    | false =>
      right
      cases hscore : score query vectors with
      | error cause =>
        rw [hscore] at h
        cases h
        exact Or.inl ⟨cause, rfl, rfl⟩
      | ok scores =>
        right
        rw [hscore] at h
        simp only [Bool.false_eq_true, if_false, mapError_ok, ok_bind] at h
        cases hcut : limit.cut (sortBySimilarity scores) with
        | error cause =>
          rw [hcut] at h
          cases h
          exact Or.inl ⟨_, hcut⟩
        | ok kept =>
          right
          rw [hcut, ok_bind] at h
          obtain ⟨hit, hhit, hread⟩ := exists_mem_of_mapM_eq_error h
          exact ⟨hit.1, mem_keys_of_kept hscore hcut hhit, map_eq_error_iff.1 hread⟩

end Retrieval
