import Mathlib.Control.Monad.Basic
import Retrieval.Proofs.Binary64
import Retrieval.Proofs.Ranking

set_option autoImplicit false

/-! # The order of a ranking

A ranking goes through the vectors in the order of their ids and then sorts by falling similarity.
The sort is stable, so what it makes of a list is the order by similarity in which ties keep the
order that the list had (`pairwise_mergeSort_of_pairwise`); here this is the order of the ids. Hence
the ranking is the one arrangement of all ids in which each comes before the next by `Precedes`
(`rank_sorted`), and a limit cuts it at the end.

A sort is determined by its comparison only if that is total and transitive, which the comparison of
doubles is as long as none of them is not-a-number. -/

namespace Retrieval

variable {τ : Type}

/-! ## The order of doubles -/

namespace Binary64

/-- The place of a double in the order, with not-a-number below all others. -/
def height (x : Binary64) : ExtendedInt := x.position.getD .bottom

theorem position_eq_height {x : Binary64} (h : x ≠ nan) : x.position = some x.height := by
  cases x with
  | nan => exact absurd rfl h
  | infinite negative => rfl
  | finite negative units grid => rfl

theorem le_eq_not_lt_height {x y : Binary64} (hx : x ≠ nan) (hy : y ≠ nan) :
    x.le y = !y.height.lt x.height := by
  simp only [le, position_eq_height hx, position_eq_height hy]

theorem lt_eq_lt_height {x y : Binary64} (hx : x ≠ nan) (hy : y ≠ nan) :
    x.lt y = x.height.lt y.height := by
  simp only [lt, position_eq_height hx, position_eq_height hy]

theorem lt_irrefl (x : Binary64) : x.lt x = false := by
  rw [lt]
  cases x.position with
  | none => rfl
  | some p => exact p.lt_irrefl

theorem le_of_lt {x y : Binary64} (h : x.lt y = true) : x.le y = true := by
  unfold lt at h
  unfold le
  split at h
  · simp only [ExtendedInt.lt_asymm h, Bool.not_false]
  · cases h

/-- Of two numbers, one is less or they are equal. -/
theorem lt_eq_not_le {x y : Binary64} (hx : x ≠ nan) (hy : y ≠ nan) : x.lt y = !y.le x := by
  rw [lt_eq_lt_height hx hy, le_eq_not_lt_height hy hx, Bool.not_not]

end Binary64

/-! ## Stable sorts -/

/-- A stable sort puts a list in order and keeps what held between the elements of a tie. -/
theorem pairwise_mergeSort_of_pairwise {α : Type} {le : α → α → Bool} {related : α → α → Prop}
    (trans : ∀ a b c, le a b = true → le b c = true → le a c = true)
    (total : ∀ a b, (le a b || le b a) = true) {xs : List α} (h : xs.Pairwise related) :
    (xs.mergeSort le).Pairwise fun a b => le a b = true ∧ (le b a = true → related a b) := by
  -- sort the elements together with their positions, which decide between the elements of a tie
  have hsorted := List.pairwise_mergeSort (List.zipIdxLE_trans trans)
    (List.zipIdxLE_total total) xs.zipIdx
  have hdistinct : (xs.zipIdx.mergeSort (List.zipIdxLE le)).Pairwise fun a b => a.2 ≠ b.2 := by
    have hperm := (List.mergeSort_perm xs.zipIdx (List.zipIdxLE le)).map Prod.snd
    refine List.pairwise_map.1 (hperm.nodup_iff.2 ?_)
    rw [List.zipIdx_map_snd]
    exact List.nodup_range'
  rw [← List.mergeSort_zipIdx, List.pairwise_map]
  refine (hsorted.and hdistinct).imp_of_mem ?_
  rintro ⟨a, i⟩ ⟨b, j⟩ ha hb ⟨hle, hne⟩
  simp only [List.zipIdxLE] at hle
  obtain ⟨hab, htie⟩ : le a b = true ∧ (le b a = true → i ≤ j) := by
    split at hle
    · next hab => exact ⟨hab, fun hba => by simpa [hba] using hle⟩
    · cases hle
  refine ⟨hab, ?_⟩
  intro hba
  simp only [List.mem_mergeSort, List.mem_zipIdx_iff_getElem?, List.getElem?_eq_some_iff] at ha hb
  obtain ⟨hi, rfl⟩ := ha
  obtain ⟨hj, rfl⟩ := hb
  exact List.pairwise_iff_getElem.1 h i j hi hj (Nat.lt_of_le_of_ne (htie hba) hne)

/-! ## Ids in the order of their ranking -/

/-- Whether an id stands before another in a ranking: its similarity is greater, or the two are
equal and it is the smaller id. -/
def Precedes (similarity : Int → Binary64) (a b : Int) : Prop :=
  (similarity b).lt (similarity a) = true ∨
    ((similarity a).le (similarity b) = true ∧ (similarity b).le (similarity a) = true ∧ a < b)

instance (similarity : Int → Binary64) (a b : Int) : Decidable (Precedes similarity a b) :=
  inferInstanceAs (Decidable (_ ∨ _))

/-- Whether an id has at least the similarity of another, as a comparison that is total also where
a similarity is not-a-number. -/
def atLeast (similarity : Int → Binary64) (a b : Int) : Bool :=
  !(similarity a).height.lt (similarity b).height

theorem atLeast_trans (similarity : Int → Binary64) (a b c : Int)
    (hab : atLeast similarity a b = true) (hbc : atLeast similarity b c = true) :
    atLeast similarity a c = true := by
  simp only [atLeast, Bool.not_eq_true'] at hab hbc ⊢
  exact ExtendedInt.not_lt_trans hbc hab

theorem atLeast_total (similarity : Int → Binary64) (a b : Int) :
    (atLeast similarity a b || atLeast similarity b a) = true := by
  cases h : (similarity a).height.lt (similarity b).height with
  | false => simp [atLeast, h]
  | true => simp [atLeast, ExtendedInt.lt_asymm h]

/-- Ids in rising order. -/
def sortedIds (ids : List Int) : List Int := ids.mergeSort fun a b => decide (a ≤ b)

theorem sortedIds_perm (ids : List Int) : (sortedIds ids).Perm ids := List.mergeSort_perm _ _

theorem pairwise_sortedIds (ids : List Int) : (sortedIds ids).Pairwise (· ≤ ·) := by
  have hsorted : (sortedIds ids).Pairwise fun a b => decide (a ≤ b) = true := by
    apply List.pairwise_mergeSort
    · intro a b c hab hbc
      simp only [decide_eq_true_eq] at hab hbc ⊢
      omega
    · intro a b
      simp only [Bool.or_eq_true, decide_eq_true_eq]
      omega
  exact hsorted.imp fun h => of_decide_eq_true h

/-- The ids by falling similarity, and by rising id where similarities are equal. -/
def rankedIds (similarity : Int → Binary64) (ids : List Int) : List Int :=
  (sortedIds ids).mergeSort (atLeast similarity)

theorem rankedIds_perm (similarity : Int → Binary64) (ids : List Int) :
    (rankedIds similarity ids).Perm ids :=
  (List.mergeSort_perm _ _).trans (sortedIds_perm ids)

/-- The order in which the ids come does not matter. -/
theorem rankedIds_of_perm (similarity : Int → Binary64) {ids others : List Int}
    (h : ids.Perm others) : rankedIds similarity ids = rankedIds similarity others := by
  have hperm : (sortedIds ids).Perm (sortedIds others) :=
    (sortedIds_perm ids).trans (h.trans (sortedIds_perm others).symm)
  have hsorted : sortedIds ids = sortedIds others :=
    hperm.eq_of_pairwise (fun _ _ _ _ hab hba => Int.le_antisymm hab hba)
      (pairwise_sortedIds ids) (pairwise_sortedIds others)
  rw [rankedIds, rankedIds, hsorted]

theorem pairwise_precedes_rankedIds {similarity : Int → Binary64} {ids : List Int}
    (hnodup : ids.Nodup) (hnan : ∀ id ∈ ids, similarity id ≠ .nan) :
    (rankedIds similarity ids).Pairwise (Precedes similarity) := by
  have hids : (sortedIds ids).Pairwise (· < ·) := by
    have hdistinct := (sortedIds_perm ids).nodup_iff.2 hnodup
    exact ((pairwise_sortedIds ids).and hdistinct).imp fun h => Int.lt_iff_le_and_ne.2 h
  have hranked := pairwise_mergeSort_of_pairwise (atLeast_trans similarity)
    (atLeast_total similarity) hids
  refine hranked.imp_of_mem ?_
  intro a b ha hb hab
  have ha := hnan a ((rankedIds_perm similarity ids).mem_iff.1 ha)
  have hb := hnan b ((rankedIds_perm similarity ids).mem_iff.1 hb)
  obtain ⟨hle, htie⟩ := hab
  rw [atLeast, ← Binary64.le_eq_not_lt_height hb ha] at hle
  rw [atLeast, ← Binary64.le_eq_not_lt_height ha hb] at htie
  cases h : (similarity a).le (similarity b) with
  | true => exact Or.inr ⟨h, hle, htie h⟩
  | false => exact Or.inl (by rw [Binary64.lt_eq_not_le hb ha, h]; rfl)

/-- Along a ranking the similarities do not rise. -/
theorem Precedes.le {similarity : Int → Binary64} {a b : Int} (h : Precedes similarity a b) :
    (similarity b).le (similarity a) = true := by
  rcases h with hlt | ⟨-, hle, -⟩
  · exact Binary64.le_of_lt hlt
  · exact hle

/-! ## The ranking of a map -/

theorem Limit.cut_map {α β : Type} (f : α → β) (hits : List α) (limit : Limit) :
    limit.cut (hits.map f) = List.map f <$> limit.cut hits := by
  cases limit with
  | unbounded => rfl
  | count n => exact congrArg Except.ok List.map_take.symm
  | real x => rfl
  | unordered kind => rfl

section Map

variable {query : List Number} {vectors : OrderedMap Int (List Number)}
  {textOf : Int → Except Error τ} {similarity : Int → Binary64} {text : Int → τ}

/-- The scores of the vectors stand in the order of their ids. -/
theorem score_eq_ok
    (hcosine : ∀ entry ∈ vectors.entries, cosine query entry.2 = .ok (similarity entry.1)) :
    score query vectors = .ok ((sortedIds vectors.keys).map fun id => (id, similarity id)) := by
  have hkeys : sortedIds vectors.keys =
      (vectors.entries.mergeSort fun a b => decide (a.1 ≤ b.1)).map Prod.fst :=
    (List.map_mergeSort (f := Prod.fst) fun _ _ _ _ => rfl).symm
  rw [hkeys, List.map_map]
  refine mapM_eq_ok_iff.2 ?_
  rw [List.map_map]
  refine List.map_congr_left ?_
  intro entry hentry
  rw [hcosine entry (List.mem_mergeSort.1 hentry)]
  rfl

theorem sortBySimilarity_scores {ids : List Int} (hnan : ∀ id ∈ ids, similarity id ≠ .nan) :
    sortBySimilarity (ids.map fun id => (id, similarity id)) =
      (ids.mergeSort (atLeast similarity)).map fun id => (id, similarity id) := by
  refine (List.map_mergeSort ?_).symm
  intro a ha b hb
  exact (Binary64.le_eq_not_lt_height (hnan b hb) (hnan a ha)).symm

/-- The hit of an id. -/
def hitOf (text : Int → τ) (similarity : Int → Binary64) (id : Int) : Hit τ :=
  { text := text id, similarity := similarity id }

/-- The hit of an id, with the text that is read for it. -/
def readHit (textOf : Int → Except Error τ) (similarity : Int → Binary64) (id : Int) :
    Except Error (Hit τ) := do
  return { text := ← textOf id, similarity := similarity id }

theorem mapM_readHit {ids : List Int} (h : ∀ id ∈ ids, textOf id = .ok (text id)) :
    ids.mapM (readHit textOf similarity) = .ok (ids.map (hitOf text similarity)) := by
  refine mapM_eq_ok_iff.2 ?_
  rw [List.map_map]
  refine List.map_congr_left ?_
  intro id hid
  rw [readHit, h id hid]
  rfl

/-- A ranking puts the ids in order, cuts, and then reads in this order. -/
theorem rank_eq_mapM_readHit
    (hcosine : ∀ entry ∈ vectors.entries, cosine query entry.2 = .ok (similarity entry.1))
    (hnan : ∀ id ∈ vectors.keys, similarity id ≠ .nan) (textOf : Int → Except Error τ)
    (limit : Limit) :
    rank query vectors textOf limit = (do
      if ← limit.excludesAll then return []
      (← limit.cut (rankedIds similarity vectors.keys)).mapM (readHit textOf similarity)) := by
  have hsorted : ∀ id ∈ sortedIds vectors.keys, similarity id ≠ .nan :=
    fun id hid => hnan id ((sortedIds_perm vectors.keys).mem_iff.1 hid)
  unfold rank
  rw [score_eq_ok hcosine, mapError_ok, ok_bind, sortBySimilarity_scores hsorted, Limit.cut_map,
    ← rankedIds]
  congr 1
  funext excluded
  cases limit.cut (rankedIds similarity vectors.keys) with
  | error error => rfl
  | ok kept =>
    rw [map_ok, ok_bind, List.mapM_map]
    rfl

theorem rank_eq
    (hcosine : ∀ entry ∈ vectors.entries, cosine query entry.2 = .ok (similarity entry.1))
    (hnan : ∀ id ∈ vectors.keys, similarity id ≠ .nan)
    (htext : ∀ id ∈ vectors.keys, textOf id = .ok (text id)) (limit : Limit) :
    rank query vectors textOf limit = (do
      if ← limit.excludesAll then return []
      return (← limit.cut (rankedIds similarity vectors.keys)).map (hitOf text similarity)) := by
  rw [rank_eq_mapM_readHit hcosine hnan]
  congr 1
  funext excluded
  cases hcut : limit.cut (rankedIds similarity vectors.keys) with
  | error error => rfl
  | ok kept =>
    have hkept : ∀ id ∈ kept, textOf id = .ok (text id) := by
      intro id hid
      have hranked := Limit.mem_of_cut hcut hid
      exact htext id ((rankedIds_perm similarity vectors.keys).mem_iff.1 hranked)
    rw [ok_bind, ok_bind, mapM_readHit hkept]
    rfl

/-- A ranking without a limit is the one arrangement of all ids by `Precedes`, whatever the order in
which the map got them. A positive limit keeps the first of them, so that whatever is kept stands
before whatever is not; a limit that is not positive keeps nothing. -/
theorem rank_sorted
    (hcosine : ∀ entry ∈ vectors.entries, cosine query entry.2 = .ok (similarity entry.1))
    (hnan : ∀ id ∈ vectors.keys, similarity id ≠ .nan)
    (htext : ∀ id ∈ vectors.keys, textOf id = .ok (text id)) :
    ∃ ranked : List Int,
      ranked.Perm vectors.keys ∧ ranked.Nodup ∧ ranked.Pairwise (Precedes similarity) ∧
      ranked.Pairwise (fun a b => (similarity b).le (similarity a) = true) ∧
      rank query vectors textOf .unbounded = .ok (ranked.map (hitOf text similarity)) ∧
      (∀ k : Int, 1 ≤ k →
        rank query vectors textOf (.count k) =
          .ok ((ranked.take (min k.toNat vectors.size)).map (hitOf text similarity)) ∧
        ∀ kept ∈ ranked.take (min k.toNat vectors.size),
          ∀ omitted ∈ ranked.drop (min k.toNat vectors.size), Precedes similarity kept omitted) ∧
      (∀ k : Int, k ≤ 0 → rank query vectors textOf (.count k) = .ok []) ∧
      ∀ (other : OrderedMap Int (List Number)) (limit : Limit),
        other.entries.Perm vectors.entries →
          rank query other textOf limit = rank query vectors textOf limit := by
  have hrank := rank_eq hcosine hnan htext
  have hperm := rankedIds_perm similarity vectors.keys
  have hpairwise : (rankedIds similarity vectors.keys).Pairwise (Precedes similarity) :=
    pairwise_precedes_rankedIds vectors.nodup_keys hnan
  have hlength : (rankedIds similarity vectors.keys).length = vectors.size := by
    rw [hperm.length_eq, OrderedMap.keys, List.length_map, OrderedMap.size]
  refine ⟨rankedIds similarity vectors.keys, hperm, hperm.nodup_iff.2 vectors.nodup_keys, hpairwise,
    hpairwise.imp Precedes.le, hrank .unbounded, ?_, ?_, ?_⟩
  · intro k hk
    constructor
    · have hnot : ¬ k ≤ 0 := by omega
      rw [hrank, ← hlength, ← List.take_eq_take_min]
      simp [Limit.excludesAll, Limit.cut, hnot]
    · rw [← List.take_append_drop (min k.toNat vectors.size) (rankedIds similarity vectors.keys),
        List.pairwise_append] at hpairwise
      exact hpairwise.2.2
  · intro k hk
    simp [hrank, Limit.excludesAll, hk]
  · intro other limit hother
    have hkeys : other.keys.Perm vectors.keys := hother.map Prod.fst
    rw [hrank, rank_eq (fun entry hentry => hcosine entry (hother.mem_iff.1 hentry))
      (fun id hid => hnan id (hkeys.mem_iff.1 hid)) (fun id hid => htext id (hkeys.mem_iff.1 hid)),
      rankedIds_of_perm similarity hkeys]

end Map

/-- Two vectors that are equally similar to the first axis, with the greater id first, and before
them one that is not similar to it. -/
def firstAxisTwice : OrderedMap Int (List Number) :=
  .ofList [(7, [.double .zero, .double .one]), (4, [.double .one, .double .zero]),
    (2, [.double .one, .double .zero])]

theorem rank_firstAxisTwice :
    ∃ ranked : List Int,
      ranked.Perm firstAxisTwice.keys ∧
      ranked.Pairwise (Precedes fun id => if id = 7 then .zero else .one) ∧
      rank [.double .one, .double .zero] firstAxisTwice .ok .unbounded =
        .ok (ranked.map (hitOf id fun id => if id = 7 then .zero else .one)) ∧
      rank [.double .one, .double .zero] firstAxisTwice .ok (.count 2) =
        .ok ((ranked.take 2).map (hitOf id fun id => if id = 7 then .zero else .one)) ∧
      rank [.double .one, .double .zero] firstAxisTwice .ok (.count (-1)) = .ok [] := by
  have hcosine : ∀ entry ∈ firstAxisTwice.entries,
      cosine [.double .one, .double .zero] entry.2 =
        .ok (if entry.1 = 7 then .zero else .one) := by decide +kernel
  have hnan : ∀ id ∈ firstAxisTwice.keys,
      (if id = 7 then Binary64.zero else Binary64.one) ≠ .nan := by decide +kernel
  obtain ⟨ranked, hperm, -, hpairwise, -, hrank, hcut, hnone, -⟩ :=
    @rank_sorted Int [.double .one, .double .zero] firstAxisTwice .ok
      (fun id => if id = 7 then .zero else .one) id hcosine hnan (fun id hid => rfl)
  exact ⟨ranked, hperm, hpairwise, hrank, (hcut 2 (by decide)).1, hnone (-1) (by decide)⟩

end Retrieval
