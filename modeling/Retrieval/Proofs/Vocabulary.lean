import Mathlib.Data.Finset.Card
import Retrieval.Proofs.OrderedMap

set_option autoImplicit false

/-! # The numbering of a vocabulary

A vocabulary keeps its terms in a list, and the dimension of a term is its place there. The same
numbers come out if a map from terms to numbers is filled one term at a time, and a new term takes
as its number how many terms the map holds at that moment (`enter`): the map is always the
vocabulary with its places written out (`index`), and the flag that is set with the first new term
is what `observe` gives (`foldl_enter_index`).

Only the terms matter and not how they came in lists (`observeAll_eq_addAll`). So a vocabulary that
started empty numbers exactly what it has seen, in the order of first occurrence and without a gap,
and whatever it sees later leaves these numbers as they are (`numbering_of_observeAll`). -/

namespace Retrieval

namespace Vocabulary

/-! ## Numbers given out one at a time -/

/-- The map from the terms to their dimensions. -/
def index (v : Vocabulary) : OrderedMap String Nat where
  entries := v.terms.zipIdx
  nodup_keys := (List.zipIdx_map_fst 0 v.terms).symm ▸ v.nodup

theorem entries_index (v : Vocabulary) : v.index.entries = v.terms.zipIdx := rfl

theorem keys_index (v : Vocabulary) : v.index.keys = v.terms :=
  List.zipIdx_map_fst 0 v.terms

theorem size_index (v : Vocabulary) : v.index.size = v.size :=
  List.length_zipIdx

theorem get?_index (v : Vocabulary) (term : String) : v.index.get? term = v.dimension? term := by
  ext i
  rw [OrderedMap.get?_eq_some_iff, entries_index, List.mk_mem_zipIdx_iff_getElem?,
    dimension?_eq_some_iff]

theorem contains_iff (v : Vocabulary) {term : String} :
    v.contains term = true ↔ term ∈ v.terms := by
  rw [contains, List.contains_iff_mem]

theorem contains_eq_false_iff (v : Vocabulary) {term : String} :
    v.contains term = false ↔ term ∉ v.terms := by
  rw [← v.contains_iff, Bool.not_eq_true]

theorem contains_index (v : Vocabulary) (term : String) :
    v.index.contains term = v.contains term := by
  rw [OrderedMap.contains, get?_index, dimension?, Bool.eq_iff_iff, List.isSome_idxOf?,
    contains_iff]

theorem add_of_mem {v : Vocabulary} {term : String} (h : term ∈ v.terms) : v.add term = v :=
  dif_pos h

theorem index_add_of_not_mem {v : Vocabulary} {term : String} (h : term ∉ v.terms) :
    (v.add term).index = v.index.insert term v.size := by
  have hkey : term ∉ v.index.keys := by rwa [keys_index]
  have hterms : (v.add term).terms = v.terms ++ [term] := by rw [terms_add, if_neg h]
  apply OrderedMap.ext
  calc (v.add term).index.entries = v.terms.zipIdx ++ [(term, v.size)] := by
        rw [entries_index, hterms, List.zipIdx_append, Nat.zero_add]
        rfl
    _ = (v.index.insert term v.size).entries :=
        (OrderedMap.entries_insert_of_not_mem hkey v.size).symm

/-- A term without a number takes the next one, which is how many terms have a number. The flag
tells that there was such a term. -/
def enter (state : Bool × OrderedMap String Nat) (term : String) : Bool × OrderedMap String Nat :=
  if state.2.contains term then state else (true, state.2.insert term state.2.size)

theorem enter_index (grew : Bool) (v : Vocabulary) (term : String) :
    enter (grew, v.index) term = (grew || !v.contains term, (v.add term).index) := by
  rw [enter, contains_index]
  by_cases hterm : term ∈ v.terms
  · simp [v.contains_iff.2 hterm, add_of_mem hterm]
  · simp [v.contains_eq_false_iff.2 hterm, index_add_of_not_mem hterm, size_index]

/-- A term that comes again is not new any more, but then the flag has been set at its first place;
so the flag may be read off the vocabulary as it was before the list. -/
theorem any_contains_add (v : Vocabulary) (term : String) (rest : List String) :
    (!v.contains term || rest.any fun t => !(v.add term).contains t) =
      (term :: rest).any fun t => !v.contains t := by
  by_cases hterm : term ∈ v.terms
  · rw [add_of_mem hterm, List.any_cons]
  · simp [v.contains_eq_false_iff.2 hterm]

theorem foldl_enter_index (grew : Bool) (v : Vocabulary) (terms : List String) :
    terms.foldl enter (grew, v.index) =
      (grew || (v.observe terms).1, (v.observe terms).2.index) := by
  induction terms generalizing grew v with
  | nil => simp [observe, addAll]
  | cons term rest ih =>
    -- the rest is entered into the map of the vocabulary that holds the first term already
    rw [List.foldl_cons, enter_index, ih, observe, observe, Bool.or_assoc, any_contains_add]
    rfl

/-! ## Lists of terms one after the other -/

/-- The vocabulary after several lists of terms have been seen. -/
def observeAll (v : Vocabulary) (lists : List (List String)) : Vocabulary :=
  lists.foldl (fun v terms => (v.observe terms).2) v

theorem addAll_append (v : Vocabulary) (terms others : List String) :
    v.addAll (terms ++ others) = (v.addAll terms).addAll others :=
  List.foldl_append

theorem observeAll_eq_addAll (v : Vocabulary) (lists : List (List String)) :
    v.observeAll lists = v.addAll lists.flatten :=
  List.foldl_flatten.symm

theorem isFirstSeenOrder_addAll (terms : List String) :
    IsFirstSeenOrder terms (empty.addAll terms).terms := by
  rw [isFirstSeenOrder_iff, terms_addAll]
  exact foldl_see_nil terms

/-- The flag says whether the vocabulary has become larger. -/
theorem observe_fst_iff (v : Vocabulary) (terms : List String) :
    (v.observe terms).1 = true ↔ v.size < (v.observe terms).2.size := by
  have hterms : (v.observe terms).2.terms =
      v.terms ++ terms.eraseDups.filter fun term => term ∉ v.terms := by
    rw [observe, terms_addAll, foldl_see_eq_append]
  have hsize : v.size < (v.observe terms).2.size ↔ ∃ term ∈ terms, term ∉ v.terms := by
    rw [size, size, hterms, List.length_append, Nat.lt_add_right_iff_pos,
      List.length_filter_pos_iff]
    simp
  rw [hsize, observe, List.any_eq_true]
  simp [contains]

/-! ## The numbering -/

/-- The vocabulary numbers what has been seen: each term once, from zero and without a gap, in the
order of first occurrence, with the number that it takes when it is entered. -/
structure Numbers (v : Vocabulary) (seen : List String) : Prop where
  nodup : v.terms.Nodup
  order : IsFirstSeenOrder seen v.terms
  dimension_iff : ∀ term i, v.dimension? term = some i ↔ v.terms[i]? = some term
  contains_iff : ∀ term, v.contains term = true ↔ term ∈ seen
  size_eq : v.size = seen.toFinset.card
  entered : ∀ term, (seen.foldl enter (false, .empty)).2.get? term = v.dimension? term

/-- What the vocabulary does with a list of terms: it keeps its numbering and goes on with it. -/
structure GrowsBy (v : Vocabulary) (terms : List String) : Prop where
  terms_prefix : v.terms <+: (v.observe terms).2.terms
  dimension_kept : ∀ term i, v.dimension? term = some i →
    (v.observe terms).2.dimension? term = some i
  flag_iff : (v.observe terms).1 = true ↔ v.size < (v.observe terms).2.size
  entered : terms.foldl enter (false, v.index) = ((v.observe terms).1, (v.observe terms).2.index)

theorem numbers_addAll (seen : List String) : (empty.addAll seen).Numbers seen where
  nodup := (isFirstSeenOrder_addAll seen).nodup
  order := isFirstSeenOrder_addAll seen
  dimension_iff _ _ := dimension?_eq_some_iff _
  contains_iff term := (contains_iff _).trans ((isFirstSeenOrder_addAll seen).mem_iff term)
  size_eq := by
    have hsame : seen.toFinset = (empty.addAll seen).terms.toFinset := by
      ext term
      rw [List.mem_toFinset, List.mem_toFinset, (isFirstSeenOrder_addAll seen).mem_iff]
    rw [hsame, List.toFinset_card_of_nodup (empty.addAll seen).nodup, size]
  entered term := by
    have hfold := foldl_enter_index false empty seen
    rw [← get?_index, show OrderedMap.empty = empty.index from rfl, hfold, observe]

theorem growsBy (v : Vocabulary) (terms : List String) : v.GrowsBy terms where
  terms_prefix := v.terms_prefix_addAll terms
  dimension_kept term i h := by
    obtain ⟨fresh, hterms⟩ := v.terms_prefix_addAll terms
    rw [dimension?_eq_some_iff] at h
    obtain ⟨hi, -⟩ := List.getElem?_eq_some_iff.1 h
    rw [dimension?_eq_some_iff, observe, ← hterms, List.getElem?_append_left hi, h]
  flag_iff := v.observe_fst_iff terms
  entered := by simpa using v.foldl_enter_index false terms

/-- After any lists of terms a vocabulary that started empty numbers what it has seen, keeps these
numbers whatever it sees next, and does not care how a list is cut. -/
theorem numbering_of_observeAll (lists : List (List String)) :
    (empty.observeAll lists).Numbers lists.flatten ∧
      (∀ terms, (empty.observeAll lists).GrowsBy terms) ∧
      ∀ xs ys, (((empty.observeAll lists).observe xs).2.observe ys).2 =
        ((empty.observeAll lists).observe (xs ++ ys)).2 := by
  refine ⟨?_, fun terms => growsBy _ terms, fun xs ys => (addAll_append _ xs ys).symm⟩
  rw [observeAll_eq_addAll]
  exact numbers_addAll lists.flatten

/-- A term that comes again, in the same list or in a later one, keeps its number. -/
example : (empty.observeAll [["the", "cat", "the"], [], ["dog", "cat"]]).terms =
    ["the", "cat", "dog"] := by decide

end Vocabulary

end Retrieval
