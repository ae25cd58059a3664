import Retrieval.VectorCache
import Retrieval.Proofs.Weight

set_option autoImplicit false

/-! # Rebuilding the cache

A rebuild makes the vector of every record under the present statistics, at the present size of the
vocabulary. So all vectors in a cache have one length (`VectorCache.FitsIn`), whatever the records
are. If a weight cannot be calculated, nothing is made, and the first such weight is why
(`documentVectors_eq_error_iff`); otherwise each id of a record has the vector of the last record
with this id. Where the records are those of a list of documents, the vectors of the rebuilt cache
are the vectors of the documents, numbered from zero (`documentVectors_ofTokens`). -/

namespace Retrieval

/-! ## Caches whose vectors have one length -/

namespace VectorCache

/-- All vectors have the length that the cache tells, which is at most the given size. -/
structure FitsIn (cache : VectorCache) (size : Nat) : Prop where
  length_eq : ∀ entry ∈ cache.vectors.entries, entry.2.length = cache.dimension
  dimension_le : cache.dimension ≤ size

theorem fitsIn_empty (size : Nat) : FitsIn {} size :=
  ⟨fun _ h => absurd h List.not_mem_nil, Nat.zero_le size⟩

theorem FitsIn.mono {cache : VectorCache} {size larger : Nat} (h : cache.FitsIn size)
    (hle : size ≤ larger) : cache.FitsIn larger :=
  ⟨h.length_eq, Nat.le_trans h.dimension_le hle⟩

theorem FitsIn.markDirty {cache : VectorCache} {size : Nat} (h : cache.FitsIn size) :
    cache.markDirty.FitsIn size :=
  ⟨h.length_eq, h.dimension_le⟩

end VectorCache

/-! ## What a rebuild makes -/

section Vectors

variable {corpus : Corpus} {vocabulary : Vocabulary} {vectors : OrderedMap Int DocumentVector}

theorem mem_documentVectors (h : documentVectors corpus vocabulary = .ok vectors)
    {entry : Int × DocumentVector} (hentry : entry ∈ vectors.entries) :
    ∃ record ∈ corpus.records, record.id = entry.1 ∧
      corpus.statistics.vector vocabulary.terms record.tokens = .ok entry.2 := by
  unfold documentVectors at h
  obtain ⟨entries, hentries, rfl⟩ := map_eq_ok_iff.1 h
  obtain ⟨record, hrecord, hstep⟩ :=
    exists_mem_of_mapM_eq_ok hentries (OrderedMap.mem_of_mem_entries_ofList hentry)
  obtain ⟨v, hv, rfl⟩ := map_eq_ok_iff.1 hstep
  exact ⟨record, hrecord, rfl, hv⟩

/-- The known terms of all records, each with the tokens that it stands in, in the order in which
their weights are calculated. -/
def Corpus.weighed (corpus : Corpus) (vocabulary : Vocabulary) : List (Tokens × String) :=
  corpus.records.flatMap fun record =>
    (record.tokens.terms.filter vocabulary.terms.contains).map (record.tokens, ·)

/-- There are no vectors if a weight cannot be calculated, and the first such weight is why. -/
theorem documentVectors_eq_error_iff {error : ArithmeticError} :
    documentVectors corpus vocabulary = .error error ↔
      FirstFailure (fun held : Tokens × String => corpus.statistics.weight held.1 held.2)
        (corpus.weighed vocabulary) error := by
  have hrecord : ∀ (record : Record) (e : ArithmeticError),
      corpus.statistics.vector vocabulary.terms record.tokens = .error e ↔
        FirstFailure (fun held : Tokens × String => corpus.statistics.weight held.1 held.2)
          ((record.tokens.terms.filter vocabulary.terms.contains).map (record.tokens, ·)) e :=
    fun _ _ => by rw [Statistics.vector_eq_error_iff, firstFailure_map_iff]
  rw [Corpus.weighed, firstFailure_flatMap_iff hrecord, documentVectors]
  exact map_eq_error_iff.trans (mapM_eq_error_iff_firstFailure.trans firstFailure_fmap_iff)

/-- The ids of the vectors are those of the records, each at its first place. -/
theorem keys_of_documentVectors (h : documentVectors corpus vocabulary = .ok vectors) :
    vectors.keys = (corpus.records.map Record.id).eraseDups := by
  unfold documentVectors at h
  obtain ⟨entries, hentries, rfl⟩ := map_eq_ok_iff.1 h
  rw [OrderedMap.keys_ofList, map_fst_of_mapM_eq_ok hentries]

/-- The vector with an id is that of the last record with this id. -/
theorem get?_of_documentVectors (h : documentVectors corpus vocabulary = .ok vectors)
    {before after : List Record} {record : Record}
    (hrecords : corpus.records = before ++ record :: after)
    (hlast : ∀ later ∈ after, later.id ≠ record.id) :
    ∃ v, corpus.statistics.vector vocabulary.terms record.tokens = .ok v ∧
      vectors.get? record.id = some v := by
  unfold documentVectors at h
  obtain ⟨entries, hentries, rfl⟩ := map_eq_ok_iff.1 h
  rw [hrecords, mapM_eq_ok_iff] at hentries
  -- the entries split where the records do
  obtain ⟨first, rest, rfl, -, hrest⟩ := List.append_eq_map_iff.1 (List.map_append ▸ hentries)
  obtain ⟨entry, others, rfl, hentry, hothers⟩ := List.map_eq_cons_iff.1 hrest
  obtain ⟨v, hv, rfl⟩ := map_eq_ok_iff.1 hentry.symm
  refine ⟨v, hv, OrderedMap.get?_ofList_of_last ?_⟩
  rw [map_fst_of_mapM_eq_ok (mapM_eq_ok_iff.2 hothers.symm)]
  intro hmem
  obtain ⟨later, hlater, hid⟩ := List.mem_map.1 hmem
  exact hlast later hlater hid

end Vectors

/-- The vectors of the records of a list of documents are those of the documents, numbered. -/
theorem documentVectors_ofTokens (documents : List Tokens) (vocabulary : Vocabulary) :
    documentVectors (Corpus.ofTokens documents) vocabulary =
      OrderedMap.numbering <$>
        documents.mapM ((Corpus.ofTokens documents).statistics.vector vocabulary.terms) := by
  have hentries := mapM_mapIdx (fun id tokens => ({ id, tokens } : Record))
    ((Corpus.ofTokens documents).statistics.vector vocabulary.terms)
    (fun record => do
      return (record.id,
        ← (Corpus.ofTokens documents).statistics.vector vocabulary.terms record.tokens))
    (fun id v => ((id : Int), v)) (fun _ _ => rfl) documents
  unfold documentVectors
  rw [show (Corpus.ofTokens documents).records =
    documents.mapIdx (fun id tokens => { id, tokens }) from rfl, hentries]
  cases documents.mapM ((Corpus.ofTokens documents).statistics.vector vocabulary.terms) with
  | error e => rfl
  | ok vectors => exact congrArg Except.ok (OrderedMap.ofList_mapIdx vectors)

namespace VectorCache

theorem rebuild_eq_ok_iff {corpus : Corpus} {vocabulary : Vocabulary} {cache : VectorCache} :
    rebuild corpus vocabulary = .ok cache ↔
      documentVectors corpus vocabulary = .ok cache.vectors ∧
        cache.dimension = vocabulary.size ∧ cache.dirty = false := by
  unfold rebuild
  cases documentVectors corpus vocabulary with
  | error e => simp
  | ok vectors =>
    obtain ⟨v, d, s⟩ := cache
    simp [eq_comm]

/-- A rebuilt cache holds vectors as long as the vocabulary. -/
theorem fitsIn_of_rebuild {corpus : Corpus} {vocabulary : Vocabulary} {cache : VectorCache}
    (h : rebuild corpus vocabulary = .ok cache) : cache.FitsIn vocabulary.size := by
  obtain ⟨hvectors, hdimension, -⟩ := rebuild_eq_ok_iff.1 h
  refine ⟨fun entry hentry => ?_, Nat.le_of_eq hdimension⟩
  obtain ⟨record, -, -, hvector⟩ := mem_documentVectors hvectors hentry
  rw [hdimension]
  exact Statistics.length_vector hvector

end VectorCache

end Retrieval
