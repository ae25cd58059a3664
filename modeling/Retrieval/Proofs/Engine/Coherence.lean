import Retrieval.Proofs.Engine.Reflection

set_option autoImplicit false

/-! # The parts of an engine agree

Records, statistics, vocabulary and cache are updated by different steps, some of which may fail.
`Engine.Coherent` says how they fit together without mention of what was added or how: ids are
positions, the statistics are those of the records, the vocabulary lists the terms of the records in
the order of first occurrence, and a clean cache holds one vector for each record, which is the
vector that the present statistics give. An engine that reflects a collection is coherent, hence
every engine that a history leads to. -/

namespace Retrieval

variable {τ : Type}

namespace Corpus

/-! ## Reading the corpus of a list of documents -/

/-- The tokens of all records, in order. -/
def tokens (corpus : Corpus) : List Tokens := corpus.records.map Record.tokens

@[simp]
theorem tokens_ofTokens (documents : List Tokens) : (ofTokens documents).tokens = documents := by
  apply List.ext_getElem <;> simp [tokens, ofTokens]

theorem record_ofTokens {documents : List Tokens} {position : Nat} {record : Record}
    (h : (ofTokens documents).records[position]? = some record) :
    record.id = position ∧ documents[position]? = some record.tokens := by
  simp only [ofTokens, List.getElem?_mapIdx, Option.map_eq_some_iff] at h
  obtain ⟨tokens, htokens, rfl⟩ := h
  exact ⟨rfl, htokens⟩

end Corpus

namespace Engine

/-- The parts of an engine agree with each other. -/
structure Coherent (engine : Engine τ) : Prop where
  /-- The id of a record is its position. -/
  id_eq : ∀ (position : Nat) (record : Record),
    engine.corpus.records[position]? = some record → record.id = position
  total_eq : engine.corpus.total = .int engine.corpus.records.length
  /-- A term has a document frequency if it occurs in a record, and it is then the number of the
  records in which it occurs. -/
  frequency_eq : ∀ term, engine.corpus.frequencies.get? term =
    if ∃ tokens ∈ engine.corpus.tokens, term ∈ tokens.terms then
      some (.int (engine.corpus.tokens.countP fun tokens => tokens.terms.contains term))
    else none
  /-- The terms of the records in the order of their first occurrence. -/
  vocabulary_eq : engine.vocabulary.terms = (engine.corpus.tokens.flatMap Tokens.terms).eraseDups
  keys_eq : engine.corpus.frequencies.keys = engine.vocabulary.terms
  length_eq : ∀ entry ∈ engine.cache.vectors.entries, entry.2.length = engine.cache.dimension
  dimension_le : engine.cache.dimension ≤ engine.vocabulary.size
  /-- A clean cache has the positions of the records as keys, from the first to the last. -/
  clean_keys : engine.cache.dirty = false → engine.cache.vectors.keys =
    (List.range engine.corpus.records.length).map fun position : Nat => (position : Int)
  clean_dimension : engine.cache.dirty = false → engine.cache.dimension = engine.vocabulary.size
  /-- The vectors in a clean cache are those that would be calculated now. -/
  clean_vector : engine.cache.dirty = false → ∀ (position : Nat) (record : Record),
    engine.corpus.records[position]? = some record → ∃ v : DocumentVector,
      engine.corpus.statistics.vector engine.vocabulary.terms record.tokens = .ok v ∧
        engine.cache.vectors.get? position = some v

/-- A cache rebuilt from a list of documents holds the vectors of the documents, numbered. -/
theorem exists_vectors_of_rebuild {documents : List Tokens} {vocabulary : Vocabulary}
    {cache : VectorCache}
    (h : VectorCache.rebuild (.ofTokens documents) vocabulary = .ok cache) :
    ∃ vectors, documents.mapM ((Corpus.ofTokens documents).statistics.vector vocabulary.terms) =
        .ok vectors ∧ cache.vectors = .numbering vectors := by
  obtain ⟨hvectors, -, -⟩ := VectorCache.rebuild_eq_ok_iff.1 h
  rw [documentVectors_ofTokens] at hvectors
  obtain ⟨vectors, hmapM, hnumbering⟩ := map_eq_ok_iff.1 hvectors
  exact ⟨vectors, hmapM, hnumbering.symm⟩

theorem Reflects.coherent {engine : Engine τ} {collection : Collection τ}
    (h : engine.Reflects collection) : engine.Coherent := by
  have hcounts := Corpus.counts_countDocuments collection.tokens
  have htokens : engine.corpus.tokens = collection.tokens := by
    rw [h.corpus_eq, Corpus.tokens_ofTokens]
  have hlength : engine.corpus.records.length = collection.tokens.length := by
    rw [← htokens, Corpus.tokens, List.length_map]
  have hfrequencies : engine.corpus.frequencies = Corpus.countDocuments collection.tokens := by
    rw [h.corpus_eq]
    rfl
  refine ⟨?_, ?_, ?_, ?_, ?_, h.fitsIn.length_eq, h.fitsIn.dimension_le, ?_, ?_, ?_⟩
  · -- ids are positions
    intro position record hrecord
    rw [h.corpus_eq] at hrecord
    exact (Corpus.record_ofTokens hrecord).1
  · rw [hlength, h.corpus_eq]
    rfl
  · -- document frequencies
    intro term
    rw [hfrequencies, hcounts.get?, htokens]
    simp only [List.mem_flatMap]
    rfl
  · rw [htokens]
    exact h.vocabulary_eq
  · rw [hfrequencies, hcounts.keys]
    exact h.vocabulary_eq.symm
  · -- the keys of a clean cache
    intro hclean
    have hrebuilt := h.rebuilt hclean
    rw [h.corpus_eq] at hrebuilt
    obtain ⟨vectors, hmapM, hvectors⟩ := exists_vectors_of_rebuild hrebuilt
    rw [hvectors, OrderedMap.keys_numbering, length_of_mapM_eq_ok hmapM, hlength]
  · intro hclean
    exact (VectorCache.rebuild_eq_ok_iff.1 (h.rebuilt hclean)).2.1
  · -- each vector in a clean cache
    intro hclean position record hrecord
    have hrebuilt := h.rebuilt hclean
    rw [h.corpus_eq] at hrebuilt hrecord ⊢
    obtain ⟨vectors, hmapM, hvectors⟩ := exists_vectors_of_rebuild hrebuilt
    have hget := getElem?_of_mapM_eq_ok hmapM position
    rw [(Corpus.record_ofTokens hrecord).2, Option.map_some] at hget
    obtain ⟨v, hv, hok⟩ := Option.map_eq_some_iff.1 hget.symm
    refine ⟨v, hok.symm, ?_⟩
    rw [hvectors, OrderedMap.get?_numbering, if_pos (Int.natCast_nonneg position),
      Int.toNat_natCast]
    exact hv

/-- Whatever calls an engine has been through, and whatever its tokenizer and its store did, its
parts agree. -/
theorem coherent_afterAll (tokenizer : Tokenizer τ) (texts : List τ) (history : List (Event τ)) :
    ((fresh tokenizer texts).afterAll history).Coherent :=
  (reflects_afterAll tokenizer texts history).coherent

end Engine

end Retrieval
