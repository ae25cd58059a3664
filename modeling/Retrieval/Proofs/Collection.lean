import Retrieval.Collection
import Retrieval.Proofs.Similarity
import Retrieval.Proofs.Weight

set_option autoImplicit false

/-! # Collections

A collection calculates everything from its documents. Its statistics are those of the corpus of
these documents, its vectors all have one length, and under a tokenizer that counts as it should
they can be calculated and compared, as long as there are not too many documents. -/

namespace Retrieval

variable {τ : Type}

namespace Collection

/-! ## Collections that grow -/

/-- The tokenizer accepts every document. -/
def Tokenized (collection : Collection τ) : Prop :=
  ∀ document ∈ collection.documents, ∃ tokens, collection.tokenizer document = .ok tokens

/-- The tokens are what the tokenizer makes of the documents, in their order. -/
theorem mapM_tokenizer {collection : Collection τ} (h : collection.Tokenized) :
    collection.documents.mapM collection.tokenizer = .ok collection.tokens := by
  obtain ⟨tokenizer, documents⟩ := collection
  refine mapM_eq_ok_iff.2 ?_
  induction documents with
  | nil => rfl
  | cons document rest ih =>
    obtain ⟨tokens, htokens⟩ := h document List.mem_cons_self
    have hrest := ih fun d hd => h d (List.mem_cons_of_mem document hd)
    simp only [Collection.tokens] at htokens hrest ⊢
    rw [List.filterMap_cons, htokens, List.map_cons, htokens, hrest]
    rfl

theorem length_tokens {collection : Collection τ} (h : collection.Tokenized) :
    collection.tokens.length = collection.documents.length :=
  length_of_mapM_eq_ok (mapM_tokenizer h)

theorem getElem?_tokens {collection : Collection τ} (h : collection.Tokenized) {i : Nat}
    {document : τ} {tokens : Tokens} (hdocument : collection.documents[i]? = some document)
    (htokens : collection.tokenizer document = .ok tokens) :
    collection.tokens[i]? = some tokens := by
  have hlookup := getElem?_of_mapM_eq_ok (mapM_tokenizer h) i
  rw [hdocument, Option.map_some, htokens] at hlookup
  obtain ⟨found, hfound, heq⟩ := Option.map_eq_some_iff.1 hlookup.symm
  cases heq
  exact hfound

theorem tokens_concat {tokenizer : Tokenizer τ} {text : τ} {tokens : Tokens}
    (h : tokenizer text = .ok tokens) (documents : List τ) :
    Collection.tokens ⟨tokenizer, documents ++ [text]⟩ =
      Collection.tokens ⟨tokenizer, documents⟩ ++ [tokens] := by
  simp only [Collection.tokens, List.filterMap_append]
  rw [List.filterMap_cons, h]
  rfl

/-- The statistics of the collection are those of its corpus. -/
theorem statistics_eq (collection : Collection τ) :
    collection.statistics = (Corpus.ofTokens collection.tokens).statistics :=
  (Corpus.statistics_ofTokens collection.tokens).symm

theorem length_vectors {collection : Collection τ} (h : collection.Tokenized)
    {vectors : List DocumentVector} (hvectors : collection.vectors = .ok vectors) :
    vectors.length = collection.documents.length := by
  rw [← length_tokens h]
  exact length_of_mapM_eq_ok (mapError_eq_ok_iff.1 hvectors)

theorem ofList_numbered (vectors : List DocumentVector) :
    OrderedMap.ofList (numbered vectors) = .numbering (vectors.map fun v => v.map .double) := by
  have hentries : numbered vectors =
      (vectors.map fun v => v.map Number.double).mapIdx fun i v => ((i : Int), v) := by
    apply List.ext_getElem <;> simp [numbered]
  rw [hentries, OrderedMap.ofList_mapIdx]

/-! ## Vectors -/

theorem wellFormed_of_mem_tokens {collection : Collection τ}
    (h : collection.tokenizer.WellFormed) {tokens : Tokens} (htokens : tokens ∈ collection.tokens) :
    tokens.WellFormed := by
  obtain ⟨document, -, hdocument⟩ := List.mem_filterMap.1 htokens
  cases hresult : collection.tokenizer document with
  | error failure =>
    rw [hresult] at hdocument
    cases hdocument
  | ok found =>
    rw [hresult] at hdocument
    cases hdocument
    exact h document tokens hresult

/-- The vectors can be calculated if the weights of each document can. -/
theorem exists_vectors_iff (collection : Collection τ) :
    (∃ vectors, collection.vectors = .ok vectors) ↔
      ∀ tokens ∈ collection.tokens, ∃ weights,
        collection.statistics.weights collection.terms tokens = .ok weights := by
  have hvectors : (∃ vectors, collection.vectors = .ok vectors) ↔ ∃ vectors,
      collection.tokens.mapM (collection.statistics.vector collection.terms) = .ok vectors := by
    simp only [vectors, mapError_eq_ok_iff]
  rw [hvectors, exists_mapM_eq_ok_iff]
  refine forall₂_congr fun tokens _ => ?_
  rw [Statistics.vector]
  cases collection.statistics.weights collection.terms tokens <;> simp

/-- The vectors of a collection that is not too large can be calculated. -/
theorem exists_vectors_eq_ok {collection : Collection τ} (h : collection.tokenizer.WellFormed)
    (hsize : collection.tokens.length ≤ twoPow 1000) :
    ∃ vectors, collection.vectors = .ok vectors := by
  refine collection.exists_vectors_iff.2 ?_
  intro tokens htokens
  rw [collection.statistics_eq]
  obtain ⟨vector, hvector, -⟩ := exists_vector_eq_ok (List.ne_nil_of_mem htokens) hsize
    collection.terms (wellFormed_of_mem_tokens h htokens)
  obtain ⟨weights, hweights, -⟩ := map_eq_ok_iff.1 hvector
  exact ⟨weights, hweights⟩

/-- The vectors of a collection that is not too large are finite. -/
theorem isFinite_of_mem_vector {collection : Collection τ} (hne : collection.tokens ≠ [])
    (hsize : collection.tokens.length ≤ twoPow 1000) {tokens : Tokens} (htokens : tokens.WellFormed)
    {v : DocumentVector} (hv : collection.statistics.vector collection.terms tokens = .ok v) :
    ∀ x ∈ v, x.isFinite = true := by
  obtain ⟨w, hw, hfinite⟩ := exists_vector_eq_ok hne hsize collection.terms htokens
  rw [← collection.statistics_eq, hv] at hw
  cases hw
  exact hfinite

/-- All vectors of a collection are as long as its terms are many. -/
theorem length_of_mem_vectors {collection : Collection τ} {vectors : List DocumentVector}
    (h : collection.vectors = .ok vectors) {v : DocumentVector} (hv : v ∈ vectors) :
    v.length = collection.terms.length := by
  obtain ⟨tokens, -, hvector⟩ := exists_mem_of_mapM_eq_ok (mapError_eq_ok_iff.1 h) hv
  exact Statistics.length_vector hvector

/-- A collection has a vector for each of its documents, and for nothing else. -/
theorem documentVector_error {collection : Collection τ} {vectors : List DocumentVector}
    (h : collection.vectors = .ok vectors) {id : Int} {error : Error} :
    collection.documentVector id = .error error ↔
      error = .noVector id ∧ ¬ (0 ≤ id ∧ id < vectors.length) := by
  rw [documentVector, h, ok_bind]
  by_cases hid : 0 ≤ id
  · rw [if_pos hid]
    cases hlookup : vectors[id.toNat]? with
    | none =>
      have hbound := List.getElem?_eq_none_iff.1 hlookup
      have hout : ¬ id < vectors.length := by omega
      simp [hout, throw, throwThe, MonadExceptOf.throw, eq_comm]
    | some v =>
      obtain ⟨hbound, -⟩ := List.getElem?_eq_some_iff.1 hlookup
      have hin : id < vectors.length := by omega
      simp [hid, hin]
  · simp [hid, throw, throwThe, MonadExceptOf.throw, eq_comm]

/-- A known term comes from a document, so the vector of a query fails with the tokenizer only. -/
theorem queryVector_error {collection : Collection τ} (h : collection.tokenizer.WellFormed)
    (hsize : collection.tokens.length ≤ twoPow 1000) {query : τ} {error : Error}
    (herror : collection.queryVector query = .error error) :
    ∃ failure, error = .read (.untokenized failure) := by
  unfold queryVector at herror
  cases htokens : collection.tokenizer query with
  | error failure =>
    rw [htokens] at herror
    cases herror
    exact ⟨failure, rfl⟩
  | ok tokens =>
    simp only [htokens] at herror
    split at herror
    · next hknown =>
      have hne : collection.tokens ≠ [] := by
        intro hnil
        simp [terms, hnil] at hknown
      obtain ⟨v, hv, -⟩ := exists_vector_eq_ok hne hsize collection.terms (h query tokens htokens)
      rw [collection.statistics_eq, hv] at herror
      cases herror
    · cases herror

/-- The vector of a query is that of its tokens. -/
theorem exists_tokens_of_queryVector {collection : Collection τ} {query : τ} {v : DocumentVector}
    (h : collection.queryVector query = .ok (some v)) :
    ∃ tokens, collection.tokenizer query = .ok tokens ∧
      collection.statistics.vector collection.terms tokens = .ok v := by
  unfold queryVector at h
  cases htokens : collection.tokenizer query with
  | error failure =>
    rw [htokens] at h
    cases h
  | ok tokens =>
    simp only [htokens] at h
    split at h
    · obtain ⟨v', hvector, hsome⟩ := map_eq_ok_iff.1 (mapError_eq_ok_iff.1 h)
      cases hsome
      exact ⟨tokens, rfl, hvector⟩
    · cases h

theorem length_of_queryVector {collection : Collection τ} {query : τ} {v : DocumentVector}
    (h : collection.queryVector query = .ok (some v)) : v.length = collection.terms.length := by
  obtain ⟨tokens, -, hvector⟩ := exists_tokens_of_queryVector h
  exact Statistics.length_vector hvector

theorem documentVector_of_tokens {collection : Collection τ} {vectors : List DocumentVector}
    (h : collection.vectors = .ok vectors) {i : Nat} {tokens : Tokens}
    (htokens : collection.tokens[i]? = some tokens) :
    collection.documentVector i =
      (collection.statistics.vector collection.terms tokens).mapError .arithmetic := by
  have hlookup := getElem?_of_mapM_eq_ok (mapError_eq_ok_iff.1 h) i
  rw [htokens, Option.map_some] at hlookup
  obtain ⟨vector, hvector, heq⟩ := Option.map_eq_some_iff.1 hlookup.symm
  rw [documentVector, h, ok_bind, if_pos (Int.natCast_nonneg i), Int.toNat_natCast, hvector, ← heq]
  rfl

/-- The vector of a document is that of its tokens. -/
theorem vector_of_documentVector {collection : Collection τ} {id : Nat} {tokens : Tokens}
    {v : DocumentVector} (h : collection.documentVector id = .ok v)
    (htokens : collection.tokens[id]? = some tokens) :
    collection.statistics.vector collection.terms tokens = .ok v := by
  obtain ⟨vectors, hvectors, -⟩ := bind_eq_ok_iff.1 h
  rw [documentVector_of_tokens hvectors htokens] at h
  exact mapError_eq_ok_iff.1 h

/-- The vectors of a collection have similarities to a vector of their length. -/
theorem exists_score_eq_ok {query : DocumentVector} {vectors : List DocumentVector}
    (h : ∀ v ∈ vectors, query.length = v.length) :
    ∃ scores, score (query.map .double) (.numbering (vectors.map fun v => v.map .double)) =
      .ok scores := by
  refine exists_mapM_eq_ok_iff.2 ?_
  intro entry hentry
  rw [List.mem_mergeSort] at hentry
  obtain ⟨position, hposition, rfl⟩ := List.mem_mapIdx.1 hentry
  rw [List.length_map] at hposition
  have hmem : vectors[position] ∈ vectors := List.getElem_mem hposition
  obtain ⟨similarity, hsimilarity⟩ := exists_cosine_eq_ok (h _ hmem)
  exact ⟨(position, similarity), by simp [hsimilarity]⟩

end Collection

end Retrieval
