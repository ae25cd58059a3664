import Mathlib.Data.List.NodupEquivFin
import Retrieval.Proofs.Engine.Answers

set_option autoImplicit false

/-! # The order of insertion

When the same documents are added to two engines in different orders, the engines number documents
and terms differently. Nothing else differs: their statistics are counts, which do not depend on an
order, so each term of a document has the same weight in both, and a vector holds it at the
dimension of the term (`SameByTerm`). That a term has one dimension and a dimension one term
(`Vocabulary.dimension?_eq_some_iff`) is why no weight is lost on the way. -/

namespace Retrieval

variable {τ : Type}

/-! ## Dimensions -/

namespace Vocabulary

/-- Vocabularies with the same terms differ by a renumbering of the dimensions. -/
theorem exists_renumbering {v w : Vocabulary} (h : ∀ term, term ∈ v.terms ↔ term ∈ w.terms) :
    ∃ σ : Fin v.size ≃ Fin w.size, ∀ term (i : Fin v.size),
      v.dimension? term = some i.val ↔ w.dimension? term = some (σ i).val := by
  let shared : {term // term ∈ v.terms} ≃ {term // term ∈ w.terms} := Equiv.subtypeEquivRight h
  let σ : Fin v.size ≃ Fin w.size :=
    ((v.nodup.getEquiv v.terms).trans shared).trans (w.nodup.getEquiv w.terms).symm
  refine ⟨σ, ?_⟩
  intro term i
  have hsame : w.nodup.getEquiv w.terms (σ i) = shared (v.nodup.getEquiv v.terms i) :=
    Equiv.apply_symm_apply _ _
  have hterm : w.terms.get (σ i) = v.terms.get i := congrArg Subtype.val hsame
  have hleft : v.terms[i.val]? = some (v.terms.get i) := List.getElem?_eq_getElem i.isLt
  have hright : w.terms[(σ i).val]? = some (w.terms.get (σ i)) :=
    List.getElem?_eq_getElem (σ i).isLt
  rw [dimension?_eq_some_iff, dimension?_eq_some_iff, hleft, hright, hterm]

end Vocabulary

/-! ## Vectors -/

/-- Two vectors hold the same entry for each term, at the dimension that the term has in the
vocabulary of each; or both could not be calculated. -/
inductive SameByTerm (v w : Vocabulary) :
    Except Error DocumentVector → Except Error DocumentVector → Prop
  | failed (error cause : Error) : SameByTerm v w (.error error) (.error cause)
  | entries {a b : DocumentVector} (h : ∀ term ∈ v.terms, ∃ i j entry,
      v.dimension? term = some i ∧ w.dimension? term = some j ∧
        a[i]? = some entry ∧ b[j]? = some entry) : SameByTerm v w (.ok a) (.ok b)

namespace Statistics

/-- Weights depend on which terms are known, not on their order. -/
theorem weights_congr (statistics : Statistics) {known other : List String}
    (h : ∀ term, term ∈ known ↔ term ∈ other) (tokens : Tokens) :
    statistics.weights known tokens = statistics.weights other tokens := by
  have hcontains : known.contains = other.contains := by
    funext term
    rw [Bool.eq_iff_iff, List.contains_iff_mem, List.contains_iff_mem, h]
  rw [weights, weights, hcontains]

theorem sameByTerm_vector (statistics : Statistics) {v w : Vocabulary}
    (h : ∀ term, term ∈ v.terms ↔ term ∈ w.terms) (tokens : Tokens) :
    SameByTerm v w ((statistics.vector v.terms tokens).mapError .arithmetic)
      ((statistics.vector w.terms tokens).mapError .arithmetic) := by
  unfold vector
  rw [statistics.weights_congr h]
  cases statistics.weights w.terms tokens with
  | error error => exact .failed _ _
  | ok weights =>
    refine .entries ?_
    intro term hterm
    obtain ⟨i, hi⟩ := List.getElem?_of_mem hterm
    obtain ⟨j, hj⟩ := List.getElem?_of_mem ((h term).1 hterm)
    exact ⟨i, j, _, v.dimension?_eq_some_iff.2 hi, w.dimension?_eq_some_iff.2 hj,
      getElem?_layOut hi weights, getElem?_layOut hj weights⟩

end Statistics

/-! ## Collections of the same documents -/

namespace Collection

variable {collection other : Collection τ}

theorem statistics_of_perm (h : collection.tokens.Perm other.tokens) :
    collection.statistics = other.statistics := by
  have hcounts : (fun term => collection.tokens.countP fun tokens => tokens.terms.contains term) =
      fun term => other.tokens.countP fun tokens => tokens.terms.contains term :=
    funext fun term => h.countP_eq _
  simp only [statistics, h.length_eq, congrFun hcounts]

theorem mem_terms_iff_of_perm (h : collection.tokens.Perm other.tokens) (term : String) :
    term ∈ collection.terms ↔ term ∈ other.terms := by
  rw [terms, terms, List.mem_eraseDups, List.mem_eraseDups, (h.flatMap_right _).mem_iff]

theorem exists_vectors_iff_of_perm (h : collection.tokens.Perm other.tokens) :
    (∃ vectors, collection.vectors = .ok vectors) ↔ ∃ vectors, other.vectors = .ok vectors := by
  rw [exists_vectors_iff, exists_vectors_iff, statistics_of_perm h]
  simp only [h.mem_iff, Statistics.weights_congr _ (mem_terms_iff_of_perm h)]

/-- The vectors of one document, wherever it stands, hold the same entry for each term. -/
theorem sameByTerm_documentVector (h : collection.tokens.Perm other.tokens) {v w : Vocabulary}
    (hv : v.terms = collection.terms) (hw : w.terms = other.terms) {i j : Nat} {tokens : Tokens}
    (hi : collection.tokens[i]? = some tokens) (hj : other.tokens[j]? = some tokens) :
    SameByTerm v w (collection.documentVector i) (other.documentVector j) := by
  have hterms : ∀ term, term ∈ v.terms ↔ term ∈ w.terms := by
    rw [hv, hw]
    exact mem_terms_iff_of_perm h
  have hiff := exists_vectors_iff_of_perm h
  cases hvectors : collection.vectors with
  | error error =>
    cases hothers : other.vectors with
    | error cause =>
      rw [documentVector, documentVector, hvectors, hothers]
      exact .failed error cause
    | ok others =>
      obtain ⟨vectors, hok⟩ := hiff.2 ⟨others, hothers⟩
      rw [hvectors] at hok
      cases hok
  | ok vectors =>
    obtain ⟨others, hothers⟩ := hiff.1 ⟨vectors, hvectors⟩
    rw [documentVector_of_tokens hvectors hi, documentVector_of_tokens hothers hj, ← hv, ← hw,
      statistics_of_perm h]
    exact other.statistics.sameByTerm_vector hterms tokens

end Collection

/-! ## Engines with the same documents -/

namespace Engine

/-- Two engines have the same statistics, and the same terms at dimensions that differ by a
renumbering; and any tokens have vectors in them that differ by it alone. -/
structure SameUpToOrder (engine other : Engine τ) : Prop where
  total_eq : engine.corpus.total = other.corpus.total
  frequencies_eq : ∀ term,
    engine.corpus.frequencies.get? term = other.corpus.frequencies.get? term
  terms_iff : ∀ term, term ∈ engine.vocabulary.terms ↔ term ∈ other.vocabulary.terms
  renumbering : ∃ σ : Fin engine.vocabulary.size ≃ Fin other.vocabulary.size,
    ∀ term (i : Fin engine.vocabulary.size), engine.vocabulary.dimension? term = some i.val ↔
      other.vocabulary.dimension? term = some (σ i).val
  vector : ∀ tokens, SameByTerm engine.vocabulary other.vocabulary (engine.vector tokens)
    (other.vector tokens)

theorem Reflects.sameUpToOrder {engine other : Engine τ} {collection others : Collection τ}
    (h : engine.Reflects collection) (hother : other.Reflects others)
    (hperm : collection.tokens.Perm others.tokens) : engine.SameUpToOrder other := by
  have hterms : ∀ term, term ∈ engine.vocabulary.terms ↔ term ∈ other.vocabulary.terms := by
    rw [h.vocabulary_eq, hother.vocabulary_eq]
    exact Collection.mem_terms_iff_of_perm hperm
  refine ⟨?_, ?_, hterms, Vocabulary.exists_renumbering hterms, ?_⟩
  · rw [h.corpus_eq, hother.corpus_eq, Corpus.ofTokens, Corpus.ofTokens, hperm.length_eq]
  · intro term
    have hholders : Corpus.holders collection.tokens term = Corpus.holders others.tokens term :=
      hperm.countP_eq _
    rw [h.corpus_eq, hother.corpus_eq]
    show (Corpus.countDocuments _).get? term = (Corpus.countDocuments _).get? term
    rw [(Corpus.counts_countDocuments _).get?, (Corpus.counts_countDocuments _).get?, hholders]
    simp only [(hperm.flatMap_right _).mem_iff]
  · intro tokens
    rw [Engine.vector, Engine.vector, h.corpus_eq, hother.corpus_eq, ← Collection.statistics_eq,
      ← Collection.statistics_eq, Collection.statistics_of_perm hperm]
    exact others.statistics.sameByTerm_vector hterms tokens

/-- Two histories that add the same documents in different orders lead to engines that differ in the
order of documents and terms alone. In particular each document has vectors in them that hold the
same entry for each term, or neither engine can calculate it. -/
theorem sameUpToOrder_afterAll (tokenizer : Tokenizer τ) {texts others : List τ}
    {history other : List (Event τ)}
    (hperm : ((fresh tokenizer texts).admitted history).Perm
      ((fresh tokenizer others).admitted other)) :
    ((fresh tokenizer texts).afterAll history).SameUpToOrder
      ((fresh tokenizer others).afterAll other) ∧
    (((fresh tokenizer texts).afterAll history).closed =
        ((fresh tokenizer others).afterAll other).closed →
      ∀ (i j : Nat) (document : τ),
        ((fresh tokenizer texts).admitted history)[i]? = some document →
        ((fresh tokenizer others).admitted other)[j]? = some document →
        SameByTerm ((fresh tokenizer texts).afterAll history).vocabulary
          ((fresh tokenizer others).afterAll other).vocabulary
          (((fresh tokenizer texts).afterAll history).documentVector i).1
          (((fresh tokenizer others).afterAll other).documentVector j).1) := by
  have hreflects := reflects_afterAll tokenizer texts history
  have hother := reflects_afterAll tokenizer others other
  have htokens : (Collection.tokens ⟨tokenizer, (fresh tokenizer texts).admitted history⟩).Perm
      (Collection.tokens ⟨tokenizer, (fresh tokenizer others).admitted other⟩) :=
    hperm.filterMap _
  refine ⟨hreflects.sameUpToOrder hother htokens, ?_⟩
  intro hclosed i j document hi hj
  rw [hreflects.documentVector, hother.documentVector, hclosed]
  cases ((fresh tokenizer others).afterAll other).closed with
  | true => exact .failed .closed .closed
  | false =>
    obtain ⟨tokens, htokenized⟩ := hreflects.tokenized document (List.mem_of_getElem? hi)
    exact Collection.sameByTerm_documentVector htokens hreflects.vocabulary_eq hother.vocabulary_eq
      (Collection.getElem?_tokens hreflects.tokenized hi htokenized)
      (Collection.getElem?_tokens hother.tokenized hj htokenized)

/-- The cat has the id zero in one engine and the id one in the other, and both have a vector of
it. -/
theorem sameByTerm_cat :
    SameByTerm
      ((fresh (.standard {}) []).afterAll
        [.call (.insert "The cat"), .call (.insert "A dog")]).vocabulary
      ((fresh (.standard {}) []).afterAll
        [.call (.insert "A dog"), .call (.insert "The cat")]).vocabulary
      (((fresh (.standard {}) []).afterAll
        [.call (.insert "The cat"), .call (.insert "A dog")]).documentVector (0 : Nat)).1
      (((fresh (.standard {}) []).afterAll
        [.call (.insert "A dog"), .call (.insert "The cat")]).documentVector (1 : Nat)).1 ∧
    (((fresh (.standard {}) []).afterAll
      [.call (.insert "The cat"), .call (.insert "A dog")]).documentVector (0 : Nat)).1.isOk ∧
    (((fresh (.standard {}) []).afterAll
      [.call (.insert "A dog"), .call (.insert "The cat")]).documentVector (1 : Nat)).1.isOk := by
  have hcat : (fresh (.standard {}) []).admitted
      [.call (.insert "The cat"), .call (.insert "A dog")] = ["The cat", "A dog"] := rfl
  have hdog : (fresh (.standard {}) []).admitted
      [.call (.insert "A dog"), .call (.insert "The cat")] = ["A dog", "The cat"] := rfl
  have hopen : ((fresh (.standard {}) []).afterAll
      [.call (.insert "The cat"), .call (.insert "A dog")]).closed = false := rfl
  have hother : ((fresh (.standard {}) []).afterAll
      [.call (.insert "A dog"), .call (.insert "The cat")]).closed = false := rfl
  have hperm := List.Perm.swap "A dog" "The cat" []
  rw [← hcat, ← hdog] at hperm
  obtain ⟨-, hdocument⟩ := sameUpToOrder_afterAll _ hperm
  refine ⟨hdocument (hopen.trans hother.symm) 0 1 "The cat" ?_ ?_, ?_, ?_⟩
  · rw [hcat]
    rfl
  · rw [hdog]
    rfl
  · decide +kernel
  · decide +kernel

end Engine

end Retrieval
