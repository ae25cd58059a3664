import Retrieval.Proofs.Engine.Texts
import Retrieval.Proofs.Engine.Unreadable
import Retrieval.Proofs.Similarity.Norms

set_option autoImplicit false

/-! # Documents that share no term with the query

Each known term has a dimension of its own, so the vectors of two texts without a known term in
common have no place at which both are other than zero (`Statistics.zero_of_disjoint`). The entries
are finite, since the weights of a tokenizer that counts are (`Collection.isFinite_of_mem_vector`),
and each product is a zero, positive or negative. The sum starts from the positive zero and stays
there, and so does its quotient by a root that is finite and not below 1. An engine gives the
similarities that follow from its documents whatever it has rebuilt on the way
(`Engine.Reflects.hit_of_unrelated`). -/

namespace Retrieval

variable {τ : Type}

/-! ## Unrelated vectors -/

/-- Texts of a collection that is not too large are not similar if they have no known term in
common. -/
theorem Collection.cosine_of_disjoint {collection : Collection τ} (hne : collection.tokens ≠ [])
    (hsize : collection.tokens.length ≤ twoPow 1000) {tokens other : Tokens}
    (htokens : tokens.WellFormed) (hother : other.WellFormed) {v w : DocumentVector}
    (hv : collection.statistics.vector collection.terms tokens = .ok v)
    (hw : collection.statistics.vector collection.terms other = .ok w)
    (h : ∀ term ∈ tokens.terms, term ∈ collection.terms → term ∉ other.terms) :
    cosine (v.map .double) (w.map .double) = .ok .zero := by
  have hlength : v.length = w.length := by
    rw [Statistics.length_vector hv, Statistics.length_vector hw]
  refine cosine_doubles_of_disjoint hlength (isFinite_of_mem_vector hne hsize htokens hv)
    (isFinite_of_mem_vector hne hsize hother hw) ?_
  intro pair hpair
  rcases Statistics.zero_of_disjoint hv hw h pair hpair with hzero | hzero
  · exact Or.inl (by rw [hzero]; rfl)
  · exact Or.inr (by rw [hzero]; rfl)

/-! ## Hits -/

namespace Engine

/-- No term that the engine knows is in both texts. -/
def Unrelated (engine : Engine τ) (tokens other : Tokens) : Prop :=
  ∀ term ∈ tokens.terms, term ∈ engine.vocabulary.terms → term ∉ other.terms

/-- A hit is a document, and its similarity is zero if the document is unrelated to the query. -/
theorem Reflects.hit_of_unrelated {engine : Engine τ} {collection : Collection τ}
    (h : engine.Reflects collection) (htokenizer : collection.tokenizer.WellFormed)
    (hsize : engine.size < twoPow 1000) {query : τ} {tokens : Tokens}
    (htokens : collection.tokenizer query = .ok tokens) {limit : Limit} {hits : List (Hit τ)}
    (hhits : (engine.search query limit).1 = .ok hits) {hit : Hit τ} (hhit : hit ∈ hits) :
    ∃ (id : Nat) (document : Tokens), collection.documents[id]? = some hit.text ∧
      collection.tokenizer hit.text = .ok document ∧
      (engine.Unrelated tokens document → hit.similarity = .zero) := by
  obtain ⟨id, v, w, htext, hquery, hvector, hcosine⟩ :=
    h.verbatim.hit query limit hits hhits hit hhit
  obtain ⟨document, hdocument⟩ := h.tokenized hit.text (List.mem_of_getElem? htext)
  refine ⟨id, document, htext, hdocument, ?_⟩
  intro hunrelated
  have hmem := Collection.getElem?_tokens h.tokenized htext hdocument
  have hne : collection.tokens ≠ [] := List.ne_nil_of_mem (List.mem_of_getElem? hmem)
  have hle : collection.tokens.length ≤ twoPow 1000 := by
    rw [Collection.length_tokens h.tokenized, ← h.size_eq]
    exact Nat.le_of_lt hsize
  -- both vectors are those of the collection
  rw [h.queryVector] at hquery
  obtain ⟨queried, hqueried, hv⟩ := Collection.exists_tokens_of_queryVector hquery
  rw [htokens] at hqueried
  cases hqueried
  rw [h.documentVector] at hvector
  split at hvector
  · cases hvector
  · have hw := Collection.vector_of_documentVector hvector hmem
    rw [Unrelated, h.vocabulary_eq] at hunrelated
    rw [Collection.cosine_of_disjoint hne hle (htokenizer query tokens htokens)
      (htokenizer hit.text document hdocument) hv hw hunrelated] at hcosine
    exact (Except.ok.inj hcosine).symm

/-- Vectors of finite doubles that have no place at which both are other than zero have the
similarity zero. In every state that an engine with a tokenizer that counts can reach with fewer
than `2 ^ 1000` documents, each hit of a search is one of the documents added, and its similarity is
zero if it has no term in common with the known terms of the query. -/
theorem zero_of_unrelated (tokenizer : Tokenizer τ) (texts : List τ) (history : List (Event τ)) :
    (∀ u v : List Binary64, u.length = v.length → (∀ x ∈ u, x.isFinite = true) →
      (∀ x ∈ v, x.isFinite = true) →
      (∀ pair ∈ u.zip v, pair.1.isZero = true ∨ pair.2.isZero = true) →
        cosine (u.map .double) (v.map .double) = .ok .zero) ∧
    (tokenizer.WellFormed → ((fresh tokenizer texts).afterAll history).size < twoPow 1000 →
      ∀ query tokens limit hits, tokenizer query = .ok tokens →
        (((fresh tokenizer texts).afterAll history).search query limit).1 = .ok hits →
          ∀ hit ∈ hits, ∃ (id : Nat) (document : Tokens),
            ((fresh tokenizer texts).admitted history)[id]? = some hit.text ∧
            tokenizer hit.text = .ok document ∧
            (((fresh tokenizer texts).afterAll history).Unrelated tokens document →
              hit.similarity = .zero)) := by
  refine ⟨fun u v => cosine_doubles_of_disjoint, ?_⟩
  intro htokenizer hsize query tokens limit hits htokens hhits hit hhit
  exact (reflects_afterAll tokenizer texts history).hit_of_unrelated htokenizer hsize htokens hhits
    hhit

/-- An engine with two documents. The second came after a search, and with a new term. -/
def catThenDog : Engine String :=
  (fresh (.standard {}) []).afterAll [.call (.insert "Cat"), .call (.search "cat" .unbounded),
    .call (.insert "Dog")]

/-- The search for a cat gives the dog as well, with the similarity zero. So has a vector to one
that is other than zero at another place, even if the products are negative zeros. -/
theorem zero_catThenDog :
    (∃ hits, (catThenDog.search "cat" .unbounded).1 = .ok hits ∧
      ∃ hit ∈ hits, hit.text = "Dog" ∧ hit.similarity = .zero) ∧
    cosine ([.finite true unitsPerOne onGrid_unitsPerOne, .zero].map .double)
      ([.zero, .finite true unitsPerOne onGrid_unitsPerOne].map .double) = .ok .zero := by
  refine ⟨?_, (zero_of_unrelated (.standard {}) [] []).1 _ _ rfl (by decide) (by decide)
    (by decide +kernel)⟩
  have hrefresh : catThenDog.refresh.1 = .ok true := by decide +kernel
  have hranks : catThenDog.Ranks "cat"
      ((catThenDog.vector (.ofList ["cat"])).toOption.getD []) catThenDog.refresh.2 :=
    ⟨by decide +kernel, ⟨true, by rw [← hrefresh]⟩, .ofList ["cat"], by decide +kernel,
      ⟨"cat", by decide +kernel⟩, by decide +kernel⟩
  have hcomparable : Comparable ((catThenDog.vector (.ofList ["cat"])).toOption.getD [])
      catThenDog.refresh.2.cache.vectors := ⟨by decide +kernel, by decide +kernel⟩
  obtain ⟨ranked, hranked, hrank⟩ := hcomparable.exists_ranked
  obtain rfl : ranked = [0, 1] :=
    hranked.eq (by decide +kernel) (by decide +kernel) (by decide +kernel)
  have hkept : [0, 1].take catThenDog.refresh.2.cache.vectors.size = [(0 : Int), 1] := by
    decide +kernel
  have htext : ∀ id ∈ [(0 : Int), 1],
      catThenDog.text id = .ok (if id = 0 then "Cat" else "Dog") := by
    decide +kernel
  have hhits := (hranks.search_eq .unbounded).trans (hrank _ _ .all catThenDog.text)
  rw [hkept, mapM_readHit htext] at hhits
  rw [catThenDog] at hhits ⊢
  have hzero := (zero_of_unrelated (.standard {}) [] _).2 (Tokenizer.wellFormed_standard {})
    (show catThenDog.size < twoPow 1000 by decide +kernel)
  obtain ⟨-, document, -, hdocument, hsimilarity⟩ := hzero "cat" (.ofList ["cat"]) .unbounded _
    (by decide +kernel) hhits _ (List.mem_map_of_mem (show (1 : Int) ∈ [0, 1] by decide))
  refine ⟨_, hhits, _, List.mem_map_of_mem (show (1 : Int) ∈ [0, 1] by decide), rfl, ?_⟩
  have hdog : Tokenizer.standard {} "Dog" = .ok (.ofList ["dog"]) := by decide +kernel
  obtain rfl : Tokens.ofList ["dog"] = document := Except.ok.inj (hdog.symm.trans hdocument)
  apply hsimilarity
  intro term hterm _
  revert term
  decide +kernel

end Engine

end Retrieval
