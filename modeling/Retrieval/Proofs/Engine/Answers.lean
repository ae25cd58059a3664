import Retrieval.Proofs.Engine.Reflection
import Retrieval.Proofs.Ranking

set_option autoImplicit false

/-! # Answers are those of the documents alone

An engine that reflects a collection answers as the collection does: a refreshed cache holds the
vectors that the collection calculates (`Reflects.refresh`), a query has the same vector, and the
texts that the store reads for the documents are their texts. With `reflects_afterAll`, no search,
no failed call and no change of conduct on the way to a state can be told from the answers that it
gives. -/

namespace Retrieval

variable {τ : Type}

namespace Collection

/-- The text of a document, as a store of this conduct reads it that holds the documents alone. -/
def text (collection : Collection τ) (conduct : Conduct) (id : Int) : Except Error τ :=
  (TextStore.get { texts := collection.documents, conduct } id).mapError (Engine.readError id)

end Collection

/-! ## Reading -/

/-- A read at a position from the front meets the refusal of the store, or the text there. -/
theorem TextStore.get_natCast (store : TextStore τ) (position : Nat) :
    store.get position =
      match store.refusal position with
      | some failure => .error failure
      | none =>
        match store.texts[position]? with
        | some text => .ok text
        | none => .error .outOfRange := by
  have hlookup : atPosition? store.texts position = store.texts[position]? := by
    simp [atPosition?]
  cases hrefusal : store.refusal position with
  | some failure => simp [get, hrefusal]
  | none => cases htext : store.texts[position]? <;> simp [get, hrefusal, hlookup, htext]

/-- Texts behind those of a store do not change what is read at a position of the store. -/
theorem TextStore.get_of_prefix {store : TextStore τ} {texts : List τ} (h : texts <+: store.texts)
    {position : Nat} (hposition : position < texts.length) :
    store.get position = get { texts, conduct := store.conduct } position := by
  obtain ⟨rest, hrest⟩ := h
  have hlookup : store.texts[position]? = texts[position]? := by
    rw [← hrest, List.getElem?_append_left hposition]
  rw [get_natCast, get_natCast, hlookup]
  rfl

namespace Engine

theorem Reflects.text {engine : Engine τ} {collection : Collection τ}
    (h : engine.Reflects collection) (hopen : engine.closed = false) {id : Nat}
    (hid : id < collection.documents.length) :
    engine.text id = collection.text engine.store.conduct id := by
  rw [Engine.text, Collection.text, TextStore.get_of_prefix (h.stored hopen) hid]

/-! ## Vectors -/

/-- The engine with these vectors in a clean cache. -/
def refreshed (engine : Engine τ) (vectors : List DocumentVector) : Engine τ :=
  { engine with cache := {
      vectors := .numbering vectors, dimension := engine.vocabulary.size, dirty := false } }

theorem Reflects.rebuild {engine : Engine τ} {collection : Collection τ}
    (h : engine.Reflects collection) :
    (VectorCache.rebuild engine.corpus engine.vocabulary).mapError .arithmetic =
      (fun vectors => (engine.refreshed vectors).cache) <$> collection.vectors := by
  unfold VectorCache.rebuild Collection.vectors
  rw [h.corpus_eq, documentVectors_ofTokens, h.vocabulary_eq, collection.statistics_eq]
  cases collection.tokens.mapM
    ((Corpus.ofTokens collection.tokens).statistics.vector collection.terms) <;> rfl

/-- A refresh fails as the calculation of the vectors fails, and else leaves them in the cache. -/
theorem Reflects.refresh {engine : Engine τ} {collection : Collection τ}
    (h : engine.Reflects collection) :
    (∃ error, collection.vectors = .error error ∧ engine.refresh = (.error error, engine)) ∨
    (∃ vectors flag, collection.vectors = .ok vectors ∧
      engine.refresh = (.ok flag, engine.refreshed vectors)) := by
  have hrebuild := h.rebuild
  rcases engine.refresh_cases with
    ⟨hclean, heq⟩ | ⟨error, -, hcache, heq⟩ | ⟨cache, -, hcache, heq⟩
  · -- a clean cache holds what a rebuild would give now
    right
    rw [h.rebuilt hclean] at hrebuild
    obtain ⟨vectors, hvectors, hcached⟩ := map_eq_ok_iff.1 hrebuild.symm
    have hsame : engine.refreshed vectors = engine := by
      show { engine with cache := (engine.refreshed vectors).cache } = engine
      rw [hcached]
    exact ⟨vectors, false, hvectors, by rw [heq, hsame]⟩
  · left
    rw [hcache] at hrebuild
    exact ⟨_, map_eq_error_iff.1 hrebuild.symm, heq⟩
  · right
    rw [hcache] at hrebuild
    obtain ⟨vectors, hvectors, rfl⟩ := map_eq_ok_iff.1 hrebuild.symm
    exact ⟨vectors, true, hvectors, heq⟩

theorem Reflects.queryVector {engine : Engine τ} {collection : Collection τ}
    (h : engine.Reflects collection) (query : τ) :
    engine.queryVector query = collection.queryVector query := by
  unfold Engine.queryVector Collection.queryVector
  rw [h.tokenizer_eq]
  cases collection.tokenizer query with
  | error failure => rfl
  | ok tokens =>
    have hcontains : engine.vocabulary.contains = collection.terms.contains := by
      funext term
      rw [Vocabulary.contains, h.vocabulary_eq]
    simp only [hcontains, Engine.vector, h.corpus_eq, h.vocabulary_eq, ← collection.statistics_eq]
    cases collection.statistics.vector collection.terms tokens <;> rfl

/-! ## Answers -/

/-- The vectors in a refreshed cache are ranked as the collection ranks its own. -/
theorem Reflects.answer {engine : Engine τ} {collection : Collection τ}
    (h : engine.Reflects collection) (hopen : engine.closed = false)
    {vectors : List DocumentVector} (hvectors : collection.vectors = .ok vectors) (query : τ)
    (limit : Limit) :
    (engine.refreshed vectors).answer query limit = (do
      match ← collection.queryVector query with
      | none => return []
      | some vector =>
        rank (vector.map .double) (.ofList (Collection.numbered vectors))
          (collection.text engine.store.conduct) limit) := by
  have hquery : (engine.refreshed vectors).queryVector query = collection.queryVector query :=
    h.queryVector query
  unfold Engine.answer
  rw [hquery]
  cases collection.queryVector query with
  | error error => rfl
  | ok queried =>
    cases queried with
    | none => rfl
    | some vector =>
      show rank (vector.map .double) ((OrderedMap.numbering vectors).map fun v => v.map .double)
        engine.text limit = rank _ _ _ limit
      rw [OrderedMap.map_numbering, Collection.ofList_numbered]
      -- only texts of documents are read, and these lie in front of all stray texts
      apply rank_congr
      intro id hid
      rw [OrderedMap.keys_numbering, List.mem_map] at hid
      obtain ⟨position, hposition, rfl⟩ := hid
      rw [List.mem_range, List.length_map,
        Collection.length_vectors h.tokenized hvectors] at hposition
      exact h.text hopen hposition

/-- An open engine answers a search as its documents alone do. -/
theorem Reflects.search {engine : Engine τ} {collection : Collection τ}
    (h : engine.Reflects collection) (query : τ) (limit : Limit) :
    (engine.search query limit).1 =
      if engine.closed then .error .closed
      else collection.search (collection.text engine.store.conduct) query limit := by
  unfold Engine.search Collection.search
  cases hclosed : engine.closed with
  | true => rfl
  | false =>
    cases limit.excludesAll with
    | error error => rfl
    | ok excluded =>
      cases excluded with
      | true => rfl
      | false =>
        rcases h.refresh with ⟨error, hvectors, heq⟩ | ⟨vectors, flag, hvectors, heq⟩
        · rw [heq, hvectors]
          rfl
        · rw [heq, hvectors]
          exact h.answer hclosed hvectors query limit

theorem Reflects.documentVector {engine : Engine τ} {collection : Collection τ}
    (h : engine.Reflects collection) (id : Int) :
    (engine.documentVector id).1 =
      if engine.closed then .error .closed else collection.documentVector id := by
  unfold Engine.documentVector Collection.documentVector
  cases hclosed : engine.closed with
  | true => rfl
  | false =>
    rcases h.refresh with ⟨error, hvectors, heq⟩ | ⟨vectors, flag, hvectors, heq⟩
    · rw [heq, hvectors]
      rfl
    · rw [heq, hvectors]
      have hget : (engine.refreshed vectors).cache.vectors.get? id =
          if 0 ≤ id then vectors[id.toNat]? else none :=
        OrderedMap.get?_numbering vectors id
      show (engine.refreshed vectors).cachedVector id = _
      rw [cachedVector, hget, ok_bind]
      by_cases hid : 0 ≤ id
      · rw [if_pos hid, if_pos hid]
        cases vectors[id.toNat]? <;> rfl
      · rw [if_neg hid, if_neg hid]
        rfl

/-! ## Answers after a history -/

/-- The documents that a history adds to an engine. -/
def collected (engine : Engine τ) (history : List (Event τ)) : Collection τ where
  tokenizer := engine.tokenizer
  documents := engine.admitted history

/-- After any history, an engine answers a search and gives the vector of a document as follows from
the documents that were added and from how its store reads at present. Two histories that agree in
these cannot be told apart, whatever else happened in them. -/
theorem answers_of_admitted (tokenizer : Tokenizer τ) (texts : List τ) (history : List (Event τ)) :
    (∀ query limit, (((fresh tokenizer texts).afterAll history).search query limit).1 =
      if ((fresh tokenizer texts).afterAll history).closed then .error .closed
      else ((fresh tokenizer texts).collected history).search
        (((fresh tokenizer texts).collected history).text
          ((fresh tokenizer texts).afterAll history).store.conduct) query limit) ∧
    (∀ id, (((fresh tokenizer texts).afterAll history).documentVector id).1 =
      if ((fresh tokenizer texts).afterAll history).closed then .error .closed
      else ((fresh tokenizer texts).collected history).documentVector id) ∧
    (∀ other, (fresh tokenizer texts).admitted other = (fresh tokenizer texts).admitted history →
      ((fresh tokenizer texts).afterAll other).closed =
        ((fresh tokenizer texts).afterAll history).closed →
      ((fresh tokenizer texts).afterAll other).store.conduct =
        ((fresh tokenizer texts).afterAll history).store.conduct →
      (∀ query limit, (((fresh tokenizer texts).afterAll other).search query limit).1 =
        (((fresh tokenizer texts).afterAll history).search query limit).1) ∧
      (∀ id, (((fresh tokenizer texts).afterAll other).documentVector id).1 =
        (((fresh tokenizer texts).afterAll history).documentVector id).1)) := by
  have hreflects := reflects_afterAll tokenizer texts
  refine ⟨(hreflects history).search, (hreflects history).documentVector, ?_⟩
  intro other hadmitted hclosed hconduct
  have hother := hadmitted ▸ hreflects other
  constructor
  · intro query limit
    rw [hother.search, (hreflects history).search, hclosed, hconduct]
  · intro id
    rw [hother.documentVector, (hreflects history).documentVector, hclosed]

/-- A search before the first document and a document that could not be stored leave no trace in the
answers. -/
theorem answers_after_detour :
    (fresh (.standard {}) []).admitted [.call (.insert "The cat")] = ["The cat"] ∧
    (fresh (.standard {}) []).admitted
      [.call (.search "cat" .unbounded), .behave { writeFailure := some (.system "disk full") },
        .call (.insert "The dog"), .behave {}, .call (.insert "The cat")] = ["The cat"] ∧
    ∀ query limit,
      (((fresh (.standard {}) []).afterAll
        [.call (.search "cat" .unbounded), .behave { writeFailure := some (.system "disk full") },
          .call (.insert "The dog"), .behave {}, .call (.insert "The cat")]).search query limit).1 =
      (((fresh (.standard {}) []).afterAll [.call (.insert "The cat")]).search query limit).1 :=
  ⟨rfl, rfl, ((answers_of_admitted _ _ _).2.2 _ rfl rfl rfl).1⟩

end Engine

end Retrieval
