import Retrieval.Proofs.Engine.Reading
import Retrieval.Proofs.Ranking
import Retrieval.Proofs.Session.Changes

set_option autoImplicit false

/-! # Vectors as long as the vocabulary

A search compares the vector of the query, which is as long as the vocabulary is large at present,
with vectors from the cache, which are as long as it was at the last rebuild. Nothing in a search
makes sure that these are the same. It is so because a cache that is not marked as dirty has the
dimension of the present vocabulary (`Engine.InDimension`), and of all steps on the engine and its
parts only one can break this: to show terms to the vocabulary past the engine, which then does not
mark its cache. Sessions without that step never see two vectors of different lengths
(`dimension_at_every_moment`). -/

namespace Retrieval

variable {τ : Type}

/-- Whether a step shows terms to the vocabulary past the engine. -/
def Step.observes : Step τ → Bool
  | .vocabulary (.observe _) => true
  | _ => false

namespace Engine

/-! ## What each change preserves -/

/-- A clean cache has the dimension of the present vocabulary. -/
def InDimension (engine : Engine τ) : Prop :=
  engine.cache.dirty = false → engine.cache.dimension = engine.vocabulary.size

/-- Whatever is done to an engine, its vectors have one length, at most the size of the
vocabulary. -/
theorem Change.fitsIn {engine after : Engine τ} {step : Step τ}
    (hchange : engine.Change step after) (h : engine.cache.FitsIn engine.vocabulary.size) :
    after.cache.FitsIn after.vocabulary.size := by
  cases hchange with
  | admission hopen hadmits => exact h.markDirty.mono (engine.vocabulary.size_le_size_addAll _)
  | observe terms => exact h.mono (engine.vocabulary.size_le_size_addAll terms)
  | markDirty => exact h.markDirty
  | rebuild step hcache => exact VectorCache.fitsIn_of_rebuild hcache
  | _ => exact h

/-- An engine that is not told terms behind its back marks its cache when the vocabulary grows. -/
theorem Change.inDimension {engine after : Engine τ} {step : Step τ}
    (hchange : engine.Change step after) (hstep : step.observes = false)
    (h : engine.InDimension) : after.InDimension := by
  cases hchange with
  | admission hopen hadmits =>
    -- the vocabulary may have grown, but the cache is dirty
    intro hclean
    cases hclean
  | observe terms => cases hstep
  | markDirty =>
    intro hclean
    cases hclean
  | rebuild step hcache => exact fun _ => (VectorCache.rebuild_eq_ok_iff.1 hcache).2.1
  | _ => exact h

/-! ## Searches -/

theorem length_of_queryVector {engine : Engine τ} {query : τ} {v : DocumentVector}
    (h : engine.queryVector query = .ok (some v)) : v.length = engine.vocabulary.size := by
  unfold queryVector at h
  cases htokens : engine.tokenizer query with
  | error failure => simp [htokens] at h
  | ok tokens =>
    simp only [htokens] at h
    split at h
    · obtain ⟨v', hvector, hsome⟩ := map_eq_ok_iff.1 h
      cases hsome
      exact Statistics.length_vector (mapError_eq_ok_iff.1 hvector)
    · cases h

theorem queryVector_ne_mismatch (engine : Engine τ) (query : τ) (left right : Nat) :
    engine.queryVector query ≠ .error (.mismatch left right) := by
  unfold queryVector
  cases engine.tokenizer query with
  | error failure => simp
  | ok tokens =>
    simp only
    split
    · unfold vector
      cases engine.corpus.statistics.vector engine.vocabulary.terms tokens <;> simp
    · simp

theorem text_ne_mismatch (engine : Engine τ) (id : Int) (left right : Nat) :
    engine.text id ≠ .error (.mismatch left right) := by
  unfold text readError
  cases engine.store.get id with
  | ok text => simp
  | error failure =>
    simp only [mapError_error]
    split <;> simp

/-- From a cache of the right dimension, no answer meets vectors of different lengths. -/
theorem answer_ne_mismatch {engine : Engine τ} (hfits : engine.cache.FitsIn engine.vocabulary.size)
    (hdimension : engine.cache.dimension = engine.vocabulary.size) (query : τ) (limit : Limit)
    (left right : Nat) : engine.answer query limit ≠ .error (.mismatch left right) := by
  intro h
  unfold answer at h
  cases hquery : engine.queryVector query with
  | error error =>
    rw [hquery, error_bind] at h
    cases h
    exact engine.queryVector_ne_mismatch query left right hquery
  | ok queried =>
    rw [hquery, ok_bind] at h
    cases queried with
    | none => cases h
    | some v =>
      rcases rank_error_cases h with hlimit | ⟨cause, hscore, hcause⟩ | ⟨scores, hcut⟩ |
        ⟨id, -, htext⟩
      · obtain ⟨kind, -, herror⟩ := Limit.excludesAll_eq_error hlimit
        cases herror
      · -- a mismatch of the scores is one of the query with a vector in the cache
        cases cause with
        | arithmetic error => cases hcause
        | mismatch l r =>
          obtain ⟨entry, hentry, hlength⟩ := length_ne_of_score hscore
          obtain ⟨cached, hcached, rfl⟩ := List.mem_map.1 hentry
          apply hlength
          rw [List.length_map, List.length_map, length_of_queryVector hquery,
            hfits.length_eq cached hcached, hdimension]
      · cases limit <;> cases hcut
      · exact engine.text_ne_mismatch id left right htext

/-- A search rebuilds a cache that is dirty and trusts one that is clean. -/
theorem search_ne_mismatch {engine : Engine τ} (hfits : engine.cache.FitsIn engine.vocabulary.size)
    (h : engine.InDimension) (query : τ) (limit : Limit) (left right : Nat) :
    (engine.search query limit).1 ≠ .error (.mismatch left right) := by
  rcases engine.search_cases query limit with ⟨-, heq⟩ | ⟨-, error, hlimit, heq⟩ | ⟨-, -, heq⟩ |
    ⟨-, -, error, -, heq⟩ | ⟨-, -, rebuilt, after, hrefresh, heq⟩
  · simp [heq]
  · obtain ⟨kind, -, rfl⟩ := Limit.excludesAll_eq_error hlimit
    simp [heq]
  · simp [heq]
  · simp [heq]
  · rw [heq]
    have hchange : engine.Change (.cache .refresh) after := by
      simpa [hrefresh] using engine.change_refresh (.cache .refresh)
    have hclean : after.cache.dirty = false := dirty_of_refresh hrefresh
    exact answer_ne_mismatch (hchange.fitsIn hfits) (hchange.inDimension rfl h hclean)
      query limit left right

end Engine

/-! ## Sessions -/

/-- At every moment of every session, the cached vectors have one length, which is at most the size
of the vocabulary. If no step shows terms to the vocabulary past the engine, this length is the size
of the vocabulary whenever the cache is clean, and no search meets vectors of different lengths. -/
theorem dimension_at_every_moment (tokenizer : Tokenizer τ) (texts : List τ) (steps : List (Step τ))
    (moment : Engine τ) (hmoment : Moment (.fresh tokenizer texts) steps moment) :
    (∀ entry ∈ moment.cache.vectors.entries, entry.2.length = moment.cache.dimension) ∧
    moment.cache.dimension ≤ moment.vocabulary.size ∧
    ((∀ element ∈ Step.elementsAll steps, element.observes = false) →
      (moment.cache.dirty = false → moment.cache.dimension = moment.vocabulary.size ∧
        ∀ entry ∈ moment.cache.vectors.entries, entry.2.length = moment.vocabulary.size) ∧
      ∀ query limit left right,
        (moment.search query limit).1 ≠ .error (.mismatch left right)) := by
  have hfits : moment.cache.FitsIn moment.vocabulary.size :=
    hmoment.induction (motive := fun engine => engine.cache.FitsIn engine.vocabulary.size)
      (fun _ h hchange => hchange.fitsIn h) (VectorCache.fitsIn_empty _)
  refine ⟨hfits.length_eq, hfits.dimension_le, ?_⟩
  intro hsteps
  have hin : moment.InDimension :=
    hmoment.induction (fun hmem h hchange => hchange.inDimension (hsteps _ hmem) h) fun _ => rfl
  refine ⟨?_, moment.search_ne_mismatch hfits hin⟩
  intro hclean
  have hdimension : moment.cache.dimension = moment.vocabulary.size := hin hclean
  exact ⟨hdimension, fun entry hentry => (hfits.length_eq entry hentry).trans hdimension⟩

/-- An engine with one document and a record that was pushed past it, after its cache has been
refreshed. -/
def withPushedRecord : Engine String :=
  (Step.runAll (.fresh (.standard {}) []) [.operation (.insert "The cat"),
    .corpus (.push { id := 7, tokens := .ofList ["a", "cat"] }), .cache .refresh]).2

/-- A pushed record does not bring vectors of different lengths, also inside a block. -/
theorem no_mismatch_withPushedRecord :
    withPushedRecord.cache.dirty = false ∧
    withPushedRecord.cache.dimension = withPushedRecord.vocabulary.size ∧
    ∀ query limit left right,
      (withPushedRecord.search query limit).1 ≠ .error (.mismatch left right) := by
  have hmoment : Moment (.fresh (.standard {}) []) [.operation (.insert "The cat"),
      .block [.corpus (.push { id := 7, tokens := .ofList ["a", "cat"] }), .cache .refresh]]
      withPushedRecord :=
    .later (.inside [] (.later (.later (.now _ []))))
  have hclean : withPushedRecord.cache.dirty = false := by decide +kernel
  obtain ⟨hdimension, hsearch⟩ := (dimension_at_every_moment _ _ _ _ hmoment).2.2
    (by simp [Step.elementsAll, Step.elements, Step.observes])
  exact ⟨hclean, (hdimension hclean).1, hsearch⟩

/-- A term that the engine is not told about does. -/
example : ((Step.runAll (.fresh (.standard {}) []) [.operation (.insert "The cat"), .cache .refresh,
    .vocabulary (.observe ["dog"])]).2.search "cat" .unbounded).1 = .error (.mismatch 3 2) := by
  decide +kernel

end Retrieval
