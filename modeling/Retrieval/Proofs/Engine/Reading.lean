import Mathlib.Control.Monad.Basic
import Retrieval.Proofs.Engine.Effects
import Retrieval.Proofs.Rebuild

set_option autoImplicit false

/-! # Reading writes nothing

Most steps only ask for something. Whatever state they find and whether they succeed or fail, they
leave the engine as it was (`Step.reads`), but for one thing: a search and a request for the vector
of a document rebuild a dirty cache on the way. `Engine.Refreshes` says how the engine is left, and
`Engine.SearchExits` says it for each place at which a search can end, because the order of its
stages decides whether the cache is still dirty afterwards. -/

namespace Retrieval

variable {τ : Type}

/-! ## Steps that ask -/

/-- Whether a step only asks the engine or one of its parts for something. -/
def Step.reads : Step τ → Bool
  | .operation call => call.reads
  | .corpus (.frequency _) => true
  | .corpus .total => true
  | .corpus (.record _) => true
  | .corpus (.text _) => true
  | .corpus .texts => true
  | .corpus .frequencies => true
  | .vocabulary (.observe _) => false
  | .vocabulary _ => true
  | .cache .isDirty => true
  | .cache (.vector _) => true
  | .cache .vectors => true
  | .weight _ => true
  | .store (.get _) => true
  | _ => false

/-- An error that a search does not meet before its cache is in order: the query cannot be
tokenized, the limit cannot cut a list, a text cannot be read, or two vectors do not match. -/
def Error.comesLate : Error → Bool
  | read _ => true
  | fractionalLimit => true
  | passedOn _ => true
  | mismatch _ _ => true
  | _ => false

theorem Limit.excludesAll_eq_error {limit : Limit} {error : Error}
    (h : limit.excludesAll = .error error) :
    ∃ kind, limit = .unordered kind ∧ error = .unorderedLimit kind := by
  cases limit with
  | unordered kind =>
    cases h
    exact ⟨kind, rfl, rfl⟩
  | unbounded => cases h
  | count n => cases h
  | real x => cases h

namespace Engine

/-! ## What is left of the engine -/

/-- The engine stays as it was, or all vectors of its records take the place of a dirty cache. -/
inductive Refreshes (engine : Engine τ) : Engine τ → Prop
  | unchanged : Refreshes engine engine
  | rebuilt {cache : VectorCache} (hopen : engine.closed = false)
      (hdirty : engine.cache.dirty = true)
      (hcache : VectorCache.rebuild engine.corpus engine.vocabulary = .ok cache)
      (hclean : cache.dirty = false) : Refreshes engine { engine with cache }

theorem refreshes_refresh {engine : Engine τ} (hopen : engine.closed = false) :
    engine.Refreshes engine.refresh.2 := by
  rcases engine.refresh_cases with
    ⟨-, heq⟩ | ⟨error, -, -, heq⟩ | ⟨cache, hdirty, hcache, heq⟩
  · rw [heq]
    exact .unchanged
  · rw [heq]
    exact .unchanged
  · rw [heq]
    exact .rebuilt hopen hdirty hcache ((VectorCache.rebuild_eq_ok_iff.1 hcache).2.2)

/-- A refresh that does not fail leaves a clean cache. -/
theorem dirty_of_refresh {engine after : Engine τ} {rebuilt : Bool}
    (h : engine.refresh = (.ok rebuilt, after)) : after.cache.dirty = false := by
  rcases engine.refresh_cases with
    ⟨hclean, heq⟩ | ⟨error, -, -, heq⟩ | ⟨cache, -, hcache, heq⟩
  · rw [heq] at h
    cases h
    exact hclean
  · rw [heq] at h
    cases h
  · rw [heq] at h
    cases h
    exact (VectorCache.rebuild_eq_ok_iff.1 hcache).2.2

/-- A step that asks for something refreshes the cache at most, and only if it is a call of the
engine. -/
theorem refreshes_run (engine : Engine τ) {step : Step τ} (h : step.reads = true) :
    engine.Refreshes (Step.run engine step).2 := by
  cases step with
  | operation call =>
    show engine.Refreshes (call.run engine).2
    rcases engine.after_reading h with heq | ⟨hopen, heq⟩
    · rw [heq]
      exact .unchanged
    · rw [heq]
      exact refreshes_refresh hopen
  | corpus step =>
    cases step with
    | record position =>
      show engine.Refreshes ((CorpusStep.record position).run engine).2
      simp only [CorpusStep.run]
      split <;> exact .unchanged
    | frequency term => exact .unchanged
    | total => exact .unchanged
    | text id => exact .unchanged
    | texts => exact .unchanged
    | frequencies => exact .unchanged
    | _ => cases h
  | vocabulary step =>
    cases step with
    | observe terms => cases h
    | _ => exact .unchanged
  | cache step =>
    cases step with
    | markDirty => cases h
    | refresh => cases h
    | _ => exact .unchanged
  | weight step =>
    cases step with
    | documentVector position =>
      show engine.Refreshes ((WeightStep.documentVector position).run engine).2
      simp only [WeightStep.run]
      split <;> exact .unchanged
    | _ => exact .unchanged
  | store step =>
    cases step with
    | get position => exact .unchanged
    | _ => cases h
  | block steps => cases h
  | failingBlock failure => cases h

/-! ## Where a search ends -/

/-- What a search gives and how it leaves the engine, for each stage at which it can end. -/
structure SearchExits (engine : Engine τ) (query : τ) (limit : Limit) : Prop where
  closed : engine.closed = true → engine.search query limit = (.error .closed, engine)
  unordered : engine.closed = false → ∀ error, limit.excludesAll = .error error →
    engine.search query limit = (.error error, engine)
  /-- No tokenizer has a say in the answer, not even one that fails on the query. -/
  excluded : engine.closed = false → limit.excludesAll = .ok true → ∀ tokenizer,
    search { engine with tokenizer } query limit = (.ok [], { engine with tokenizer })
  unrebuilt : engine.closed = false → limit.excludesAll = .ok false →
    engine.cache.dirty = true → ∀ error,
      VectorCache.rebuild engine.corpus engine.vocabulary = .error error →
        engine.search query limit = (.error (.arithmetic error), engine)
  /-- After the rebuild, the cache stays as it is now, whether there is an answer or not. -/
  rebuilt : engine.closed = false → limit.excludesAll = .ok false →
    engine.cache.dirty = true → ∀ cache,
      VectorCache.rebuild engine.corpus engine.vocabulary = .ok cache → cache.dirty = false ∧
        engine.search query limit =
          (answer { engine with cache } query limit, { engine with cache })
  clean : engine.closed = false → limit.excludesAll = .ok false → engine.cache.dirty = false →
    engine.search query limit = (engine.answer query limit, engine)
  late : ∀ error, (engine.search query limit).1 = .error error → error.comesLate = true →
    (engine.search query limit).2.cache.dirty = false

/-- An error that comes late finds the cache refreshed. -/
theorem dirty_of_late_error {engine : Engine τ} {query : τ} {limit : Limit} {error : Error}
    (h : (engine.search query limit).1 = .error error) (hlate : error.comesLate = true) :
    (engine.search query limit).2.cache.dirty = false := by
  -- the errors of the stages before the answer do not come late
  rcases engine.search_cases query limit with ⟨-, heq⟩ | ⟨-, cause, hlimit, heq⟩ | ⟨-, -, heq⟩ |
    ⟨-, -, cause, -, heq⟩ | ⟨-, -, rebuilt, after, hrefresh, heq⟩
  · rw [heq] at h
    cases h
    cases hlate
  · rw [heq] at h
    cases h
    obtain ⟨kind, -, rfl⟩ := Limit.excludesAll_eq_error hlimit
    cases hlate
  · rw [heq] at h
    cases h
  · rw [heq] at h
    cases h
    cases hlate
  · rw [heq]
    exact dirty_of_refresh hrefresh

theorem searchExits (engine : Engine τ) (query : τ) (limit : Limit) :
    engine.SearchExits query limit where
  closed hclosed := by simp [search, hclosed]
  unordered hopen error herror := by simp [search, hopen, herror]
  excluded hopen hlimit tokenizer := by simp [search, hopen, hlimit]
  unrebuilt hopen hlimit hdirty error herror := by
    simp [search, refresh, VectorCache.refresh, hopen, hlimit, hdirty, herror]
  rebuilt hopen hlimit hdirty cache hcache := by
    refine ⟨(VectorCache.rebuild_eq_ok_iff.1 hcache).2.2, ?_⟩
    simp [search, refresh, VectorCache.refresh, hopen, hlimit, hdirty, hcache]
  clean hopen hlimit hclean := by
    have hrefresh : engine.refresh = (.ok false, engine) := by
      simp only [refresh, VectorCache.refresh, hclean]
      rfl
    simp [search, hopen, hlimit, hrefresh]
  late error herror hlate := dirty_of_late_error herror hlate

/-- In every state, a step that asks for something leaves records, statistics, vocabulary, store and
the closed flag as they were, and the cache too unless it was dirty and is rebuilt; and a search
that ends before the rebuild leaves the cache dirty, one that ends after it leaves it clean. -/
theorem reads_never_write (engine : Engine τ) :
    (∀ step : Step τ, step.reads = true → engine.Refreshes (Step.run engine step).2) ∧
    ∀ query limit, engine.SearchExits query limit :=
  ⟨fun _ hreads => engine.refreshes_run hreads, engine.searchExits⟩

/-- An engine with one document that is not in the cache yet and whose text cannot be read. -/
def unreadableCat : Engine String where
  tokenizer := .standard {}
  store := {
    texts := ["The cat"], conduct := { readFailure := fun _ => some (.system "read error") } }
  corpus := Corpus.empty.add (.ofList ["the", "cat"])
  vocabulary := Vocabulary.empty.addAll ["the", "cat"]
  cache := { dirty := true }

/-- A search for the cat fails over its text, after the cache has been rebuilt; with a limit of zero
it comes neither to a rebuild nor to the tokenizer, which may then refuse everything. -/
theorem search_unreadableCat :
    unreadableCat.cache.dirty = true ∧
    (unreadableCat.search "cat" .unbounded).1 =
      .error (.read (.unread 0 (some (.system "read error")))) ∧
    (unreadableCat.search "cat" .unbounded).2.cache.dirty = false ∧
    unreadableCat.Refreshes (Step.run unreadableCat (.operation (.documentVector 0))).2 ∧
    search { unreadableCat with tokenizer := .refusing "" {} } "cat" (.count 0) =
      (.ok [], { unreadableCat with tokenizer := .refusing "" {} }) := by
  have herror : (unreadableCat.search "cat" .unbounded).1 =
      .error (.read (.unread 0 (some (.system "read error")))) := by decide +kernel
  obtain ⟨hreads, hexits⟩ := reads_never_write unreadableCat
  refine ⟨rfl, herror, (hexits "cat" .unbounded).late _ herror rfl, ?_, ?_⟩
  · exact hreads (.operation (.documentVector 0)) rfl
  · exact (hexits "cat" (.count 0)).excluded rfl rfl (.refusing "" {})

end Engine

end Retrieval
