import Mathlib.Control.Monad.Basic
import Retrieval.Proofs.Engine.Effects
import Retrieval.Proofs.Rebuild

set_option autoImplicit false

/-! # Rebuilds are whole or nothing

A cache may be refreshed in any state of an engine. Records may have been pushed past it, with ids
that occur twice and with counts that fit no text, and the statistics may have been overwritten; so
a weight can fail in many ways, at any term of any record, when many vectors have been made already.
A rebuild makes all vectors before it puts them into the cache. So either the cache holds the vector
of each id afterwards (`Engine.Rebuilt`), or some weight could not be calculated
(`Engine.BreaksWith`), and then the engine is as it was. -/

namespace Retrieval

variable {τ : Type}

namespace Engine

/-- Of the known terms of all records, in order, the first that lacks one of its two factors lacks
it for this cause. The frequency in the record is calculated before the inverse frequency. -/
def BreaksWith (engine : Engine τ) (cause : ArithmeticError) : Prop :=
  ∃ (before : List (Tokens × String)) (held : Tokens × String) (after : List (Tokens × String)),
    engine.corpus.weighed engine.vocabulary = before ++ held :: after ∧
    (∀ earlier ∈ before, (∃ tf, termFrequency earlier.1 earlier.2 = .ok tf) ∧
      ∃ idf, engine.corpus.statistics.inverseFrequency earlier.2 = .ok idf) ∧
    (termFrequency held.1 held.2 = .error cause ∨
      (∃ tf, termFrequency held.1 held.2 = .ok tf) ∧
        engine.corpus.statistics.inverseFrequency held.2 = .error cause)

/-- The cache is clean and holds, for each id of a record, the vector of the last record with this
id under the present statistics. -/
structure Rebuilt (engine : Engine τ) (cache : VectorCache) : Prop where
  clean : cache.dirty = false
  dimension_eq : cache.dimension = engine.vocabulary.size
  keys_eq : cache.vectors.keys = (engine.corpus.records.map Record.id).eraseDups
  vector_eq : ∀ before record after, engine.corpus.records = before ++ record :: after →
    (∀ later ∈ after, later.id ≠ record.id) →
      ∃ v, engine.vector record.tokens = .ok v ∧ cache.vectors.get? record.id = some v

variable {engine : Engine τ}

theorem rebuild_eq_error_iff {cause : ArithmeticError} :
    VectorCache.rebuild engine.corpus engine.vocabulary = .error cause ↔
      engine.BreaksWith cause := by
  rw [VectorCache.rebuild, BreaksWith]
  refine map_eq_error_iff.trans (documentVectors_eq_error_iff.trans ?_)
  simp only [FirstFailure, Statistics.exists_weight_iff, Statistics.weight_eq_error_iff]

theorem rebuilt_of_rebuild {cache : VectorCache}
    (h : VectorCache.rebuild engine.corpus engine.vocabulary = .ok cache) :
    engine.Rebuilt cache := by
  obtain ⟨hvectors, hdimension, hclean⟩ := VectorCache.rebuild_eq_ok_iff.1 h
  refine ⟨hclean, hdimension, keys_of_documentVectors hvectors, ?_⟩
  intro before record after hrecords hlast
  obtain ⟨v, hv, hget⟩ := get?_of_documentVectors hvectors hrecords hlast
  exact ⟨v, mapError_eq_ok_iff.2 hv, hget⟩

theorem refresh_of_clean (hclean : engine.cache.dirty = false) :
    engine.refresh = (.ok false, engine) := by
  rw [refresh, VectorCache.refresh, hclean]
  rfl

/-- In every state, a clean cache is left alone, and a dirty one is replaced as a whole if all
weights can be calculated; otherwise the first that cannot be is the failure, and nothing changes.
Nothing but the cache ever changes. -/
theorem refresh_whole_or_nothing (engine : Engine τ) :
    (engine.cache.dirty = false → engine.refresh = (.ok false, engine)) ∧
    (engine.cache.dirty = true →
      (∀ cause, engine.BreaksWith cause →
        engine.refresh = (.error (.arithmetic cause), engine)) ∧
      ((¬ ∃ cause, engine.BreaksWith cause) →
        ∃ cache, engine.Rebuilt cache ∧ engine.refresh = (.ok true, { engine with cache }) ∧
          Engine.refresh { engine with cache } = (.ok false, { engine with cache }))) := by
  refine ⟨refresh_of_clean, ?_⟩
  intro hdirty
  rcases engine.refresh_cases with ⟨hclean, -⟩ | ⟨error, -, herror, heq⟩ | ⟨cache, -, hcache, heq⟩
  · rw [hdirty] at hclean
    cases hclean
  · refine ⟨?_, fun hnone => absurd ⟨error, rebuild_eq_error_iff.1 herror⟩ hnone⟩
    intro cause hcause
    rw [rebuild_eq_error_iff.2 hcause] at herror
    cases herror
    exact heq
  · refine ⟨?_, fun _ => ⟨cache, rebuilt_of_rebuild hcache, heq, refresh_of_clean ?_⟩⟩
    · intro cause hcause
      rw [rebuild_eq_error_iff.2 hcause] at hcache
      cases hcache
    · exact (rebuilt_of_rebuild hcache).clean

/-- An engine with a document and two records of one id that were pushed past it. -/
def withRepeatedId : Engine String :=
  (Step.runAll (.fresh (.standard {}) []) [.operation (.insert "Cat"),
    .corpus (.push { id := 7, tokens := .ofList ["cat"] }),
    .corpus (.push { id := 7, tokens := .ofList ["cat", "cat", "dog"] })]).2

/-- The same engine with the number of documents overwritten. -/
def withoutTotal : Engine String :=
  (Step.run withRepeatedId (.corpus (.setTotal (.int 0)))).2

/-- Of the two records the second counts. Without documents there is no inverse frequency, not even
that of the first term of the first record. -/
theorem refresh_withRepeatedId :
    (∃ cache, withRepeatedId.refresh = (.ok true, { withRepeatedId with cache }) ∧
      Engine.refresh { withRepeatedId with cache } = (.ok false, { withRepeatedId with cache }) ∧
      cache.vectors.keys = [0, 7] ∧
      ∃ v, withRepeatedId.vector (.ofList ["cat", "cat", "dog"]) = .ok v ∧
        cache.vectors.get? 7 = some v) ∧
    withoutTotal.refresh = (.error (.arithmetic .outsideDomain), withoutTotal) := by
  constructor
  · obtain ⟨hbreaks, hrebuilt⟩ := (refresh_whole_or_nothing withRepeatedId).2 (by decide +kernel)
    have hsucceeds : withRepeatedId.refresh.1 = .ok true := by decide +kernel
    obtain ⟨cache, hcache, hrefresh, -⟩ := hrebuilt (by
      rintro ⟨cause, hcause⟩
      rw [hbreaks cause hcause] at hsucceeds
      cases hsucceeds)
    refine ⟨cache, hrefresh, (refresh_whole_or_nothing _).1 hcache.clean, ?_, ?_⟩
    · rw [hcache.keys_eq]
      decide +kernel
    · exact hcache.vector_eq [{ id := 0, tokens := .ofList ["cat"] },
        { id := 7, tokens := .ofList ["cat"] }] { id := 7, tokens := .ofList ["cat", "cat", "dog"] }
        [] (by decide +kernel) (by simp)
  · refine ((refresh_whole_or_nothing withoutTotal).2 (by decide +kernel)).1 _ ?_
    refine ⟨[], (.ofList ["cat"], "cat"), [(.ofList ["cat"], "cat"),
      (.ofList ["cat", "cat", "dog"], "cat")], by decide +kernel, by simp, Or.inr ?_⟩
    exact ⟨⟨.one, by decide +kernel⟩, by decide +kernel⟩

end Engine

end Retrieval
