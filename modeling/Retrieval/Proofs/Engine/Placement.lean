import Mathlib.Control.Monad.Basic
import Retrieval.History
import Retrieval.Proofs.Weight

set_option autoImplicit false

/-! # Weights in their dimensions

A vector is laid out by the vocabulary: at the dimension of each term stands the weight of the term
(`layOut`). One can also start with zeros and write the weights of the text one after the other,
each at the dimension of its term (`Statistics.write`). Both give the same vector and fail alike
(`Statistics.vector_eq_writeAll`), because a vocabulary lists no term twice and a text counts none
twice, so that no weight is written over another. Hence neither the order of the counts nor a term
without a dimension has an influence on a vector (`Engine.vector_places_weights`). -/

namespace Retrieval

variable {τ : Type}

namespace Statistics

variable {statistics : Statistics} {known : List String} {tokens other : Tokens}
  {weights : List (String × Binary64)}

/-! ## Writing the weights one after the other -/

/-- The vector with the weight of a term written at its dimension. A term without a dimension is
passed over. -/
def write (statistics : Statistics) (vocabulary : Vocabulary) (tokens : Tokens) (v : DocumentVector)
    (term : String) : Except ArithmeticError DocumentVector :=
  match vocabulary.dimension? term with
  | none => .ok v
  | some dimension => do return v.set dimension (← statistics.weight tokens term)

theorem write_of_unknown {vocabulary : Vocabulary} {term : String} (h : term ∉ vocabulary.terms)
    (v : DocumentVector) : statistics.write vocabulary tokens v term = .ok v := by
  rw [write, Vocabulary.dimension?, List.idxOf?_eq_none_iff.2 h]

theorem layOut_nil (known : List String) : layOut known [] = List.replicate known.length .zero :=
  List.map_const'

/-- To write one more weight is to lay out one more, if it is the first of its term. -/
theorem set_layOut {vocabulary : Vocabulary} {term : String} {dimension : Nat}
    (h : vocabulary.dimension? term = some dimension) (hnew : term ∉ weights.map Prod.fst)
    (w : Binary64) : (layOut vocabulary.terms weights).set dimension w =
      layOut vocabulary.terms (weights ++ [(term, w)]) := by
  have hterm := vocabulary.dimension?_eq_some_iff.1 h
  have hbound := (List.getElem?_eq_some_iff.1 hterm).1
  have hnone : weights.lookup term = none := lookup_eq_none_iff_not_mem.2 hnew
  apply List.ext_getElem?
  intro i
  by_cases hi : dimension = i
  · subst hi
    rw [List.getElem?_set_self (by rw [layOut, List.length_map]; exact hbound),
      getElem?_layOut hterm, List.lookup_append, hnone, Option.none_or, lookup_cons_ite, if_pos rfl]
    rfl
  · -- a term at another dimension is another term
    rw [List.getElem?_set_ne hi, layOut, layOut, List.getElem?_map, List.getElem?_map]
    refine Option.map_congr ?_
    intro other hother
    have hne : other ≠ term := by
      rintro rfl
      rw [← vocabulary.dimension?_eq_some_iff, h] at hother
      exact hi (Option.some.inj hother)
    rw [List.lookup_append, lookup_cons_ite, if_neg hne, List.lookup_nil, Option.or_none]

/-- Writing the weights of terms none of which has been written yet. -/
theorem foldlM_write {vocabulary : Vocabulary}
    {entry : String → Except ArithmeticError (String × Binary64)}
    (hentry : ∀ term, entry term = Prod.mk term <$> statistics.weight tokens term)
    {terms : List String} (hterms : terms.Nodup)
    (hnew : ∀ term ∈ terms, term ∉ weights.map Prod.fst) :
    terms.foldlM (statistics.write vocabulary tokens) (layOut vocabulary.terms weights) =
      (fun more => layOut vocabulary.terms (weights ++ more)) <$>
        (terms.filter vocabulary.terms.contains).mapM entry := by
  induction terms generalizing weights with
  | nil => simp
  | cons term rest ih =>
    obtain ⟨hterm, hrest⟩ := List.nodup_cons.1 hterms
    obtain ⟨hhead, htail⟩ := List.forall_mem_cons.1 hnew
    rw [List.foldlM_cons]
    by_cases hknown : term ∈ vocabulary.terms
    · obtain ⟨dimension, hdimension⟩ := List.getElem?_of_mem hknown
      rw [← vocabulary.dimension?_eq_some_iff] at hdimension
      rw [List.filter_cons_of_pos (List.contains_iff_mem.2 hknown), List.mapM_cons, hentry, write,
        hdimension]
      cases statistics.weight tokens term with
      | error error => rfl
      | ok w =>
        have hstep : ∀ later ∈ rest, later ∉ (weights ++ [(term, w)]).map Prod.fst := by
          intro later hlater
          rw [List.map_append, List.mem_append, not_or]
          refine ⟨htail later hlater, ?_⟩
          simpa using fun heq : later = term => hterm (heq ▸ hlater)
        simp only [ok_bind, map_ok, except_pure, set_layOut hdimension hhead, ih hrest hstep]
        cases (rest.filter vocabulary.terms.contains).mapM entry with
        | error error => rfl
        | ok more => simp
    · rw [write_of_unknown hknown, ok_bind, ih hrest htail,
        List.filter_cons_of_neg (by simpa using hknown)]

/-- The vector of a text is what writing its weights into zeros gives. -/
theorem vector_eq_writeAll (statistics : Statistics) (vocabulary : Vocabulary) (tokens : Tokens) :
    statistics.vector vocabulary.terms tokens =
      tokens.terms.foldlM (statistics.write vocabulary tokens)
        (List.replicate vocabulary.size .zero) := by
  have hterms : tokens.terms.Nodup := tokens.counts.nodup_keys
  rw [Vocabulary.size, ← layOut_nil, foldlM_write (fun _ => rfl) hterms (by simp)]
  rfl

end Statistics

/-! ## Texts with the same known terms -/

/-- The counts of the known terms. -/
def Tokens.knownCounts (tokens : Tokens) (known : List String) : List (String × Number) :=
  tokens.counts.entries.filter fun entry => known.contains entry.1

namespace Statistics

variable {statistics : Statistics} {known : List String} {tokens other : Tokens}

theorem map_fst_knownCounts (tokens : Tokens) (known : List String) :
    (tokens.knownCounts known).map Prod.fst = tokens.terms.filter known.contains := by
  rw [Tokens.terms, OrderedMap.keys, List.filter_map]
  rfl

theorem weight_congr (hlength : other.length = tokens.length)
    (hcounts : (other.knownCounts known).Perm (tokens.knownCounts known)) {term : String}
    (hterm : term ∈ known) : statistics.weight other term = statistics.weight tokens term := by
  have hmem : ∀ (tokens : Tokens) (count : Number),
      tokens.counts.get? term = some count ↔ (term, count) ∈ tokens.knownCounts known := by
    intro tokens count
    rw [OrderedMap.get?_eq_some_iff, Tokens.knownCounts, List.mem_filter]
    simp [hterm]
  have hget : other.counts.get? term = tokens.counts.get? term := by
    ext count
    rw [hmem, hmem, hcounts.mem_iff]
  rw [weight, weight, termFrequency, termFrequency, hlength, OrderedMap.getD, OrderedMap.getD, hget]

/-- Terms that are not known have no influence on a vector, nor on the failure to calculate it. -/
theorem vector_congr (hlength : other.length = tokens.length)
    (hcounts : other.knownCounts known = tokens.knownCounts known) :
    statistics.vector known other = statistics.vector known tokens := by
  have hterms : other.terms.filter known.contains = tokens.terms.filter known.contains := by
    rw [← map_fst_knownCounts, hcounts, map_fst_knownCounts]
  have hweight : ∀ term ∈ tokens.terms.filter known.contains,
      statistics.weight other term = statistics.weight tokens term := by
    intro term hterm
    have hknown := List.contains_iff_mem.1 (List.mem_filter.1 hterm).2
    exact weight_congr hlength (.of_eq hcounts) hknown
  rw [vector, vector, weights, weights, hterms]
  exact congrArg _ (mapM_congr fun term hterm => by rw [hweight term hterm])

/-- The order of the counts has no influence on a vector. -/
theorem vector_of_perm {v : DocumentVector} (hlength : other.length = tokens.length)
    (hcounts : (other.knownCounts known).Perm (tokens.knownCounts known))
    (h : statistics.vector known tokens = .ok v) : statistics.vector known other = .ok v := by
  have hterms : ∀ term,
      term ∈ other.terms.filter known.contains ↔ term ∈ tokens.terms.filter known.contains := by
    intro term
    rw [← map_fst_knownCounts, ← map_fst_knownCounts, (hcounts.map _).mem_iff]
  have hweight : ∀ term ∈ known, statistics.weight other term = statistics.weight tokens term :=
    fun _ hterm => weight_congr hlength hcounts hterm
  have hother : ∃ w, statistics.vector known other = .ok w := by
    rw [exists_vector_iff]
    intro term hterm
    rw [hweight term (List.contains_iff_mem.1 (List.mem_filter.1 hterm).2)]
    exact exists_vector_iff.1 ⟨v, h⟩ term ((hterms term).1 hterm)
  obtain ⟨w, hw⟩ := hother
  obtain ⟨mine, hmine, rfl⟩ := map_eq_ok_iff.1 h
  obtain ⟨theirs, htheirs, rfl⟩ := map_eq_ok_iff.1 hw
  rw [hw]
  refine congrArg Except.ok (List.map_congr_left fun term hterm => ?_)
  have hlookup : theirs.lookup term = mine.lookup term := by
    ext weight
    rw [lookup_weights_iff htheirs, lookup_weights_iff hmine, hterms, hweight term hterm]
  rw [hlookup]

end Statistics

/-! ## Vectors of an engine -/

namespace Engine

/-- The vector is as long as the vocabulary, holds the weight of each known term of the text at the
dimension of the term, and is zero elsewhere. -/
structure Placed (engine : Engine τ) (tokens : Tokens) (v : DocumentVector) : Prop where
  length_eq : v.length = engine.vocabulary.size
  known : ∀ term ∈ tokens.terms, term ∈ engine.vocabulary.terms → ∃ dimension tf idf,
    engine.vocabulary.dimension? term = some dimension ∧ termFrequency tokens term = .ok tf ∧
      engine.corpus.statistics.inverseFrequency term = .ok idf ∧ v[dimension]? = some (tf.mul idf)
  zero : ∀ dimension < engine.vocabulary.size,
    (∀ term ∈ tokens.terms, engine.vocabulary.dimension? term ≠ some dimension) →
      v[dimension]? = some .zero

theorem placed_of_vector {engine : Engine τ} {tokens : Tokens} {v : DocumentVector}
    (h : engine.vector tokens = .ok v) : engine.Placed tokens v := by
  have hvector := mapError_eq_ok_iff.1 h
  obtain ⟨weights, hweights, rfl⟩ := map_eq_ok_iff.1 hvector
  refine ⟨Statistics.length_vector hvector, ?_, ?_⟩
  · intro term hterm hknown
    have hmem : term ∈ tokens.terms.filter engine.vocabulary.terms.contains :=
      List.mem_filter.2 ⟨hterm, List.contains_iff_mem.2 hknown⟩
    obtain ⟨w, hw⟩ := Statistics.exists_vector_iff.1 ⟨_, hvector⟩ term hmem
    obtain ⟨tf, idf, htf, hidf, rfl⟩ := Statistics.weight_eq_ok_iff.1 hw
    obtain ⟨dimension, hdimension⟩ := List.getElem?_of_mem hknown
    refine ⟨dimension, tf, idf, engine.vocabulary.dimension?_eq_some_iff.2 hdimension, htf, hidf,
      ?_⟩
    rw [Statistics.getElem?_layOut hdimension,
      (Statistics.lookup_weights_iff hweights).2 ⟨hmem, hw⟩, Option.getD_some]
  · intro dimension hdimension hnot
    have hterm : engine.vocabulary.terms[dimension]? = some engine.vocabulary.terms[dimension] :=
      List.getElem?_eq_getElem hdimension
    have hnone : weights.lookup engine.vocabulary.terms[dimension] = none := by
      apply Statistics.lookup_weights_eq_none hweights
      intro hmem
      exact hnot _ hmem (engine.vocabulary.dimension?_eq_some_iff.2 hterm)
    rw [Statistics.getElem?_layOut hterm, hnone, Option.getD_none]

/-- A vector cannot be calculated if a known term of the text lacks one of its two factors. -/
theorem exists_vector_error_iff {engine : Engine τ} {tokens : Tokens} :
    (∃ error, engine.vector tokens = .error error) ↔
      ∃ term ∈ tokens.terms, term ∈ engine.vocabulary.terms ∧
        ((∃ cause, termFrequency tokens term = .error cause) ∨
          ∃ cause, engine.corpus.statistics.inverseFrequency term = .error cause) := by
  have hvector : (∃ error, engine.vector tokens = .error error) ↔ ∃ cause,
      engine.corpus.statistics.vector engine.vocabulary.terms tokens = .error cause := by
    rw [vector]
    cases engine.corpus.statistics.vector engine.vocabulary.terms tokens <;> simp
  have hweight : ∀ term, (∃ cause, engine.corpus.statistics.weight tokens term = .error cause) ↔
      (∃ cause, termFrequency tokens term = .error cause) ∨
        ∃ cause, engine.corpus.statistics.inverseFrequency term = .error cause := by
    intro term
    simp only [Statistics.weight_eq_error_iff]
    cases termFrequency tokens term <;> simp
  simp only [hvector, Statistics.vector_eq_error_iff, exists_firstFailure_iff, hweight,
    List.mem_filter, List.contains_iff_mem, and_assoc]

theorem queryVector_of_known {engine : Engine τ} {query : τ} {tokens : Tokens}
    (h : engine.tokenizer query = .ok tokens)
    (hknown : ∃ term ∈ tokens.terms, term ∈ engine.vocabulary.terms) :
    engine.queryVector query = some <$> engine.vector tokens := by
  obtain ⟨term, hterm, hmem⟩ := hknown
  have hany : tokens.terms.any engine.vocabulary.contains = true :=
    List.any_eq_true.2 ⟨term, hterm, List.contains_iff_mem.2 hmem⟩
  rw [queryVector, h]
  exact if_pos hany

theorem queryVector_of_unknown {engine : Engine τ} {query : τ} {tokens : Tokens}
    (h : engine.tokenizer query = .ok tokens)
    (hunknown : ∀ term ∈ tokens.terms, term ∉ engine.vocabulary.terms) :
    engine.queryVector query = .ok none := by
  have hany : ¬ tokens.terms.any engine.vocabulary.contains = true := by
    rw [List.any_eq_true]
    rintro ⟨term, hterm, hmem⟩
    exact hunknown term hterm (List.contains_iff_mem.1 hmem)
  rw [queryVector, h]
  exact if_neg hany

/-- In every state, a vector holds the weight of each known term of the text at the dimension of the
term and is zero elsewhere, if all these weights can be calculated; it is what writing the weights
one after the other gives. It depends on the counts of the known terms and on the length alone, and
not on the order of the counts. A query has no vector if none of its terms is known, and otherwise
the vector of all its tokens, those included that are not known. -/
theorem vector_places_weights (engine : Engine τ) (tokens : Tokens) :
    (∀ v, engine.vector tokens = .ok v → engine.Placed tokens v) ∧
    ((∃ error, engine.vector tokens = .error error) ↔
      ∃ term ∈ tokens.terms, term ∈ engine.vocabulary.terms ∧
        ((∃ cause, termFrequency tokens term = .error cause) ∨
          ∃ cause, engine.corpus.statistics.inverseFrequency term = .error cause)) ∧
    engine.vector tokens =
      (tokens.terms.foldlM (engine.corpus.statistics.write engine.vocabulary tokens)
        (List.replicate engine.vocabulary.size .zero)).mapError .arithmetic ∧
    (∀ other : Tokens, other.length = tokens.length →
      (other.knownCounts engine.vocabulary.terms = tokens.knownCounts engine.vocabulary.terms →
        engine.vector other = engine.vector tokens) ∧
      ((other.knownCounts engine.vocabulary.terms).Perm
          (tokens.knownCounts engine.vocabulary.terms) →
        ∀ v, engine.vector other = .ok v ↔ engine.vector tokens = .ok v)) ∧
    (∀ query, engine.tokenizer query = .ok tokens →
      (engine.queryVector query = .ok none ↔
        ∀ term ∈ tokens.terms, term ∉ engine.vocabulary.terms) ∧
      ((∃ term ∈ tokens.terms, term ∈ engine.vocabulary.terms) →
        engine.queryVector query = some <$> engine.vector tokens)) := by
  refine ⟨fun _ => placed_of_vector, exists_vector_error_iff, ?_, ?_, ?_⟩
  · rw [← Statistics.vector_eq_writeAll, vector]
  · intro other hlength
    refine ⟨fun hcounts => ?_, fun hcounts v => ?_⟩
    · rw [vector, vector, Statistics.vector_congr hlength hcounts]
    · rw [vector, vector, mapError_eq_ok_iff, mapError_eq_ok_iff]
      exact ⟨Statistics.vector_of_perm hlength.symm hcounts.symm,
        Statistics.vector_of_perm hlength hcounts⟩
  · intro query htokens
    refine ⟨⟨?_, queryVector_of_unknown htokens⟩, queryVector_of_known htokens⟩
    intro hnone term hterm hmem
    rw [queryVector_of_known htokens ⟨term, hterm, hmem⟩] at hnone
    obtain ⟨v, -, hsome⟩ := map_eq_ok_iff.1 hnone
    cases hsome

/-- An engine that knows three terms, at the dimensions zero, one and two. -/
def withThreeTerms : Engine String :=
  (fresh (.standard {}) []).afterAll [.call (.insert "Cat dog"), .call (.insert "Cow")]

/-- In the query for a dog and a unicorn the dog has a weight and the cow none. The terms of a
document can be counted in another order, and a term that is not known can be another one. -/
theorem placed_withThreeTerms :
    (∃ v, withThreeTerms.queryVector "Dog unicorn" = .ok (some v) ∧ v.length = 3 ∧
      v[2]? = some .zero ∧ ∃ tf idf, termFrequency (.ofList ["dog", "unicorn"]) "dog" = .ok tf ∧
        withThreeTerms.corpus.statistics.inverseFrequency "dog" = .ok idf ∧
        v[1]? = some (tf.mul idf)) ∧
    withThreeTerms.queryVector "unicorn" = .ok none ∧
    (∀ v, withThreeTerms.vector (.ofList ["dog", "cat"]) = .ok v ↔
      withThreeTerms.vector (.ofList ["cat", "dog"]) = .ok v) ∧
    withThreeTerms.vector (.ofList ["hydra", "dog"]) =
      withThreeTerms.vector (.ofList ["dog", "unicorn"]) := by
  obtain ⟨hplaced, -, -, hsame, hquery⟩ :=
    vector_places_weights withThreeTerms (.ofList ["dog", "unicorn"])
  obtain ⟨-, -, -, -, hunknown⟩ := vector_places_weights withThreeTerms (.ofList ["unicorn"])
  obtain ⟨-, -, -, hreordered, -⟩ := vector_places_weights withThreeTerms (.ofList ["cat", "dog"])
  have hvector : withThreeTerms.vector (.ofList ["dog", "unicorn"]) =
      .ok ((withThreeTerms.vector (.ofList ["dog", "unicorn"])).toOption.getD []) := by
    decide +kernel
  refine ⟨?_, ?_, ?_, ?_⟩
  · have hv := hplaced _ hvector
    have hknown := (hquery "Dog unicorn" (by decide +kernel)).2 (by decide +kernel)
    rw [hvector] at hknown
    obtain ⟨dimension, tf, idf, hdimension, htf, hidf, hentry⟩ :=
      hv.known "dog" (by decide +kernel) (by decide +kernel)
    obtain rfl : dimension = 1 :=
      Option.some.inj (hdimension.symm.trans (by decide +kernel))
    exact ⟨_, hknown, hv.length_eq.trans (by decide +kernel),
      hv.zero 2 (by decide +kernel) (by decide +kernel), tf, idf, htf, hidf, hentry⟩
  · exact (hunknown "unicorn" (by decide +kernel)).1.2 (by decide +kernel)
  · exact (hreordered (.ofList ["dog", "cat"]) (by decide +kernel)).2 (by decide +kernel)
  · exact (hsame (.ofList ["hydra", "dog"]) (by decide +kernel)).1 (by decide +kernel)

end Engine

end Retrieval
