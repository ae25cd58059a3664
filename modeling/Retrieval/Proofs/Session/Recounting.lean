import Retrieval.Proofs.Engine.Coherence
import Retrieval.Proofs.Session.Changes

set_option autoImplicit false

/-! # Counting up and counting anew

The statistics are counted up with every document, and they can be counted anew from the records.
Both give the same, because counting anew after a document has come is counting up what was counted
anew before (`Corpus.recount_add`). So a recount changes nothing at any moment of a session that
does not write into the corpus past its own methods (`Step.overwrites`), whatever failed on the way;
and from any other state it leads to the statistics of the records (`Corpus.Counted`). -/

namespace Retrieval

variable {τ : Type}

namespace Corpus

/-- The statistics are those of the records, and no term that is in none of them has an entry. -/
structure Counted (corpus : Corpus) : Prop where
  total_eq : corpus.total = .int corpus.records.length
  /-- The terms of the records in the order of their first occurrence. -/
  keys_eq : corpus.frequencies.keys =
    (corpus.records.flatMap fun record => record.tokens.terms).eraseDups
  frequency_eq : ∀ term, corpus.frequencies.get? term =
    if ∃ record ∈ corpus.records, term ∈ record.tokens.terms then
      some (.int (corpus.records.countP fun record => record.tokens.terms.contains term))
    else none

/-- What is counted anew is counted from the records, whatever was counted before. -/
theorem frequencies_recount (corpus : Corpus) :
    corpus.recount.frequencies = countDocuments corpus.tokens := by
  rw [recount, countDocuments, tokens, List.foldl_map]

theorem counted_recount (corpus : Corpus) : corpus.recount.Counted := by
  have hcounts := counts_countDocuments corpus.tokens
  rw [← frequencies_recount] at hcounts
  refine ⟨rfl, ?_, ?_⟩
  · rw [hcounts.keys, tokens, List.flatMap_map]
    rfl
  · intro term
    rw [hcounts.get?, tokens, holders, List.countP_map, List.flatMap_map]
    simp only [List.mem_flatMap]
    rfl

/-- A document that comes after a recount is counted as if it had come before. -/
theorem recount_add (corpus : Corpus) (tokens : Tokens) :
    (corpus.add tokens).recount = corpus.recount.add tokens := by
  have htotal : (corpus.add tokens).recount.total = (corpus.recount.add tokens).total := by
    simp [recount, add, size, Number.succ]
  have hfrequencies : (corpus.add tokens).recount.frequencies =
      (corpus.recount.add tokens).frequencies := by
    simp [recount, add]
  rw [Corpus.mk.injEq]
  exact ⟨rfl, htotal, hfrequencies⟩

theorem recount_recount (corpus : Corpus) : corpus.recount.recount = corpus.recount := rfl

end Corpus

/-- Whether a step writes into the corpus past its own methods. -/
def Step.overwrites : Step τ → Bool
  | .corpus (.setTotal _) => true
  | .corpus (.setFrequency _ _) => true
  | .corpus (.push _) => true
  | _ => false

/-- Of all changes only those that add a document or recount concern the statistics. -/
theorem Engine.Change.recount_eq {engine after : Engine τ} {step : Step τ}
    (hchange : engine.Change step after) (hstep : step.overwrites = false)
    (h : engine.corpus.recount = engine.corpus) : after.corpus.recount = after.corpus := by
  have hadd : ∀ tokens, (engine.corpus.add tokens).recount = engine.corpus.add tokens := by
    intro tokens
    rw [Corpus.recount_add, h]
  cases hchange with
  | recording hadmits => exact hadd _
  | admission hopen hadmits => exact hadd _
  | recount => exact engine.corpus.recount_recount
  | setTotal n => cases hstep
  | setFrequency term n => cases hstep
  | push record => cases hstep
  | _ => exact h

theorem Moment.recount_eq {tokenizer : Tokenizer τ} {texts : List τ} {steps : List (Step τ)}
    {moment : Engine τ} (hmoment : Moment (.fresh tokenizer texts) steps moment)
    (hsteps : ∀ element ∈ Step.elementsAll steps, element.overwrites = false) :
    moment.corpus.recount = moment.corpus :=
  hmoment.induction (fun hmem h hchange => hchange.recount_eq (hsteps _ hmem) h) rfl

/-- At every moment of every session that only adds documents and recounts, if it does anything to
the corpus, a recount changes nothing, and the statistics are those of the records. From every state
whatever, a recount leads to the statistics of the records, and a second one changes nothing. -/
theorem recount_agrees_with_counting :
    (∀ (tokenizer : Tokenizer τ) (texts : List τ) (steps : List (Step τ)),
      (∀ element ∈ Step.elementsAll steps, element.overwrites = false) →
        ∀ moment, Moment (.fresh tokenizer texts) steps moment →
          moment.corpus.recount = moment.corpus ∧ moment.corpus.Counted) ∧
    ∀ corpus : Corpus, corpus.recount.records = corpus.records ∧ corpus.recount.Counted ∧
      corpus.recount.recount = corpus.recount := by
  refine ⟨?_, fun corpus => ⟨rfl, corpus.counted_recount, corpus.recount_recount⟩⟩
  intro tokenizer texts steps hsteps moment hmoment
  have hrecount := hmoment.recount_eq hsteps
  refine ⟨hrecount, ?_⟩
  rw [← hrecount]
  exact moment.corpus.counted_recount

/-- An engine that has taken a document, refused one that it could not store, and taken another past
its vocabulary. -/
def afterFailedWrite : Engine String :=
  (Step.runAll (.fresh (.standard {}) []) [.operation (.insert "Cat dog"),
    .store (.configure { writes := some (some .system) }), .operation (.insert "Cow"),
    .store (.configure { writes := some none }), .corpus (.addDocument "Dog")]).2

/-- The document that could not be stored is not counted. With a record pushed past the statistics,
the recount is what counts it. -/
theorem recount_afterFailedWrite :
    afterFailedWrite.corpus.recount = afterFailedWrite.corpus ∧
    afterFailedWrite.corpus.frequencies.get? "dog" = some (.int 2) ∧
    afterFailedWrite.corpus.frequencies.get? "cow" = none ∧
    (afterFailedWrite.corpus.push { id := 9, tokens := .ofList ["cow"] }).recount.frequencies.get?
      "cow" = some (.int 1) := by
  obtain ⟨hsession, hany⟩ := recount_agrees_with_counting (τ := String)
  obtain ⟨hrecount, hcounted⟩ := hsession (.standard {}) []
    [.operation (.insert "Cat dog"), .store (.configure { writes := some (some .system) }),
      .operation (.insert "Cow"), .store (.configure { writes := some none }),
      .corpus (.addDocument "Dog")] (by simp [Step.elementsAll, Step.elements, Step.overwrites])
    afterFailedWrite (.last _ _)
  obtain ⟨-, hpushed, -⟩ :=
    hany (afterFailedWrite.corpus.push { id := 9, tokens := .ofList ["cow"] })
  refine ⟨hrecount, ?_, ?_, ?_⟩
  · rw [hcounted.frequency_eq]
    decide +kernel
  · rw [hcounted.frequency_eq]
    decide +kernel
  · rw [hpushed.frequency_eq]
    decide +kernel

end Retrieval
