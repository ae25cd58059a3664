import Retrieval.Proofs.Session.Changes

set_option autoImplicit false

/-! # Stores that are out of step

Before a document is stored, the store has to hold one text for each record. A store that holds more
texts than there are records fails this test, and nothing that the engine or its store does on its
own can mend it: the records do not grow, because every document is refused, and the texts do not
shrink. So the store stays out of step and the corpus as it is (`refused_at_every_moment`), unless a
step goes past the engine to close the store or to change records (`Step.bypasses`). -/

namespace Retrieval

variable {τ : Type}

/-- Whether a step closes the engine or its store, or changes records, statistics or vocabulary past
the tests that a document has to pass. -/
def Step.bypasses : Step τ → Bool
  | .operation .close => true
  | .corpus .recount => true
  | .corpus (.setTotal _) => true
  | .corpus (.setFrequency _ _) => true
  | .corpus (.push _) => true
  | .vocabulary (.observe _) => true
  | .store .close => true
  | .block _ => true
  | .failingBlock _ => true
  | _ => false

/-- Steps that bypass no test hold no blocks, so they are their own elements. -/
theorem Step.elementsAll_eq_self {steps : List (Step τ)}
    (h : ∀ step ∈ steps, step.bypasses = false) : Step.elementsAll steps = steps := by
  induction steps with
  | nil => rfl
  | cons step rest ih =>
    obtain ⟨hstep, hrest⟩ := List.forall_mem_cons.1 h
    rw [Step.elementsAll, ih hrest]
    cases step with
    | block steps => cases hstep
    | failingBlock failure => cases hstep
    | _ => rfl

namespace Engine

/-! ## Refusals -/

/-- A document is refused by the tokenizer or, at the latest, for the number of texts. -/
theorem addDocument_of_excess {engine : Engine τ} (h : engine.corpus.size < engine.store.size)
    (text : τ) : ∃ cause, engine.addDocument text = (.error (.write cause), engine) := by
  unfold addDocument
  cases engine.tokenizer text with
  | error failure => exact ⟨.untokenized failure, rfl⟩
  | ok tokens =>
    have hne : engine.store.size ≠ engine.corpus.size := Nat.ne_of_gt h
    exact ⟨.outOfStep engine.store.size engine.corpus.size, by simp [hne]⟩

theorem insert_of_excess {engine : Engine τ} (hopen : engine.closed = false)
    (h : engine.corpus.size < engine.store.size) (text : τ) :
    ∃ cause, engine.insert text = (.error (.write cause), engine) := by
  obtain ⟨cause, heq⟩ := addDocument_of_excess h text
  exact ⟨cause, by simp [insert, hopen, heq]⟩

/-! ## What stays as it is -/

/-- An open engine whose store holds more texts than the corpus has records, and whose corpus and
vocabulary are those of an earlier state. -/
structure Stuck (start engine : Engine τ) : Prop where
  not_closed : engine.closed = false
  corpus_eq : engine.corpus = start.corpus
  vocabulary_eq : engine.vocabulary = start.vocabulary
  excess : engine.corpus.size < engine.store.size

theorem Stuck.change {start engine after : Engine τ} {step : Step τ} (h : start.Stuck engine)
    (hchange : engine.Change step after) (hstep : step.bypasses = false) : start.Stuck after := by
  have hne : engine.store.size ≠ engine.corpus.size := Nat.ne_of_gt h.excess
  cases hchange with
  | idle => exact h
  | stray step text =>
    -- one more text in the store widens the gap
    have hsize : (engine.withStray text).store.size = engine.store.size + 1 := List.length_append
    have hexcess : engine.corpus.size < (engine.withStray text).store.size := by
      have := h.excess
      omega
    exact { h with excess := hexcess }
  | recording hadmits => exact absurd hadmits.inStep hne
  | admission hopen hadmits => exact absurd hadmits.inStep hne
  | rebuild step hcache => exact { h with }
  | markDirty => exact { h with }
  | configure change => exact { h with }
  | recount => cases hstep
  | setTotal n => cases hstep
  | setFrequency term n => cases hstep
  | push record => cases hstep
  | observe terms => cases hstep
  | release => cases hstep
  | closing hopen => cases hstep

/-- From any state in which the store holds more texts than the corpus has records, and at every
moment of whatever follows that bypasses no test, each attempt to add a document is refused with an
error of writing and changes nothing, and records, statistics and vocabulary are still the same. -/
theorem refused_at_every_moment (start : Engine τ) (hopen : start.closed = false)
    (hexcess : start.corpus.size < start.store.size) (steps : List (Step τ))
    (hsteps : ∀ step ∈ steps, step.bypasses = false) (moment : Engine τ)
    (hmoment : Moment start steps moment) :
    (∀ text, ∃ cause, moment.insert text = (.error (.write cause), moment)) ∧
    (∀ text, ∃ cause, moment.addDocument text = (.error (.write cause), moment)) ∧
    moment.corpus = start.corpus ∧ moment.vocabulary = start.vocabulary := by
  have hstart : start.Stuck start := ⟨hopen, rfl, rfl, hexcess⟩
  have hstuck : start.Stuck moment := by
    refine hmoment.induction ?_ hstart
    intro engine after element hmem h hchange
    rw [Step.elementsAll_eq_self hsteps] at hmem
    exact h.change hchange (hsteps element hmem)
  exact ⟨insert_of_excess hstuck.not_closed hstuck.excess, addDocument_of_excess hstuck.excess,
    hstuck.corpus_eq, hstuck.vocabulary_eq⟩

/-- A store that misnumbered one text is refused also after it has taken to numbering its texts as
if it had not. -/
theorem refused_after_misnumbering :
    ∃ cause, ((Step.runAll ((fresh (.standard {}) []).withStray "The cat")
        [.store (.configure { offset := some (-1) }), .operation (.insert "The dog"),
          .store (.append "The cow")]).2.insert "The cow").1 = .error (.write cause) := by
  obtain ⟨cause, heq⟩ := (refused_at_every_moment ((fresh (.standard {}) []).withStray "The cat")
    rfl (by decide) [.store (.configure { offset := some (-1) }), .operation (.insert "The dog"),
      .store (.append "The cow")] (by simp [Step.bypasses]) _ (.last _ _)).1 "The cow"
  exact ⟨cause, by rw [heq]⟩

end Engine

end Retrieval
