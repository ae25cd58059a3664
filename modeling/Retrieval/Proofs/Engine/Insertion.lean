import Retrieval.Engine
import Retrieval.Proofs.Counting
import Retrieval.Proofs.Number

set_option autoImplicit false

/-! # Insertion is all or nothing

A document has to pass five tests, one after the other, before records, statistics, vocabulary and
cache change. `Engine.Rejection` lists the ways to fail them, each with its error; `insert_cases`
says that an insertion into an open engine meets exactly one of them, or passes all tests and then
changes everything at once. A rejected document leaves no trace but in one case: a store that took
the text and reported another position than the next keeps the text at its end. -/

namespace Retrieval

variable {τ : Type}

/-- Whether the text of a document that was not added stays in the store. -/
def Error.leavesText : Error → Bool
  | write (.misnumbered _ _) => true
  | _ => false

/-- A store refuses a text and stays as it is, or puts it at its end. -/
theorem TextStore.append_cases (store : TextStore τ) (text : τ) :
    (∃ failure, store.conduct.writeFailure = some failure ∧
      store.append text = (.error failure, store)) ∨
    (store.conduct.writeFailure = none ∧
      store.append text = (.ok (store.size + store.conduct.offset),
        { store with texts := store.texts ++ [text] })) := by
  unfold append
  cases store.conduct.writeFailure with
  | some failure => exact Or.inl ⟨failure, rfl, rfl⟩
  | none => exact Or.inr ⟨rfl, rfl⟩

namespace Engine

/-! ## Rejections -/

/-- Why a document is not added to the corpus. Each reason presupposes that the tests before it were
passed. -/
inductive Rejection (engine : Engine τ) (text : τ) : Error → Prop
  | untokenized {failure : Failure} (htokens : engine.tokenizer text = .error failure) :
      Rejection engine text (.write (.untokenized failure))
  | outOfStep {tokens : Tokens} (htokens : engine.tokenizer text = .ok tokens)
      (hsize : engine.store.size ≠ engine.corpus.size) :
      Rejection engine text (.write (.outOfStep engine.store.size engine.corpus.size))
  | unstored {tokens : Tokens} {failure : Failure} (htokens : engine.tokenizer text = .ok tokens)
      (hsize : engine.store.size = engine.corpus.size)
      (hwrite : engine.store.conduct.writeFailure = some failure)
      (hsystem : failure.isWriteFailure = true) :
      Rejection engine text (.write (.unstored engine.corpus.size failure))
  | passedOn {tokens : Tokens} {failure : Failure} (htokens : engine.tokenizer text = .ok tokens)
      (hsize : engine.store.size = engine.corpus.size)
      (hwrite : engine.store.conduct.writeFailure = some failure)
      (hother : failure.isWriteFailure = false) :
      Rejection engine text (.passedOn failure)
  | misnumbered {tokens : Tokens} (htokens : engine.tokenizer text = .ok tokens)
      (hsize : engine.store.size = engine.corpus.size)
      (hwrite : engine.store.conduct.writeFailure = none)
      (hoffset : engine.store.conduct.offset ≠ 0) :
      Rejection engine text
        (.write (.misnumbered (engine.corpus.size + engine.store.conduct.offset)
          engine.corpus.size))

/-- The engine with a text at the end of its store that belongs to no record. -/
def withStray (engine : Engine τ) (text : τ) : Engine τ :=
  { engine with store := { engine.store with texts := engine.store.texts ++ [text] } }

/-- The engine after it has failed to add a document. -/
def rejecting (engine : Engine τ) (text : τ) (error : Error) : Engine τ :=
  if error.leavesText then engine.withStray text else engine

/-! ## Admissions -/

/-- A document passes all tests and has these tokens. -/
structure Admits (engine : Engine τ) (text : τ) (tokens : Tokens) : Prop where
  tokens_eq : engine.tokenizer text = .ok tokens
  inStep : engine.store.size = engine.corpus.size
  writable : engine.store.conduct.writeFailure = none
  numbered : engine.store.conduct.offset = 0

/-- The engine after a document with these tokens has come into its corpus. -/
def recording (engine : Engine τ) (text : τ) (tokens : Tokens) : Engine τ :=
  { engine.withStray text with corpus := engine.corpus.add tokens }

/-- The engine after it has added a document with these tokens. -/
def admitting (engine : Engine τ) (text : τ) (tokens : Tokens) : Engine τ :=
  { engine.recording text tokens with
    vocabulary := engine.vocabulary.addAll tokens.terms
    cache := engine.cache.markDirty }

/-- A document is rejected for a reason, or it passes all tests and comes into the corpus. -/
theorem addDocument_cases (engine : Engine τ) (text : τ) :
    (∃ error, engine.Rejection text error ∧
      engine.addDocument text = (.error error, engine.rejecting text error)) ∨
    (∃ tokens, engine.Admits text tokens ∧
      engine.addDocument text = (.ok engine.corpus.size, engine.recording text tokens)) := by
  unfold addDocument
  -- the tests in their order: tokenizer, number of texts, store, reported position
  cases htokens : engine.tokenizer text with
  | error failure => exact Or.inl ⟨_, .untokenized htokens, rfl⟩
  | ok tokens =>
    by_cases hsize : engine.store.size = engine.corpus.size
    · simp only [hsize, ne_eq, not_true_eq_false, if_false]
      rcases engine.store.append_cases text with ⟨failure, hwrite, happend⟩ | ⟨hwrite, happend⟩
      · rw [happend]
        left
        cases hsystem : failure.isWriteFailure with
        | true =>
          refine ⟨_, .unstored htokens hsize hwrite hsystem, ?_⟩
          simp only [writeError, hsystem]
          rfl
        | false =>
          refine ⟨_, .passedOn htokens hsize hwrite hsystem, ?_⟩
          simp only [writeError, hsystem]
          rfl
      · rw [happend, hsize]
        by_cases hoffset : engine.store.conduct.offset = 0
        · right
          refine ⟨tokens, ⟨htokens, hsize, hwrite, hoffset⟩, ?_⟩
          simp [hoffset, recording, withStray]
        · left
          refine ⟨_, .misnumbered htokens hsize hwrite hoffset, ?_⟩
          have hne : ¬ (engine.corpus.size + engine.store.conduct.offset : Int) =
              engine.corpus.size := by omega
          simp only [hne, not_false_eq_true, if_true]
          rfl
    · refine Or.inl ⟨_, .outOfStep htokens hsize, ?_⟩
      simp only [if_pos hsize]
      rfl

/-- What is learned of the last record are the terms of its document. -/
theorem learn_recording (engine : Engine τ) (text : τ) (tokens : Tokens) :
    (engine.recording text tokens).learn engine.corpus.size = engine.admitting text tokens := by
  have hrecord : (engine.recording text tokens).corpus.records[engine.corpus.size]? =
      some { id := engine.corpus.size, tokens } := by
    simp [recording, Corpus.add, Corpus.size]
  unfold learn
  rw [hrecord]
  rfl

/-- A closed engine refuses; an open one rejects a document for a reason or adds it. -/
theorem insert_cases (engine : Engine τ) (text : τ) :
    (engine.closed = true ∧ engine.insert text = (.error .closed, engine)) ∨
    (engine.closed = false ∧ ∃ error, engine.Rejection text error ∧
      engine.insert text = (.error error, engine.rejecting text error)) ∨
    (engine.closed = false ∧ ∃ tokens, engine.Admits text tokens ∧
      engine.insert text = (.ok engine.corpus.size, engine.admitting text tokens)) := by
  unfold insert
  cases hclosed : engine.closed with
  | true => exact Or.inl ⟨rfl, rfl⟩
  | false =>
    right
    rcases engine.addDocument_cases text with ⟨error, hreject, hadd⟩ | ⟨tokens, hadmits, hadd⟩
    · exact Or.inl ⟨rfl, error, hreject, by rw [hadd]; rfl⟩
    · refine Or.inr ⟨rfl, tokens, hadmits, ?_⟩
      rw [hadd]
      simp only [learn_recording]
      rfl

/-! ## What an insertion leaves behind -/

theorem Rejection.unique {engine : Engine τ} {text : τ} {error other : Error}
    (h : engine.Rejection text error) (h' : engine.Rejection text other) : error = other := by
  cases h <;> cases h' <;> simp_all

theorem Rejection.not_admits {engine : Engine τ} {text : τ} {error : Error} {tokens : Tokens}
    (h : engine.Rejection text error) : ¬ engine.Admits text tokens := by
  rintro ⟨htokens, hsize, hwrite, hoffset⟩
  cases h <;> simp_all

/-- The engine `after` differs from this one by one document with these tokens, and by nothing
else. -/
structure Gains (engine : Engine τ) (text : τ) (tokens : Tokens) (after : Engine τ) : Prop where
  /-- The text was stored at the end, which is the position of the new record. -/
  store_eq : after.store = { engine.store with texts := engine.store.texts ++ [text] }
  text_at : after.store.texts[engine.corpus.size]? = some text
  records_eq : after.corpus.records =
    engine.corpus.records ++ [{ id := engine.corpus.size, tokens }]
  total_eq : engine.corpus.total.add (.int 1) = .ok after.corpus.total
  /-- The terms of the document hold one document more than before. -/
  counted : ∀ term ∈ tokens.terms, ∃ count,
    (engine.corpus.frequency term).add (.int 1) = .ok count ∧
      after.corpus.frequencies.get? term = some count
  uncounted : ∀ term, term ∉ tokens.terms →
    after.corpus.frequencies.get? term = engine.corpus.frequencies.get? term
  /-- Terms that were not known come after those that were, in the order of the document. -/
  vocabulary_eq : after.vocabulary.terms =
    engine.vocabulary.terms ++ tokens.terms.filter fun term => term ∉ engine.vocabulary.terms
  cache_eq : after.cache = { engine.cache with dirty := true }
  tokenizer_eq : after.tokenizer = engine.tokenizer
  closed_eq : after.closed = engine.closed

theorem gains_admitting {engine : Engine τ} {text : τ} {tokens : Tokens}
    (h : engine.Admits text tokens) : engine.Gains text tokens (engine.admitting text tokens) where
  store_eq := rfl
  text_at := by
    have hlength : engine.store.texts.length = engine.corpus.size := h.inStep
    show (engine.store.texts ++ [text])[engine.corpus.size]? = some text
    rw [← hlength]
    exact List.getElem?_concat_length
  records_eq := rfl
  total_eq := Number.add_int_one _
  counted term hterm := by
    refine ⟨_, Number.add_int_one _, ?_⟩
    have hcount := Corpus.get?_countDocument engine.corpus.frequencies tokens.counts.nodup_keys term
    exact hcount.trans (if_pos hterm)
  uncounted term hterm := by
    have hcount := Corpus.get?_countDocument engine.corpus.frequencies tokens.counts.nodup_keys term
    exact hcount.trans (if_neg hterm)
  vocabulary_eq := by
    show (engine.vocabulary.addAll tokens.terms).terms = _
    rw [Vocabulary.terms_addAll]
    exact foldl_see_of_nodup _ tokens.counts.nodup_keys
  cache_eq := rfl
  tokenizer_eq := rfl
  closed_eq := rfl

/-- Whatever state an engine is in, an insertion fails with the error of the first test that the
document does not pass, and then leaves the engine as it was, except for the stray text of a store
that misnumbered it; or the document gets the next id, and the engine gains just this document. -/
theorem insert_all_or_nothing (engine : Engine τ) (text : τ) :
    (∀ error, (engine.insert text).1 = .error error ↔
      (engine.closed = true ∧ error = .closed) ∨
        (engine.closed = false ∧ engine.Rejection text error)) ∧
    (∀ error, (engine.insert text).1 = .error error →
      (engine.insert text).2 = if error.leavesText then engine.withStray text else engine) ∧
    (∀ id, (engine.insert text).1 = .ok id →
      id = engine.corpus.size ∧ ∃ tokens, engine.tokenizer text = .ok tokens ∧
        engine.Gains text tokens (engine.insert text).2) := by
  rcases engine.insert_cases text with
    ⟨hclosed, heq⟩ | ⟨hopen, error, hreject, heq⟩ | ⟨hopen, tokens, hadmits, heq⟩
  · -- a closed engine refuses before any test
    rw [heq]
    refine ⟨?_, ?_, nofun⟩
    · intro error
      simp [hclosed, eq_comm]
    · rintro error ⟨⟩
      rfl
  · -- no document is rejected for two reasons
    rw [heq]
    refine ⟨?_, ?_, nofun⟩
    · intro other
      constructor
      · rintro ⟨⟩
        exact Or.inr ⟨hopen, hreject⟩
      · rintro (⟨hclosed, -⟩ | ⟨-, hother⟩)
        · exact absurd hclosed (by simp [hopen])
        · exact congrArg Except.error (hreject.unique hother)
    · rintro other ⟨⟩
      rfl
  · -- and none is rejected that passes the tests
    rw [heq]
    refine ⟨?_, nofun, ?_⟩
    · intro error
      constructor
      · nofun
      · rintro (⟨hclosed, -⟩ | ⟨-, hreject⟩)
        · exact absurd hclosed (by simp [hopen])
        · exact absurd hadmits hreject.not_admits
    · rintro id ⟨⟩
      exact ⟨rfl, tokens, hadmits.tokens_eq, gains_admitting hadmits⟩

/-- A store that reports the position after the right one keeps the text of the document that is
not added; a sound one keeps it with the document. -/
theorem insert_cat_sound_or_misnumbered :
    ((fresh (.standard {}) []).insert "The cat").1 = .ok 0 ∧
    (∃ tokens, (fresh (.standard {}) []).Gains "The cat" tokens
      ((fresh (.standard {}) []).insert "The cat").2) ∧
    (insert { tokenizer := .standard {}, store := { conduct := { offset := 1 } } } "The cat").1 =
      .error (.write (.misnumbered 1 0)) ∧
    (insert { tokenizer := .standard {}, store := { conduct := { offset := 1 } } } "The cat").2 =
      withStray { tokenizer := .standard {}, store := { conduct := { offset := 1 } } }
        "The cat" := by
  have hok : ((fresh (.standard {}) []).insert "The cat").1 = .ok 0 := rfl
  have herror : (insert { tokenizer := .standard {}, store := { conduct := { offset := 1 } } }
      "The cat").1 = .error (.write (.misnumbered 1 0)) := rfl
  obtain ⟨-, tokens, -, hgains⟩ := (insert_all_or_nothing _ _).2.2 0 hok
  exact ⟨hok, ⟨tokens, hgains⟩, herror, (insert_all_or_nothing _ _).2.1 _ herror⟩

end Engine

end Retrieval
