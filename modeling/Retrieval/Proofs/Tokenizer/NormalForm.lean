import Retrieval.Proofs.Engine.Effects
import Retrieval.Proofs.Tokenizer.Separation

set_option autoImplicit false

/-! # Texts in normal form

The normal form of a text is its tokens with single spaces between them. It is tokenized like the
text itself, and a second time nothing changes: spaces are neutral, a token is its own lower case
and a single run (`split_of_mem_split`), and what was admitted once is admitted again. A search can
therefore not tell a query from its normal form, for an engine sees of a query only what the
tokenizer makes of it (`Engine.search_congr`). -/

namespace Retrieval

open Unicode (isWordCharacter)

/-! ## Runs that are the whole text -/

theorem wordRuns_of_word {run : List Char} (hne : run ≠ [])
    (hword : ∀ c ∈ run, isWordCharacter c = true) : wordRuns run = [run] := by
  induction run with
  | nil => exact absurd rfl hne
  | cons c rest ih =>
    obtain ⟨hc, hrest⟩ := List.forall_mem_cons.1 hword
    rw [wordRuns, if_pos hc]
    cases rest with
    | nil => rfl
    | cons d more =>
      have hstart : startsWord (d :: more) = true := hrest d List.mem_cons_self
      rw [ih (List.cons_ne_nil d more) hrest, hstart]

theorem mem_of_mem_wordRuns {cs run : List Char} (h : run ∈ wordRuns cs) {c : Char}
    (hc : c ∈ run) : c ∈ cs := by
  have hflat : c ∈ (wordRuns cs).flatten := List.mem_flatten_of_mem h hc
  rw [flatten_wordRuns] at hflat
  exact (List.mem_filter.1 hflat).1

theorem lowercase_of_mem_wordRuns {cs run : List Char}
    (h : run ∈ wordRuns (Unicode.lowercase cs)) : Unicode.lowercase run = run :=
  Unicode.lowercaseFrom_of_own
    (fun _ hc => Unicode.ownLowercase_of_mem (mem_of_mem_wordRuns h hc)) false

/-! ## Joined tokens -/

namespace TokenizerOptions

variable (options : TokenizerOptions)

/-- The tokens of the text with single spaces between them. -/
def normalForm (text : String) : String := " ".intercalate (options.split text)

/-- A token is its only token. -/
theorem split_of_mem_split {text token : String} (h : token ∈ options.split text) :
    options.split token = [token] := by
  obtain ⟨run, hrun, rfl⟩ := List.mem_map.1 h
  obtain ⟨hmem, hadmitted⟩ := List.mem_filter.1 hrun
  obtain ⟨hne, hword⟩ := forall_mem_wordRuns _ run hmem
  rw [split, String.toList_ofList, lowercase_of_mem_wordRuns hmem, wordRuns_of_word hne hword,
    List.filter_cons_of_pos hadmitted]
  rfl

theorem split_normalForm (text : String) :
    options.split (options.normalForm text) = options.split text := by
  have htokens : (options.split text).map options.split =
      (options.split text).map fun token => [token] :=
    List.map_congr_left fun token h => options.split_of_mem_split h
  calc options.split (options.normalForm text)
      = (options.split text).flatMap options.split :=
        options.split_intercalate neutral_space (options.split text)
    _ = (options.split text).flatMap fun token => [token] := by
        rw [List.flatMap_def, htokens, ← List.flatMap_def]
    _ = options.split text := List.flatMap_singleton' _

/-- Texts have one normal form if they have the same tokens in the same order. -/
theorem normalForm_eq_iff (text other : String) :
    options.normalForm text = options.normalForm other ↔
      options.split text = options.split other := by
  constructor
  · intro h
    rw [← options.split_normalForm text, h, options.split_normalForm]
  · intro h
    rw [normalForm, normalForm, h]

end TokenizerOptions

/-! ## Queries with the same tokens -/

namespace Engine

variable {τ : Type}

theorem answer_congr {engine : Engine τ} {query other : τ}
    (h : engine.tokenizer query = engine.tokenizer other) (limit : Limit) :
    engine.answer query limit = engine.answer other limit := by
  rw [answer, answer, queryVector, queryVector, h]

/-- Queries with the same tokens have the same hits, and leave the engine in the same state. -/
theorem search_congr {engine : Engine τ} {query other : τ}
    (h : engine.tokenizer query = engine.tokenizer other) (limit : Limit) :
    engine.search query limit = engine.search other limit := by
  unfold search
  cases hrefresh : engine.refresh with
  | mk result after =>
    have hanswer : after.answer query limit = after.answer other limit := by
      apply answer_congr
      rw [eq_of_refresh hrefresh]
      exact h
    cases result with
    | error error => rfl
    | ok rebuilt => simp only [hanswer]

end Engine

/-- A text and its normal form have the same tokens, each as often and in the same order, and every
search gives for the one what it gives for the other. -/
theorem normalForm_indistinguishable (options : TokenizerOptions) (text : String) :
    options.split (options.normalForm text) = options.split text ∧
      options.tokenize (options.normalForm text) = options.tokenize text ∧
      ∀ (engine : Engine String) (limit : Limit), engine.tokenizer = .standard options →
        engine.search (options.normalForm text) limit = engine.search text limit := by
  have hsplit := options.split_normalForm text
  have htokenize : options.tokenize (options.normalForm text) = options.tokenize text := by
    rw [TokenizerOptions.tokenize, hsplit, TokenizerOptions.tokenize]
  refine ⟨hsplit, htokenize, ?_⟩
  intro engine limit hengine
  apply Engine.search_congr
  rw [hengine, Tokenizer.standard, Tokenizer.standard, htokenize]

/-- The dot over the capital I parts the word, and the sigma before the comma is a final one. -/
theorem normalForm_indistinguishable_greek :
    ({ stopWords := ["the"] } : TokenizerOptions).normalForm "The ΟΔΟΣ, İstanbul!" =
      "οδος i stanbul" ∧
    ∀ limit,
      ((Engine.fresh (.standard { stopWords := ["the"] }) []).afterAll
        [.call (.insert "i 5"), .call (.insert "ΟΔΟΣ")]).search "οδος i stanbul" limit =
      ((Engine.fresh (.standard { stopWords := ["the"] }) []).afterAll
        [.call (.insert "i 5"), .call (.insert "ΟΔΟΣ")]).search "The ΟΔΟΣ, İstanbul!" limit := by
  have hform : ({ stopWords := ["the"] } : TokenizerOptions).normalForm "The ΟΔΟΣ, İstanbul!" =
      "οδος i stanbul" := by decide +kernel
  refine ⟨hform, fun limit => ?_⟩
  rw [← hform]
  exact (normalForm_indistinguishable { stopWords := ["the"] } "The ΟΔΟΣ, İstanbul!").2.2 _ limit
    rfl

end Retrieval
