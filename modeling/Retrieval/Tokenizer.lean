import Retrieval.Error
import Retrieval.Tokens
import Retrieval.Unicode.Lowercase
import Retrieval.Unicode.WordCharacter
set_option autoImplicit false

/-! # Tokenizers

A tokenizer is a function from documents to tokens that may fail. The standard one takes the
maximal runs of word characters of the text in lower case, drops those that are too long and those
that are stop words, and counts the rest. -/

namespace Retrieval

/-- A tokenizer of documents of type `τ`. -/
abbrev Tokenizer (τ : Type) := τ → Except Failure Tokens

/-- What the standard tokenizer drops. -/
structure TokenizerOptions where
  /-- Terms that are dropped. -/
  stopWords : List String := []
  /-- The greatest number of characters that a term may have. -/
  maxLength : Int := 255

/-- Whether a text starts with a word character. -/
def startsWord : List Char → Bool
  | [] => false
  | c :: _ => Unicode.isWordCharacter c

/-- The maximal runs of word characters, in order. A word character joins the run that the rest of
the text starts with, or is a run of its own if the rest starts with none. -/
def wordRuns : List Char → List (List Char)
  | [] => []
  | c :: rest =>
    if Unicode.isWordCharacter c then
      match startsWord rest, wordRuns rest with
      | true, run :: runs => (c :: run) :: runs
      | _, runs => [c] :: runs
    else wordRuns rest

/-- A text that starts with a word character has a first run. -/
theorem wordRuns_ne_nil {cs : List Char} (h : startsWord cs = true) : wordRuns cs ≠ [] := by
  match cs, h with
  | c :: rest, h =>
    simp only [startsWord] at h
    rw [wordRuns, if_pos h]
    split <;> simp

/-- Nothing of a word is lost, doubled or moved. -/
theorem flatten_wordRuns (cs : List Char) :
    (wordRuns cs).flatten = cs.filter Unicode.isWordCharacter := by
  induction cs with
  | nil => rfl
  | cons c rest ih =>
    rw [wordRuns, List.filter_cons]
    by_cases h : Unicode.isWordCharacter c = true
    · rw [if_pos h, if_pos h, ← ih]
      split
      · next heq => simp [heq]
      · simp
    · rw [if_neg h, if_neg h, ih]

/-- A run holds something, and word characters only. -/
theorem forall_mem_wordRuns (cs : List Char) :
    ∀ run ∈ wordRuns cs, run ≠ [] ∧ ∀ c ∈ run, Unicode.isWordCharacter c = true := by
  induction cs with
  | nil => simp [wordRuns]
  | cons c rest ih =>
    rw [wordRuns]
    by_cases h : Unicode.isWordCharacter c = true
    · rw [if_pos h]
      split
      · next run runs _ heq =>
        rw [heq] at ih
        intro r hr
        rcases List.mem_cons.1 hr with rfl | hr
        · exact ⟨by simp, by simpa [h] using (ih run (by simp)).2⟩
        · exact ih r (List.mem_cons_of_mem _ hr)
      · intro r hr
        rcases List.mem_cons.1 hr with rfl | hr
        · simp [h]
        · exact ih r hr
    · rw [if_neg h]
      exact ih

/-- A character that is no word character parts the runs before it from those after it. -/
theorem wordRuns_append_cons (before : List Char) {c : Char} (after : List Char)
    (h : Unicode.isWordCharacter c = false) :
    wordRuns (before ++ c :: after) = wordRuns before ++ wordRuns after := by
  induction before with
  | nil => simp [wordRuns, h]
  | cons d rest ih =>
    have hstart : startsWord (rest ++ c :: after) = startsWord rest := by
      cases rest <;> simp [startsWord, h]
    rw [List.cons_append, wordRuns, wordRuns, hstart, ih]
    by_cases hd : Unicode.isWordCharacter d = true
    · rw [if_pos hd, if_pos hd]
      cases hs : startsWord rest with
      | false => rfl
      | true =>
        cases hr : wordRuns rest with
        | nil => exact absurd hr (wordRuns_ne_nil hs)
        | cons run runs => rfl
    · rw [if_neg hd, if_neg hd]

/-- Whether a run of word characters becomes a token. -/
def TokenizerOptions.admits (options : TokenizerOptions) (run : List Char) : Bool :=
  decide ((run.length : Int) ≤ options.maxLength) && !options.stopWords.contains (.ofList run)

/-- The tokens of a text in order. -/
def TokenizerOptions.split (options : TokenizerOptions) (text : String) : List String :=
  ((wordRuns (Unicode.lowercase text.toList)).filter options.admits).map .ofList

/-- The tokens of a text, counted. -/
def TokenizerOptions.tokenize (options : TokenizerOptions) (text : String) : Tokens :=
  .ofList (options.split text)

namespace Tokenizer

/-- The standard tokenizer, which never fails. -/
def standard (options : TokenizerOptions) : Tokenizer String :=
  fun text => .ok (options.tokenize text)

/-- Whether a list occurs in another without gaps. -/
def occursIn (marker : List Char) : List Char → Bool
  | [] => marker.isEmpty
  | c :: rest => marker.isPrefixOf (c :: rest) || occursIn marker rest

/-- The standard tokenizer, except that it refuses every text in which the marker occurs. -/
def refusing (marker : String) (options : TokenizerOptions) : Tokenizer String :=
  fun text =>
    if occursIn marker.toList text.toList then
      .error (.runtime ("cannot analyze: " ++ text))
    else standard options text

/-- The failure on a text whose tokens are not in a table. -/
def noEntry : Failure := .runtime "no entry"

/-- A tokenizer that knows the tokens of some texts and refuses all others. -/
def tabulated (table : OrderedMap String Tokens) : Tokenizer String :=
  fun text =>
    match table.get? text with
    | some tokens => .ok tokens
    | none => .error noEntry

end Tokenizer

end Retrieval
