import Retrieval.Proofs.Counting
import Retrieval.Proofs.Unicode.Lowercase
import Retrieval.Tokenizer

set_option autoImplicit false

/-! # Tokens on both sides of a separator

A text can be tokenized in parts if these are parted by a neutral character, a space for instance
(`Neutral`): the tokens of the whole are those of the parts in their order, and any number of parts
may be joined (`split_intercalate`). Such a character is in no run of word characters, and it ends
the search for the neighbours of a capital sigma. A full stop does only the former.

Counting a concatenation adds the counts, and the new terms come behind the old ones
(`Tokens.joined_ofList`). -/

namespace Retrieval

open Unicode (isWordCharacter)

/-- The character is no part of a word, is its own lower case, and the lower case of no other
character depends on it or on what lies beyond it. -/
structure Neutral (c : Char) : Prop where
  not_word : isWordCharacter c = false
  own : Unicode.lowercase [c] = [c]
  not_cased : Unicode.isCased c = false
  not_ignorable : Unicode.isCaseIgnorable c = false

theorem neutral_space : Neutral ' ' :=
  ⟨by decide +kernel, by decide +kernel, by decide +kernel, by decide +kernel⟩

/-! ## Splitting -/

namespace TokenizerOptions

variable (options : TokenizerOptions)

theorem split_append_singleton {c : Char} (hc : Neutral c) (before after : String) :
    options.split (before ++ String.singleton c ++ after) =
      options.split before ++ options.split after := by
  have hchars : (before ++ String.singleton c ++ after).toList =
      before.toList ++ c :: after.toList := by simp
  have hlower := Unicode.lowercase_append_cons hc.own hc.not_cased hc.not_ignorable
    before.toList after.toList
  rw [split, hchars, hlower, wordRuns_append_cons _ _ hc.not_word, List.filter_append,
    List.map_append, ← split, ← split]

theorem split_empty : options.split "" = [] := rfl

/-- The tokens of joined texts are those of the texts, in order. -/
theorem split_intercalate {c : Char} (hc : Neutral c) (texts : List String) :
    options.split ((String.singleton c).intercalate texts) = texts.flatMap options.split := by
  induction texts with
  | nil => exact options.split_empty
  | cons text rest ih =>
    cases rest with
    | nil => simp
    | cons next more =>
      rw [List.flatMap_cons, ← ih, String.intercalate_cons_cons,
        options.split_append_singleton hc]

end TokenizerOptions

/-! ## Counting -/

/-- What the tokens of a whole have to do with those of its two parts. -/
structure Tokens.Joined (whole first second : Tokens) : Prop where
  length : first.length.add second.length = .ok whole.length
  counts : ∀ term, (first.counts.getD term (.int 0)).add (second.counts.getD term (.int 0)) =
    .ok (whole.counts.getD term (.int 0))
  terms : whole.terms = first.terms ++ second.terms.filter fun term => term ∉ first.terms

theorem Tokens.joined_ofList (xs ys : List String) :
    Joined (ofList (xs ++ ys)) (ofList xs) (ofList ys) where
  length := by simp [ofList, Number.add]
  counts term := by
    simp [Corpus.getD_counts_ofList, Number.add]
  terms := by
    simp only [Corpus.terms_ofList, List.mem_eraseDups]
    rw [← foldl_see_eraseDups, foldl_see_eq_append]
    simp only [List.mem_eraseDups]

/-! ## Tokenizing -/

/-- The tokens of two texts with a neutral character between them are those of the first text and
then those of the second, and their counts are put together. -/
theorem tokenize_separated (options : TokenizerOptions) {c : Char} (hc : Neutral c)
    (before after : String) :
    options.split (before ++ String.singleton c ++ after) =
        options.split before ++ options.split after ∧
      (options.tokenize (before ++ String.singleton c ++ after)).Joined
        (options.tokenize before) (options.tokenize after) := by
  have hsplit := options.split_append_singleton hc before after
  refine ⟨hsplit, ?_⟩
  rw [TokenizerOptions.tokenize, hsplit]
  exact Tokens.joined_ofList _ _

/-- A sigma before a space is a final one, whatever comes behind the space. -/
theorem tokenize_separated_space :
    Neutral ' ' ∧
      ({} : TokenizerOptions).split ("ΟΔΟΣ" ++ String.singleton ' ' ++ "Α") = ["οδος", "α"] ∧
      (({} : TokenizerOptions).tokenize ("ΟΔΟΣ" ++ String.singleton ' ' ++ "Α")).Joined
        (({} : TokenizerOptions).tokenize "ΟΔΟΣ") (({} : TokenizerOptions).tokenize "Α") := by
  obtain ⟨hsplit, hjoined⟩ := tokenize_separated {} neutral_space "ΟΔΟΣ" "Α"
  exact ⟨neutral_space, hsplit.trans (by decide +kernel), hjoined⟩

/-- A full stop parts words too, but the letter behind it keeps the sigma from being final. -/
example : ({} : TokenizerOptions).split "ΟΔΟΣ.Α" = ["οδοσ", "α"] := by decide +kernel

end Retrieval
