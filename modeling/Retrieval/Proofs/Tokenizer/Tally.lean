import Mathlib.Algebra.BigOperators.Group.List.Lemmas
import Retrieval.Proofs.Weight
import Retrieval.Tokenizer

set_option autoImplicit false

/-! # Counted tokens

The counts of a list of terms are written out by one equation: the different terms in the order of
first occurrence, each with the number of its occurrences (`Tokens.entries_counts_ofList`). Added
up they give the length of the list, because each occurrence is one of exactly one term
(`Tokens.total_ofList`). For the tokens of a text this says that nothing is lost or counted twice
between splitting and counting (`tokenize_tallies`). -/

namespace Retrieval

/-- The sum of numbers from the left, which starts from the integer zero. -/
def Number.sum (numbers : List Number) : Except ArithmeticError Number :=
  numbers.foldlM Number.add (.int 0)

theorem Number.sum_map_int (ns : List Nat) :
    Number.sum (ns.map fun n : Nat => .int n) = .ok (.int ns.sum) := by
  have hfold : ∀ start : Nat, (ns.map fun n : Nat => int n).foldlM add (.int start) =
      .ok (.int (start + ns.sum : Nat)) := by
    induction ns with
    | nil => exact fun start => rfl
    | cons n rest ih =>
      intro start
      rw [List.map_cons, List.foldlM_cons, add_int, ok_bind, ← Int.natCast_add, ih,
        List.sum_cons, Nat.add_assoc]
  rw [sum, ← Int.natCast_zero, hfold, Nat.zero_add]

namespace Tokens

/-- The sum of the counts. -/
def total (tokens : Tokens) : Except ArithmeticError Number :=
  Number.sum (tokens.counts.entries.map Prod.snd)

/-- The tokens are the terms of a list, each counted as often as it occurs there. -/
structure Tallies (tokens : Tokens) (terms : List String) : Prop where
  order : IsFirstSeenOrder terms tokens.terms
  count : ∀ term ∈ terms, tokens.counts.get? term = some (.int (terms.count term))
  length_eq : tokens.length = .int terms.length
  total_eq : tokens.total = .ok tokens.length
  wellFormed : tokens.WellFormed
  empty_iff : tokens.length = .int 0 ↔ tokens.counts = .empty

theorem entries_counts_ofList (terms : List String) :
    (ofList terms).counts.entries =
      terms.eraseDups.map fun term => (term, .int (terms.count term)) := by
  rw [OrderedMap.entries_eq_map_keys _ (.int 0), ← Tokens.terms, Corpus.terms_ofList]
  simp only [Corpus.getD_counts_ofList]

/-- Every occurrence is one of exactly one of the different terms. -/
theorem sum_count_eraseDups (terms : List String) :
    (terms.eraseDups.map fun term => terms.count term).sum = terms.length := by
  have hperm : terms.eraseDups.Perm terms.dedup := by
    have hnodup : terms.eraseDups.Nodup := (isFirstSeenOrder_iff.2 rfl).nodup
    rw [List.perm_ext_iff_of_nodup hnodup terms.nodup_dedup]
    simp
  rw [(hperm.map _).sum_eq, List.sum_map_count_dedup_eq_length]

theorem total_ofList (terms : List String) : (ofList terms).total = .ok (.int terms.length) := by
  have hcounts : (ofList terms).counts.entries.map Prod.snd =
      (terms.eraseDups.map fun term => terms.count term).map fun n : Nat => .int n := by
    rw [entries_counts_ofList, List.map_map, List.map_map]
    rfl
  rw [total, hcounts, Number.sum_map_int, sum_count_eraseDups]

theorem tallies_ofList (terms : List String) : (ofList terms).Tallies terms where
  order := isFirstSeenOrder_iff.2 (Corpus.terms_ofList terms)
  count term hterm := by rw [Corpus.get?_counts_ofList, if_pos hterm]
  length_eq := rfl
  total_eq := total_ofList terms
  wellFormed := wellFormed_ofList terms
  empty_iff := by
    cases terms with
    | nil => exact iff_of_true rfl rfl
    | cons term rest =>
      have hterm : term ∈ (ofList (term :: rest)).terms := by
        rw [Corpus.terms_ofList, List.mem_eraseDups]
        exact List.mem_cons_self
      refine iff_of_false (fun hlength => ?_) fun hcounts => ?_
      · cases hlength
      · rw [Tokens.terms, hcounts] at hterm
        cases hterm

end Tokens

/-- Tokenizing never fails, and the result counts the tokens of the text. -/
theorem tokenize_tallies (options : TokenizerOptions) (text : String) :
    ∃ tokens, Tokenizer.standard options text = .ok tokens ∧
      tokens.Tallies (options.split text) :=
  ⟨options.tokenize text, rfl, Tokens.tallies_ofList (options.split text)⟩

/-- Stop words are dropped before anything is counted. -/
example : ({ stopWords := ["the", "a"] } : TokenizerOptions).tokenize "the cat and a cat" =
    { counts := .ofList [("cat", .int 2), ("and", .int 1)], length := .int 3 } := by decide +kernel

end Retrieval
