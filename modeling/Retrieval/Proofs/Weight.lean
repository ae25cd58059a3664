import Retrieval.Tokenizer
import Retrieval.Weight
import Retrieval.Proofs.Binary64.Logarithm
import Retrieval.Proofs.Counting
import Retrieval.Proofs.Number
import Retrieval.Proofs.Traversal

set_option autoImplicit false

/-! # Weights that can be calculated

The weight of a term is a quotient times a logarithm of a quotient, and each of the three can fail.
It does not where the numbers come from a tokenizer that counts: a frequency is then at most the
length of its text, so the first quotient is at most 1; a document frequency is at most the number
of documents, so the second one is at least a half and has a logarithm; and below `2 ^ 1000`
documents neither is too large for a double. The weights are finite then, since no logarithm is
large (`exists_vector_eq_ok`). Whatever the numbers are, a vector can be calculated if the weights
of all known terms can (`Statistics.exists_vector_iff`). -/

namespace Retrieval

/-! ## The entries of a vector -/

namespace Statistics

variable {statistics : Statistics} {known : List String} {tokens other : Tokens}
  {weights : List (String × Binary64)} {v w : DocumentVector}

theorem getElem?_layOut {i : Nat} {term : String} (h : known[i]? = some term)
    (weights : List (String × Binary64)) :
    (layOut known weights)[i]? = some ((weights.lookup term).getD .zero) := by
  rw [layOut, List.getElem?_map, h, Option.map_some]

theorem length_vector (h : statistics.vector known tokens = .ok v) : v.length = known.length := by
  obtain ⟨weights, -, rfl⟩ := map_eq_ok_iff.1 h
  exact List.length_map _

theorem map_fst_weights (h : statistics.weights known tokens = .ok weights) :
    weights.map Prod.fst = tokens.terms.filter known.contains := by
  rw [map_fst_of_mapM_eq_ok h, List.map_id']

/-- Exactly the known terms of the text have weights. -/
theorem lookup_weights_iff (h : statistics.weights known tokens = .ok weights) {term : String}
    {w : Binary64} : weights.lookup term = some w ↔
      term ∈ tokens.terms.filter known.contains ∧ statistics.weight tokens term = .ok w := by
  have hfst := map_fst_weights h
  have hnodup : (weights.map Prod.fst).Nodup := by
    rw [hfst]
    exact tokens.counts.nodup_keys.filter _
  have hstep : ∀ entry ∈ weights, statistics.weight tokens entry.1 = .ok entry.2 := by
    intro entry hentry
    obtain ⟨_, -, hresult⟩ := exists_mem_of_mapM_eq_ok h hentry
    obtain ⟨w, hw, rfl⟩ := map_eq_ok_iff.1 hresult
    exact hw
  rw [lookup_eq_some_iff_mem hnodup, ← hfst]
  constructor
  · intro hmem
    exact ⟨List.mem_map_of_mem hmem, hstep _ hmem⟩
  · rintro ⟨hterm, hw⟩
    obtain ⟨entry, hmem, rfl⟩ := List.mem_map.1 hterm
    rw [hstep entry hmem] at hw
    cases hw
    exact hmem

theorem lookup_weights_eq_none (h : statistics.weights known tokens = .ok weights) {term : String}
    (hterm : term ∉ tokens.terms) : weights.lookup term = none := by
  rw [Option.eq_none_iff_forall_ne_some]
  intro w hw
  obtain ⟨hmem, -⟩ := (lookup_weights_iff h).1 hw
  exact hterm (List.mem_filter.1 hmem).1

/-- An entry is the weight of a term of the text, or zero. -/
theorem weight_or_zero_of_mem_vector (h : statistics.vector known tokens = .ok v) {x : Binary64}
    (hx : x ∈ v) : (∃ term ∈ tokens.terms, statistics.weight tokens term = .ok x) ∨ x = .zero := by
  obtain ⟨weights, hweights, rfl⟩ := map_eq_ok_iff.1 h
  obtain ⟨term, -, rfl⟩ := List.mem_map.1 hx
  cases hlookup : weights.lookup term with
  | none => exact Or.inr rfl
  | some x =>
    obtain ⟨hmem, hx⟩ := (lookup_weights_iff hweights).1 hlookup
    exact Or.inl ⟨term, (List.mem_filter.1 hmem).1, hx⟩

/-- The vectors of texts without a known term in common have no place at which both are other than
zero. -/
theorem zero_of_disjoint {others : Statistics} (hv : statistics.vector known tokens = .ok v)
    (hw : others.vector known other = .ok w)
    (h : ∀ term ∈ tokens.terms, term ∈ known → term ∉ other.terms) :
    ∀ pair ∈ v.zip w, pair.1 = .zero ∨ pair.2 = .zero := by
  obtain ⟨mine, hmine, rfl⟩ := map_eq_ok_iff.1 hv
  obtain ⟨theirs, htheirs, rfl⟩ := map_eq_ok_iff.1 hw
  intro pair hpair
  rw [layOut, layOut, List.zip_map', List.mem_map] at hpair
  obtain ⟨term, hknown, rfl⟩ := hpair
  by_cases hterm : term ∈ tokens.terms
  · right
    rw [lookup_weights_eq_none htheirs (h term hterm hknown), Option.getD_none]
  · left
    rw [lookup_weights_eq_none hmine hterm, Option.getD_none]

end Statistics

/-! ## Weights that cannot be calculated -/

namespace Statistics

variable {statistics : Statistics} {tokens : Tokens} {term : String} {error : ArithmeticError}

theorem weight_eq_ok_iff {w : Binary64} :
    statistics.weight tokens term = .ok w ↔
      ∃ tf idf, termFrequency tokens term = .ok tf ∧
        statistics.inverseFrequency term = .ok idf ∧ tf.mul idf = w := by
  rw [weight]
  cases termFrequency tokens term <;> cases statistics.inverseFrequency term <;> simp

theorem exists_weight_iff :
    (∃ w, statistics.weight tokens term = .ok w) ↔
      (∃ tf, termFrequency tokens term = .ok tf) ∧
        ∃ idf, statistics.inverseFrequency term = .ok idf := by
  rw [weight]
  cases termFrequency tokens term <;> cases statistics.inverseFrequency term <;> simp

theorem weight_eq_error_iff :
    statistics.weight tokens term = .error error ↔
      termFrequency tokens term = .error error ∨
        (∃ tf, termFrequency tokens term = .ok tf) ∧
          statistics.inverseFrequency term = .error error := by
  rw [weight]
  cases termFrequency tokens term <;> cases statistics.inverseFrequency term <;> simp

/-- A text has no vector if a known term of it has no weight, and the first such term is why. -/
theorem vector_eq_error_iff {known : List String} :
    statistics.vector known tokens = .error error ↔
      FirstFailure (statistics.weight tokens) (tokens.terms.filter known.contains) error := by
  rw [vector, map_eq_error_iff, weights, mapM_eq_error_iff_firstFailure]
  exact firstFailure_fmap_iff

/-- A text has a vector if every known term of it has a weight. -/
theorem exists_vector_iff {known : List String} :
    (∃ v, statistics.vector known tokens = .ok v) ↔
      ∀ term ∈ tokens.terms.filter known.contains, ∃ w,
        statistics.weight tokens term = .ok w := by
  simp only [forall_ok_iff_forall_not_firstFailure, ← vector_eq_error_iff]
  cases statistics.vector known tokens <;> simp

end Statistics

/-! ## Tokens of a tokenizer that counts -/

/-- The length is an integer, and so is the count of each term, which lies between 1 and the length.
-/
def Tokens.WellFormed (tokens : Tokens) : Prop :=
  ∃ length : Int, tokens.length = .int length ∧
    ∀ term count, tokens.counts.get? term = some count →
      ∃ c : Int, count = .int c ∧ 1 ≤ c ∧ c ≤ length

theorem Tokens.wellFormed_ofList (terms : List String) : (Tokens.ofList terms).WellFormed := by
  refine ⟨terms.length, rfl, ?_⟩
  intro term count hget
  rw [Corpus.get?_counts_ofList] at hget
  split at hget
  · next hterm =>
    cases hget
    have hpos := List.count_pos_iff.2 hterm
    have hle : terms.count term ≤ terms.length := List.count_le_length
    exact ⟨_, rfl, by omega, by omega⟩
  · cases hget

/-- The tokens of every text that is accepted are well formed. -/
def Tokenizer.WellFormed {τ : Type} (tokenizer : Tokenizer τ) : Prop :=
  ∀ text tokens, tokenizer text = .ok tokens → tokens.WellFormed

theorem Tokenizer.wellFormed_standard (options : TokenizerOptions) :
    (Tokenizer.standard options).WellFormed := by
  rintro text tokens ⟨⟩
  exact Tokens.wellFormed_ofList (options.split text)

/-- The frequency of a term relative to the length of its text is at most 1. -/
theorem exists_termFrequency_eq_ok {tokens : Tokens} (h : tokens.WellFormed) {term : String}
    (hterm : term ∈ tokens.terms) :
    ∃ tf, termFrequency tokens term = .ok tf ∧ tf.Within unitsPerOne := by
  obtain ⟨length, hlength, hcounts⟩ := h
  cases hget : tokens.counts.get? term with
  | none => exact absurd hterm (OrderedMap.get?_eq_none_iff.1 hget)
  | some count =>
    obtain ⟨c, rfl, hpos, hle⟩ := hcounts term count hget
    obtain ⟨m, rfl⟩ := Int.eq_ofNat_of_zero_le (a := c) (by omega)
    obtain ⟨n, rfl⟩ := Int.eq_ofNat_of_zero_le (a := length) (by omega)
    have hn : 0 < n := by omega
    have hmn : m ≤ n := by omega
    have hzero : (Number.int n).isZero = false := beq_false_of_ne (by omega)
    have hm : m ≤ n * twoPow 1000 := Nat.le_trans hmn (Nat.le_mul_of_pos_right n (twoPow_pos 1000))
    obtain ⟨grid, hdiv⟩ := Number.div_natCast hn hm
    have hbound : roundToGrid (m * unitsPerOne) n ≤ unitsPerOne := by
      apply roundToGrid_le_of_le onGrid_unitsPerOne hn
      rw [Nat.mul_comm unitsPerOne]
      exact Nat.mul_le_mul_right unitsPerOne hmn
    refine ⟨.finite false (roundToGrid (m * unitsPerOne) n) grid, ?_, .finite _ _ hbound⟩
    rw [termFrequency, hlength, hzero, if_neg Bool.false_ne_true, OrderedMap.getD, hget,
      Option.getD_some, hdiv]

/-! ## Statistics of documents -/

/-- The ratio of the documents to those that hold a term and one more is at least a half. -/
theorem half_le_ratio {total held : Nat} (hpos : 0 < total) (hheld : held ≤ total) :
    twoPow 1073 ≤ roundToGrid (total * unitsPerOne) (held + 1) := by
  have hone : unitsPerOne = 2 * twoPow 1073 := twoPow_succ 1073
  apply twoPow_le_roundToGrid
  rw [Nat.le_div_iff_mul_le (Nat.succ_pos held), hone]
  generalize twoPow 1073 = half
  calc half * (held + 1) ≤ half * (2 * total) := Nat.mul_le_mul_left half (by omega)
    _ = total * (2 * half) := by ring

theorem ratio_ne_zero {total held : Nat} (hpos : 0 < total) (hheld : held ≤ total) :
    roundToGrid (total * unitsPerOne) (held + 1) ≠ 0 :=
  Nat.ne_of_gt (Nat.lt_of_lt_of_le (twoPow_pos 1073) (half_le_ratio hpos hheld))

/-- While there are not too many documents, the ratio is a finite double. -/
theorem exists_ratio_eq {total : Nat} (hsize : total ≤ twoPow 1000) (held : Nat) :
    ∃ grid, (Number.int total).div (.int ((held + 1 : Nat) : Int)) =
      .ok (.finite false (roundToGrid (total * unitsPerOne) (held + 1)) grid) :=
  Number.div_natCast (Nat.succ_pos held)
    (Nat.le_trans hsize (Nat.le_mul_of_pos_left (twoPow 1000) (Nat.succ_pos held)))

/-- The inverse frequency of a term that so many of all documents hold. -/
def rarity (total held : Nat) : Binary64 :=
  (Binary64.logOf (roundToGrid (total * unitsPerOne) (held + 1))).add .one

theorem rarity_within {total held : Nat} (hpos : 0 < total) (hheld : held ≤ total)
    (hsize : total ≤ twoPow 1000) : (rarity total held).Within (twoPow 1093) := by
  obtain ⟨grid, -⟩ := exists_ratio_eq hsize held
  have hone : Binary64.one.Within (twoPow 1092) := .finite _ _ (twoPow_le_twoPow (by omega))
  apply (Binary64.logOf_within grid (ratio_ne_zero hpos hheld)).add hone
    (onGrid_twoPow (by omega))
  intro num hnum
  apply roundToGrid_le_of_le (onGrid_twoPow (by omega)) Nat.one_pos
  rwa [Nat.mul_one, twoPow_succ, Nat.two_mul]

/-- Among documents, of which there are not too many, every term has an inverse frequency. -/
theorem Statistics.inverseFrequency_eq {statistics : Statistics} {term : String} {total held : Nat}
    (htotal : statistics.total = .int total) (hfrequency : statistics.frequency term = .int held)
    (hpos : 0 < total) (hheld : held ≤ total) (hsize : total ≤ twoPow 1000) :
    statistics.inverseFrequency term = .ok (rarity total held) := by
  obtain ⟨grid, hratio⟩ := exists_ratio_eq hsize held
  have hsucc : (Number.int held).succ = .int ((held + 1 : Nat) : Int) := by
    rw [Number.succ, Int.natCast_succ]
  rw [inverseFrequency, htotal, hfrequency, hsucc, hratio, ok_bind,
    Binary64.log_finite grid (ratio_ne_zero hpos hheld), ok_bind]
  rfl

theorem exists_inverseFrequency_eq_ok {documents : List Tokens} (hne : documents ≠ [])
    (hsize : documents.length ≤ twoPow 1000) (term : String) :
    ∃ idf, (Corpus.ofTokens documents).statistics.inverseFrequency term = .ok idf ∧
      idf.Within (twoPow 1093) := by
  have hpos : 0 < documents.length := List.length_pos_iff.2 hne
  have hheld := Corpus.holders_le_length documents term
  refine ⟨_, Statistics.inverseFrequency_eq ?_ ?_ hpos hheld hsize, rarity_within hpos hheld hsize⟩
  · rw [Corpus.statistics_ofTokens]
  · rw [Corpus.statistics_ofTokens]

/-- A term of a text of a tokenizer that counts has a finite weight. -/
theorem exists_weight_eq_ok {documents : List Tokens} (hne : documents ≠ [])
    (hsize : documents.length ≤ twoPow 1000) {tokens : Tokens} (h : tokens.WellFormed)
    {term : String} (hterm : term ∈ tokens.terms) :
    ∃ w, (Corpus.ofTokens documents).statistics.weight tokens term = .ok w ∧
      w.isFinite = true := by
  obtain ⟨tf, htf, htf_within⟩ := exists_termFrequency_eq_ok h hterm
  obtain ⟨idf, hidf, hidf_within⟩ := exists_inverseFrequency_eq_ok hne hsize term
  have hwithin : (tf.mul idf).Within (twoPow 1093) :=
    htf_within.mul hidf_within (onGrid_twoPow (by omega)) (Nat.le_of_eq (Nat.mul_comm _ _))
  exact ⟨tf.mul idf, Statistics.weight_eq_ok_iff.2 ⟨tf, idf, htf, hidf, rfl⟩, hwithin.isFinite⟩

/-- A text of a tokenizer that counts has a vector, and its entries are finite. -/
theorem exists_vector_eq_ok {documents : List Tokens} (hne : documents ≠ [])
    (hsize : documents.length ≤ twoPow 1000) (known : List String) {tokens : Tokens}
    (h : tokens.WellFormed) :
    ∃ v, (Corpus.ofTokens documents).statistics.vector known tokens = .ok v ∧
      ∀ x ∈ v, x.isFinite = true := by
  have hvector : ∃ v, (Corpus.ofTokens documents).statistics.vector known tokens = .ok v := by
    rw [Statistics.exists_vector_iff]
    intro term hterm
    obtain ⟨w, hw, -⟩ := exists_weight_eq_ok hne hsize h (List.mem_filter.1 hterm).1
    exact ⟨w, hw⟩
  obtain ⟨v, hv⟩ := hvector
  refine ⟨v, hv, ?_⟩
  intro x hx
  rcases Statistics.weight_or_zero_of_mem_vector hv hx with ⟨term, hterm, hw⟩ | rfl
  · obtain ⟨w, hw', hfinite⟩ := exists_weight_eq_ok hne hsize h hterm
    rw [hw] at hw'
    cases hw'
    exact hfinite
  · rfl

end Retrieval
