import Retrieval.Proofs.Binary64.Order
import Retrieval.Proofs.Session.Recounting
import Retrieval.Proofs.Weight

set_option autoImplicit false

/-! # Rare terms weigh more

The logarithm in an inverse frequency is below zero for a term that every document holds, because
one more than its documents are counted. It stays above -1, though: no more documents hold a term
than there are, so the ratio is at least a half (`Corpus.half_le_div`), and every step of the
calculation keeps the order, so that the result is at least that of a half (`zero_lt_rarity`). For
the same reason a term in more documents has no larger inverse frequency (`rarity_antitone`). Both
need statistics that count the documents, as they do at every moment of a session that does not
write into the corpus past its own methods (`rarity_at_every_moment`). -/

namespace Retrieval

variable {τ : Type}

/-! ## The inverse frequency as a function of counts -/

theorem isFinite_logOf_ratio {total held : Nat} (hpos : 0 < total) (hheld : held ≤ total)
    (hsize : total ≤ twoPow 1000) :
    (Binary64.logOf (roundToGrid (total * unitsPerOne) (held + 1))).isFinite = true := by
  obtain ⟨grid, -⟩ := exists_ratio_eq hsize held
  exact (Binary64.logOf_within grid (ratio_ne_zero hpos hheld)).isFinite

theorem zero_lt_rarity {total held : Nat} (hpos : 0 < total) (hheld : held ≤ total)
    (hsize : total ≤ twoPow 1000) : Binary64.zero.lt (rarity total held) = true := by
  -- the result for a half, of which `twoPow 1073` is the number of units
  have hlog : (Binary64.logOf (twoPow 1073)).isFinite = true := by decide +kernel
  have hsum : ((Binary64.logOf (twoPow 1073)).add .one).isFinite = true := by decide +kernel
  have hhalf : Binary64.zero.lt ((Binary64.logOf (twoPow 1073)).add .one) = true := by
    decide +kernel
  have hle : ((Binary64.logOf (twoPow 1073)).add .one).le (rarity total held) = true :=
    Binary64.add_le_add_right hlog (isFinite_logOf_ratio hpos hheld hsize) rfl
      (Binary64.logOf_mono (Nat.ne_of_gt (twoPow_pos 1073)) (half_le_ratio hpos hheld))
  exact Binary64.lt_of_lt_of_le rfl hsum (rarity_within hpos hheld hsize).isFinite hhalf hle

theorem rarity_antitone {total held more : Nat} (hpos : 0 < total) (hle : held ≤ more)
    (hmore : more ≤ total) (hsize : total ≤ twoPow 1000) :
    (rarity total more).le (rarity total held) = true := by
  have hratio : roundToGrid (total * unitsPerOne) (more + 1) ≤
      roundToGrid (total * unitsPerOne) (held + 1) :=
    roundToGrid_mono (Nat.succ_pos more) (Nat.succ_pos held)
      (Nat.mul_le_mul_left _ (Nat.succ_le_succ hle))
  exact Binary64.add_le_add_right (isFinite_logOf_ratio hpos hmore hsize)
    (isFinite_logOf_ratio hpos (Nat.le_trans hle hmore) hsize) rfl
    (Binary64.logOf_mono (ratio_ne_zero hpos hmore) hratio)

/-! ## Statistics that count documents -/

namespace Corpus

variable {corpus : Corpus} {term : String}

/-- In how many of the documents a term occurs. -/
def holding (corpus : Corpus) (term : String) : Nat :=
  corpus.records.countP fun record => record.tokens.terms.contains term

/-- What the statistics give for a term: the number of its documents, which is neither zero nor
more than there are, and an inverse frequency above zero. -/
structure Weighs (corpus : Corpus) (term : String) (idf : Binary64) : Prop where
  frequency_eq : corpus.frequency term = .int (corpus.holding term)
  one_le : 1 ≤ corpus.holding term
  le_size : corpus.holding term ≤ corpus.size
  half_le : (1 / 2 : ℚ) ≤ corpus.size / (corpus.holding term + 1)
  inverseFrequency_eq : corpus.statistics.inverseFrequency term = .ok idf
  isFinite : idf.isFinite = true
  pos : Binary64.zero.lt idf = true

theorem holding_le_size (corpus : Corpus) (term : String) : corpus.holding term ≤ corpus.size :=
  List.countP_le_length

theorem holding_pos_iff :
    0 < corpus.holding term ↔ ∃ record ∈ corpus.records, term ∈ record.tokens.terms := by
  simp [holding, List.countP_pos_iff]

/-- A ratio of counts is at least a half if at least one document is counted. -/
theorem half_le_div {total held : Nat} (hpos : 0 < total) (hheld : held ≤ total) :
    (1 / 2 : ℚ) ≤ total / (held + 1) := by
  have hcast : ((held + 1 : Nat) : ℚ) ≤ (2 * total : Nat) := Nat.cast_le.2 (by omega)
  push_cast at hcast
  rw [div_le_div_iff₀ (by norm_num) (by positivity)]
  linarith

namespace Counted

theorem frequency (h : corpus.Counted) (term : String) :
    corpus.frequency term = .int (corpus.holding term) := by
  rw [Corpus.frequency, OrderedMap.getD, h.frequency_eq]
  split
  · rfl
  · next hnone =>
    rw [Nat.eq_zero_of_not_pos (mt holding_pos_iff.1 hnone)]
    rfl

/-- A term of a document has an inverse frequency above zero. -/
theorem weighs (h : corpus.Counted) (hsize : corpus.size ≤ twoPow 1000)
    (hheld : ∃ record ∈ corpus.records, term ∈ record.tokens.terms) :
    corpus.Weighs term (rarity corpus.size (corpus.holding term)) := by
  have hone := holding_pos_iff.2 hheld
  have hle := corpus.holding_le_size term
  have hpos := Nat.lt_of_lt_of_le hone hle
  exact {
    frequency_eq := h.frequency term
    one_le := hone
    le_size := hle
    half_le := half_le_div hpos hle
    inverseFrequency_eq :=
      Statistics.inverseFrequency_eq h.total_eq (h.frequency term) hpos hle hsize
    isFinite := (rarity_within hpos hle hsize).isFinite
    pos := zero_lt_rarity hpos hle hsize }

end Counted

/-- The inverse frequency that a term has is that of its counts. -/
theorem Weighs.eq_rarity (h : corpus.Counted) (hsize : corpus.size ≤ twoPow 1000) {idf : Binary64}
    (hweighs : corpus.Weighs term idf) : idf = rarity corpus.size (corpus.holding term) := by
  have heq := (h.weighs hsize (holding_pos_iff.1 hweighs.one_le)).inverseFrequency_eq
  rw [hweighs.inverseFrequency_eq] at heq
  exact Except.ok.inj heq

end Corpus

/-- At every moment of every session that does not write into the corpus past its own methods, and
while there are not too many documents, each term of a document occurs in at least one and at most
all of them, it has an inverse frequency, which is above zero, and the inverse frequency of a term
that occurs in as many documents or more is no larger. -/
theorem rarity_at_every_moment (tokenizer : Tokenizer τ) (texts : List τ) (steps : List (Step τ))
    (hsteps : ∀ element ∈ Step.elementsAll steps, element.overwrites = false) (moment : Engine τ)
    (hmoment : Moment (.fresh tokenizer texts) steps moment)
    (hsize : moment.corpus.size < twoPow 1000) :
    moment.corpus.total = .int moment.corpus.size ∧
    (∀ term, (∃ record ∈ moment.corpus.records, term ∈ record.tokens.terms) →
      ∃ idf, moment.corpus.Weighs term idf) ∧
    ∀ rare common idf other, moment.corpus.Weighs rare idf → moment.corpus.Weighs common other →
      moment.corpus.holding rare ≤ moment.corpus.holding common → other.le idf = true := by
  have hcounted : moment.corpus.Counted := by
    rw [← hmoment.recount_eq hsteps]
    exact moment.corpus.counted_recount
  have hle := Nat.le_of_lt hsize
  refine ⟨hcounted.total_eq, fun term hheld => ⟨_, hcounted.weighs hle hheld⟩, ?_⟩
  intro rare common idf other hrare hcommon hholding
  rw [hrare.eq_rarity hcounted hle, hcommon.eq_rarity hcounted hle]
  have hpos : 0 < moment.corpus.size := Nat.lt_of_lt_of_le hrare.one_le hrare.le_size
  exact rarity_antitone hpos hholding hcommon.le_size hle

/-- Both documents that could be stored hold the one term, so that its ratio is below 1. -/
theorem rarity_afterFailedWrite :
    ∃ dog cat, afterFailedWrite.corpus.Weighs "dog" dog ∧ afterFailedWrite.corpus.Weighs "cat" cat ∧
      dog.le cat = true := by
  obtain ⟨-, hweighs, hantitone⟩ := rarity_at_every_moment (.standard {}) []
    [.operation (.insert "Cat dog"), .store (.configure { writes := some (some .system) }),
      .operation (.insert "Cow"), .store (.configure { writes := some none }),
      .corpus (.addDocument "Dog")] (by simp [Step.elementsAll, Step.elements, Step.overwrites])
    afterFailedWrite (.last _ _) (by decide +kernel)
  obtain ⟨dog, hdog⟩ := hweighs "dog" (by decide +kernel)
  obtain ⟨cat, hcat⟩ := hweighs "cat" (by decide +kernel)
  exact ⟨dog, cat, hdog, hcat, hantitone _ _ _ _ hcat hdog (by decide +kernel)⟩

end Retrieval
