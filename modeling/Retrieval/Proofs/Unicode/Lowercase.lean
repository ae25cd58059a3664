import Retrieval.Unicode.Lowercase

set_option autoImplicit false

/-! # What lower case depends on, and what it leaves

Only a capital sigma is lower-cased by its neighbours, and these are sought through any number of
case-ignorable characters. A character that is neither ignorable nor cased ends the search on both
sides of it, so that the texts before and after it are lower-cased as if they stood alone
(`lowercase_append_cons`).

A text in lower case stays as it is: each of its characters is its own lower case
(`ownLowercase_of_mem`), wherever it stands. For the simple mappings this is read off the table. No
range of capitals is mapped into another one, which is checked for each two ranges by their ends, or
by their parity where every second code point is a capital (`CaseRange.avoids`). -/

namespace Retrieval.Unicode

/-! ## Characters that are their own lower case -/

/-- The lower case of the character is the character itself. -/
def OwnLowercase (c : Char) : Prop := lowercase [c] = [c]

instance (c : Char) : Decidable (OwnLowercase c) :=
  inferInstanceAs (Decidable (lowercase [c] = [c]))

theorem ownLowercase_iff {c : Char} :
    OwnLowercase c ↔ c ≠ capitalSigma ∧ c ≠ dottedCapitalI ∧ simpleLowercase c = c := by
  unfold OwnLowercase lowercase
  simp only [lowercaseFrom, lowercaseChar, List.append_nil]
  by_cases hsigma : c = capitalSigma
  · simp [hsigma, show smallSigma ≠ capitalSigma by decide]
  · by_cases hdotted : c = dottedCapitalI
    · simp [hdotted, show dottedCapitalI ≠ capitalSigma by decide]
    · simp [hsigma, hdotted]

/-- The neighbours of such a character have no influence on its lower case. -/
theorem OwnLowercase.lowercaseChar_eq {c : Char} (h : OwnLowercase c) (before : Bool)
    (rest : List Char) : lowercaseChar before c rest = [c] := by
  obtain ⟨hsigma, hdotted, hsimple⟩ := ownLowercase_iff.1 h
  rw [lowercaseChar, if_neg hsigma, if_neg hdotted, hsimple]

theorem lowercaseFrom_of_own {cs : List Char} (h : ∀ c ∈ cs, OwnLowercase c) (before : Bool) :
    lowercaseFrom before cs = cs := by
  induction cs generalizing before with
  | nil => rfl
  | cons c rest ih =>
    obtain ⟨hc, hrest⟩ := List.forall_mem_cons.1 h
    rw [lowercaseFrom, hc.lowercaseChar_eq, ih hrest, List.singleton_append]

/-! ## Characters that end the search for neighbours -/

theorem startsCased_append_cons {c : Char} (hcased : isCased c = false)
    (hignorable : isCaseIgnorable c = false) (before after : List Char) :
    startsCased (before ++ c :: after) = startsCased before := by
  induction before with
  | nil => simp [startsCased, hignorable, hcased]
  | cons d rest ih =>
    simp only [startsCased, List.cons_append, List.find?_cons] at ih ⊢
    by_cases hd : isCaseIgnorable d = true
    · simpa [hd] using ih
    · simp [hd]

/-- What stands behind a character that is neither ignorable nor cased has no influence on the lower
case of what stands before it, nor the other way round. -/
theorem lowercaseFrom_append_cons {c : Char} (hown : OwnLowercase c) (hcased : isCased c = false)
    (hignorable : isCaseIgnorable c = false) (state : Bool) (before after : List Char) :
    lowercaseFrom state (before ++ c :: after) =
      lowercaseFrom state before ++ c :: lowercase after := by
  induction before generalizing state with
  | nil =>
    have hstate : endsCased state c = false := by simp [endsCased, hignorable, hcased]
    simp only [List.nil_append, lowercaseFrom, hown.lowercaseChar_eq, hstate,
      List.singleton_append, lowercase]
  | cons d rest ih =>
    have hchar : lowercaseChar state d (rest ++ c :: after) = lowercaseChar state d rest := by
      rw [lowercaseChar, lowercaseChar, startsCased_append_cons hcased hignorable]
    rw [List.cons_append, lowercaseFrom, lowercaseFrom, hchar, ih, List.append_assoc]

theorem lowercase_append_cons {c : Char} (hown : OwnLowercase c) (hcased : isCased c = false)
    (hignorable : isCaseIgnorable c = false) (before after : List Char) :
    lowercase (before ++ c :: after) = lowercase before ++ c :: lowercase after :=
  lowercaseFrom_append_cons hown hcased hignorable false before after

/-! ## The simple mappings map no capital to a capital -/

/-- The code point to which a range maps one of its own. -/
def CaseRange.image (range : CaseRange) (code : Nat) : Nat := ((code : Int) + range.offset).toNat

/-- Whether the images of the one range lie before the other range, behind it, or between the code
points of it. -/
def CaseRange.avoids (range other : CaseRange) : Bool :=
  Nat.blt (range.image range.last) other.first || Nat.blt other.last (range.image range.first) ||
    (other.step == 2 && (range.step == 2 || range.first == range.last) &&
      Nat.blt 0 (range.image range.first) && (range.image range.first + other.first) % 2 == 1)

theorem CaseRange.covers_iff {range : CaseRange} {code : Nat} :
    range.covers code = true ↔
      range.first ≤ code ∧ code ≤ range.last ∧ (code - range.first) % range.step = 0 := by
  simp [covers, and_assoc]

theorem CaseRange.covers_image_of_avoids {range other : CaseRange}
    (h : range.avoids other = true) {code : Nat} (hcode : range.covers code = true) :
    other.covers (range.image code) = false := by
  obtain ⟨hfirst, hlast, hstep⟩ := covers_iff.1 hcode
  rw [← Bool.not_eq_true, covers_iff]
  rintro ⟨hfirst', hlast', hstep'⟩
  simp only [avoids, image, Bool.or_eq_true, Bool.and_eq_true, Nat.blt_eq, beq_iff_eq] at h
  simp only [image] at hfirst' hlast' hstep'
  rcases h with (hbefore | hbehind) | ⟨⟨⟨htwo, hparity⟩, hpos⟩, hodd⟩
  · omega
  · omega
  · -- the images of one range are all even or all odd
    rw [htwo] at hstep'
    rcases hparity with hrange | hsingle
    · rw [hrange] at hstep
      omega
    · omega

/-- The ranges of all characters that have a lower case other than themselves. -/
def capitalRanges : List CaseRange := ⟨0x130, 0x130, 1, 0⟩ :: lowercaseRanges

/-- Whether a character has a lower case other than itself. -/
def isCapital (c : Char) : Bool := capitalRanges.any fun range => range.covers c.toNat

theorem ownLowercase_of_isCapital {c : Char} (h : isCapital c = false) : OwnLowercase c := by
  have huncovered : lowercaseRanges.find? (fun range => range.covers c.toNat) = none := by
    rw [List.find?_eq_none]
    intro range hrange
    exact List.any_eq_false.1 h range (List.mem_cons_of_mem _ hrange)
  refine ownLowercase_iff.2 ⟨?_, ?_, by rw [simpleLowercase, huncovered]⟩
  · rintro rfl
    exact absurd h (by decide +kernel)
  · rintro rfl
    exact absurd h (by decide +kernel)

theorem avoids_capitalRanges :
    (lowercaseRanges.all fun range => capitalRanges.all range.avoids) = true := by decide +kernel

theorem isCapital_image {range : CaseRange} (hrange : range ∈ lowercaseRanges) {c : Char}
    (hcovers : range.covers c.toNat = true) :
    isCapital (Char.ofNat (range.image c.toNat)) = false := by
  by_cases hvalid : (range.image c.toNat).isValidChar
  · have hcode : (Char.ofNat (range.image c.toNat)).toNat = range.image c.toNat := by
      rw [Char.ofNat, dif_pos hvalid]
      rfl
    rw [isCapital, hcode, List.any_eq_false]
    intro other hother
    have havoids := List.all_eq_true.1 (List.all_eq_true.1 avoids_capitalRanges range hrange)
    rw [CaseRange.covers_image_of_avoids (havoids other hother) hcovers]
    exact Bool.false_ne_true
  · rw [Char.ofNat, dif_neg hvalid]
    decide +kernel

theorem ownLowercase_simpleLowercase {c : Char} (hsigma : c ≠ capitalSigma)
    (hdotted : c ≠ dottedCapitalI) : OwnLowercase (simpleLowercase c) := by
  cases hfind : lowercaseRanges.find? (fun range => range.covers c.toNat) with
  | none =>
    have hsame : simpleLowercase c = c := by rw [simpleLowercase, hfind]
    rw [hsame]
    exact ownLowercase_iff.2 ⟨hsigma, hdotted, hsame⟩
  | some range =>
    have hmapped : simpleLowercase c = Char.ofNat (range.image c.toNat) := by
      rw [simpleLowercase, hfind]
      rfl
    have hcovers := List.find?_some hfind
    rw [hmapped]
    exact ownLowercase_of_isCapital (isCapital_image (List.mem_of_find?_eq_some hfind) hcovers)

/-! ## Texts in lower case -/

theorem ownLowercase_of_mem_lowercaseChar {before : Bool} {c d : Char} {rest : List Char}
    (h : d ∈ lowercaseChar before c rest) : OwnLowercase d := by
  have hsmall : OwnLowercase smallSigma := by decide +kernel
  have hfinal : OwnLowercase finalSigma := by decide +kernel
  have hletter : OwnLowercase 'i' := by decide +kernel
  have hdot : OwnLowercase dotAbove := by decide +kernel
  by_cases hsigma : c = capitalSigma
  · rw [lowercaseChar, if_pos hsigma, List.mem_singleton] at h
    subst h
    split <;> assumption
  · by_cases hdotted : c = dottedCapitalI
    · rw [lowercaseChar, if_neg hsigma, if_pos hdotted] at h
      simp only [List.mem_cons, List.not_mem_nil, or_false] at h
      rcases h with rfl | rfl <;> assumption
    · rw [lowercaseChar, if_neg hsigma, if_neg hdotted, List.mem_singleton] at h
      exact h ▸ ownLowercase_simpleLowercase hsigma hdotted

/-- Whatever lower-casing gives is its own lower case. -/
theorem ownLowercase_of_mem {cs : List Char} {c : Char} (h : c ∈ lowercase cs) :
    OwnLowercase c := by
  unfold lowercase at h
  generalize false = state at h
  induction cs generalizing state with
  | nil => cases h
  | cons d rest ih =>
    rw [lowercaseFrom, List.mem_append] at h
    rcases h with hd | hrest
    · exact ownLowercase_of_mem_lowercaseChar hd
    · exact ih _ hrest

/-- A text in lower case stays as it is. -/
theorem lowercase_lowercase (cs : List Char) : lowercase (lowercase cs) = lowercase cs :=
  lowercaseFrom_of_own (fun _ h => ownLowercase_of_mem h) false

end Retrieval.Unicode
