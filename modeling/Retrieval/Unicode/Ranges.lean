set_option autoImplicit false

/-! # Sets of code points

A property of characters is a list of closed ranges of code points in ascending order. The search
stops at the first range that ends at or after the code point; because the order is ascending, no
later range can cover it (`inRanges_iff`). -/

namespace Retrieval.Unicode

/-- Whether a code point lies in one of the ranges, which stand in ascending order. -/
def inRanges : List (Nat × Nat) → Nat → Bool
  | [], _ => false
  | (first, last) :: rest, code => if code ≤ last then first ≤ code else inRanges rest code

/-- Ranges that stand in ascending order and do not overlap, the first one starting at `least` or
later. -/
def ascending (least : Nat) : List (Nat × Nat) → Bool
  | [] => true
  | (first, last) :: rest => least ≤ first && first ≤ last && ascending (last + 1) rest

/-- Whether no range of the one list meets one of the other: of each two, one ends before the other
starts. -/
def apart (ranges others : List (Nat × Nat)) : Bool :=
  ranges.all fun a => others.all fun b => a.2.blt b.1 || b.2.blt a.1

theorem apart_of_mem {ranges others : List (Nat × Nat)} (h : apart ranges others = true)
    {a b : Nat × Nat} (ha : a ∈ ranges) (hb : b ∈ others) : a.2 < b.1 ∨ b.2 < a.1 := by
  have hmembers := List.all_eq_true.1 (List.all_eq_true.1 h a ha) b hb
  simpa only [Bool.or_eq_true, Nat.blt_eq] using hmembers

theorem le_of_mem_ascending {ranges : List (Nat × Nat)} {least : Nat}
    (h : ascending least ranges = true) : ∀ range ∈ ranges, least ≤ range.1 := by
  induction ranges generalizing least with
  | nil => simp
  | cons range rest ih =>
    simp only [ascending, Bool.and_eq_true, decide_eq_true_eq] at h
    intro r hr
    rcases List.mem_cons.1 hr with rfl | hr
    · exact h.1.1
    · have := ih h.2 r hr
      omega

/-- In ascending ranges the search finds exactly the code points that some range covers. -/
theorem inRanges_iff {ranges : List (Nat × Nat)} {least code : Nat}
    (h : ascending least ranges = true) :
    inRanges ranges code = true ↔ ∃ range ∈ ranges, range.1 ≤ code ∧ code ≤ range.2 := by
  induction ranges generalizing least with
  | nil => simp [inRanges]
  | cons range rest ih =>
    obtain ⟨first, last⟩ := range
    simp only [ascending, Bool.and_eq_true, decide_eq_true_eq] at h
    obtain ⟨⟨_, _⟩, hrest⟩ := h
    simp only [inRanges, List.mem_cons, exists_eq_or_imp]
    split
    · next hle =>
      constructor
      · intro hfirst
        exact Or.inl ⟨by simpa using hfirst, hle⟩
      · rintro (⟨hfirst, _⟩ | ⟨r, hr, hlow, _⟩)
        · simpa using hfirst
        · have := le_of_mem_ascending hrest r hr
          omega
    · next hgt =>
      rw [ih hrest]
      constructor
      · exact Or.inr
      · rintro (⟨_, hle⟩ | hex)
        · exact absurd hle hgt
        · exact hex

end Retrieval.Unicode
