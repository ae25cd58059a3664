import Retrieval.Proofs.Decimal.Nearest

set_option autoImplicit false

/-! # Numerals

A numeral has a sign or none, digits before the point without a superfluous zero in front, and a
fixed number of digits after it (`Numeral`). Its text determines it: the digits after the point are
counted from the end, and a sign is no digit (`Numeral.text_injective`). A finite double is written
as the numeral of the nearest multiple of the last place (`Binary64.exists_numeral`), so what is
written keeps the order of the doubles (`Binary64.WrittenAs.value_le`). -/

namespace Retrieval

/-- A decimal numeral with so many places after the point, and no more digits before it than it
needs. -/
structure Numeral (places : Nat) where
  /-- Whether there is a minus sign. -/
  negative : Bool
  /-- The digits before the point. -/
  whole : List Char
  /-- The digits after the point. -/
  decimals : List Char
  isDigit : ∀ c ∈ whole ++ decimals, c.isDigit = true
  whole_ne_nil : whole ≠ []
  /-- A zero in front is the only digit before the point. -/
  eq_of_head : whole.head? = some '0' → whole = ['0']
  length_decimals : decimals.length = places

namespace Numeral

variable {places : Nat}

/-- The written form. -/
def text (numeral : Numeral places) : String :=
  signText numeral.negative ++ String.ofList numeral.whole ++ "." ++
    String.ofList numeral.decimals

/-- The number of units of the last place that the numeral shows. -/
def scaled (numeral : Numeral places) : ℤ :=
  Binary64.signedUnits numeral.negative
    (Nat.ofDigitChars 10 (numeral.whole ++ numeral.decimals) 0)

/-- The number that the numeral shows. -/
def value (numeral : Numeral places) : ℚ := numeral.scaled / 10 ^ places

/-! ## The text determines the numeral -/

theorem toList_text (numeral : Numeral places) :
    numeral.text.toList =
      (signText numeral.negative).toList ++ numeral.whole ++ '.' :: numeral.decimals := by
  simp [text]

/-- A sign is no digit, so it can be told from the digits after it. -/
theorem signText_append_inj {s t : Bool} {xs ys : List Char} (hxs : ∀ c ∈ xs, c.isDigit = true)
    (hys : ∀ c ∈ ys, c.isDigit = true)
    (h : (signText s).toList ++ xs = (signText t).toList ++ ys) : s = t ∧ xs = ys := by
  have hminus : ∀ {zs : List Char}, (∀ c ∈ '-' :: zs, c.isDigit = true) → False := by
    intro zs hzs
    exact Bool.false_ne_true (hzs '-' List.mem_cons_self)
  have hpos : (signText false).toList = [] := rfl
  have hneg : (signText true).toList = ['-'] := rfl
  cases s <;> cases t <;> simp only [hpos, hneg, List.nil_append, List.singleton_append] at h
  · exact ⟨rfl, h⟩
  · exact (hminus (h ▸ hxs)).elim
  · exact (hminus (h ▸ hys)).elim
  · exact ⟨rfl, (List.cons.inj h).2⟩

theorem text_injective {n m : Numeral places} (h : n.text = m.text) : n = m := by
  have hlist := congrArg String.toList h
  rw [toList_text, toList_text] at hlist
  obtain ⟨hfront, hdecimals⟩ := List.append_inj' hlist
    (by simp [n.length_decimals, m.length_decimals])
  obtain ⟨hnegative, hwhole⟩ := signText_append_inj
    (fun c hc => n.isDigit c (List.mem_append_left _ hc))
    (fun c hc => m.isDigit c (List.mem_append_left _ hc)) hfront
  cases n
  cases m
  cases hnegative
  cases hwhole
  cases hdecimals
  rfl

/-! ## Numerals of naturals -/

/-- The digits of a natural begin with a zero only if it is zero. -/
theorem toDigits_of_head {n : Nat} (h : (Nat.toDigits 10 n).head? = some '0') : n = 0 := by
  induction n using Nat.strongRecOn with
  | ind n ih =>
    rcases Nat.lt_or_ge n 10 with hlt | hge
    · have hdigit : ∀ m < 10, some (Nat.digitChar m) = some '0' → m = 0 := by decide
      rw [Nat.toDigits_of_lt_base hlt, List.head?_cons] at h
      exact hdigit n hlt h
    · rw [Nat.toDigits_of_base_le (by decide) hge,
        List.head?_append_of_ne_nil _ Nat.toDigits_ne_nil] at h
      have hzero : n / 10 = 0 := ih (n / 10) (by omega) h
      omega

theorem padded_eq (width n : Nat) :
    padded width n = String.ofList
      (List.replicate (width - (Nat.toDigits 10 n).length) '0' ++ Nat.toDigits 10 n) := by
  simp [padded, Nat.repr_eq_ofList_toDigits]

theorem length_toDigits_le {places : Nat} (hplaces : 0 < places) (n : Nat) :
    (Nat.toDigits 10 (n % decimalScale places)).length ≤ places := by
  rw [Nat.length_toDigits_le_iff (by decide) hplaces]
  exact Nat.mod_lt n (Nat.pow_pos (by decide))

/-- The numeral of a number of units of the last place. -/
def ofScaled (hplaces : 0 < places) (negative : Bool) (n : Nat) : Numeral places where
  negative
  whole := Nat.toDigits 10 (n / decimalScale places)
  decimals :=
    List.replicate (places - (Nat.toDigits 10 (n % decimalScale places)).length) '0' ++
      Nat.toDigits 10 (n % decimalScale places)
  isDigit := by
    intro c hc
    rcases List.mem_append.1 hc with hc | hc
    · exact Nat.isDigit_of_mem_toDigits (by decide) (Nat.le_refl 10) hc
    rcases List.mem_append.1 hc with hc | hc
    · rw [List.eq_of_mem_replicate hc]
      rfl
    · exact Nat.isDigit_of_mem_toDigits (by decide) (Nat.le_refl 10) hc
  whole_ne_nil := Nat.toDigits_ne_nil
  eq_of_head h := by
    rw [toDigits_of_head h]
    rfl
  length_decimals := by
    rw [List.length_append, List.length_replicate,
      Nat.sub_add_cancel (length_toDigits_le hplaces n)]

theorem text_ofScaled (hplaces : 0 < places) (negative : Bool) (n : Nat) :
    (ofScaled hplaces negative n).text = signText negative ++ decimalText places n := by
  simp [text, ofScaled, decimalText, padded_eq, Nat.repr_eq_ofList_toDigits, String.append_assoc]

theorem scaled_ofScaled (hplaces : 0 < places) (negative : Bool) (n : Nat) :
    (ofScaled hplaces negative n).scaled = Binary64.signedUnits negative n := by
  have hlength := length_toDigits_le hplaces n
  have hdigits : Nat.ofDigitChars 10
      ((ofScaled hplaces negative n).whole ++ (ofScaled hplaces negative n).decimals) 0 = n := by
    simp only [ofScaled, Nat.ofDigitChars_append, Nat.ofDigitChars_ten_toDigits,
      Nat.ofDigitChars_replicate_zero]
    rw [Nat.ofDigitChars_eq_ofDigitChars_zero, Nat.ofDigitChars_ten_toDigits, ← Nat.mul_assoc,
      ← Nat.pow_add, Nat.add_sub_cancel' hlength]
    exact Nat.div_add_mod n _
  rw [scaled, hdigits]
  rfl

end Numeral

/-! ## Written doubles -/

namespace Binary64

/-- A finite double is written as the numeral of its nearest multiple of the last place, with its
own sign. -/
structure WrittenAs {places : Nat} (x : Binary64) (numeral : Numeral places) : Prop where
  toFixed_eq : x.toFixed places = numeral.text
  finite_eq : ∃ units grid, x = .finite numeral.negative units grid
  nearest : NearestMultiple (10 ^ places) x.exact numeral.scaled

theorem exists_numeral {places : Nat} (hplaces : 0 < places) {x : Binary64}
    (hx : x.isFinite = true) : ∃ numeral : Numeral places, x.WrittenAs numeral := by
  cases x with
  | finite negative units grid =>
    have hscale : 0 < decimalScale places := Nat.pow_pos (by decide)
    have hnearest : NearestMultiple (decimalScale places) (finite negative units grid).exact _ :=
      nearestMultiple_finite grid hscale
    rw [← Numeral.scaled_ofScaled hplaces] at hnearest
    refine ⟨_, (Numeral.text_ofScaled hplaces negative _).symm, ⟨units, grid, rfl⟩, ?_⟩
    convert hnearest
    simp [decimalScale]
  | _ => cases hx

variable {places : Nat} {x y : Binary64} {n m : Numeral places}

theorem WrittenAs.isFinite (h : x.WrittenAs n) : x.isFinite = true := by
  obtain ⟨units, grid, rfl⟩ := h.finite_eq
  rfl

/-- The numbers that are written keep the order of the doubles. -/
theorem WrittenAs.value_le (hn : x.WrittenAs n) (hm : y.WrittenAs m) (h : x.le y = true) :
    n.value ≤ m.value := by
  have hscale : (0 : ℚ) < 10 ^ places := by positivity
  have hexact : x.exact ≤ y.exact := (le_iff_exact_le hn.isFinite hm.isFinite).1 h
  rw [Numeral.value, Numeral.value, div_le_div_iff_of_pos_right hscale, Int.cast_le]
  exact hn.nearest.mono hscale hm.nearest hexact

end Binary64

end Retrieval
