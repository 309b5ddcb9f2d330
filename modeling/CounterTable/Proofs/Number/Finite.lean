import CounterTable.Number.Decimal
import CounterTable.Proofs.Text.Numerals

/-!
# Decimal numbers in the range of doubles

A number of up to 52 bits, written in decimal, is read as a double that is finite.

* `Decoded.IsFinite`: finite numbers;
* `Binary64.nearest_isFinite`: the double nearest to such a number;
* **`Binary64.ofText?_toDigits`**: the double that its digits are read as.
-/

namespace CounterTable.Number

open CounterTable.Text

/-- Neither an infinity nor no number at all. -/
def Decoded.IsFinite : Decoded → Prop
  | .finite .. => True
  | _ => False

namespace Binary64

theorem decode_ofMagnitude {m : Nat} (h : m < 2047 * leadingOne) :
    (ofMagnitude false m).decode.IsFinite := by
  have hbits : (ofMagnitude false m).bits.toNat = m := by
    simp only [ofMagnitude, Bool.false_eq_true, if_false, Nat.zero_add, UInt64.toNat_ofNat']
    refine Nat.mod_eq_of_lt (Nat.lt_trans h ?_)
    decide
  have hexponent : m / leadingOne % 2048 ≠ 2047 := by
    have hlt : m / leadingOne < 2047 := Nat.div_lt_of_lt_mul (by rwa [Nat.mul_comm])
    rw [Nat.mod_eq_of_lt (Nat.lt_succ_of_lt hlt)]
    exact Nat.ne_of_lt hlt
  simp only [decode, hbits, if_neg hexponent]
  split <;> trivial

theorem roundDiv_one (n : Nat) : roundDiv n 1 = n := by
  simp [roundDiv, Nat.mod_one]

theorem nearest_isFinite {n : Nat} (hpos : n ≠ 0) (h : n < leadingOne) :
    (nearest false n 1).decode.IsFinite := by
  have hlog : n.log2 < 52 := (Nat.log2_lt hpos).mpr h
  have hone : Nat.log2 1 = 0 := by decide
  unfold nearest
  simp only [hone]
  -- The exponent is negative, and such that the mantissa has at most 54 bits.
  generalize hguess : ((n.log2 : Int) - (0 : Nat) - 52) = guess
  generalize (if 0 ≤ guess then decide (n < leadingOne * (1 * twoPow guess.toNat))
    else decide (n * twoPow (-guess).toNat < leadingOne * 1)) = short
  generalize hexponent : max leastExponent (if short = true then guess - 1 else guess) = exponent
  have hrange : exponent < 0 ∧ (-exponent).toNat + n.log2 ≤ 53 := by
    rw [leastExponent] at hexponent
    split at hexponent <;> omega
  have hmantissa : n * twoPow (-exponent).toNat < 4 * leadingOne := by
    have hn : n < 2 ^ (n.log2 + 1) := Nat.lt_log2_self
    calc n * 2 ^ (-exponent).toNat
        < 2 ^ (n.log2 + 1) * 2 ^ (-exponent).toNat :=
          Nat.mul_lt_mul_of_pos_right hn (Nat.two_pow_pos _)
      _ = 2 ^ (n.log2 + 1 + (-exponent).toNat) := (Nat.pow_add ..).symm
      _ ≤ 2 ^ 54 := Nat.pow_le_pow_right (by decide) (by omega)
  rw [if_neg (Int.not_le.mpr hrange.1), roundDiv_one, if_neg (by omega)]
  split
  · next hlt => exact decode_ofMagnitude (by omega)
  · next hge =>
    refine decode_ofMagnitude ?_
    have hfield : (exponent - leastExponent).toNat ≤ 1073 := by
      rw [leastExponent]
      omega
    have hmul := Nat.mul_le_mul_right leadingOne hfield
    omega

theorem lower_ne {ds : List Char} (hne : ds ≠ []) (h : ∀ c ∈ ds, c.isDigit = true) (word : String)
    (hword : ∀ c ∈ word.toList.head?, c.isAlpha = true) : lower ds ≠ word.toList := by
  obtain ⟨c, cs, rfl⟩ := List.exists_cons_of_ne_nil hne
  intro he
  have hc := h c List.mem_cons_self
  have halpha := hword c.toLower (by rw [← he]; rfl)
  have hrange := toNat_of_isDigit hc
  have hdigits : ∀ n, n ≤ 57 → 48 ≤ n → (Char.ofNat n).toLower.isAlpha = false := by decide
  have hnot := hdigits c.toNat hrange.2 hrange.1
  rw [Char.ofNat_toNat, halpha] at hnot
  cases hnot

theorem scientific_toDigits (n : Nat) :
    Scientific.ofText? (Nat.toDigits 10 n) = some ⟨n, 0⟩ := by
  simp [Scientific.ofText?, takeWhile_toDigits, dropWhile_toDigits, digitsValue_toDigits,
    Nat.toDigits_ne_nil]

theorem ofScientific_isFinite {n : Nat} (h : n < leadingOne) :
    (ofScientific false ⟨n, 0⟩).decode.IsFinite := by
  unfold ofScientific
  split
  · exact decode_ofMagnitude (by decide)
  · next hpos =>
    have hlength : (digitsOf n).length ≤ 16 :=
      (Nat.length_toDigits_le_iff (by decide) (by decide)).mpr (Nat.lt_trans h (by decide))
    have hscale : n * Nat.pow 10 (Int.toNat 0) = n := Nat.mul_one n
    dsimp only
    rw [if_neg (by omega), if_neg (by omega), if_pos (Int.le_refl 0), hscale]
    exact nearest_isFinite hpos h

/-- **The digits of a number** are read as a double that is finite. -/
theorem ofText?_toDigits {n : Nat} (h : n < leadingOne) :
    ∃ x, ofText? (Nat.toDigits 10 n) = some x ∧ x.decode.IsFinite := by
  have hall : ∀ c ∈ Nat.toDigits 10 n, c.isDigit = true := fun _ => isDigit_of_mem_toDigits
  refine ⟨_, ?_, ofScientific_isFinite h⟩
  rw [ofText?]
  · have hnan := lower_ne Nat.toDigits_ne_nil hall "nan" (by simp)
    have hinf := lower_ne Nat.toDigits_ne_nil hall "inf" (by simp)
    have hinfinity := lower_ne Nat.toDigits_ne_nil hall "infinity" (by simp)
    simp only [ofUnsigned?, hnan, hinf, hinfinity, or_self, if_false, scientific_toDigits,
      Option.map_some]
  · rintro cs he
    cases hall '-' (by rw [he]; exact List.mem_cons_self)
  · rintro cs he
    cases hall '+' (by rw [he]; exact List.mem_cons_self)

end Binary64

end CounterTable.Number
