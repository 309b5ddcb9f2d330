import CounterTable.Proofs.Number.Integral
import CounterTable.Proofs.Text.Numerals
import Mathlib.Algebra.Order.Field.Power
import Mathlib.Algebra.Order.Field.Rat
import Mathlib.Tactic.Ring

/-!
# What values denote

A column value denotes at most one integer, and an integral value is read from it exactly if that
integer lies in the range of its type. There is one value besides, `2 ^ 63` as a double: it passes
for the greatest word.

* `Binary64.rational?`, `Binary64.rational?_eq_decode`: the rational number that a double is;
* **`Decoded.integer?_eq_some_iff`**: the integer that a double is;
* `Value.Denotes`, **`Value.word?_eq_some_iff`**: the integer that a value is read as;
* **`Integral.ofValue_denotes`**: reading;
* `Integral.ofValue_edge`: the value that is read as another one.
-/

namespace CounterTable

open CounterTable.Text CounterTable.Number

/-! ## Doubles -/

namespace Number

/-- The rational number that a double is, after the binary interchange format: a sign bit, eleven
bits of exponent with bias 1023, and 52 bits of fraction behind a leading one. The leading one is
missing if the exponent is zero, and an exponent of all ones is no number. -/
def Binary64.rational? (x : Binary64) : Option ℚ :=
  let sign : ℕ := x.bits.toNat / 2 ^ 63
  let exponent : ℕ := x.bits.toNat / 2 ^ 52 % 2 ^ 11
  let fraction : ℕ := x.bits.toNat % 2 ^ 52
  if exponent = 2 ^ 11 - 1 then none
  else if exponent = 0 then some ((-1) ^ sign * 2 ^ (-1022 : ℤ) * (fraction / 2 ^ 52))
  else some ((-1) ^ sign * 2 ^ (exponent - 1023 : ℤ) * (1 + fraction / 2 ^ 52))

/-- A number with the sign of a double. -/
def signed {α : Type} [Neg α] (negative : Bool) (a : α) : α := if negative then -a else a

/-- The rational number `± mantissa · 2 ^ exponent`. -/
def Decoded.rational? : Decoded → Option ℚ
  | .finite negative mantissa exponent => some (signed negative (mantissa * 2 ^ exponent))
  | _ => none

theorem neg_one_pow_mul {sign : ℕ} (h : sign < 2) (q : ℚ) :
    (-1) ^ sign * q = signed (sign == 1) q := by
  obtain rfl | rfl : sign = 0 ∨ sign = 1 := by omega
  · exact one_mul q
  · exact (congrArg (· * q) (pow_one (-1))).trans (neg_one_mul q)

theorem two_zpow_mul_fraction (e : ℤ) (q : ℚ) : 2 ^ e * (q / 2 ^ 52) = q * 2 ^ (e - 52) := by
  rw [zpow_sub₀ two_ne_zero, zpow_ofNat]
  ring

/-- **The bits of a double** are decoded to the number that they stand for. -/
theorem Binary64.rational?_eq_decode (x : Binary64) : x.rational? = x.decode.rational? := by
  have hsign : x.bits.toNat / 2 ^ 63 < 2 := Nat.div_lt_of_lt_mul x.bits.toNat_lt
  have h63 : signBit = 2 ^ 63 := rfl
  have h52 : leadingOne = 2 ^ 52 := rfl
  have h11 : 2 ^ 11 = 2048 := rfl
  simp only [rational?, decode, h63, h52, h11, leastExponent]
  generalize x.bits.toNat / 2 ^ 52 % 2048 = exponent
  generalize x.bits.toNat % 2 ^ 52 = fraction
  split
  · split <;> rfl
  split
  · rw [Decoded.rational?, mul_assoc, neg_one_pow_mul hsign, two_zpow_mul_fraction]
    rfl
  · next hne =>
    have hleading : (1 : ℚ) + fraction / 2 ^ 52 = (2 ^ 52 + fraction : ℕ) / 2 ^ 52 := by
      rw [Nat.cast_add, add_div, Nat.cast_pow, Nat.cast_ofNat, div_self (pow_ne_zero 52 two_ne_zero)]
    have hexponent : (exponent : ℤ) - 1023 - 52 = -1074 + (exponent - 1 : ℕ) := by omega
    rw [Decoded.rational?, mul_assoc, neg_one_pow_mul hsign, hleading, two_zpow_mul_fraction,
      hexponent]

theorem mul_two_zpow_eq_iff (m : ℕ) (e : ℤ) (k : ℕ) :
    (m : ℚ) * 2 ^ e = k ↔
      (if 0 ≤ e then some (m * twoPow e.toNat)
        else if m % twoPow (-e).toNat = 0 then some (m / twoPow (-e).toNat) else none) = some k := by
  by_cases he : 0 ≤ e
  · obtain ⟨j, rfl⟩ := Int.eq_ofNat_of_zero_le he
    rw [if_pos he, zpow_natCast, Option.some.injEq, Int.toNat_natCast]
    exact_mod_cast Iff.rfl
  · obtain ⟨j, hj⟩ := Int.eq_ofNat_of_zero_le (show 0 ≤ -e by omega)
    have hpos : 0 < 2 ^ j := Nat.two_pow_pos j
    have hcast : (m : ℚ) * 2 ^ e = k ↔ m = k * 2 ^ j := by
      rw [show e = -j by omega, zpow_neg, zpow_natCast, mul_inv_eq_iff_eq_mul₀
        (pow_ne_zero j two_ne_zero)]
      exact_mod_cast Iff.rfl
    have hpow : twoPow (-e).toNat = 2 ^ j := by
      rw [hj]
      rfl
    rw [if_neg he, hcast, hpow]
    constructor
    · rintro rfl
      rw [if_pos (Nat.mul_mod_left _ _), Nat.mul_div_cancel _ hpos]
    · intro h
      split at h
      · next hmod =>
        cases h
        exact (Nat.div_mul_cancel (Nat.dvd_of_mod_eq_zero hmod)).symm
      · cases h

theorem signed_eq_intCast_iff {negative : Bool} {q : ℚ} (h : 0 ≤ q) (n : ℤ) :
    signed negative q = n ↔ ∃ k : ℕ, q = k ∧ signed negative (k : ℤ) = n := by
  constructor
  · intro hq
    have hsize : q = (signed negative n : ℤ) := by
      cases negative
      · exact hq
      · exact (neg_eq_iff_eq_neg.mp hq).trans (Int.cast_neg n).symm
    have hnonneg : 0 ≤ signed negative n := by exact_mod_cast hsize ▸ h
    obtain ⟨k, hk⟩ := Int.eq_ofNat_of_zero_le hnonneg
    refine ⟨k, by rw [hsize, hk]; rfl, ?_⟩
    rw [← hk]
    cases negative
    · rfl
    · exact neg_neg n
  · rintro ⟨k, rfl, rfl⟩
    cases negative
    · rfl
    · exact (Int.cast_neg _).symm

/-- **The integer that a double is**, if it is one. -/
theorem Decoded.integer?_eq_some_iff (d : Decoded) (n : ℤ) :
    d.integer? = some n ↔ d.rational? = some (n : ℚ) := by
  cases d with
  | notANumber => exact ⟨nofun, nofun⟩
  | infinite _ => exact ⟨nofun, nofun⟩
  | finite negative mantissa exponent =>
    have hnonneg : (0 : ℚ) ≤ mantissa * 2 ^ exponent :=
      mul_nonneg (Nat.cast_nonneg mantissa) (zpow_nonneg zero_le_two exponent)
    rw [rational?, Option.some.injEq, signed_eq_intCast_iff hnonneg]
    simp only [mul_two_zpow_eq_iff]
    exact map_natCast_eq_some_iff

end Number

/-! ## Values -/

namespace Value

/-- **The integer that a value denotes**: an integer is itself, a double is the rational number that
it stands for, and a text is spelled in decimal, between blanks. Nothing else denotes any. -/
inductive Denotes : Value → ℤ → Prop
  | integer (w : Int64) : Denotes (.integer w) w.toInt
  | float {x : Binary64} {n : ℤ} (h : x.rational? = some (n : ℚ)) : Denotes (.float x) n
  | text {s : String} {before numeral after : List Char} {n : ℤ}
      (hs : s.toList = before ++ numeral ++ after) (hbefore : ∀ c ∈ before, isBlank c = true)
      (hafter : ∀ c ∈ after, isBlank c = true) (hnumeral : Numeral numeral n) :
      Denotes (.text s) n

theorem denotes_float_iff {x : Binary64} {n : ℤ} :
    (Value.float x).Denotes n ↔ x.decode.integer? = some n := by
  rw [Decoded.integer?_eq_some_iff, ← Binary64.rational?_eq_decode]
  constructor
  · rintro ⟨⟩
    assumption
  · exact .float

theorem denotes_text_iff {s : String} {n : ℤ} :
    (Value.text s).Denotes n ↔ readInt? (trim s.toList) = some n := by
  rw [readInt?_trim_eq_some_iff]
  constructor
  · rintro ⟨⟩
    exact ⟨_, _, _, ‹_›, ‹_›, ‹_›, ‹_›⟩
  · rintro ⟨before, numeral, after, hs, hbefore, hafter, h⟩
    exact .text hs hbefore hafter h

theorem not_denotes_null (n : ℤ) : ¬ Value.null.Denotes n := by
  rintro ⟨⟩

theorem denotes_integer_iff {w w' : Int64} : (Value.integer w).Denotes w'.toInt ↔ w = w' := by
  constructor
  · generalize hn : w'.toInt = n
    rintro ⟨⟩
    exact Int64.toInt_inj.mp hn.symm
  · rintro rfl
    exact .integer w

/-- The value is the double one above the words. -/
def IsEdge (v : Value) : Prop := (∃ x, v = .float x) ∧ v.Denotes (2 ^ 63)

theorem clamp_toInt (w : Int64) : clamp w.toInt = w := by
  have hmin : ¬ w.toInt < Int64.minValue.toInt := Int.not_lt.mpr (Int64.le_toInt w)
  have hmax : ¬ Int64.maxValue.toInt < w.toInt :=
    Int.not_lt.mpr (Int.le_of_lt_add_one (Int64.toInt_lt w))
  rw [clamp, if_neg hmin, if_neg hmax, Int64.ofInt_toInt]

theorem clamp_of_bounds {n : ℤ} (w : Int64) :
    (if floatBounds.1 ≤ n ∧ n ≤ floatBounds.2 then some (clamp n) else none) = some w ↔
      n = w.toInt ∨ n = 2 ^ 63 ∧ w = Int64.maxValue := by
  have hbounds : (floatBounds.1 ≤ n ∧ n ≤ floatBounds.2) ↔ -2 ^ 63 ≤ n ∧ n ≤ 2 ^ 63 := Iff.rfl
  have hedge : clamp (2 ^ 63) = Int64.maxValue := by decide
  constructor
  · intro h
    split at h
    · next hn =>
      rw [hbounds] at hn
      cases h
      by_cases hlast : n = 2 ^ 63
      · exact .inr ⟨hlast, hlast ▸ hedge⟩
      · have hword : (Int64.ofInt n).toInt = n := Int64.toInt_ofInt_of_le hn.1 (by omega)
        rw [← hword, clamp_toInt]
        exact .inl rfl
    · cases h
  · rintro (rfl | ⟨rfl, rfl⟩)
    · have hlow := Int64.le_toInt w
      have hhigh := Int64.toInt_lt w
      rw [if_pos (hbounds.mpr ⟨hlow, Int.le_of_lt hhigh⟩), clamp_toInt]
    · rw [if_pos (by decide), hedge]

/-- **The word that a value is read as** is the integer that it denotes, up to one value. -/
theorem word?_eq_some_iff (v : Value) (w : Int64) :
    v.word? = some w ↔ v.Denotes w.toInt ∨ v.IsEdge ∧ w = Int64.maxValue := by
  cases v with
  | null =>
    refine ⟨nofun, ?_⟩
    rintro (h | ⟨⟨-, h⟩, -⟩)
    · exact absurd h (not_denotes_null _)
    · exact absurd h (not_denotes_null _)
  | integer m =>
    have hedge : ¬ (Value.integer m).IsEdge := fun ⟨⟨_, hx⟩, _⟩ => nomatch hx
    rw [denotes_integer_iff]
    simp only [hedge, false_and, or_false]
    exact Option.some_inj
  | float x =>
    have hedge : (Value.float x).IsEdge ↔ (Value.float x).Denotes (2 ^ 63) :=
      ⟨fun h => h.2, fun h => ⟨⟨x, rfl⟩, h⟩⟩
    rw [hedge, denotes_float_iff, denotes_float_iff, word?]
    cases x.decode.integer? with
    | none => exact ⟨nofun, nofun⟩
    | some n =>
      rw [Option.some.injEq, Option.some.injEq]
      exact clamp_of_bounds w
  | text s =>
    have hedge : ¬ (Value.text s).IsEdge := fun ⟨⟨_, hx⟩, _⟩ => nomatch hx
    rw [denotes_text_iff]
    simp only [hedge, false_and, or_false, word?, readWord?, Option.bind_eq_some_iff]
    constructor
    · rintro ⟨n, hn, hw⟩
      rw [hn, toInt_word hw]
    · intro hn
      exact ⟨w.toInt, hn, word?_toInt w⟩

end Value

namespace Integral

theorem ofValue_eq_ok_iff {v : Value} {type : NumberType} {a : Integral} :
    ofValue v type = .ok a ↔ ∃ w, v.word? = some w ∧ a.type = type ∧ a.val = w.toInt := by
  rw [ofValue]
  cases v.word? with
  | none => exact ⟨nofun, nofun⟩
  | some w =>
    constructor
    · intro h
      exact ⟨w, rfl, of_make h⟩
    · rintro ⟨_, ⟨⟩, rfl, hval⟩
      have hrange : a.type.Contains w.toInt := hval ▸ a.inRange
      change make a.type w.toInt = _
      rw [make_of_contains hrange]
      exact congrArg Except.ok (Integral.ext rfl hval.symm)

/-- **A value is read as an integer** exactly if it denotes this integer and the integer lies in the
range of the type. There is one value besides: the double `2 ^ 63` is read as the greatest word. -/
theorem ofValue_denotes (v : Value) (type : NumberType) (n : ℤ) :
    (∃ a, ofValue v type = .ok a ∧ a.type = type ∧ a.val = n) ↔
      v.Denotes n ∧ type.Contains n ∨
      ((∃ x, v = .float x) ∧ v.Denotes (2 ^ 63)) ∧ type = .long ∧ n = 2 ^ 63 - 1 := by
  simp only [ofValue_eq_ok_iff, Value.word?_eq_some_iff]
  constructor
  · rintro ⟨a, ⟨w, hw, -, hval⟩, rfl, rfl⟩
    rcases hw with hw | ⟨hedge, rfl⟩
    · exact .inl ⟨hval ▸ hw, a.inRange⟩
    · have hlong : a.type = .long := by
        have hrange := a.inRange
        rw [hval] at hrange
        generalize a.type = type at hrange
        cases type
        · exact absurd hrange (by decide)
        · exact absurd hrange (by decide)
        · rfl
      exact .inr ⟨hedge, hlong, hval⟩
  · rintro (⟨hn, hrange⟩ | ⟨hedge, rfl, rfl⟩)
    · have hword : n = (Int64.ofInt n).toInt :=
        (Int64.toInt_ofInt_of_le hrange.long.1 (Int.lt_add_one_of_le hrange.long.2)).symm
      exact ⟨⟨type, n, hrange⟩, ⟨Int64.ofInt n, .inl (hword ▸ hn), rfl, hword⟩, rfl, rfl⟩
    · exact ⟨⟨.long, 2 ^ 63 - 1, by decide⟩, ⟨Int64.maxValue, .inr ⟨hedge, rfl⟩, rfl, rfl⟩, rfl, rfl⟩

/-- **The double `2 ^ 63`** lies in no range, and is read as the greatest word all the same. The
bound that it passes is that word rounded to a double, which is `2 ^ 63` itself. -/
theorem ofValue_edge :
    let v : Value := .float ⟨0x43E0000000000000⟩
    v.Denotes (2 ^ 63) ∧ ¬ v.Denotes (2 ^ 63 - 1) ∧
      ∃ a, ofValue v .long = .ok a ∧ a.type = .long ∧ a.val = 2 ^ 63 - 1 := by
  have hdecode : (⟨0x43E0000000000000⟩ : Binary64).decode.integer? = some (2 ^ 63) := by decide
  refine ⟨Value.denotes_float_iff.mpr hdecode, ?_, ?_⟩
  · rw [Value.denotes_float_iff, hdecode]
    decide
  · exact ⟨⟨.long, 2 ^ 63 - 1, by decide⟩, by decide, rfl, rfl⟩

end Integral

end CounterTable
