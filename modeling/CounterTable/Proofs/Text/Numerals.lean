import CounterTable.Proofs.Text.Blanks
import CounterTable.Text.Numeral
import Mathlib.Data.List.TakeWhile

/-!
# Numbers and their digits

What is written in decimal is read as the number that it was, and what is read is the number that
the digits spell.

* `readNat?_toDigits`: the digits of a number;
* **`readInt?_renderInt`**, **`readWord?_renderInt`**: an integer, and a word;
* `Digits`, `Numeral`: how a number and an integer may be spelled;
* **`readInt?_eq_some_iff`**, **`readInt?_trim_eq_some_iff`**: what is read, alone and between blanks.
-/

namespace CounterTable.Text

theorem toNat_of_isDigit {c : Char} (h : c.isDigit = true) : 48 ≤ c.toNat ∧ c.toNat ≤ 57 := by
  rw [Char.isDigit, Bool.and_eq_true, decide_eq_true_eq, decide_eq_true_eq] at h
  exact ⟨UInt32.le_iff_toNat_le.mp h.1, UInt32.le_iff_toNat_le.mp h.2⟩

theorem isDigit_of_mem_toDigits {n : Nat} {c : Char} (h : c ∈ Nat.toDigits 10 n) :
    c.isDigit = true := Nat.isDigit_of_mem_toDigits (by decide) (by decide) h

theorem takeWhile_toDigits (n : Nat) :
    (Nat.toDigits 10 n).takeWhile Char.isDigit = Nat.toDigits 10 n :=
  List.takeWhile_eq_self_iff.mpr fun _ => isDigit_of_mem_toDigits

theorem dropWhile_toDigits (n : Nat) : (Nat.toDigits 10 n).dropWhile Char.isDigit = [] :=
  List.dropWhile_eq_nil_iff.mpr fun _ => isDigit_of_mem_toDigits

theorem digitsValue_toDigits (n : Nat) : digitsValue (Nat.toDigits 10 n) = n :=
  Nat.ofDigitChars_eq_foldl.symm.trans (Nat.ofDigitChars_toDigits (by decide) (by decide))

theorem readNat?_toDigits (n : Nat) : readNat? (Nat.toDigits 10 n) = some n := by
  have hne : Nat.toDigits 10 n ≠ [] := Nat.toDigits_ne_nil
  have hall : (Nat.toDigits 10 n).all Char.isDigit = true :=
    List.all_eq_true.mpr fun c hc => isDigit_of_mem_toDigits hc
  rw [readNat?, if_pos ⟨hne, hall⟩, digitsValue_toDigits]

theorem readInt?_toDigits (n : Nat) : readInt? (Nat.toDigits 10 n) = some (n : Int) := by
  have hread := readNat?_toDigits n
  have hdigits := fun c => isDigit_of_mem_toDigits (n := n) (c := c)
  unfold readInt?
  split
  · next ds heq =>
    rw [heq] at hdigits
    exact absurd (hdigits '-' List.mem_cons_self) (by decide)
  · next ds heq =>
    rw [heq] at hdigits
    exact absurd (hdigits '+' List.mem_cons_self) (by decide)
  · rw [hread]
    rfl

theorem eq_zero_of_head?_toDigits {n : Nat} (h : (Nat.toDigits 10 n).head? = some '0') : n = 0 := by
  induction n using Nat.strongRecOn with
  | ind n ih =>
    rw [Nat.toDigits_eq_if (by decide)] at h
    split at h
    · next hlt =>
      have hdigit : ∀ m < 10, [m.digitChar].head? = some '0' → m = 0 := by decide
      exact hdigit n hlt h
    · next hge =>
      have hhead : (Nat.toDigits 10 (n / 10)).head? = some '0' := by
        obtain ⟨c, cs, hcs⟩ :=
          List.exists_cons_of_ne_nil (Nat.toDigits_ne_nil (b := 10) (n := n / 10))
        rw [hcs] at h ⊢
        exact h
      have hzero := ih (n / 10) (by omega) hhead
      omega

theorem toList_renderInt_of_nonneg {n : Int} (h : 0 ≤ n) :
    (renderInt n).toList = Nat.toDigits 10 n.toNat := by
  rw [renderInt, Int.toString_eq_repr, Int.repr_eq_if, if_pos h, Nat.toList_repr]

theorem toList_renderInt_of_neg {n : Int} (h : n < 0) :
    (renderInt n).toList = '-' :: Nat.toDigits 10 (-n).toNat := by
  rw [renderInt, Int.toString_eq_repr, Int.repr_eq_if, if_neg (by omega), String.toList_append,
    Nat.toList_repr]
  rfl

/-- **Integers** are read as they were written. -/
theorem readInt?_renderInt (n : Int) : readInt? (renderInt n).toList = some n := by
  by_cases h : 0 ≤ n
  · rw [toList_renderInt_of_nonneg h, readInt?_toDigits]
    exact congrArg some (Int.toNat_of_nonneg h)
  · rw [toList_renderInt_of_neg (by omega)]
    simp only [readInt?, readNat?_toDigits, Option.bind_eq_bind, Option.bind_some, Option.pure_def,
      Option.map_some, Option.some.injEq]
    omega

/-- **Words** are read as they were written. -/
theorem readWord?_renderInt (w : Int64) : readWord? (renderInt w.toInt).toList = some w := by
  rw [readWord?, readInt?_renderInt, Option.bind_some, word?_toInt]

/-! ## How an integer may be spelled -/

/-- At least one ASCII digit, the most significant first, spells a number. -/
structure Digits (ds : List Char) (n : Nat) : Prop where
  ne_nil : ds ≠ []
  isDigit : ∀ c ∈ ds, c.isDigit = true
  value : Nat.ofDigitChars 10 ds 0 = n

/-- Digits after an optional sign spell an integer. -/
inductive Numeral : List Char → Int → Prop
  | plain {ds : List Char} {n : Nat} (h : Digits ds n) : Numeral ds n
  | plus {ds : List Char} {n : Nat} (h : Digits ds n) : Numeral ('+' :: ds) n
  | minus {ds : List Char} {n : Nat} (h : Digits ds n) : Numeral ('-' :: ds) (-n)

theorem readNat?_eq_some_iff {ds : List Char} {n : Nat} : readNat? ds = some n ↔ Digits ds n := by
  have hvalue : digitsValue ds = Nat.ofDigitChars 10 ds 0 := Nat.ofDigitChars_eq_foldl.symm
  constructor
  · intro h
    unfold readNat? at h
    split at h
    · next hds =>
      exact ⟨hds.1, List.all_eq_true.mp hds.2, hvalue.symm.trans (Option.some.inj h)⟩
    · cases h
  · rintro ⟨hne, hdigit, rfl⟩
    rw [readNat?, if_pos ⟨hne, List.all_eq_true.mpr hdigit⟩, hvalue]

theorem map_natCast_eq_some_iff {o : Option Nat} {sign : Int → Int} {m : Int} :
    ((do let n ← o; pure (n : Int)) : Option Int).map sign = some m ↔
      ∃ n : Nat, o = some n ∧ sign n = m := by
  cases o with
  | none => exact ⟨nofun, nofun⟩
  | some n => exact ⟨fun h => ⟨n, rfl, Option.some.inj h⟩, fun ⟨_, rfl, h⟩ => congrArg some h⟩

theorem Digits.not_cons {c : Char} {ds : List Char} {n : Nat} (hc : c.isDigit = false) :
    ¬ Digits (c :: ds) n := fun h => by
  rw [h.isDigit c List.mem_cons_self] at hc
  cases hc

/-- **Integers are read** as they are spelled. -/
theorem readInt?_eq_some_iff {cs : List Char} {m : Int} :
    readInt? cs = some m ↔ Numeral cs m := by
  constructor
  · intro h
    unfold readInt? at h
    split at h
    all_goals obtain ⟨n, hn, rfl⟩ := map_natCast_eq_some_iff.mp h
    · exact .minus (readNat?_eq_some_iff.mp hn)
    · exact .plus (readNat?_eq_some_iff.mp hn)
    · exact .plain (readNat?_eq_some_iff.mp hn)
  · rintro (⟨h⟩ | ⟨h⟩ | ⟨h⟩)
    · rw [readInt?]
      · exact map_natCast_eq_some_iff.mpr ⟨_, readNat?_eq_some_iff.mpr h, rfl⟩
      · rintro ds rfl
        exact Digits.not_cons rfl h
      · rintro ds rfl
        exact Digits.not_cons rfl h
    · exact map_natCast_eq_some_iff.mpr ⟨_, readNat?_eq_some_iff.mpr h, rfl⟩
    · exact map_natCast_eq_some_iff.mpr ⟨_, readNat?_eq_some_iff.mpr h, rfl⟩

/-! ## Between blanks -/

theorem isBlank_of_isDigit {c : Char} (h : c.isDigit = true) : isBlank c = false := by
  have hrange := toNat_of_isDigit h
  simp only [isBlank, Bool.or_eq_false_iff, Bool.and_eq_false_iff, decide_eq_false_iff_not,
    beq_eq_false_iff_ne]
  omega

theorem Numeral.solid {cs : List Char} {m : Int} (h : Numeral cs m) : Solid cs := by
  have hdigits : ∀ {ds n}, Digits ds n → ∀ c ∈ ds, isBlank c = false := fun h c hc =>
    isBlank_of_isDigit (h.isDigit c hc)
  have hblank : cs ≠ [] ∧ ∀ c ∈ cs, isBlank c = false := by
    rcases h with ⟨h⟩ | ⟨h⟩ | ⟨h⟩
    · exact ⟨h.ne_nil, hdigits h⟩
    · exact ⟨List.cons_ne_nil _ _, List.forall_mem_cons.mpr ⟨rfl, hdigits h⟩⟩
    · exact ⟨List.cons_ne_nil _ _, List.forall_mem_cons.mpr ⟨rfl, hdigits h⟩⟩
  exact ⟨hblank.1, fun c hc => hblank.2 c (List.mem_of_head? hc),
    fun c hc => hblank.2 c (List.mem_of_getLast? hc)⟩

/-- **Integers between blanks** are read as they are spelled. -/
theorem readInt?_trim_eq_some_iff {cs : List Char} {m : Int} :
    readInt? (trim cs) = some m ↔
      ∃ before numeral after, cs = before ++ numeral ++ after ∧
        (∀ c ∈ before, isBlank c = true) ∧ (∀ c ∈ after, isBlank c = true) ∧
        Numeral numeral m := by
  rw [readInt?_eq_some_iff]
  constructor
  · intro h
    obtain ⟨before, after, hbefore, hafter, heq⟩ := exists_blanks_trim cs
    exact ⟨before, trim cs, after, heq, hbefore, hafter, h⟩
  · rintro ⟨before, numeral, after, rfl, hbefore, hafter, h⟩
    rw [h.solid.trim_between hbefore hafter]
    exact h

end CounterTable.Text
