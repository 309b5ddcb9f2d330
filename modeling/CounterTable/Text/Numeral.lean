/-!
# Whole numbers in decimal

A number is read from an optional sign and at least one ASCII digit. Nothing else is accepted: no
blanks, no separators, no second sign. Leading zeros are allowed.

* `readNat?`, `readInt?`: the number a text spells;
* `word?`: an integer as a 64-bit word, if it is one;
* `readWord?`: both together.
-/

namespace CounterTable.Text

/-- The number that a list of digits spells, most significant first. -/
def digitsValue (ds : List Char) : Nat := ds.foldl (fun n c => 10 * n + (c.toNat - '0'.toNat)) 0

/-- The number that a nonempty text of ASCII digits spells. -/
def readNat? (cs : List Char) : Option Nat :=
  if cs ≠ [] ∧ cs.all Char.isDigit then some (digitsValue cs) else none

/-- The number that digits after an optional sign spell. -/
def readInt? : List Char → Option Int
  | '-' :: ds => (readNat? ds).map fun n => -(n : Int)
  | '+' :: ds => (readNat? ds).map fun n => (n : Int)
  | ds => (readNat? ds).map fun n => (n : Int)

/-- The integer as a 64-bit word, if it fits in one. -/
def word? (n : Int) : Option Int64 :=
  if Int64.minValue.toInt ≤ n ∧ n ≤ Int64.maxValue.toInt then some (Int64.ofInt n) else none

/-- The 64-bit word that a text spells. -/
def readWord? (cs : List Char) : Option Int64 := (readInt? cs).bind word?

/-- The decimal digits of a number, most significant first, without leading zeros. -/
def digitsOf (n : Nat) : List Char := Nat.toDigits 10 n

/-- An integer in decimal, with a sign if it is negative. -/
def renderInt (n : Int) : String := toString n

theorem toInt_word {n : Int} {w : Int64} (h : word? n = some w) : w.toInt = n := by
  unfold word? at h
  split at h
  · next hn => cases h; exact Int64.toInt_ofInt_of_le hn.1 (Int.lt_add_one_of_le hn.2)
  · cases h

theorem word?_toInt (w : Int64) : word? w.toInt = some w := by
  have h₁ := Int64.le_toInt w
  have h₂ := Int64.toInt_lt w
  have : Int64.minValue.toInt ≤ w.toInt ∧ w.toInt ≤ Int64.maxValue.toInt := by
    change -2 ^ 63 ≤ w.toInt ∧ w.toInt ≤ 2 ^ 63 - 1
    omega
  rw [word?, if_pos this, Int64.ofInt_toInt]

end CounterTable.Text
