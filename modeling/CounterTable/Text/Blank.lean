/-!
# Blank characters

Names, numbers and keywords may be surrounded by blanks, and a blank is any character of the
Unicode property `White_Space`, not only the ASCII ones.

* `isBlank`: the property, as the list of its ranges;
* `trim`: a text without the blanks around it;
* `words`: the runs of characters between blanks;
* **`trim_eq_self`**: a text that neither begins nor ends in a blank is left alone.
-/

namespace CounterTable.Text

/-- Blanks are the characters of the Unicode property `White_Space`. -/
def isBlank (c : Char) : Bool :=
  let n := c.toNat
  (9 ≤ n && n ≤ 13) || n == 0x20 || n == 0x85 || n == 0xA0 || n == 0x1680 ||
    (0x2000 ≤ n && n ≤ 0x200A) || n == 0x2028 || n == 0x2029 || n == 0x202F || n == 0x205F ||
    n == 0x3000

/-- The text without the blanks at its start. -/
def trimStart (cs : List Char) : List Char := cs.dropWhile isBlank

/-- The text without the blanks at its end. -/
def trimEnd (cs : List Char) : List Char := (cs.reverse.dropWhile isBlank).reverse

/-- The text without the blanks around it. -/
def trim (cs : List Char) : List Char := trimEnd (trimStart cs)

/-- The runs of characters between blanks, in order; none of them is empty. -/
def words : List Char → List (List Char)
  | [] => []
  | c :: cs =>
    if isBlank c then words cs
    else match cs, words cs with
      | d :: _, w :: ws => if isBlank d then [c] :: w :: ws else (c :: w) :: ws
      | _, ws => [c] :: ws

/-- Letters `A` to `Z` in lower case, all else unchanged. -/
def lower (cs : List Char) : List Char := cs.map Char.toLower

/-- Letters `a` to `z` in upper case, all else unchanged. -/
def upper (cs : List Char) : List Char := cs.map Char.toUpper

theorem trimStart_cons {c : Char} (h : isBlank c = false) (cs : List Char) :
    trimStart (c :: cs) = c :: cs := by
  simp [trimStart, h]

theorem trimEnd_concat {c : Char} (h : isBlank c = false) (cs : List Char) :
    trimEnd (cs ++ [c]) = cs ++ [c] := by
  simp [trimEnd, h]

theorem trim_eq_self {cs : List Char} (hs : ∀ c ∈ cs.head?, isBlank c = false)
    (he : ∀ c ∈ cs.getLast?, isBlank c = false) : trim cs = cs := by
  cases cs with
  | nil => rfl
  | cons c cs =>
    have hc : isBlank c = false := hs c rfl
    rw [trim, trimStart_cons hc]
    obtain ⟨init, last, h⟩ : ∃ init last, c :: cs = init ++ [last] :=
      ⟨_, _, (List.dropLast_concat_getLast (List.cons_ne_nil c cs)).symm⟩
    rw [h] at he ⊢
    exact trimEnd_concat (he last (by simp)) init

end CounterTable.Text
