import CounterTable.Number.Binary64
import CounterTable.Text.Blank
import CounterTable.Text.Numeral

/-!
# Doubles in decimal

Reading takes any decimal text and gives the nearest double. Writing gives the fewest digits that
read back as the same double, the nearest such number if there are several, and never an exponent.

* `Binary64.ofText?`: reading;
* `Binary64.shortest`: the digits and the position of the point;
* `Binary64.text`: writing.
-/

namespace CounterTable.Number

open CounterTable.Text

/-- The number `digits · 10 ^ scale`. -/
structure Scientific where
  digits : Nat
  scale : Int
deriving DecidableEq, Repr

/-- Digits before and after an optional point, at least one of them, and an optional exponent. -/
def Scientific.ofText? (cs : List Char) : Option Scientific :=
  let whole := cs.takeWhile Char.isDigit
  let afterWhole := cs.dropWhile Char.isDigit
  let fraction := match afterWhole with
    | '.' :: r => r.takeWhile Char.isDigit
    | _ => []
  let rest := match afterWhole with
    | '.' :: r => r.dropWhile Char.isDigit
    | r => r
  let exponent : Option Int := match rest with
    | [] => some 0
    | e :: r => if e = 'e' ∨ e = 'E' then readInt? r else none
  if whole = [] ∧ fraction = [] then none
  else exponent.map fun e => ⟨digitsValue (whole ++ fraction), e - fraction.length⟩

namespace Binary64

/-- The double nearest to a decimal number. Numbers far outside the range of doubles are settled by
the count of their digits, so that no huge power is ever computed. -/
def ofScientific (negative : Bool) (d : Scientific) : Binary64 :=
  if d.digits = 0 then zero negative
  else
    let places : Int := (digitsOf d.digits).length + d.scale
    if places > 400 then infinity negative
    else if places < -400 then zero negative
    else if 0 ≤ d.scale then nearest negative (d.digits * Nat.pow 10 d.scale.toNat) 1
    else nearest negative d.digits (Nat.pow 10 (-d.scale).toNat)

/-- The double without its sign that a text names: a word for infinity or for no number, or a
decimal number. -/
def ofUnsigned? (negative : Bool) (cs : List Char) : Option Binary64 :=
  let word := Text.lower cs
  if word = "nan".toList then some notANumber
  else if word = "inf".toList ∨ word = "infinity".toList then some (infinity negative)
  else (Scientific.ofText? cs).map (ofScientific negative)

/-- The double that a text names. -/
def ofText? : List Char → Option Binary64
  | '-' :: cs => ofUnsigned? true cs
  | '+' :: cs => ofUnsigned? false cs
  | cs => ofUnsigned? false cs

/-- The numbers that round to `mantissa · 2 ^ exponent`, in quarters of the unit in the last place:
they reach half a unit up, and half a unit down or a quarter where the doubles below are denser.
Both ends belong to them exactly if the mantissa is even. -/
structure Rounding where
  lowest : Nat
  value : Nat
  highest : Nat
  closed : Bool

/-- The numbers that round to `mantissa · 2 ^ exponent`. -/
def rounding (mantissa : Nat) (exponent : Int) : Rounding :=
  { lowest := if mantissa = leadingOne ∧ leastExponent < exponent then 4 * mantissa - 1
      else 4 * mantissa - 2
    value := 4 * mantissa
    highest := 4 * mantissa + 2
    closed := mantissa % 2 == 0 }

/-- The multiple of a grid that stands for the value: of its two neighbours on the grid the nearer
that still rounds to the value, the upper one on a tie. Value and ends are multiples of
`scale.1 / scale.2` grid steps. -/
def gridPoint? (r : Rounding) (scale : Nat × Nat) : Option Nat :=
  let below := r.value * scale.1 / scale.2
  let above := below + 1
  let inside (n : Nat) : Bool :=
    if r.closed then r.lowest * scale.1 ≤ n * scale.2 && n * scale.2 ≤ r.highest * scale.1
    else r.lowest * scale.1 < n * scale.2 && n * scale.2 < r.highest * scale.1
  match inside below, inside above with
  | false, false => none
  | true, false => some below
  | false, true => some above
  | true, true =>
    if r.value * scale.1 - below * scale.2 < above * scale.2 - r.value * scale.1 then some below
    else some above

/-- A power as a quotient of two numbers, one of which is 1. -/
def powQuotient (base : Nat) (exponent : Int) : Nat × Nat :=
  if 0 ≤ exponent then (Nat.pow base exponent.toNat, 1)
  else (1, Nat.pow base (-exponent).toNat)

/-- The coarsest decimal grid `10 ^ scale` on which a point rounds to the value, from coarse to
fine, with that point. -/
def shortestFrom (r : Rounding) (exponent : Int) : Nat → Int → Scientific
  | 0, scale => ⟨0, scale⟩
  | tries + 1, scale =>
    let two := powQuotient 2 (exponent - 2)
    let ten := powQuotient 10 scale
    match gridPoint? r (two.1 * ten.2, two.2 * ten.1) with
    | some n => ⟨n, scale⟩
    | none => shortestFrom r exponent tries (scale - 1)

/-- The fewest decimal digits that read back as the positive number `mantissa · 2 ^ exponent`. -/
def shortest (mantissa : Nat) (exponent : Int) : Scientific :=
  let two := powQuotient 2 exponent
  let places : Int := (digitsOf (mantissa * two.1)).length - ((digitsOf two.2).length - 1)
  shortestFrom (rounding mantissa exponent) exponent 20 (places + 1)

/-- A decimal number written out in full, without an exponent. -/
def positional (d : Scientific) : List Char :=
  let digits := digitsOf d.digits
  if 0 ≤ d.scale then digits ++ List.replicate d.scale.toNat '0'
  else
    let places := (-d.scale).toNat
    let padded := List.replicate (places + 1 - digits.length) '0' ++ digits
    padded.take (padded.length - places) ++ '.' :: padded.drop (padded.length - places)

/-- The text of a double: the shortest digits that read back, in full; the sign of zero is kept. -/
def text (x : Binary64) : String :=
  let signed (negative : Bool) (cs : List Char) :=
    String.ofList (if negative then '-' :: cs else cs)
  match x.decode with
  | .notANumber => "NaN"
  | .infinite negative => signed negative "inf".toList
  | .finite negative mantissa exponent =>
    if mantissa = 0 then signed negative ['0']
    else
      let d := shortest mantissa exponent
      signed negative (positional (strip d.digits d.scale 20))
where
  /-- A multiple of ten has a coarser grid. -/
  strip (digits : Nat) (scale : Int) : Nat → Scientific
    | 0 => ⟨digits, scale⟩
    | n + 1 => if digits ≠ 0 ∧ digits % 10 = 0 then strip (digits / 10) (scale + 1) n
      else ⟨digits, scale⟩

end Binary64

end CounterTable.Number
