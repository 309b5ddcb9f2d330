/-!
# Double precision numbers

A double is kept as its 64 bits, and all that is asked of it is answered in exact integer
arithmetic on what the bits stand for.

* `Binary64.decode`: the number that the bits stand for, as `± mantissa · 2 ^ exponent`;
* `Binary64.nearest`: the double nearest to a quotient, a tie going to the even mantissa;
* `Decoded.integer?`: the integer that a number is, if it is one.
-/

namespace CounterTable.Number

/-- A double precision number, as its bits. -/
structure Binary64 where
  bits : UInt64
deriving DecidableEq, Repr, Inhabited

/-- What the bits of a double stand for. -/
inductive Decoded where
  | notANumber
  | infinite (negative : Bool)
  /-- The number `± mantissa · 2 ^ exponent`. -/
  | finite (negative : Bool) (mantissa : Nat) (exponent : Int)
deriving DecidableEq, Repr

/-- A power of two. -/
def twoPow (n : Nat) : Nat := Nat.pow 2 n

/-- The integer that a number is; none if it has a fraction or is not finite. -/
def Decoded.integer? : Decoded → Option Int
  | .finite negative mantissa exponent =>
    let size : Option Nat :=
      if 0 ≤ exponent then some (mantissa * twoPow exponent.toNat)
      else if mantissa % twoPow (-exponent).toNat = 0 then
        some (mantissa / twoPow (-exponent).toNat)
      else none
    size.map fun n => if negative then -(n : Int) else n
  | _ => none

namespace Binary64

/-- The least exponent of a double. -/
def leastExponent : Int := -1074

/-- What the unwritten leading one of a mantissa stands for. -/
def leadingOne : Nat := twoPow 52

/-- What the sign bit stands for. -/
def signBit : Nat := twoPow 63

/-- The number that the bits stand for: one sign bit, eleven bits of exponent, and 52 bits of
mantissa that has an unwritten leading one unless the exponent field is zero. -/
def decode (x : Binary64) : Decoded :=
  let n := x.bits.toNat
  let negative := n / signBit == 1
  let exponent := n / leadingOne % 2048
  let fraction := n % leadingOne
  if exponent = 2047 then
    if fraction = 0 then .infinite negative else .notANumber
  else if exponent = 0 then .finite negative fraction leastExponent
  else .finite negative (leadingOne + fraction) (leastExponent + (exponent - 1 : Nat))

/-- The bits of a sign and of the number that the other 63 bits are. -/
def ofMagnitude (negative : Bool) (magnitude : Nat) : Binary64 :=
  ⟨UInt64.ofNat ((if negative then signBit else 0) + magnitude)⟩

/-- Zero, of either sign. -/
def zero (negative : Bool) : Binary64 := ofMagnitude negative 0

/-- The infinity of either sign: all ones in the exponent field, and no fraction. -/
def infinity (negative : Bool) : Binary64 := ofMagnitude negative (2047 * leadingOne)

/-- The double that is no number. -/
def notANumber : Binary64 := ofMagnitude false (2047 * leadingOne + leadingOne / 2)

/-- A quotient rounded to the nearest integer, a tie going to the even one. -/
def roundDiv (num den : Nat) : Nat :=
  let q := num / den
  let r := num % den
  if 2 * r < den ∨ (2 * r = den ∧ q % 2 = 0) then q else q + 1

/-- The double nearest to `num / den`, for positive `num` and `den`. The exponent is the one that
gives the quotient 53 bits, but not below the least; a mantissa that rounds up to 54 bits carries
into the exponent field, and beyond the last exponent lies infinity. -/
def nearest (negative : Bool) (num den : Nat) : Binary64 :=
  let guess : Int := (num.log2 : Int) - den.log2 - 52
  let short : Bool :=
    if 0 ≤ guess then num < leadingOne * (den * twoPow guess.toNat)
    else num * twoPow (-guess).toNat < leadingOne * den
  let exponent := max leastExponent (if short then guess - 1 else guess)
  let mantissa :=
    if 0 ≤ exponent then roundDiv num (den * twoPow exponent.toNat)
    else roundDiv (num * twoPow (-exponent).toNat) den
  if exponent > 971 then infinity negative
  else if mantissa < leadingOne then ofMagnitude negative mantissa
  else ofMagnitude negative ((exponent - leastExponent).toNat * leadingOne + mantissa)

end Binary64

end CounterTable.Number
