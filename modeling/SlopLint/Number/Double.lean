import SlopLint.Number.Rounding

/-!
# Binary floating point numbers

A number of double precision is a sign, a mantissa below `2 ^ 53` and a power of two, or an
infinity, or no number. A decimal numeral is read as the nearest double; of two equally near ones
the even mantissa wins.
-/

namespace SlopLint.Number

/-- A number of double precision; a finite one is `± mantissa * 2 ^ exponent`. -/
inductive Double where
  | finite (negative : Bool) (mantissa : Nat) (exponent : Int)
  | infinite (negative : Bool)
  | nan
deriving DecidableEq, Repr

namespace Double

/-- The least exponent of a double, that of the subnormal ones. -/
def minExponent : Int := -1074

/-- The least mantissa of a double whose exponent is not the least one; mantissas stay below twice
this number. -/
def leadingBit : Nat := 4503599627370496

/-- The largest `k` with `2 ^ k * den ≤ num`, possibly negative; `num` and `den` are positive. -/
def binaryExponent (num den : Nat) : Int :=
  let guess : Int := (num.log2 : Int) - den.log2
  let fits (k : Int) : Bool :=
    if 0 ≤ k then Nat.pow 2 k.toNat * den ≤ num else den ≤ num * Nat.pow 2 (-k).toNat
  if fits guess then guess else guess - 1

/-- The double nearest to the positive fraction `num / den`. -/
def ofFraction (negative : Bool) (num den : Nat) : Double :=
  let exponent := max (binaryExponent num den - 52) minExponent
  let mantissa :=
    if 0 ≤ exponent then roundHalfEven num (den * Nat.pow 2 exponent.toNat)
    else roundHalfEven (num * Nat.pow 2 (-exponent).toNat) den
  let (mantissa, exponent) :=
    if mantissa = 2 * leadingBit then (leadingBit, exponent + 1) else (mantissa, exponent)
  if 971 < exponent then infinite negative else finite negative mantissa exponent

/-- The double nearest to `digits * 10 ^ scale`. -/
def ofDecimal (negative : Bool) (digits : Nat) (scale : Int) : Double :=
  let magnitude := scale + (toString digits).length
  if digits = 0 ∨ magnitude < -330 then finite negative 0 minExponent
  else if 310 < magnitude then infinite negative
  else if 0 ≤ scale then ofFraction negative (digits * Nat.pow 10 scale.toNat) 1
  else ofFraction negative digits (Nat.pow 10 (-scale).toNat)

/-- Whether the number is zero of either sign. -/
def isZero : Double → Bool
  | finite _ mantissa _ => mantissa == 0
  | _ => false

/-- The whole number that a double equals, if there is one. -/
def toInt? : Double → Option Int
  | finite negative mantissa exponent =>
    let signed (n : Nat) : Int := if negative then -n else n
    if 0 ≤ exponent then some (signed (mantissa * Nat.pow 2 exponent.toNat))
    else if mantissa % Nat.pow 2 (-exponent).toNat = 0 then
      some (signed (mantissa / Nat.pow 2 (-exponent).toNat))
    else none
  | _ => none

end Double

end SlopLint.Number
