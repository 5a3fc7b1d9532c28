import SlopLint.Number.Double

/-!
# The shortest decimal text of a double

A double is written with the fewest decimal digits that read back as the same double; of the
numerals of that length the one nearest to the double is taken. Exponents from -4 up to 15 are
written positionally, with at least one digit behind the point.
-/

namespace SlopLint.Number

/-- A decimal numeral `digits * 10 ^ scale`. -/
structure Numeral where
  digits : Nat
  scale : Int

namespace Double

/-- `a * 2 ^ binary` compared with `b * 10 ^ decimal`, by clearing the denominators. -/
def scaled (a : Nat) (binary : Int) (b : Nat) (decimal : Int) : Nat × Nat :=
  (a * Nat.pow 2 binary.toNat * Nat.pow 10 (-decimal).toNat,
    b * Nat.pow 10 decimal.toNat * Nat.pow 2 (-binary).toNat)

/-- Whether the numeral lies in the interval of numbers that round to the double. -/
def readsBack (mantissa : Nat) (exponent : Int) (numeral : Numeral) : Bool :=
  let below := if mantissa = leadingBit ∧ exponent ≠ minExponent then 1 else 2
  let (low, at₁) := scaled (4 * mantissa - below) (exponent - 2) numeral.digits numeral.scale
  let (high, at₂) := scaled (4 * mantissa + 2) (exponent - 2) numeral.digits numeral.scale
  if mantissa % 2 = 0 then low ≤ at₁ && at₂ ≤ high else low < at₁ && at₂ < high

/-- Of the numerals with the given scale that read back, the one nearest to the double. -/
def nearestAt? (mantissa : Nat) (exponent : Int) (scale : Int) : Option Numeral :=
  let (value, unit) := scaled mantissa exponent 1 scale
  let down : Numeral := ⟨value / unit, scale⟩
  let up : Numeral := ⟨value / unit + 1, scale⟩
  match readsBack mantissa exponent down, readsBack mantissa exponent up with
  | true, true => some (if roundHalfEven value unit = down.digits then down else up)
  | true, false => some down
  | false, true => some up
  | false, false => none

/-- The first numeral that reads back on the scales `top`, `top - 1`, … -/
def shortestFrom (mantissa : Nat) (exponent : Int) : Nat → Int → Numeral
  | 0, scale => ⟨0, scale⟩
  | steps + 1, top =>
    (nearestAt? mantissa exponent top).getD (shortestFrom mantissa exponent steps (top - 1))

/-- The shortest numeral of a positive double. -/
def shortest (mantissa : Nat) (exponent : Int) : Numeral :=
  shortestFrom mantissa exponent 700 309

/-- The digits with the point behind the first `point` of them. -/
def positional (digits : List Char) (point : Int) : List Char :=
  if point ≤ 0 then "0.".toList ++ List.replicate (-point).toNat '0' ++ digits
  else
    let whole := digits.take point.toNat ++ List.replicate (point.toNat - digits.length) '0'
    let decimals := digits.drop point.toNat
    whole ++ '.' :: if decimals.isEmpty then ['0'] else decimals

/-- The digits in scientific notation; the exponent has a sign and at least two digits. -/
def scientific (digits : List Char) (exponent : Int) : List Char :=
  let magnitude := (toString exponent.natAbs).toList
  let mantissa := digits.take 1 ++ if 1 < digits.length then '.' :: digits.drop 1 else []
  mantissa ++ ['e', if exponent < 0 then '-' else '+'] ++
    (if magnitude.length < 2 then '0' :: magnitude else magnitude)

def render : Double → String
  | nan => "nan"
  | infinite negative => if negative then "-inf" else "inf"
  | finite negative mantissa exponent =>
    let text :=
      if mantissa = 0 then "0.0".toList
      else
        let numeral := shortest mantissa exponent
        let digits := (toString numeral.digits).toList
        let point := numeral.scale + digits.length
        if -4 < point ∧ point ≤ 16 then positional digits point
        else scientific digits (point - 1)
    String.ofList (if negative then '-' :: text else text)

end Double

end SlopLint.Number
