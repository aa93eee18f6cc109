import GridStore.Number.Arithmetic

/-!
# Decimal numerals

A decimal numeral is a sign, a natural number of digits and a power of ten. This module reads
numerals from text and finds the nearest number.

## Main definitions

* `Decimal`: the value `± digits · 10 ^ exponent`.
* `Decimal.toNumber`: the nearest number, ties to even.
* `Decimal.read?`: a numeral with an optional sign, fraction and exponent, at least one digit
  before or after the point.
* `Number.read?`: a numeral, or an infinity or not-a-number by name.
-/

namespace GridStore

/-- The value `± digits · 10 ^ exponent`. -/
structure Decimal where
  negative : Bool
  digits : Nat
  exponent : Int
deriving DecidableEq

/-- The number written by a list of decimal digits, most significant first. -/
def natOfDigits (cs : List Char) : Nat :=
  cs.foldl (fun n c => 10 * n + (c.toNat - '0'.toNat)) 0

namespace Decimal

/-! ### The nearest number -/

/-- The number nearest to a decimal value.

A non-zero numeral is infinite from `10⁴⁰⁰` on, and a numeral whose magnitude is below `2⁻¹¹⁰⁰`,
which is recognised by `10 ≥ 2³`, is zero; between these the quotient is rounded. -/
def toNumber (d : Decimal) : Number :=
  match d.exponent with
  | .ofNat e =>
    if d.digits = 0 then .zero d.negative
    else if 400 ≤ e then .infinite d.negative
    else .ofQuotient d.negative (d.digits * 10 ^ e * unitsPerOne) 1
  | .negSucc e =>
    if d.digits.log2 + 1101 < 3 * (e + 1) then .zero d.negative
    else .ofQuotient d.negative (d.digits * unitsPerOne) (10 ^ (e + 1))

/-! ### Reading -/

/-- The exponent that ends a numeral: nothing, or `e` with an optional sign and digits. -/
def readExponent? : List Char → Option Int
  | [] => some 0
  | mark :: rest =>
    if mark = 'e' ∨ mark = 'E' then
      let (negative, digits) := match rest with
        | '-' :: r => (true, r)
        | '+' :: r => (false, r)
        | r => (false, r)
      if digits ≠ [] ∧ digits.all Char.isDigit then
        some (if negative then -(natOfDigits digits : Int) else natOfDigits digits)
      else
        none
    else
      none

/-- A numeral after its sign: digits with an optional point, at least one digit, and an optional
exponent. -/
def readUnsigned? (negative : Bool) (cs : List Char) : Option Decimal :=
  let whole := cs.takeWhile Char.isDigit
  let (fraction, rest) := match cs.dropWhile Char.isDigit with
    | '.' :: r => (r.takeWhile Char.isDigit, r.dropWhile Char.isDigit)
    | r => ([], r)
  if whole = [] ∧ fraction = [] then none
  else (readExponent? rest).map fun e =>
    ⟨negative, natOfDigits (whole ++ fraction), e - fraction.length⟩

/-- The sign at the front of a text, if there is one, and what follows it. -/
def splitSign : List Char → Bool × List Char
  | '-' :: r => (true, r)
  | '+' :: r => (false, r)
  | r => (false, r)

/-- A numeral with an optional sign. -/
def read? (cs : List Char) : Option Decimal :=
  let (negative, rest) := splitSign cs
  readUnsigned? negative rest

end Decimal

/-- The number written by a text: a numeral, or `inf`, `infinity` or `nan` in any case of letters,
each with an optional sign. -/
def Number.read? (text : String) : Option Number :=
  let (negative, rest) := Decimal.splitSign text.toList
  let word := rest.map Char.toLower
  if word = "inf".toList ∨ word = "infinity".toList then some (.infinite negative)
  else if word = "nan".toList then some .nan
  else (Decimal.readUnsigned? negative rest).map Decimal.toNumber

end GridStore
