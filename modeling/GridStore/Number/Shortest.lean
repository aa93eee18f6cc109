import GridStore.Number.Decimal

/-!
# Shortest decimal digits

The shortest digits of a finite number are the fewest decimal digits that read back as the number;
among numerals with that many digits, the nearest to the number. The search is exact: a magnitude
of `u` units of `2⁻¹⁰⁷⁴` is `u · 5¹⁰⁷⁴` units of `10⁻¹⁰⁷⁴`, a natural number whose leading digits
are the candidates from below and whose successors are the candidates from above.

## Main definitions

* `TieRule`: which of two equally near candidates is taken.
* `readsBack`: whether a magnitude in units of `10⁻¹⁰⁷⁴` rounds to a given magnitude.
* `Shortest.candidate?`: the better candidate with a given number of digits.
* `Shortest.choice`: the candidate with the fewest digits.
* `shortestDigits`: the digits together with the power of ten of the last one.
-/

namespace GridStore

/-- The number of units of `10⁻¹⁰⁷⁴` in a unit of `2⁻¹⁰⁷⁴`. -/
def tenthsPerUnit : Nat := 5 ^ (1074 : Nat)

/-- Which of two equally near candidates is taken: the upper one, or the one that ends in an even
digit. -/
inductive TieRule where
  | upward
  | toEven
deriving DecidableEq

/-- Whether a magnitude counted in units of `10⁻¹⁰⁷⁴` rounds to the magnitude of `units` units of
`2⁻¹⁰⁷⁴`. -/
def readsBack (units scaled : Nat) : Bool := roundUnits scaled tenthsPerUnit == units

namespace Shortest

/-- Whether the upper of two candidates is taken when both read back: `remainder` is the distance
to the lower one in a grid of width `width`. -/
def takesUpper (tie : TieRule) (lower remainder width : Nat) : Bool :=
  if 2 * remainder < width then false
  else if width < 2 * remainder then true
  else match tie with
    | .upward => true
    | .toEven => lower % 2 = 1

/-- The candidate on the grid of width `width`, if one of the two neighbours of `units` there reads
back, as a multiple of the width. -/
def candidate? (tie : TieRule) (units width : Nat) : Option Nat :=
  let exact := units * tenthsPerUnit
  let lower := exact / width
  let lowerReads := readsBack units (lower * width)
  let upperReads := readsBack units ((lower + 1) * width)
  if lowerReads && upperReads then
    some (if takesUpper tie lower (exact % width) width then lower + 1 else lower)
  else if lowerReads then some lower
  else if upperReads then some (lower + 1)
  else none

/-- The decimal digits without the zeros at their end, and the number of those zeros. -/
def trimZeros (digits : List Char) : List Char × Nat :=
  let zeros := digits.reverse.takeWhile (· == '0')
  (digits.take (digits.length - zeros.length), zeros.length)

/-- The digits that are taken for a magnitude, and the number of places after them that they leave
out: the first candidate with one to seventeen digits, and else the exact value. -/
def choice (tie : TieRule) (units exact : Nat) : Nat × Nat :=
  let length := (Nat.toDigits 10 exact).length
  let found := (List.range 17).findSome? fun n =>
    let places := length - (n + 1)
    (candidate? tie units (10 ^ places)).map (·, places)
  found.getD (exact, 0)

/-- Digits without zeros at their end, and the number of digits before the decimal point, for a
number of units of `10⁻¹⁰⁷⁴` given by its digits and the number of places after them. -/
def laidOut (digits places : Nat) : List Char × Int :=
  let text := Nat.toDigits 10 digits
  ((trimZeros text).1, (text.length + places : Int) - 1074)

end Shortest

/-- The shortest digits of a non-zero magnitude that read back, and the number of digits before the
decimal point: digits `ds` and position `p` stand for `0.ds · 10 ^ p`.

The candidates have one to seventeen digits, after which the exact value is taken; seventeen always
suffice. -/
def shortestDigits (tie : TieRule) (units : Nat) : List Char × Int :=
  let chosen := Shortest.choice tie units (units * tenthsPerUnit)
  Shortest.laidOut chosen.1 chosen.2

end GridStore
