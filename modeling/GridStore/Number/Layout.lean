import GridStore.Number.Shortest

/-!
# Number text

The text of a number is its shortest digits laid out with a decimal point or with an exponent. Two
layouts are in use, one for cells and one for JSON documents.

## Main definitions

* `NumberLayout`: the decisions of a layout.
* `NumberLayout.cell`, `NumberLayout.json`.
* `NumberLayout.text`: the text of a number in a layout.
* `Number.cellText`: the text of a number in a cell.
-/

namespace GridStore

/-- The decisions of a number layout: how a tie between two shortest candidates is settled, which
powers of ten of the leading digit are written with a point rather than an exponent, and whether a
whole number written with a point keeps a zero after it. -/
structure NumberLayout where
  tie : TieRule
  positional : Int → Bool
  keepsPoint : Bool

namespace NumberLayout

/-- Cells never use an exponent and write whole numbers without a point. -/
def cell : NumberLayout where
  tie := .upward
  positional := fun _ => true
  keepsPoint := false

/-- JSON documents write numbers from `10⁻⁵` up to `10¹⁶` with a point and others with an
exponent. -/
def json : NumberLayout where
  tie := .toEven
  positional := fun e => -5 ≤ e ∧ e ≤ 15
  keepsPoint := true

/-- Digits with a decimal point after the first `point` digits, filled up with zeros. -/
def withPoint (keepsPoint : Bool) (digits : List Char) (point : Int) : List Char :=
  if point ≤ 0 then
    '0' :: '.' :: (List.replicate point.natAbs '0' ++ digits)
  else
    let whole := digits.take point.toNat
    let fraction := digits.drop point.toNat
    whole ++ List.replicate (point.toNat - whole.length) '0' ++
      (if fraction = [] then if keepsPoint then ['.', '0'] else [] else '.' :: fraction)

/-- Digits with a point after the first one, and the power of ten with its sign. -/
def withExponent (digits : List Char) (exponent : Int) : List Char :=
  digits.take 1 ++ (if digits.drop 1 = [] then [] else '.' :: digits.drop 1) ++
    ['e', if exponent < 0 then '-' else '+'] ++ Nat.toDigits 10 exponent.natAbs

/-- The text of a finite magnitude. -/
def magnitude (layout : NumberLayout) (units : Nat) : List Char :=
  if units = 0 then
    '0' :: if layout.keepsPoint then ['.', '0'] else []
  else
    let (digits, point) := shortestDigits layout.tie units
    if layout.positional (point - 1) then withPoint layout.keepsPoint digits point
    else withExponent digits (point - 1)

/-- The text of a number, its sign in front. -/
def text (layout : NumberLayout) : Number → String
  | .nan => "NaN"
  | .infinite negative => if negative then "-inf" else "inf"
  | .finite negative units _ =>
    String.ofList (if negative then '-' :: layout.magnitude units else layout.magnitude units)

end NumberLayout

/-- The text of a number in a cell. -/
def Number.cellText (n : Number) : String := NumberLayout.cell.text n

end GridStore
