import GridStore.Number.Decimal

/-!
# Counts in text

Counts and positions are written in decimal digits and fit a machine word.

## Main definitions

* `wordBound`: the number of values of a machine word.
* `count?`: the count that a text writes.
* `countText`: the text of a count.
-/

namespace GridStore

/-- The number of values of a machine word, in which counts have to fit. -/
def wordBound : Nat := UInt64.size

/-- The count written by decimal digits, at least one, if it fits a machine word. -/
def countOfDigits? (digits : List Char) : Option Nat :=
  if digits ≠ [] ∧ digits.all Char.isDigit ∧ natOfDigits digits < wordBound then
    some (natOfDigits digits)
  else
    none

/-- The count that a text writes: decimal digits, with or without a plus sign in front. -/
def count? (text : String) : Option Nat :=
  match text.toList with
  | '+' :: digits => countOfDigits? digits
  | digits => countOfDigits? digits

/-- The text of a count: its decimal digits, without leading zeros. -/
def countText (n : Nat) : String := String.ofList (Nat.toDigits 10 n)

end GridStore
