/-!
# Hexadecimal digits

## Main definitions

* `hexDigit?`: the value of a digit.
-/

namespace GridStore

/-- The value of a hexadecimal digit, with small or capital letters. -/
def hexDigit? (c : Char) : Option Nat :=
  if c.isDigit then some (c.toNat - '0'.toNat)
  else if 'a' ≤ c ∧ c ≤ 'f' then some (c.toNat - 'a'.toNat + 10)
  else if 'A' ≤ c ∧ c ≤ 'F' then some (c.toNat - 'A'.toNat + 10)
  else none

end GridStore
