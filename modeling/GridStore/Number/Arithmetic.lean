import GridStore.Number.Basic

/-!
# Sums and products of numbers

The exact sum or product of two finite numbers is an integer number of units (of `2⁻¹⁰⁷⁴` for a
sum, of `2⁻²¹⁴⁸` for a product), which is rounded once. Infinities absorb finite numbers, and the
undetermined cases `∞ - ∞` and `0 · ∞` give not-a-number. A sum that vanishes is negative zero
only if both terms are negative.

## Main definitions

* `Number.add`, `Number.mul`.
* `Number.lowerTo`, `Number.raiseTo`: bounding a number from above and from below.
-/

namespace GridStore

namespace Number

/-- The sum of two numbers. -/
def add : Number → Number → Number
  | nan, _ => nan
  | _, nan => nan
  | infinite s, infinite t => if s = t then infinite s else nan
  | infinite s, finite _ _ _ => infinite s
  | finite _ _ _, infinite t => infinite t
  | finite s u _, finite t v _ =>
    let total := signed s u + signed t v
    ofQuotient (if total = 0 then s && t else total < 0) total.natAbs 1

/-- The product of two numbers. -/
def mul : Number → Number → Number
  | nan, _ => nan
  | _, nan => nan
  | infinite s, infinite t => infinite (s != t)
  | infinite s, finite t v _ => if v = 0 then nan else infinite (s != t)
  | finite s u _, infinite t => if u = 0 then nan else infinite (s != t)
  | finite s u _, finite t v _ => ofQuotient (s != t) (u * v) unitsPerOne

/-- The bound, if the number is above it, and else the number. -/
def lowerTo (bound current : Number) : Number := if bound.below current then bound else current

/-- The bound, if the number is below it, and else the number. -/
def raiseTo (bound current : Number) : Number := if current.below bound then bound else current

end Number

end GridStore
