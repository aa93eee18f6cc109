import GridStore.Number.Basic

/-!
# Rounding depends on the quotient alone

A rounded magnitude is determined by the quotient that is rounded, not by the numerator and the
denominator in which it is given, so that a number may be read from any numeral of its value.

## Main results

* `roundUnits_eq_of_mul_eq`: equal quotients are rounded to the same magnitude.
* `roundUnits_of_representable`: a representable magnitude is rounded to itself.
* `roundUnits_eq_zero`: a quotient below a half is rounded to zero.
-/

namespace GridStore

theorem roundToEven_mul_right (num den : Nat) {k : Nat} (hk : 0 < k) :
    roundToEven (num * k) (den * k) = roundToEven num den := by
  have hq : num * k / (den * k) = num / den := Nat.mul_div_mul_right num den hk
  have hr : num * k % (den * k) = num % den * k := Nat.mul_mod_mul_right k num den
  have hlt (a b : Nat) : a * k < b * k ↔ a < b := Nat.mul_lt_mul_right hk
  simp only [roundToEven, hq, hr, ← Nat.mul_assoc, hlt]

theorem roundUnits_mul_right (num den : Nat) {k : Nat} (hk : 0 < k) :
    roundUnits (num * k) (den * k) = roundUnits num den := by
  have hq : num * k / (den * k) = num / den := Nat.mul_div_mul_right num den hk
  simp only [roundUnits, hq]
  rw [Nat.mul_right_comm den k, roundToEven_mul_right _ _ hk]

/-- Equal quotients are rounded to the same magnitude. -/
theorem roundUnits_eq_of_mul_eq {num den num' den' : Nat} (hd : 0 < den) (hd' : 0 < den')
    (h : num * den' = num' * den) : roundUnits num den = roundUnits num' den' := by
  rw [← roundUnits_mul_right num den hd', ← roundUnits_mul_right num' den' hd, h,
    Nat.mul_comm den den']

theorem roundToEven_mul_self (q : Nat) {den : Nat} (hd : 0 < den) :
    roundToEven (q * den) den = q := by
  simp [roundToEven, Nat.mul_div_cancel q hd, hd]

/-- A representable magnitude is rounded to itself. -/
theorem roundUnits_of_representable {units : Nat} (h : Representable units) :
    roundUnits units 1 = units := by
  obtain ⟨q, hq⟩ := h.1
  have hstep : 0 < 2 ^ (units.log2 - 52) := Nat.two_pow_pos _
  simp only [roundUnits, Nat.div_one, Nat.one_mul]
  generalize 2 ^ (units.log2 - 52) = step at hq hstep
  subst hq
  rw [Nat.mul_comm step q, roundToEven_mul_self q hstep]

/-- A quotient below a half is rounded to zero. -/
theorem roundUnits_eq_zero {num den : Nat} (h : 2 * num < den) : roundUnits num den = 0 := by
  have hlt : num < den := by omega
  simp [roundUnits, roundToEven, Nat.div_eq_of_lt hlt, Nat.mod_eq_of_lt hlt, h]

theorem roundUnits_mul_self {units : Nat} (h : Representable units) {k : Nat} (hk : 0 < k) :
    roundUnits (units * k) k = units := by
  rw [← roundUnits_of_representable h]
  refine roundUnits_eq_of_mul_eq hk Nat.one_pos ?_
  rw [Nat.mul_one, roundUnits_of_representable h]

end GridStore
