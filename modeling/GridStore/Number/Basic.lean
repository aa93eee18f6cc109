/-!
# Double-precision numbers

A cell number is a binary floating-point number with 53 significant binary digits. Its magnitude
is counted in units of `2⁻¹⁰⁷⁴`, the distance between the two smallest numbers, so that every
finite number is a natural number of units together with a sign. Comparison is then comparison of
integers, and every operation that has to round (`Number.ofQuotient`) rounds one quotient of
natural numbers, to the nearest representable magnitude with ties to the even one.

## Main definitions

* `Representable`: the magnitudes that have at most 53 significant binary digits.
* `Number`: not-a-number, the two infinities, and the finite numbers.
* `roundToEven`, `roundUnits`: rounding a quotient to an integer and to a representable magnitude.
* `Number.ofQuotient`: the number nearest to a quotient of units.
* `Number.compare?`: the order of numbers, in which not-a-number has no place.

## Main results

* `pow_dvd_roundUnits`: a rounded magnitude has at most 53 significant binary digits.
-/

namespace GridStore

-- Powers are those of `Nat` itself, also where its structure as a monoid is in scope.
attribute [scoped instance (high)] instPowNat

/-! ### Representable magnitudes -/

/-- The number of units of `2⁻¹⁰⁷⁴` in one. -/
def unitsPerOne : Nat := 2 ^ (1074 : Nat)

/-- The first magnitude, in units of `2⁻¹⁰⁷⁴`, that is too large for a finite number. -/
def unitsBound : Nat := 2 ^ (2098 : Nat)

/-- A magnitude, in units of `2⁻¹⁰⁷⁴`, with at most 53 significant binary digits and below
`2¹⁰²⁴`. -/
def Representable (units : Nat) : Prop :=
  2 ^ (units.log2 - 52) ∣ units ∧ units < unitsBound

instance (units : Nat) : Decidable (Representable units) :=
  inferInstanceAs (Decidable (_ ∧ _))

theorem unitsBound_pos : 0 < unitsBound := by
  unfold unitsBound
  generalize 2098 = n
  exact Nat.two_pow_pos n

theorem representable_zero : Representable 0 := ⟨Nat.dvd_zero _, unitsBound_pos⟩

/-- A double-precision number. Zero has two signs, and not-a-number has none. -/
inductive Number where
  | nan
  | infinite (negative : Bool)
  | finite (negative : Bool) (units : Nat) (representable : Representable units)
deriving DecidableEq

/-! ### Rounding -/

/-- The integer nearest to `num / den`; halfway between two integers, the even one. -/
def roundToEven (num den : Nat) : Nat :=
  let quotient := num / den
  let remainder := num % den
  if 2 * remainder < den then quotient
  else if den < 2 * remainder then quotient + 1
  else quotient + quotient % 2

theorem roundToEven_le (num den : Nat) : roundToEven num den ≤ num / den + 1 := by
  unfold roundToEven
  simp only
  split
  · omega
  · split <;> omega

/-- The magnitude nearest to `num / den` units that has at most 53 significant binary digits, ties
to the one with an even last digit. The result may be too large to be finite. -/
def roundUnits (num den : Nat) : Nat :=
  let step := 2 ^ ((num / den).log2 - 52)
  roundToEven num (den * step) * step

private theorem pow_dvd_mul_pow {m k : Nat} (hm : m ≤ 2 ^ (53 : Nat)) :
    2 ^ ((m * 2 ^ k).log2 - 52) ∣ m * 2 ^ k := by
  rcases Nat.eq_zero_or_pos m with rfl | hpos
  · simp
  have hne : m * 2 ^ k ≠ 0 := Nat.ne_of_gt (Nat.mul_pos hpos (Nat.two_pow_pos k))
  rcases Nat.lt_or_eq_of_le hm with hlt | rfl
  · have hlog : (m * 2 ^ k).log2 < 53 + k := by
      rw [Nat.log2_lt hne, Nat.pow_add]
      exact Nat.mul_lt_mul_of_pos_right hlt (Nat.two_pow_pos k)
    exact Nat.dvd_trans (Nat.pow_dvd_pow 2 (by omega)) (Nat.dvd_mul_left _ _)
  · rw [← Nat.pow_add, Nat.log2_two_pow]
    exact Nat.pow_dvd_pow 2 (by omega)

private theorem roundToEven_le_pow (num den : Nat) :
    roundToEven num (den * 2 ^ ((num / den).log2 - 52)) ≤ 2 ^ (53 : Nat) := by
  refine Nat.le_trans (roundToEven_le _ _) ?_
  rw [← Nat.div_div_eq_div_mul]
  refine Nat.succ_le_of_lt ((Nat.div_lt_iff_lt_mul (Nat.two_pow_pos _)).2 ?_)
  rw [← Nat.pow_add]
  exact Nat.lt_of_lt_of_le Nat.lt_log2_self (Nat.pow_le_pow_right (by decide) (by omega))

/-- A rounded magnitude has at most 53 significant binary digits. -/
theorem pow_dvd_roundUnits (num den : Nat) :
    2 ^ ((roundUnits num den).log2 - 52) ∣ roundUnits num den :=
  pow_dvd_mul_pow (roundToEven_le_pow num den)

namespace Number

/-- Zero with the given sign. -/
def zero (negative : Bool) : Number := .finite negative 0 representable_zero

/-- The number nearest to `num / den` units of `2⁻¹⁰⁷⁴`, ties to even; a magnitude that rounds to
`2¹⁰²⁴` or more is infinite. -/
def ofQuotient (negative : Bool) (num den : Nat) : Number :=
  if h : roundUnits num den < unitsBound then
    .finite negative (roundUnits num den) ⟨pow_dvd_roundUnits num den, h⟩
  else
    .infinite negative

/-- The number nearest to an integer. -/
def ofInt (i : Int) : Number := ofQuotient (i < 0) (i.natAbs * unitsPerOne) 1

/-! ### Order -/

/-- A number of units with a sign. -/
def signed (negative : Bool) (units : Nat) : Int := if negative then -units else units

/-- The place of a number on a line of integers: finite numbers by their units, the infinities
beyond them. Both zeros have the same place, and not-a-number has none. -/
def place? : Number → Option Int
  | nan => none
  | infinite negative => some (signed negative unitsBound)
  | finite negative units _ => some (signed negative units)

/-- The order of two numbers; not-a-number is neither below, above nor equal to any number. -/
def compare? (a b : Number) : Option Ordering :=
  match a.place?, b.place? with
  | some x, some y => some (compare x y)
  | _, _ => none

/-- Whether the first number is strictly below the second. -/
def below (a b : Number) : Bool := a.compare? b == some .lt

/-! ### Tests and conversions -/

/-- Whether the number is neither infinite nor not-a-number. -/
def isFinite : Number → Bool
  | finite _ _ _ => true
  | _ => false

/-- A number counts as true unless it is a zero or not-a-number. -/
def isTruthy : Number → Bool
  | nan => false
  | infinite _ => true
  | finite _ units _ => units != 0

/-- The integer equal to a number, if there is one and its magnitude is below `2⁵³`, up to which
every integer is a number. -/
def toInt? : Number → Option Int
  | finite negative units _ =>
    if units % unitsPerOne = 0 ∧ units < 2 ^ (53 : Nat) * unitsPerOne then
      some (signed negative (units / unitsPerOne))
    else
      none
  | _ => none

end Number

end GridStore
