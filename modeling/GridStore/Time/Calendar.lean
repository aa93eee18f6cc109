/-!
# Calendar dates

Dates of the Gregorian calendar, extended to all years before and after its introduction, with a
year zero.

## Main definitions

* `isLeapYear`, `daysInMonth`.
* `Date`: a valid date.
* `Date.of?`: the date with a given year, month and day, if it exists.
* `Date.next`, `Date.previous`: the neighbouring dates.
-/

namespace GridStore

/-- A year has a leap day if four divides it, unless a hundred does and four hundred does not. -/
def isLeapYear (year : Int) : Bool :=
  year % 4 == 0 && (year % 100 != 0 || year % 400 == 0)

/-- The number of days of a month, and zero for a number that names no month. -/
def daysInMonth (year : Int) (month : Nat) : Nat :=
  match month with
  | 1 | 3 | 5 | 7 | 8 | 10 | 12 => 31
  | 4 | 6 | 9 | 11 => 30
  | 2 => if isLeapYear year then 29 else 28
  | _ => 0

theorem daysInMonth_pos {year : Int} {month : Nat} (h : 1 ≤ month ∧ month ≤ 12) :
    1 ≤ daysInMonth year month := by
  have cases : month = 1 ∨ month = 2 ∨ month = 3 ∨ month = 4 ∨ month = 5 ∨ month = 6 ∨ month = 7 ∨
      month = 8 ∨ month = 9 ∨ month = 10 ∨ month = 11 ∨ month = 12 := by omega
  rcases cases with rfl | rfl | rfl | rfl | rfl | rfl | rfl | rfl | rfl | rfl | rfl | rfl
  case inr.inl => cases hl : isLeapYear year <;> simp [daysInMonth, hl]
  all_goals simp [daysInMonth]

/-- A date of the calendar. -/
structure Date where
  year : Int
  month : Nat
  day : Nat
  month_mem : 1 ≤ month ∧ month ≤ 12
  day_mem : 1 ≤ day ∧ day ≤ daysInMonth year month
deriving DecidableEq

namespace Date

/-- The date with the given year, month and day, if the calendar has one. -/
def of? (year : Int) (month day : Nat) : Option Date :=
  if hm : 1 ≤ month ∧ month ≤ 12 then
    if hd : 1 ≤ day ∧ day ≤ daysInMonth year month then some ⟨year, month, day, hm, hd⟩ else none
  else
    none

/-- The day after. -/
def next (d : Date) : Date :=
  if h : d.day < daysInMonth d.year d.month then
    { d with day := d.day + 1, day_mem := by omega }
  else if hm : d.month < 12 then
    ⟨d.year, d.month + 1, 1, by omega, ⟨by omega, daysInMonth_pos (by omega)⟩⟩
  else
    ⟨d.year + 1, 1, 1, by omega, ⟨by omega, daysInMonth_pos (by omega)⟩⟩

/-- The day before. -/
def previous (d : Date) : Date :=
  if h : 1 < d.day then
    { d with day := d.day - 1, day_mem := by have := d.day_mem; omega }
  else if hm : 1 < d.month then
    let month := d.month - 1
    have month_mem : 1 ≤ month ∧ month ≤ 12 := by have := d.month_mem; omega
    ⟨d.year, month, daysInMonth d.year month, month_mem,
      ⟨daysInMonth_pos month_mem, Nat.le_refl _⟩⟩
  else
    ⟨d.year - 1, 12, 31, by omega, ⟨by omega, by simp [daysInMonth]⟩⟩

/-- Dates in the order of the calendar. -/
def compare (a b : Date) : Ordering :=
  (Ord.compare a.year b.year).then <| (Ord.compare a.month b.month).then <|
    Ord.compare a.day b.day

end Date

end GridStore
