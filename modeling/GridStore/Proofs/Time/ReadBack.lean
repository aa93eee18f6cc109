import GridStore.Proofs.Text.Digits
import GridStore.Time.Rfc3339

/-!
# The text of an instant reads back

The text of an instant in a cell is a timestamp that the strict reader accepts, as long as its year
has four digits.

## Main definitions

* `Instant.HasPlainYear`: whether the year of an instant is written in four digits.

## Main results

* `Rfc3339.read?_text`: the parts of an instant that are read from its text.
* `Rfc3339.isSome_read?_cellText`: the text of an instant names an instant.
-/

namespace GridStore

/-! ### Scans -/

namespace Scan

variable {α β : Type}

theorem bind_some {x : Scan α} {f : α → Scan β} {cs rest : List Char} {a : α}
    (h : x cs = some (a, rest)) : (x >>= f) cs = f a rest := by
  show (x cs).bind (fun p => f p.1 p.2) = _
  rw [h]
  rfl

theorem map_some {x : Scan α} (f : α → β) {cs rest : List Char} {a : α}
    (h : x cs = some (a, rest)) : (f <$> x) cs = some (f a, rest) := by
  show (x cs).bind (fun p => some (f p.1, p.2)) = _
  rw [h]
  rfl

theorem char_cons (c : Char) (rest : List Char) : char c (c :: rest) = some ((), rest) := by
  have htake : satisfying (· == c) (c :: rest) = some (c, rest) := if_pos (beq_self_eq_true c)
  exact bind_some htake

/-- A run of digits ends after the most digits, or where the digits end. -/
theorem run_append {ds rest : List Char} {least most : Nat} (hds : ∀ c ∈ ds, c.isDigit)
    (hleast : least ≤ ds.length) (hmost : ds.length ≤ most)
    (hend : ds.length = most ∨ ∃ c cs, rest = c :: cs ∧ c.isDigit = false) :
    run least most (ds ++ rest) = some (ds, rest) := by
  have htake : ((ds ++ rest).take most).takeWhile Char.isDigit = ds := by
    rw [List.take_append, List.take_of_length_le hmost, takeWhile_isDigit_append hds]
    rcases hend with rfl | ⟨c, cs, rfl, hc⟩
    · simp
    · cases most - ds.length with
      | zero => simp
      | succ n => simp [hc]
  simp [run, htake, Nat.not_lt.2 hleast]

end Scan

/-! ### Parts of an instant -/

theorem daysInMonth_le (year : Int) (month : Nat) : daysInMonth year month ≤ 31 := by
  unfold daysInMonth
  split
  case h_12 => split <;> decide
  all_goals decide

namespace Instant

theorem isDigit_of_mem_padded {width n : Nat} {c : Char} (h : c ∈ padded width n) : c.isDigit := by
  rcases List.mem_append.1 h with hzero | hdigit
  · rw [List.eq_of_mem_replicate hzero]
    rfl
  · exact isDigit_of_mem_toDigits hdigit

theorem length_padded {width n : Nat} (hwidth : 0 < width) (h : n < 10 ^ width) :
    (padded width n).length = width := by
  have hle := (Nat.length_toDigits_le_iff (by decide) hwidth).2 h
  rw [padded, List.length_append, List.length_replicate]
  omega

theorem natOfDigits_padded (width n : Nat) : natOfDigits (padded width n) = n := by
  rw [padded, natOfDigits_zeros_append, natOfDigits_toDigits]

/-- Whether the year of an instant is written in four digits. -/
def HasPlainYear (t : Instant) : Prop := 0 ≤ t.date.year ∧ t.date.year ≤ 9999

/-- The milliseconds of the second of an instant. -/
def milliseconds (t : Instant) : Nat := t.nanosecond % nanosPerSecond / 1000000

theorem secondOfMinute_le (t : Instant) : t.secondOfMinute ≤ 60 := by
  have hnanosecond := t.nanosecond_lt
  simp only [secondOfMinute, nanosPerSecond] at hnanosecond ⊢
  omega

/-- The parts of the text of an instant. -/
theorem toList_text {t : Instant} (h : t.HasPlainYear) (precision : Precision) :
    (t.text precision).toList = padded 4 t.date.year.natAbs ++ '-' :: (padded 2 t.date.month ++
      '-' :: (padded 2 t.date.day ++ 'T' :: (padded 2 (t.second / 3600) ++
      ':' :: (padded 2 (t.second / 60 % 60) ++ ':' :: (padded 2 t.secondOfMinute ++
      (t.fractionText precision ++ ['Z'])))))) := by
  have hyear : yearText t.date.year = padded 4 t.date.year.natAbs := if_pos h
  simp [text, dateText, timeText, hyear]

end Instant

/-! ### The strict reader -/

namespace Rfc3339

open Instant

theorem number_padded {least width n : Nat} (hwidth : 0 < width) (hleast : least ≤ width)
    (h : n < 10 ^ width) (rest : List Char) :
    number least width (padded width n ++ rest) = some (n, rest) := by
  have hlength := length_padded hwidth h
  have hrun : Scan.run least width (padded width n ++ rest) = some (padded width n, rest) :=
    Scan.run_append (fun _ => isDigit_of_mem_padded) (by omega) (Nat.le_of_eq hlength)
      (.inl hlength)
  rw [number, Scan.map_some natOfDigits hrun, natOfDigits_padded]

/-- The digits of a fraction after its point, up to nine of them. -/
theorem fraction_padded {width n : Nat} (hwidth : 0 < width) (hmost : width ≤ 9)
    (h : n < 10 ^ width) (rest : List Char) :
    fraction ('.' :: padded width n ++ 'Z' :: rest) =
      some (n * 10 ^ (9 - width), 'Z' :: rest) := by
  have hlength : (padded width n).length = width := length_padded hwidth h
  have hrun : Scan.run 1 9 (padded width n ++ 'Z' :: rest) = some (padded width n, 'Z' :: rest) :=
    Scan.run_append (fun _ => isDigit_of_mem_padded) (by omega) (by omega)
      (.inr ⟨'Z', rest, rfl, by decide⟩)
  have hnext : Scan.next? ('.' :: padded width n ++ 'Z' :: rest) =
      some (some '.', '.' :: padded width n ++ 'Z' :: rest) := rfl
  have hblanks : Scan.blanks Char.isDigit ('Z' :: rest) = some ((), 'Z' :: rest) := rfl
  rw [fraction, Scan.bind_some hnext, if_pos rfl, List.cons_append,
    Scan.bind_some (Scan.char_cons '.' _), Scan.bind_some hrun, Scan.bind_some hblanks,
    natOfDigits_padded, hlength]
  rfl

theorem offset_universal (separator : Scan Unit) : offset separator ['Z'] = some (0, []) := by
  have hmark : Scan.satisfying (fun c => c == 'Z' || c == 'z' || c == '+' || c == '-' || c == '−')
      ['Z'] = some ('Z', []) := rfl
  rw [offset, Scan.bind_some hmark]
  rfl

theorem dateTimeSeparator_cons (rest : List Char) :
    dateTimeSeparator ('T' :: rest) = some ((), rest) := rfl

/-- The instant with the date of another one exists. -/
theorem assemble_date (date : Date) (hour minute second nanosecond : Nat) (shift : Int) :
    assemble date.year date.month date.day hour minute second nanosecond shift =
      Instant.of? date hour minute second nanosecond shift := by
  have hdate : Date.of? date.year date.month date.day = some date := by
    rw [Date.of?, dif_pos date.month_mem, dif_pos date.day_mem]
  rw [assemble, hdate]
  rfl

/-- The parts of an instant that are read from its text in some precision, in which its fraction is
read as `nanosecond`. -/
theorem read?_text {t : Instant} (h : t.HasPlainYear) {precision : Precision} {nanosecond : Nat}
    (hfraction : fraction (t.fractionText precision ++ ['Z']) = some (nanosecond, ['Z'])) :
    read? (t.text precision) = Instant.of? t.date (t.second / 3600) (t.second / 60 % 60)
      t.secondOfMinute nanosecond 0 := by
  have hyear : t.date.year.natAbs < 10 ^ (4 : Nat) := by
    have := h.1
    have := h.2
    omega
  have hmonth : t.date.month < 10 ^ (2 : Nat) := Nat.lt_of_le_of_lt t.date.month_mem.2 (by decide)
  have hday : t.date.day < 10 ^ (2 : Nat) :=
    Nat.lt_of_le_of_lt (Nat.le_trans t.date.day_mem.2 (daysInMonth_le _ _)) (by decide)
  have hsecond : t.second < 86400 := t.second_lt
  have hsecondOfMinute := t.secondOfMinute_le
  have hscan : strict (t.text precision).toList =
      some (assemble t.date.year t.date.month t.date.day (t.second / 3600) (t.second / 60 % 60)
        t.secondOfMinute nanosecond 0, []) := by
    rw [toList_text h, strict,
      Scan.bind_some (number_padded (by decide) (by decide) hyear _),
      Scan.bind_some (Scan.char_cons '-' _),
      Scan.bind_some (number_padded (by decide) (by decide) hmonth _),
      Scan.bind_some (Scan.char_cons '-' _),
      Scan.bind_some (number_padded (by decide) (by decide) hday _),
      Scan.bind_some (dateTimeSeparator_cons _),
      Scan.bind_some (number_padded (by decide) (by decide) (by omega) _),
      Scan.bind_some (Scan.char_cons ':' _),
      Scan.bind_some (number_padded (by decide) (by decide) (by omega) _),
      Scan.bind_some (Scan.char_cons ':' _),
      Scan.bind_some (number_padded (by decide) (by decide) (by omega) _),
      Scan.bind_some hfraction, Scan.bind_some (offset_universal _),
      Int.natAbs_of_nonneg h.1]
    rfl
  rw [read?, Scan.whole?, hscan, ← assemble_date]
  rfl

/-- The milliseconds of an instant are the fraction in its text in a cell. -/
theorem fraction_cellText (t : Instant) (rest : List Char) :
    fraction (t.fractionText (.digits 3) ++ 'Z' :: rest) =
      some (t.milliseconds * 1000000, 'Z' :: rest) := by
  have hmilliseconds : t.milliseconds < 10 ^ 3 := by
    simp only [milliseconds, nanosPerSecond]
    omega
  exact fraction_padded (by decide) (by decide) hmilliseconds rest

/-- The parts of an instant that are read from its text in a cell. -/
theorem read?_cellText {t : Instant} (h : t.HasPlainYear) :
    read? t.cellText = Instant.of? t.date (t.second / 3600) (t.second / 60 % 60) t.secondOfMinute
      (t.milliseconds * 1000000) 0 := read?_text h (fraction_cellText t [])

/-- A time of day in universal time names an instant of the date. -/
theorem isSome_of? (date : Date) {hour minute second nanosecond : Nat} (hhour : hour ≤ 23)
    (hminute : minute ≤ 59) (hsecond : second ≤ 60) (hnanosecond : nanosecond < nanosPerSecond) :
    (Instant.of? date hour minute second nanosecond 0).isSome = true := by
  have hleap : second / 60 ≤ 1 := by omega
  have hfraction : nanosecond + second / 60 * nanosPerSecond < 2 * nanosPerSecond := by
    have := Nat.mul_le_mul_right nanosPerSecond hleap
    omega
  rw [Instant.of?, if_pos ⟨hhour, hminute, hsecond, hnanosecond⟩]
  simp only [ofShifted]
  rw [dif_pos hfraction, dif_neg (by omega), dif_pos (by simp only [secondsPerDay]; omega)]
  rfl

/-- The text of an instant names an instant. -/
theorem isSome_read?_cellText {t : Instant} (h : t.HasPlainYear) :
    (read? t.cellText).isSome = true := by
  have hsecond : t.second < 86400 := t.second_lt
  have hmilliseconds : t.milliseconds * 1000000 < nanosPerSecond := by
    simp only [milliseconds, nanosPerSecond]
    omega
  rw [read?_cellText h]
  exact isSome_of? t.date (by omega) (by omega) t.secondOfMinute_le hmilliseconds

end Rfc3339

end GridStore
