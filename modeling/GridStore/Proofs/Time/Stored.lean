import GridStore.Proofs.Time.ReadBack

/-!
# The text of a stored instant reads back

An instant is stored with as many digits of its second as it needs, so that the lenient reader
finds the same instant again: also one in a leap second, and one whose year has a sign.

## Main definitions

* `Instant.Storable`: whether an instant is in the range of stored instants.
* `Instant.inMilliseconds`: an instant without the finer part of its fraction.

## Main results

* `Instant.of?_parts`: an instant is made of the parts in its text.
* `Rfc3339.read?_cellText_iff`: when the text of an instant in a cell names it in milliseconds.
* `Rfc3339.readLenient?_text`: the text of a stored instant names the instant.
-/

namespace GridStore

namespace Scan

/-- Nothing is taken in front of a character that fails the test. -/
theorem blanks_cons {test : Char → Bool} {c : Char} (h : test c = false) (rest : List Char) :
    blanks test (c :: rest) = some ((), c :: rest) := by
  rw [blanks, List.dropWhile_cons_of_neg (by rw [h]; exact Bool.false_ne_true)]

/-- All digits in front of another character are taken. -/
theorem runAll_append {ds rest : List Char} {least : Nat} {c : Char} (hds : ∀ c ∈ ds, c.isDigit)
    (hleast : least ≤ ds.length) (hc : c.isDigit = false) :
    runAll least (ds ++ c :: rest) = some (ds, c :: rest) :=
  run_append hds hleast (List.length_append ▸ Nat.le_add_right ..) (.inr ⟨c, rest, rfl, hc⟩)

end Scan

theorem isBlank_of_isDigit {c : Char} (h : c.isDigit) : isBlank c = false := by
  have hcode := toNat_of_isDigit h
  have hall : ∀ n ≤ 57, 48 ≤ n → inRanges n blankRanges = false := by decide
  exact hall c.toNat hcode.2 hcode.1

namespace Instant

/-- Whether an instant is in the range of stored instants: its year is, and a leap second follows
the last second of a minute. -/
structure Storable (t : Instant) : Prop where
  year : Rfc3339.yearInRange t.date.year = true
  leap : nanosPerSecond ≤ t.nanosecond → t.second % 60 = 59

/-! ### Parts of an instant -/

theorem exists_padded_eq_cons (width n : Nat) :
    ∃ c cs, padded width n = c :: cs ∧ c.isDigit := by
  obtain ⟨c, cs, hcons⟩ := List.exists_cons_of_ne_nil
    (List.append_ne_nil_of_right_ne_nil (List.replicate (width - (Nat.toDigits 10 n).length) '0')
      (@Nat.toDigits_ne_nil n 10))
  exact ⟨c, cs, hcons, isDigit_of_mem_padded (hcons ▸ List.mem_cons_self ..)⟩

/-- The text of a year does not start with a blank. -/
theorem exists_yearText_eq_cons (year : Int) :
    ∃ c cs, yearText year = c :: cs ∧ isBlank c = false := by
  rw [yearText]
  split
  case isTrue =>
    obtain ⟨c, cs, hcons, hc⟩ := exists_padded_eq_cons 4 year.natAbs
    exact ⟨c, cs, hcons, isBlank_of_isDigit hc⟩
  case isFalse => exact ⟨_, _, rfl, by split <;> decide⟩

theorem ofShifted_natCast (date : Date) {second nanosecond : Nat} (hsecond : second < secondsPerDay)
    (hnanosecond : nanosecond < 2 * nanosPerSecond) :
    ofShifted date second nanosecond = some ⟨date, second, nanosecond, hsecond, hnanosecond⟩ := by
  rw [ofShifted, dif_pos hnanosecond, dif_neg (by omega), dif_pos (by omega)]
  rfl

/-- The second of the minute in the text and the nanoseconds in it: only after the last second of a
minute does the text count one second more. -/
theorem secondOfMinute_parts {t : Instant} (h : t.Storable) :
    t.secondOfMinute / 60 = t.nanosecond / nanosPerSecond ∧
      t.secondOfMinute - t.nanosecond / nanosPerSecond = t.second % 60 := by
  have hnanosecond : t.nanosecond < 2 * nanosPerSecond := t.nanosecond_lt
  have hleap : nanosPerSecond ≤ t.nanosecond → t.second % 60 = 59 := h.leap
  simp only [secondOfMinute, nanosPerSecond] at hnanosecond hleap ⊢
  rcases Nat.lt_or_ge t.nanosecond 1000000000 with hlt | hge
  · omega
  · have := hleap hge
    omega

/-- What an instant is made of in universal time. -/
theorem eq_of_of? {date : Date} {hour minute second nanosecond : Nat} {t : Instant}
    (h : Instant.of? date hour minute second nanosecond 0 = some t) :
    nanosecond < nanosPerSecond ∧ second ≤ 60 ∧
      t.second = hour * 3600 + minute * 60 + (second - second / 60) ∧
      t.nanosecond = nanosecond + second / 60 * nanosPerSecond := by
  rw [Instant.of?] at h
  split at h
  case isFalse => cases h
  case isTrue hparts =>
    obtain ⟨hhour, hminute, hsecond, hnanosecond⟩ := hparts
    have htotal : (hour : Int) * 3600 + (minute : Int) * 60 +
        ((second - second / 60 : Nat) : Int) - 0 =
          (hour * 3600 + minute * 60 + (second - second / 60) : Nat) := by omega
    have hday : hour * 3600 + minute * 60 + (second - second / 60) < secondsPerDay := by
      simp only [secondsPerDay]
      omega
    have hfraction : nanosecond + second / 60 * nanosPerSecond < 2 * nanosPerSecond := by
      simp only [nanosPerSecond] at hnanosecond ⊢
      omega
    simp only [htotal, ofShifted_natCast date hday hfraction, Option.some.injEq] at h
    exact ⟨hnanosecond, hsecond, h ▸ rfl, h ▸ rfl⟩

/-- In universal time, a leap second follows the last second of a minute. -/
theorem storable_of_of? {date : Date} {hour minute second nanosecond : Nat} {t : Instant}
    (h : Instant.of? date hour minute second nanosecond 0 = some t) (hplain : t.HasPlainYear) :
    t.Storable := by
  obtain ⟨hnanosecond, hsecond, htime, hfraction⟩ := eq_of_of? h
  refine ⟨?_, fun hleap => ?_⟩
  · have := hplain.1
    have := hplain.2
    simp only [Rfc3339.yearInRange, Bool.and_eq_true, decide_eq_true_eq]
    omega
  · simp only [nanosPerSecond] at hnanosecond hleap hfraction
    omega

/-- An instant is made of the parts in its text. -/
theorem of?_parts {t : Instant} (h : t.Storable) :
    Instant.of? t.date (t.second / 3600) (t.second / 60 % 60) t.secondOfMinute
      (t.nanosecond % nanosPerSecond) 0 = some t := by
  obtain ⟨hleap, hminute⟩ := secondOfMinute_parts h
  have hsecond : t.second < 86400 := t.second_lt
  have hfraction : t.nanosecond % nanosPerSecond < nanosPerSecond := Nat.mod_lt _ (by decide)
  have hnanosecond : t.nanosecond % nanosPerSecond + t.secondOfMinute / 60 * nanosPerSecond =
      t.nanosecond := by rw [hleap, Nat.mod_add_div']
  have htotal : ((t.second / 3600 : Nat) : Int) * 3600 + ((t.second / 60 % 60 : Nat) : Int) * 60 +
      ((t.secondOfMinute - t.secondOfMinute / 60 : Nat) : Int) - 0 = (t.second : Nat) := by
    rw [hleap, hminute]
    omega
  rw [Instant.of?, if_pos ⟨by omega, by omega, t.secondOfMinute_le, hfraction⟩]
  simp only [htotal, hnanosecond]
  exact ofShifted_natCast t.date t.second_lt t.nanosecond_lt

/-! ### Instants in milliseconds -/

/-- An instant without the part of its fraction that is finer than milliseconds. -/
def inMilliseconds (t : Instant) : Instant :=
  { t with
    nanosecond := t.nanosecond / 1000000 * 1000000
    nanosecond_lt := Nat.lt_of_le_of_lt (Nat.div_mul_le_self ..) t.nanosecond_lt }

theorem nanosPerSecond_le_inMilliseconds_iff {t : Instant} :
    nanosPerSecond ≤ t.inMilliseconds.nanosecond ↔ nanosPerSecond ≤ t.nanosecond := by
  simp only [inMilliseconds, nanosPerSecond]
  omega

theorem storable_inMilliseconds_iff {t : Instant} : t.inMilliseconds.Storable ↔ t.Storable :=
  ⟨fun h => ⟨h.year, fun hleap => h.leap (nanosPerSecond_le_inMilliseconds_iff.2 hleap)⟩,
    fun h => ⟨h.year, fun hleap => h.leap (nanosPerSecond_le_inMilliseconds_iff.1 hleap)⟩⟩

/-- The text of an instant in a cell is made of the parts of the instant in milliseconds. -/
theorem parts_inMilliseconds (t : Instant) :
    t.inMilliseconds.secondOfMinute = t.secondOfMinute ∧
      t.inMilliseconds.nanosecond % nanosPerSecond = t.milliseconds * 1000000 := by
  simp only [secondOfMinute, milliseconds, inMilliseconds, nanosPerSecond]
  omega

end Instant

/-- The text of an instant in a cell names the instant in milliseconds exactly if a leap second in
it follows the last second of a minute. -/
theorem Rfc3339.read?_cellText_iff {t : Instant} (h : t.HasPlainYear) :
    read? t.cellText = some t.inMilliseconds ↔ t.Storable := by
  obtain ⟨hsecond, hfraction⟩ := t.parts_inMilliseconds
  rw [read?_cellText h, ← Instant.storable_inMilliseconds_iff, ← hsecond, ← hfraction]
  exact ⟨fun hparts => Instant.storable_of_of? hparts h, Instant.of?_parts⟩

/-! ### The lenient reader -/

namespace Rfc3339

open Instant

/-- A year is read from its digits, with or without a sign. -/
theorem signedYear_yearText (year : Int) (rest : List Char) :
    signedYear (yearText year ++ '-' :: rest) = some (year, '-' :: rest) := by
  have hnext : ∀ first more, Scan.next? (first :: more) = some (some first, first :: more) :=
    fun _ _ => rfl
  obtain ⟨c, cs, hcons, hc⟩ := exists_padded_eq_cons 4 year.natAbs
  rw [yearText, signedYear]
  split
  case isTrue hplain =>
    have hread : number 1 4 (padded 4 year.natAbs ++ '-' :: rest) =
        some (year.natAbs, '-' :: rest) :=
      number_padded (by decide) (by decide) (by omega) _
    rw [hcons, List.cons_append] at hread ⊢
    rw [Scan.bind_some (hnext c _)]
    generalize hfirst : some c = first
    split
    case h_1 =>
      cases hfirst
      cases hc
    case h_2 =>
      cases hfirst
      cases hc
    case h_3 =>
      rw [Scan.bind_some hread, Int.natAbs_of_nonneg hplain.1]
      rfl
  case isFalse hsigned =>
    have hrun : Scan.runAll 1 (padded 4 year.natAbs ++ '-' :: rest) =
        some (padded 4 year.natAbs, '-' :: rest) :=
      Scan.runAll_append (fun _ => isDigit_of_mem_padded) (by rw [hcons]; exact Nat.succ_pos _) rfl
    rw [List.cons_append, Scan.bind_some (hnext _ _)]
    split
    case isTrue hnegative =>
      have hvalue : -(year.natAbs : Int) = year := by omega
      simp only
      rw [Scan.bind_some (Scan.char_cons '-' _), Scan.bind_some hrun, natOfDigits_padded, hvalue]
      rfl
    case isFalse hpositive =>
      have hvalue : (year.natAbs : Int) = year := by omega
      simp only
      rw [Scan.bind_some (Scan.char_cons '+' _), Scan.bind_some hrun, natOfDigits_padded, hvalue]
      rfl

theorem spacedChar_cons {c : Char} (h : isBlank c = false) (rest : List Char) :
    spacedChar c (c :: rest) = some ((), rest) := by
  rw [spacedChar, Scan.bind_some (Scan.blanks_cons h rest), Scan.char_cons]

theorem spacedNumber_padded {n : Nat} (h : n < 10 ^ (2 : Nat)) (rest : List Char) :
    spacedNumber (padded 2 n ++ rest) = some (n, rest) := by
  have hread : number 1 2 (padded 2 n ++ rest) = some (n, rest) :=
    number_padded (by decide) (by decide) h rest
  obtain ⟨c, cs, hcons, hc⟩ := exists_padded_eq_cons 2 n
  rw [hcons, List.cons_append] at hread ⊢
  rw [spacedNumber, Scan.bind_some (Scan.blanks_cons (isBlank_of_isDigit hc) _), hread]

/-- Digits of a fraction that lose nothing are read as the fraction. -/
theorem fraction_fractionDigits {t : Instant} {count : Nat} (hcount : count ≤ 9)
    (h : 10 ^ (9 - count) ∣ t.nanosecond % nanosPerSecond) (rest : List Char) :
    fraction (t.fractionDigits count ++ 'Z' :: rest) =
      some (t.nanosecond % nanosPerSecond, 'Z' :: rest) := by
  have hlt : t.nanosecond % nanosPerSecond < 10 ^ 9 := Nat.mod_lt _ (by decide)
  rw [fractionDigits]
  split
  case isTrue hzero =>
    subst hzero
    have hnext : Scan.next? ('Z' :: rest) = some (some 'Z', 'Z' :: rest) := rfl
    rw [List.nil_append, fraction, Scan.bind_some hnext, if_neg (by decide),
      Nat.eq_zero_of_dvd_of_lt h hlt]
    rfl
  case isFalse hpos =>
    have hdigits : t.nanosecond % nanosPerSecond / 10 ^ (9 - count) < 10 ^ count := by
      rw [Nat.div_lt_iff_lt_mul (Nat.pow_pos (by decide)), ← Nat.pow_add,
        Nat.add_sub_cancel' hcount]
      exact hlt
    rw [fraction_padded (Nat.pos_of_ne_zero hpos) hcount hdigits, Nat.div_mul_cancel h]

/-- The shortest digits of a fraction lose nothing. -/
theorem fraction_fractionText (t : Instant) (rest : List Char) :
    fraction (t.fractionText .shortest ++ 'Z' :: rest) =
      some (t.nanosecond % nanosPerSecond, 'Z' :: rest) := by
  simp only [fractionText]
  split
  case isTrue hzero =>
    exact fraction_fractionDigits (by decide) (by rw [hzero]; exact Nat.dvd_zero _) rest
  case isFalse =>
    split
    case isTrue hmillis =>
      exact fraction_fractionDigits (by decide) (Nat.dvd_of_mod_eq_zero hmillis) rest
    case isFalse =>
      split
      case isTrue hmicros =>
        exact fraction_fractionDigits (by decide) (Nat.dvd_of_mod_eq_zero hmicros) rest
      case isFalse => exact fraction_fractionDigits (by decide) (Nat.one_dvd _) rest

theorem lenientOffset_universal : lenientOffset ['Z'] = some (0, []) := offset_universal _

/-- The text of a stored instant names the instant. -/
theorem readLenient?_text {t : Instant} (h : t.Storable) :
    readLenient? (t.text .shortest) = some t := by
  have hmonth : t.date.month < 10 ^ (2 : Nat) := Nat.lt_of_le_of_lt t.date.month_mem.2 (by decide)
  have hday : t.date.day < 10 ^ (2 : Nat) :=
    Nat.lt_of_le_of_lt (Nat.le_trans t.date.day_mem.2 (daysInMonth_le _ _)) (by decide)
  have hsecond : t.second < 86400 := t.second_lt
  have hsecondOfMinute := t.secondOfMinute_le
  have htext : (t.text .shortest).toList = yearText t.date.year ++ '-' :: (padded 2 t.date.month ++
      '-' :: (padded 2 t.date.day ++ 'T' :: (padded 2 (t.second / 3600) ++
      ':' :: (padded 2 (t.second / 60 % 60) ++ ':' :: (padded 2 t.secondOfMinute ++
      (t.fractionText .shortest ++ ['Z'])))))) := by
    simp [text, dateText, timeText]
  have hblanks : Scan.blanks isBlank (t.text .shortest).toList =
      some ((), (t.text .shortest).toList) := by
    obtain ⟨c, cs, hcons, hc⟩ := exists_yearText_eq_cons t.date.year
    rw [htext, hcons]
    exact Scan.blanks_cons hc _
  have hscan : lenient (t.text .shortest).toList = some (some t, []) := by
    rw [lenient, Scan.bind_some hblanks, htext,
      Scan.bind_some (signedYear_yearText _ _), Scan.bind_some (spacedChar_cons rfl _),
      Scan.bind_some (spacedNumber_padded hmonth _), Scan.bind_some (spacedChar_cons rfl _),
      Scan.bind_some (spacedNumber_padded hday _), Scan.bind_some (dateTimeSeparator_cons _),
      Scan.bind_some (spacedNumber_padded (by omega) _), Scan.bind_some (spacedChar_cons rfl _),
      Scan.bind_some (spacedNumber_padded (by omega) _), Scan.bind_some (spacedChar_cons rfl _),
      Scan.bind_some (spacedNumber_padded (by omega) _),
      Scan.bind_some (fraction_fractionText t _), Scan.bind_some (Scan.blanks_cons rfl _),
      Scan.bind_some lenientOffset_universal, assemble_date, of?_parts h, if_pos h.year]
    have hfilter : (some t).filter (fun t => yearInRange t.date.year) = some t := if_pos h.year
    rw [hfilter]
    rfl
  rw [readLenient?, Scan.whole?, hscan]
  rfl

end Rfc3339

end GridStore
