import GridStore.Proofs.Cell.Respelling
import GridStore.Proofs.Time.Stored

/-!
# Typing cells that were written back

A value that was read from a cell, written back and read again is the same value, unless it is an
instant that its text in milliseconds does not tell: one with a finer fraction of a second, which
loses it, or one whose year is not written in four digits, which becomes a text.

## Main results

* `Cell.date?_cellText_iff`: which instants are found again in the cell that holds their text.
* `Cell.value_respelled_iff`: which cells keep their value.
-/

namespace GridStore

/-! ### Layouts -/

namespace DateLayout

open LayoutItem

variable {layout : DateLayout} {t : Instant}

/-- The characters of a part of an instant: digits and signs of years, unless the layout has
them. -/
theorem mem_write_item {item : LayoutItem} {c : Char} (h : c ∈ item.write t) :
    c.isDigit ∨ c ∈ ['-', '+'] ∨ item = .literal c := by
  cases item with
  | year =>
    rw [LayoutItem.write, Instant.yearText] at h
    split at h
    · exact .inl (Instant.isDigit_of_mem_padded h)
    · rcases List.mem_cons.1 h with rfl | hdigit
      · exact .inr (.inl (by split <;> decide))
      · exact .inl (Instant.isDigit_of_mem_padded hdigit)
  | literal other => exact .inr (.inr (by rw [List.mem_singleton.1 h]))
  | _ => exact .inl (Instant.isDigit_of_mem_padded h)

/-- No date in a layout has the letter of a timestamp. -/
theorem not_mem_write (h : layout ∈ all) (t : Instant) : 'T' ∉ (layout.write t).toList := by
  rw [write, String.toList_ofList, List.mem_flatMap]
  rintro ⟨item, hitem, hmem⟩
  rcases mem_write_item hmem with hdigit | hsign | rfl
  · cases hdigit
  · exact absurd hsign (by decide)
  · exact absurd hitem ((by decide : ∀ layout ∈ all, literal 'T' ∉ layout) layout h)

/-- A date in a layout is an instant in universal time. -/
theorem exists_of?_of_read? {text : String} (h : layout.read? text = some t) :
    ∃ date hour minute second, Instant.of? date hour minute second 0 0 = some t := by
  obtain ⟨parts, -, hparts⟩ := Option.bind_eq_some_iff.1 h
  split at hparts
  case isTrue =>
    obtain ⟨date, -, hdate⟩ := Option.bind_eq_some_iff.1 hparts
    exact ⟨date, _, _, _, hdate⟩
  case isFalse => cases hparts

end DateLayout

/-! ### Timestamps -/

namespace Rfc3339

open Instant

/-- In each precision of cells, a text of an instant has a fraction that is read. -/
theorem exists_fraction_of_mem_precisions {precision : Precision}
    (h : precision ∈ Cell.precisions) (t : Instant) :
    ∃ nanosecond, fraction (t.fractionText precision ++ ['Z']) = some (nanosecond, ['Z']) := by
  simp only [Cell.precisions, List.mem_cons, List.not_mem_nil, or_false] at h
  rcases h with rfl | rfl | rfl
  · exact ⟨_, fraction_cellText t []⟩
  · exact ⟨0, rfl⟩
  · exact ⟨_, fraction_fractionText t []⟩

/-- A year with a sign is not read. -/
theorem read?_cellText_of_signed {t : Instant} (h : ¬t.HasPlainYear) : read? t.cellText = none := by
  obtain ⟨c, cs, hcs, hsign⟩ : ∃ c cs, t.cellText.toList = c :: cs ∧ c.isDigit = false := by
    have hyear : yearText t.date.year = (if t.date.year < 0 then '-' else '+') ::
        padded 4 t.date.year.natAbs := if_neg h
    rw [cellText, text, String.toList_ofList, dateText, hyear]
    exact ⟨_, _, rfl, by split <;> decide⟩
  have hnumber : number 4 4 (c :: cs) = none := by
    have hrun : Scan.run 4 4 (c :: cs) = none := by simp [Scan.run, hsign]
    show (Scan.run 4 4 (c :: cs)).bind _ = none
    rw [hrun]
    rfl
  have hstrict : strict t.cellText.toList = none := by
    rw [hcs]
    show (number 4 4 (c :: cs)).bind _ = none
    rw [hnumber]
    rfl
  rw [read?, Scan.whole?, hstrict]
  rfl

end Rfc3339

namespace Cell

variable {text : String} {t : Instant}

/-! ### The text of an instant in a cell -/

theorem mem_cellText_instant (t : Instant) : 'T' ∈ t.cellText.toList := by
  simp [Instant.cellText, Instant.text]

/-- No number is written with the letter of a timestamp. -/
theorem number?_eq_none_of_mem (h : 'T' ∈ text.toList) : number? text = none := by
  have hnormalized : 'T' ∈ (normalized text).toList := by
    rw [normalized]
    split
    · rw [String.toList_ofList]
      exact List.mem_map.2 ⟨'T', h, rfl⟩
    · exact h
  cases hnumber : number? text with
  | none => rfl
  | some n =>
    rw [number?, Option.filter_eq_some_iff] at hnumber
    rw [← eq_of_beq (Bool.and_eq_true_iff.1 hnumber.2).2] at hnormalized
    exact absurd (Number.mem_cellText hnormalized) (by decide)

theorem date?_of_read? {t' : Instant} (h : Rfc3339.read? t.cellText = some t') :
    date? t.cellText = some t ↔ t' = t := by
  rw [date?, h]
  simp only
  constructor
  · intro hsome
    split at hsome
    · exact Option.some.inj hsome
    · cases hsome
  · rintro rfl
    have hwritten : precisions.any (fun p => t'.text p == t'.cellText) = true :=
      List.any_eq_true.2 ⟨Instant.Precision.digits 3, List.mem_cons_self .., beq_self_eq_true _⟩
    exact if_pos hwritten

/-- An instant whose year has a sign is not found again in the cell that holds its text. -/
theorem date?_cellText_of_signed (h : ¬t.HasPlainYear) : date? t.cellText = none := by
  rw [date?, Rfc3339.read?_cellText_of_signed h]
  refine List.findSome?_eq_none_iff.2 fun layout hlayout => ?_
  rw [DateLayout.readExact?, Option.filter_eq_none_iff]
  intro t' _ hwritten
  have hmem := DateLayout.not_mem_write hlayout t'
  rw [eq_of_beq hwritten] at hmem
  exact hmem (mem_cellText_instant t)

/-- An instant of a cell is made of parts in universal time, so that a leap second in it follows the
last second of a minute. -/
theorem storable_of_date? (h : date? text = some t) (hplain : t.HasPlainYear) : t.Storable := by
  rw [date?] at h
  split at h
  case h_1 t' hread =>
    split at h
    case isFalse => cases h
    case isTrue hprecision =>
      cases h
      obtain ⟨precision, hmem, htext⟩ := List.any_eq_true.1 hprecision
      obtain ⟨nanosecond, hfraction⟩ := Rfc3339.exists_fraction_of_mem_precisions hmem t
      rw [← eq_of_beq htext, Rfc3339.read?_text hplain hfraction] at hread
      exact Instant.storable_of_of? hread hplain
  case h_2 =>
    obtain ⟨layout, -, hlayout⟩ := List.exists_of_findSome?_eq_some h
    rw [DateLayout.readExact?, Option.filter_eq_some_iff] at hlayout
    obtain ⟨date, hour, minute, second, hof⟩ := DateLayout.exists_of?_of_read? hlayout.1
    exact Instant.storable_of_of? hof hplain

/-- An instant of a cell is found again in the cell that holds its text exactly if its year is
written in four digits and its fraction in milliseconds. -/
theorem date?_cellText_iff (h : date? text = some t) :
    date? t.cellText = some t ↔ t.HasPlainYear ∧ t.nanosecond % 1000000 = 0 := by
  by_cases hplain : t.HasPlainYear
  · obtain ⟨t', hread⟩ := Option.isSome_iff_exists.1 (Rfc3339.isSome_read?_cellText hplain)
    -- the parts of `t` with the milliseconds as its fraction
    have hparts := Rfc3339.read?_cellText hplain ▸ hread
    rw [date?_of_read? hread, and_iff_right hplain]
    constructor
    · rintro rfl
      obtain ⟨-, -, -, hfraction⟩ := Instant.eq_of_of? hparts
      rw [hfraction]
      simp only [nanosPerSecond]
      omega
    · intro hexact
      have hmilliseconds : t.milliseconds * 1000000 = t.nanosecond % nanosPerSecond := by
        simp only [Instant.milliseconds, nanosPerSecond]
        omega
      rw [hmilliseconds, Instant.of?_parts (storable_of_date? h hplain)] at hparts
      exact (Option.some.inj hparts).symm
  · rw [date?_cellText_of_signed hplain]
    exact iff_of_false (Option.some_ne_none t).symm fun hboth => hplain hboth.1

/-! ### All values -/

/-- A cell keeps its value when it is typed, written and typed again exactly if it holds no instant
with a finer fraction than milliseconds or a year that is not written in four digits. -/
theorem value_respelled_iff (text : String) : value (respelled text) = value text ↔
    ∀ t, value text = .date t → t.HasPlainYear ∧ t.nanosecond % 1000000 = 0 := by
  rw [respelled]
  cases hvalue : value text with
  | null => exact iff_of_true rfl fun t hdate => by cases hdate
  | bool b => exact absurd hvalue (value_ne_bool text b)
  | number n =>
    have hfinite := isFinite_of_number? (value_eq_number_iff.1 hvalue)
    have hread := value_eq_number_iff.2 (number?_cellText hfinite)
    exact iff_of_true hread fun t hdate => by cases hdate
  | text s =>
    obtain ⟨rfl, -⟩ := value_eq_text_iff.1 hvalue
    exact iff_of_true hvalue fun t hdate => by cases hdate
  | date t =>
    have hdate := (value_eq_date_iff.1 hvalue).2
    have hnumber := number?_eq_none_of_mem (mem_cellText_instant t)
    rw [Value.cellText, value_eq_date_iff, and_iff_right hnumber, date?_cellText_iff hdate]
    exact ⟨fun h t' heq => by cases heq; exact h, fun h => h t rfl⟩

/-- An instant in microseconds is read as another one after it was written back. -/
theorem value_respelled_micros :
    value (respelled "2024-03-01T10:30:00.123456Z") ≠ value "2024-03-01T10:30:00.123456Z" := by
  decide +kernel

end Cell

end GridStore
