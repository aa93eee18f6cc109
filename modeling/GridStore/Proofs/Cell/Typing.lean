import GridStore.Cell.Typing
import GridStore.Filter.Match
import GridStore.Proofs.Number.ReadBack

/-!
# The values of cells

What the value of a cell says about its text, and which values are found again in the cell that
holds their text.

## Main results

* `Cell.value_eq_number_iff`, `Cell.value_eq_text_iff`: the cells that hold numbers and texts.
* `Cell.number?_cellText`: the text of a finite number holds that number.
-/

namespace GridStore

namespace Cell

/-! ### Kinds of values -/

theorem number?_empty : number? "" = none := rfl

theorem date?_empty : date? "" = none := by decide +kernel

theorem value_empty : value "" = .null := rfl

/-- The value of a cell, by cases on what its text holds. -/
theorem value_of_ne {text : String} (h : text ≠ "") :
    value text = match number? text with
      | some n => .number n
      | none => match date? text with
        | some t => .date t
        | none => .text text := if_neg h

theorem value_eq_null_iff {text : String} : value text = .null ↔ text = "" := by
  refine ⟨fun h => ?_, fun h => h ▸ rfl⟩
  rcases Decidable.em (text = "") with hempty | hne
  · exact hempty
  · rw [value_of_ne hne] at h
    split at h
    · cases h
    · split at h <;> cases h

theorem value_ne_bool (text : String) (b : Bool) : value text ≠ .bool b := by
  rw [value]
  split
  · nofun
  · split
    · nofun
    · split <;> nofun

theorem value_eq_number_iff {text : String} {n : Number} :
    value text = .number n ↔ number? text = some n := by
  rcases Decidable.em (text = "") with rfl | hne
  · rw [value_empty, number?_empty]
    exact ⟨nofun, nofun⟩
  · rw [value_of_ne hne]
    split
    · simp_all
    · split <;> simp_all

theorem value_eq_text_iff {text s : String} :
    value text = .text s ↔ text = s ∧ s ≠ "" ∧ number? s = none ∧ date? s = none := by
  rcases Decidable.em (text = "") with rfl | hne
  · rw [value_empty]
    exact ⟨nofun, fun h => absurd h.1.symm h.2.1⟩
  · rw [value_of_ne hne]
    split
    · rename_i hnumber
      exact ⟨nofun, fun ⟨htext, _, hnone, _⟩ => by rw [← htext, hnumber] at hnone; cases hnone⟩
    · rename_i hnumber
      split
      · rename_i hdate
        exact ⟨nofun, fun ⟨htext, _, _, hnone⟩ => by rw [← htext, hdate] at hnone; cases hnone⟩
      · rename_i hdate
        constructor
        · intro h
          cases h
          exact ⟨rfl, hne, hnumber, hdate⟩
        · exact fun h => by rw [h.1]

theorem value_eq_date_iff {text : String} {t : Instant} :
    value text = .date t ↔ number? text = none ∧ date? text = some t := by
  rcases Decidable.em (text = "") with rfl | hne
  · rw [value_empty, date?_empty]
    exact ⟨nofun, nofun⟩
  · rw [value_of_ne hne]
    split
    · simp_all
    · split <;> simp_all

/-! ### Flags -/

theorem mem_of_spelledFlag? {text : String} {b : Bool} (h : Value.spelledFlag? text = some b) :
    text ∈ ["true", "TRUE", "false", "FALSE"] := by
  simp only [Value.spelledFlag?] at h
  split at h
  case isTrue htext => rcases htext with rfl | rfl <;> decide
  case isFalse =>
    split at h
    case isTrue htext => rcases htext with rfl | rfl <;> decide
    case isFalse => cases h

/-- The texts that spell a flag are texts. -/
theorem value_of_spelledFlag? {text : String} {b : Bool} (h : Value.spelledFlag? text = some b) :
    value text = .text text := by
  have hspelled : ∀ s ∈ ["true", "TRUE", "false", "FALSE"],
      s ≠ "" ∧ number? s = none ∧ date? s = none := by
    decide
  exact value_eq_text_iff.2 ⟨rfl, hspelled text (mem_of_spelledFlag? h)⟩

theorem spelledFlag?_flagText (b : Bool) : Value.spelledFlag? (Value.flagText b) = some b := by
  cases b <;> rfl

theorem value_flagText (b : Bool) : value (Value.flagText b) = .text (Value.flagText b) :=
  value_of_spelledFlag? (spelledFlag?_flagText b)

/-- A text that spells a flag is the text of the flag up to the case of letters. -/
theorem toLower_of_spelledFlag? {text : String} {b : Bool} (h : Value.spelledFlag? text = some b) :
    text.map Char.toLower = Value.flagText b := by
  simp only [Value.spelledFlag?] at h
  split at h
  case isTrue htext =>
    cases h
    rcases htext with rfl | rfl <;> decide +kernel
  case isFalse =>
    split at h
    case isTrue htext =>
      cases h
      rcases htext with rfl | rfl <;> decide +kernel
    case isFalse => cases h

/-! ### Numbers -/

theorem mem_of_mem_withoutMinus {c : Char} {cs : List Char} (h : c ∈ withoutMinus cs) :
    c ∈ cs := by
  unfold withoutMinus at h
  split at h
  · exact List.mem_cons_of_mem _ h
  · exact h

/-- The text of a number has no decimal comma. -/
theorem hasDecimalComma_cellText (n : Number) : hasDecimalComma n.cellText.toList = false := by
  have hcomma : ',' ∉ withoutMinus n.cellText.toList := fun h => by
    have hmem := mem_of_mem_withoutMinus h
    rcases Number.mem_cellText hmem with hdigit | hother
    · cases hdigit
    · simp at hother
  simp only [hasDecimalComma, List.count_eq_zero.2 hcomma]
  rfl

/-- The text of a finite number holds that number. -/
theorem number?_cellText {n : Number} (h : n.isFinite = true) : number? n.cellText = some n := by
  have hnormalized : normalized n.cellText = n.cellText := by
    rw [normalized, hasDecimalComma_cellText]
    rfl
  rw [number?, hnormalized, Number.read?_cellText]
  simp [Option.filter, h]

theorem isFinite_of_number? {text : String} {n : Number} (h : number? text = some n) :
    n.isFinite = true := by
  rw [number?, Option.filter_eq_some_iff] at h
  exact (Bool.and_eq_true_iff.1 h.2).1

end Cell

end GridStore
