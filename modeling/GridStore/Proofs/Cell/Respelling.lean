import GridStore.Proofs.Cell.Typing

/-!
# Cells that are typed and written again

Whoever writes a row writes all of its cells, also those that were only read. A cell that is typed
and written again keeps its text, apart from a decimal comma and from instants that are not written
in milliseconds.

## Main definitions

* `Cell.respelled`: the text of a cell after it was typed and written again.
* `Cell.KeepsSpelling`: whether typing and writing keep the text of a cell.

## Main results

* `Cell.respelled_eq_iff`: when a text stays as it is.
-/

namespace GridStore

namespace Cell

/-- The text of a cell after it was typed and written again. -/
def respelled (text : String) : String := (value text).cellText

/-- Whether typing and writing keep the text of a cell: it is no number with a decimal comma, and if
it is an instant, it is written as cells write instants. -/
structure KeepsSpelling (text : String) : Prop where
  point : (number? text).isSome → hasDecimalComma text.toList = false
  instant : ∀ t, number? text = none → date? text = some t → t.cellText = text

theorem mem_of_hasDecimalComma {cs : List Char} (h : hasDecimalComma cs = true) : ',' ∈ cs := by
  simp only [hasDecimalComma, Bool.and_eq_true, beq_iff_eq] at h
  have hcount : 0 < (withoutMinus cs).count ',' := by omega
  exact mem_of_mem_withoutMinus (List.count_pos_iff.1 hcount)

/-- A text loses its decimal comma, and no other text changes. -/
theorem normalized_eq_iff {text : String} :
    normalized text = text ↔ hasDecimalComma text.toList = false := by
  rw [normalized]
  cases hcomma : hasDecimalComma text.toList with
  | false => exact ⟨fun _ => rfl, fun _ => rfl⟩
  | true =>
    constructor
    · intro h
      have hmem := mem_of_hasDecimalComma hcomma
      rw [if_pos rfl] at h
      rw [← h, String.toList_ofList, List.mem_map] at hmem
      obtain ⟨c, -, hc⟩ := hmem
      split at hc
      · exact absurd hc (by decide)
      · exact absurd hc ‹_›
    · intro h
      cases h

theorem respelled_of_number? {text : String} {n : Number} (h : number? text = some n) :
    respelled text = normalized text := by
  have hwritten : n.cellText = normalized text := by
    rw [number?, Option.filter_eq_some_iff] at h
    exact eq_of_beq (Bool.and_eq_true_iff.1 h.2).2
  rw [respelled, value_eq_number_iff.2 h]
  exact hwritten

/-- A text stays as it is when it is typed and written again exactly if it keeps its spelling. -/
theorem respelled_eq_iff {text : String} : respelled text = text ↔ KeepsSpelling text := by
  cases hnumber : number? text with
  | some n =>
    rw [respelled_of_number? hnumber, normalized_eq_iff]
    refine ⟨fun h => ⟨fun _ => h, fun t hnone => ?_⟩, fun h => h.point (hnumber ▸ rfl)⟩
    rw [hnumber] at hnone
    cases hnone
  | none =>
    have hpoint : (number? text).isSome → hasDecimalComma text.toList = false := by
      rw [hnumber]
      nofun
    cases hdate : date? text with
    | some t =>
      rw [respelled, value_eq_date_iff.2 ⟨hnumber, hdate⟩]
      refine ⟨fun h => ⟨hpoint, fun t' _ ht => ?_⟩, fun h => h.instant t hnumber hdate⟩
      rw [hdate] at ht
      cases ht
      exact h
    | none =>
      refine iff_of_true ?_ ⟨hpoint, fun t _ ht => ?_⟩
      · rcases Decidable.em (text = "") with rfl | hne
        · rfl
        · rw [respelled, value_eq_text_iff.2 ⟨rfl, hne, hnumber, hdate⟩]
          rfl
      · rw [hdate] at ht
        cases ht

end Cell

end GridStore
