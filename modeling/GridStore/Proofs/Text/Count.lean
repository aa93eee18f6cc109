import GridStore.Proofs.Text.Digits
import GridStore.Text.Count

/-!
# The text of a count reads back

## Main results

* `count?_countText`: the text of a count that fits a machine word writes that count.
-/

namespace GridStore

theorem countText_ne_empty (n : Nat) : countText n ≠ "" := fun h =>
  Nat.toDigits_ne_nil (String.ofList_eq_empty_iff.1 h)

theorem countOfDigits?_toDigits {n : Nat} (h : n < wordBound) :
    countOfDigits? (Nat.toDigits 10 n) = some n := by
  have hdigits : ∀ d ∈ Nat.toDigits 10 n, d.isDigit := fun _ => isDigit_of_mem_toDigits
  rw [countOfDigits?, natOfDigits_toDigits,
    if_pos ⟨Nat.toDigits_ne_nil, List.all_eq_true.2 hdigits, h⟩]

/-- The text of a count that fits a machine word writes that count. -/
theorem count?_countText {n : Nat} (h : n < wordBound) : count? (countText n) = some n := by
  obtain ⟨c, cs, hcons⟩ := List.exists_cons_of_ne_nil (@Nat.toDigits_ne_nil n 10)
  have hplus : c ≠ '+' := by
    rintro rfl
    have := isDigit_of_mem_toDigits (hcons ▸ List.mem_cons_self .. : '+' ∈ Nat.toDigits 10 n)
    cases this
  have hread := countOfDigits?_toDigits h
  rw [count?, countText, String.toList_ofList, hcons]
  rw [hcons] at hread
  split
  case h_1 digits heq => exact absurd (List.cons.inj heq).1 hplus
  case h_2 => exact hread

theorem countText_injective {m n : Nat} (h : countText m = countText n) : m = n := by
  have hdigits : Nat.toDigits 10 m = Nat.toDigits 10 n := String.ofList_injective h
  rw [← natOfDigits_toDigits m, hdigits, natOfDigits_toDigits]

end GridStore
