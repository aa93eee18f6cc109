import GridStore.Filter.Match
import GridStore.Filter.Reader

/-!
# Comparisons of one field with one operand

Equality and order are read off one comparison of two values, so that the six comparisons of a field
with an operand agree with each other. The exception is an operand without value: a field that is
absent or has no value equals it, but stands in no order to it, so that it is neither at least nor
at most what it equals.

## Main definitions

* `Condition.order?`: the order of a field and an operand.
* `Condition.BothMissing`: whether neither a field nor an operand has a value.

## Main results

* `Condition.comparisons_agree_iff`: when the comparisons of a field with an operand agree.
-/

namespace GridStore

namespace Condition

variable {actual : Option Value} {operand : Value}

/-- The order of a field and an operand, if the field is present and the two can be compared. -/
def order? (actual : Option Value) (operand : Value) : Option Ordering :=
  actual.bind (·.compare? operand)

/-- Whether neither a field nor an operand has a value: the field may be absent. -/
def BothMissing (actual : Option Value) (operand : Value) : Prop :=
  operand = .null ∧ actual.getD .null = .null

/-! ### One comparison of values -/

theorem ordered_eq (actual : Option Value) (operand : Value) (accepted : Ordering → Bool) :
    ordered actual operand accepted = (order? actual operand).any accepted := by
  cases actual <;> rfl

/-- Nothing stands in an order to an operand without value. -/
theorem order?_null (actual : Option Value) : order? actual .null = none := by
  cases actual with
  | none => rfl
  | some value => cases value <;> rfl

theorem order?_of_bothMissing (h : BothMissing actual operand) : order? actual operand = none :=
  h.1 ▸ order?_null actual

/-- A field equals an operand if the two compare as equal, or if neither has a value. -/
theorem equals_iff :
    equals actual operand = true ↔
      order? actual operand = some .eq ∨ BothMissing actual operand := by
  cases operand with
  | null =>
    rw [order?_null, BothMissing]
    cases actual with
    | none => exact iff_of_true rfl (.inr ⟨rfl, rfl⟩)
    | some value => cases value <;> simp [equals]
  | _ => cases actual <;> simp [equals, order?, BothMissing]

theorem equals_of_not_bothMissing (h : ¬BothMissing actual operand) :
    equals actual operand = (order? actual operand == some .eq) := by
  rw [Bool.eq_iff_iff, equals_iff, or_iff_left h, beq_iff_eq]

/-! ### The six comparisons -/

/-- Of the comparisons as greater, as equal and as less, at most one holds, and a field differs from
an operand exactly if it does not equal it. A field is at least the operand exactly if it is greater
or equal, and at most the operand exactly if it is less or equal, unless neither of them has a
value. -/
theorem comparisons_agree_iff (actual : Option Value) (operand : Value) :
    [Comparison.gt, .eq, .lt].countP (fun op => holds actual (.compare op operand)) ≤ 1 ∧
      holds actual (.compare .ne operand) = !holds actual (.compare .eq operand) ∧
      (holds actual (.compare .gte operand) =
          (holds actual (.compare .gt operand) || holds actual (.compare .eq operand)) ↔
        ¬BothMissing actual operand) ∧
      (holds actual (.compare .lte operand) =
          (holds actual (.compare .lt operand) || holds actual (.compare .eq operand)) ↔
        ¬BothMissing actual operand) := by
  simp only [holds, compares, ordered_eq]
  by_cases hmissing : BothMissing actual operand
  · -- the field equals the operand, but stands in no order to it
    rw [equals_iff.2 (.inr hmissing), order?_of_bothMissing hmissing]
    simp [hmissing]
  · rw [equals_of_not_bothMissing hmissing]
    cases order? actual operand with
    | none => simp [hmissing]
    | some order => cases order <;> simp [hmissing]

/-- A field that is absent equals an operand without value, but is not at least that operand. -/
theorem not_gte_null_of_absent :
    let row : Row := ⟨none, none, [("b", .text "x")]⟩
    let verdict (operator : String) : Option Bool :=
      ((Filter.read (.object [("a", .object [(operator, .null)])])).map (·.holds row)).toOption
    verdict "$eq" = some true ∧ verdict "$gt" = some false ∧ verdict "$gte" = some false := by
  decide

end Condition

end GridStore
