import GridStore.Proofs.Query.PushedDown
import GridStore.Proofs.Row.Cells

/-!
# Comparisons of cells and of typed values

The service compares texts where a client compares typed values. It accepts every cell that a
comparison of the client demands to be equal, below or above an operand; but it takes some cells
for an operand from which the client tells them apart.

## Main definitions

* `Value.MistakenFor`: the cells that the service takes for an operand and the client does not.

## Main results

* `Condition.compareCell_of_compares`: comparisons other than that for difference are kept.
* `Condition.compareCell_ne_iff`: the comparison for difference is lost on mistaken cells alone.
-/

namespace GridStore

/-! ### Comparisons -/

/-- Whether the service takes a cell for an operand that the client tells apart from it: a flag
spelled with letters of both cases, a text that is typed as something other than that text, or any
number in place of not-a-number, which differs from every number for the client only. -/
def Value.MistakenFor (cell : String) : Value → Prop
  | .bool b => cell.map Char.toLower = Value.flagText b ∧ Value.spelledFlag? cell ≠ some b
  | .number n => n = .nan ∧ (Cell.number? cell).isSome
  | .text s => cell = s ∧ Cell.value s ≠ .text s ∧ Cell.timestamp? s = none
  | .null => False
  | .date _ => False

instance (cell : String) : DecidablePred (Value.MistakenFor cell)
  | .bool _ => inferInstanceAs (Decidable (_ ∧ _))
  | .number _ => inferInstanceAs (Decidable (_ ∧ _))
  | .text _ => inferInstanceAs (Decidable (_ ∧ _))
  | .null => inferInstanceAs (Decidable False)
  | .date _ => inferInstanceAs (Decidable False)

namespace Condition

theorem compareCell_bool (cell : String) (op : QueryOp) (b : Bool) :
    Query.compareCell cell op (.bool b) =
      op.accepts (Ord.compare (cell.map Char.toLower) (Value.flagText b)) := rfl

theorem compareCell_number (cell : String) (op : QueryOp) (expected : Number) :
    Query.compareCell cell op (.number expected) =
      ((Cell.number? cell).map fun actual => (actual.compare? expected).any op.accepts).getD
        (op == .ne) := by
  delta Query.compareCell
  generalize Cell.number? cell = found
  cases found <;> rfl

theorem compare?_text_bool (a : String) (b : Bool) :
    (Value.text a).compare? (.bool b) = (Value.spelledFlag? a).map (Ord.compare · b) := rfl

theorem compare?_date_text (t : Instant) (s : String) :
    (Value.date t).compare? (.text s) = (Cell.timestamp? s).map t.compare := rfl

theorem timestamp?_of_literal? {s : String} {l : Literal} (h : literal? (.text s) = some l) :
    Cell.timestamp? s = none ∧ l = .text s := by
  rw [literal?] at h
  split at h
  case isTrue => cases h
  case isFalse htimestamp =>
    cases h
    exact ⟨Option.not_isSome_iff_eq_none.1 htimestamp, rfl⟩

/-- A query can contain the operands for which cells are mistaken. -/
theorem exists_literal?_of_mistakenFor {cell : String} {operand : Value}
    (h : operand.MistakenFor cell) : ∃ l, literal? operand = some l := by
  cases operand with
  | null => exact h.elim
  | date t => exact h.elim
  | bool b => exact ⟨_, rfl⟩
  | number n => exact ⟨_, rfl⟩
  | text s =>
    obtain ⟨-, -, htimestamp⟩ := h
    exact ⟨.text s, by rw [literal?, htimestamp]; rfl⟩

/-- What a client accepts by comparing a typed cell with an operand, the service accepts by
comparing the text of the cell. -/
theorem compareCell_of_compare? {text : String} {operand : Value} {l : Literal} {op : QueryOp}
    (hl : literal? operand = some l)
    (h : ((Cell.value text).compare? operand).any op.accepts = true) :
    Query.compareCell text op l = true := by
  cases operand with
  | null => cases hl
  | date t => cases hl
  | bool b =>
    cases hl
    cases hv : Cell.value text with
    | text s =>
      obtain ⟨rfl, -⟩ := Cell.value_eq_text_iff.1 hv
      rw [hv, compare?_text_bool] at h
      cases hflag : Value.spelledFlag? text with
      | none => rw [hflag] at h; cases h
      | some a =>
        rw [hflag] at h
        rw [compareCell_bool, Cell.toLower_of_spelledFlag? hflag]
        revert h
        cases a <;> cases b <;> exact id
    | bool a => exact absurd hv (Cell.value_ne_bool text a)
    | null => rw [hv] at h; cases h
    | number m => rw [hv] at h; cases h
    | date t => rw [hv] at h; cases h
  | number n =>
    cases hl
    cases hv : Cell.value text with
    | number m =>
      rw [hv] at h
      rw [compareCell_number, Cell.value_eq_number_iff.1 hv]
      exact h
    | bool a => exact absurd hv (Cell.value_ne_bool text a)
    | null => rw [hv] at h; cases h
    | text s => rw [hv] at h; cases h
    | date t => rw [hv] at h; cases h
  | text s =>
    obtain ⟨htimestamp, rfl⟩ := timestamp?_of_literal? hl
    cases hv : Cell.value text with
    | text a =>
      obtain ⟨rfl, -⟩ := Cell.value_eq_text_iff.1 hv
      rw [hv] at h
      exact h
    | date t => rw [hv, compare?_date_text, htimestamp] at h; cases h
    | bool a => exact absurd hv (Cell.value_ne_bool text a)
    | null => rw [hv] at h; cases h
    | number m => rw [hv] at h; cases h

/-- Equality is one of the comparisons of typed cells. -/
theorem equals_some_iff (value : Value) {operand : Value} (hne : operand ≠ .null) :
    equals (some value) operand = true ↔ value.compare? operand = some .eq := by
  cases operand <;> cases value <;> simp [equals] at hne ⊢

theorem equals_none {operand : Value} (hne : operand ≠ .null) : equals none operand = false := by
  cases operand <;> simp [equals] at hne ⊢

theorem ne_null_of_literal? {operand : Value} {l : Literal} (hl : literal? operand = some l) :
    operand ≠ .null := by
  rintro rfl
  cases hl

/-- Every comparison but that for difference is kept by the service. -/
theorem compareCell_of_compares {text : Option String} {op : Comparison} {operand : Value}
    {l : Literal} (hl : literal? operand = some l) (hop : op ≠ .ne)
    (h : compares op (text.map Cell.value) operand = true) :
    Query.compareCell (text.getD "") op.queryOp l = true := by
  cases text with
  | none =>
    cases op with
    | ne => exact absurd rfl hop
    | eq =>
      have hequals := equals_none (ne_null_of_literal? hl)
      exact absurd (hequals ▸ h : false = true) nofun
    | gt => cases h
    | gte => cases h
    | lt => cases h
    | lte => cases h
  | some t =>
    refine compareCell_of_compare? hl ?_
    cases op with
    | ne => exact absurd rfl hop
    | eq =>
      have hequal := (equals_some_iff _ (ne_null_of_literal? hl)).1 h
      rw [Option.getD_some, hequal]
      rfl
    | gt => exact h
    | gte => exact h
    | lt => exact h
    | lte => exact h

/-- A cell that differs from the text of a flag up to case does not spell the flag. -/
theorem spelledFlag?_ne_of_not_equals {text : Option String} {b : Bool}
    (h : equals (text.map Cell.value) (.bool b) = false) :
    Value.spelledFlag? (text.getD "") ≠ some b := by
  intro hflag
  cases text with
  | none => cases hflag
  | some t =>
    rw [Option.getD_some] at hflag
    have hequals : equals (some (Cell.value t)) (.bool b) = true := by
      refine (equals_some_iff _ (by nofun)).2 ?_
      rw [Cell.value_of_spelledFlag? hflag, compare?_text_bool, hflag]
      cases b <;> rfl
    rw [Option.map_some, hequals] at h
    cases h

theorem value_ne_of_not_equals {text : Option String} {s : String}
    (h : equals (text.map Cell.value) (.text s) = false) (hcell : text.getD "" = s) :
    Cell.value s ≠ .text s := by
  intro hvalue
  cases text with
  | none => exact (Cell.value_eq_text_iff.1 hvalue).2.1 hcell.symm
  | some t =>
    rw [Option.getD_some] at hcell
    subst hcell
    have hequals : equals (some (Cell.value t)) (.text t) = true := by
      refine (equals_some_iff _ (by nofun)).2 ?_
      rw [hvalue]
      exact congrArg some Std.ReflCmp.compare_self
    rw [Option.map_some, hequals] at h
    cases h

theorem compare?_ne_of_not_equals {text : Option String} {m n : Number}
    (h : equals (text.map Cell.value) (.number n) = false)
    (hnumber : Cell.number? (text.getD "") = some m) : m.compare? n ≠ some .eq := by
  intro hequal
  cases text with
  | none =>
    rw [Option.getD_none, Cell.number?_empty] at hnumber
    cases hnumber
  | some t =>
    rw [Option.getD_some] at hnumber
    have hequals : equals (some (Cell.value t)) (.number n) = true := by
      refine (equals_some_iff _ (by nofun)).2 ?_
      rw [Cell.value_eq_number_iff.2 hnumber]
      exact hequal
    rw [Option.map_some, hequals] at h
    cases h

/-- A finite number has no order with not-a-number alone. -/
theorem compare?_eq_none_iff {m n : Number} (h : m.isFinite = true) :
    m.compare? n = none ↔ n = .nan := by
  cases m with
  | nan => cases h
  | infinite negative => cases h
  | finite negative units hr => cases n <;> simp [Number.compare?, Number.place?]

/-- Among the cells that differ from an operand for the client, the service takes the mistaken ones
for the operand. -/
theorem compareCell_ne_iff {text : Option String} {operand : Value} {l : Literal}
    (hl : literal? operand = some l)
    (h : compares .ne (text.map Cell.value) operand = true) :
    Query.compareCell (text.getD "") .ne l = false ↔ operand.MistakenFor (text.getD "") := by
  have hequals : equals (text.map Cell.value) operand = false := by simpa [compares] using h
  cases operand with
  | null => cases hl
  | date t => cases hl
  | bool b =>
    cases hl
    have hspelled := spelledFlag?_ne_of_not_equals hequals
    rw [compareCell_bool]
    simp [QueryOp.accepts, Value.MistakenFor, hspelled]
  | text s =>
    obtain ⟨htimestamp, rfl⟩ := timestamp?_of_literal? hl
    have hvalue := value_ne_of_not_equals hequals
    show (Ord.compare (text.getD "") s != .eq) = false ↔ _
    simp only [bne_eq_false_iff_eq, Std.compare_eq_iff_eq, Value.MistakenFor, htimestamp, and_true]
    exact ⟨fun hcell => ⟨hcell, hvalue hcell⟩, And.left⟩
  | number n =>
    cases hl
    rw [compareCell_number]
    cases hnumber : Cell.number? (text.getD "") with
    | none => simp [Value.MistakenFor, hnumber]
    | some m =>
      have hnone := @compare?_eq_none_iff m n (Cell.isFinite_of_number? hnumber)
      have hne := compare?_ne_of_not_equals hequals hnumber
      simp only [Value.MistakenFor, hnumber, ← hnone, Option.map_some, Option.getD_some,
        Option.isSome_some, and_true]
      cases hcompare : m.compare? n with
      | none => simp
      | some o => simpa [QueryOp.accepts, hcompare] using hne

end Condition

end GridStore
