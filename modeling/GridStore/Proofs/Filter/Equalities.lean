import GridStore.Filter.Reader
import GridStore.Filter.Selector
import GridStore.Proofs.Filter.Narrowing

/-!
# Filters that demand columns to equal values

A document of columns and scalars demands each column to equal its scalar. A row in which the
scalars are written satisfies these demands only if each scalar is read again from its cell as a
value that equals it.

## Main definitions

* `PlainEqualities`: whether a document demands columns to equal given values.
* `Filter.equating`: the filter that it describes.
* `Json.SurvivesCell`: whether a scalar is read again from its cell.

## Main results

* `Filter.read_of_plainEqualities`: what the document is read as.
* `Json.survivesCell_iff`: when the value of a cell equals the scalar that was written to it.
-/

namespace GridStore

/-! ### Scalars in cells -/

/-- Whether the cell in which a scalar is written is read as a value that equals the scalar: a text
must not be empty and not look like a number. -/
def Json.SurvivesCell : Json → Prop
  | .bool _ => True
  | .number n => n.toNumber.isFinite = true
  | .text s => s ≠ "" ∧ Cell.number? s = none
  | _ => False

theorem Number.compare?_self {n : Number} (h : n.isFinite = true) : n.compare? n = some .eq := by
  cases n with
  | nan => cases h
  | infinite negative => cases h
  | finite negative units hr => exact congrArg some Std.ReflCmp.compare_self

theorem Cell.number?_cellText_of_not_finite {n : Number} (h : n.isFinite = false) :
    number? n.cellText = none := by
  have hnormalized : normalized n.cellText = n.cellText := by
    rw [normalized, hasDecimalComma_cellText]
    rfl
  rw [number?, hnormalized, Number.read?_cellText]
  simp [Option.filter, h]

/-- Only numbers equal a number. -/
theorem Value.exists_number_of_compare? {v : Value} {n : Number} {o : Ordering}
    (h : v.compare? (.number n) = some o) : ∃ m, v = .number m := by
  cases v with
  | number m => exact ⟨m, rfl⟩
  | null => cases h
  | bool b => cases h
  | text s => cases h
  | date t => cases h

theorem Cell.value_cellText_number_iff (n : Number) :
    (Cell.value n.cellText).compare? (.number n) = some .eq ↔ n.isFinite = true := by
  cases hfinite : n.isFinite with
  | true =>
    rw [Cell.value_eq_number_iff.2 (Cell.number?_cellText hfinite)]
    exact iff_of_true (Number.compare?_self hfinite) rfl
  | false =>
    refine iff_of_false (fun h => ?_) Bool.false_ne_true
    obtain ⟨m, hm⟩ := Value.exists_number_of_compare? h
    rw [Cell.value_eq_number_iff, Cell.number?_cellText_of_not_finite hfinite] at hm
    cases hm

theorem Instant.compare_self (t : Instant) : t.compare t = .eq := by
  simp [Instant.compare, Date.compare]

/-- A text equals what its cell is read as if it is read as that text or as an instant. -/
theorem Cell.value_compare?_text_iff (s : String) :
    (Cell.value s).compare? (.text s) = some .eq ↔ s ≠ "" ∧ Cell.number? s = none := by
  cases hv : Cell.value s with
  | null =>
    refine iff_of_false nofun fun h => h.1 (Cell.value_eq_null_iff.1 hv)
  | bool b => exact absurd hv (Cell.value_ne_bool s b)
  | number n =>
    refine iff_of_false nofun fun h => ?_
    rw [Cell.value_eq_number_iff.1 hv] at h
    cases h.2
  | text a =>
    obtain ⟨rfl, hne, hnumber, -⟩ := Cell.value_eq_text_iff.1 hv
    exact iff_of_true (congrArg some Std.ReflCmp.compare_self) ⟨hne, hnumber⟩
  | date t =>
    obtain ⟨hnumber, hdate⟩ := Cell.value_eq_date_iff.1 hv
    have hne : s ≠ "" := by
      rintro rfl
      cases hv
    have htimestamp : Cell.timestamp? s = some t := by
      rw [Cell.timestamp?, hdate]
      rfl
    rw [Condition.compare?_date_text, htimestamp]
    exact iff_of_true (congrArg some (Instant.compare_self t)) ⟨hne, hnumber⟩

/-- The value of the cell in which a scalar is written equals the scalar exactly if the scalar
survives its cell. -/
theorem Json.survivesCell_iff {raw : Json} {v : Value} (hv : Value.ofJson? raw = some v)
    (hne : v ≠ .null) :
    Condition.equals (some (Cell.value v.cellText)) v = true ↔ raw.SurvivesCell := by
  rw [Condition.equals_some_iff _ hne]
  cases raw with
  | null => cases hv; exact absurd rfl hne
  | array items => cases hv
  | object fields => cases hv
  | bool b =>
    cases hv
    rw [Value.cellText, Cell.value_flagText, Condition.compare?_text_bool,
      Cell.spelledFlag?_flagText]
    exact iff_of_true (congrArg some Std.ReflCmp.compare_self) trivial
  | number n =>
    cases hv
    exact Cell.value_cellText_number_iff n.toNumber
  | text s =>
    cases hv
    exact Cell.value_compare?_text_iff s

/-- The values of the cells in which the scalars of a document are written equal them exactly if all
scalars survive their cells. -/
theorem forall_survivesCell_iff {document : List (String × Json)} {operands : List (String × Value)}
    (hscalars : document.mapM (fun (name, raw) => (Value.ofJson? raw).map (name, ·)) =
      some operands)
    (hvalues : ∀ operand ∈ operands, operand.2 ≠ .null) :
    (∀ operand ∈ operands,
        Condition.equals (some (Cell.value operand.2.cellText)) operand.2 = true) ↔
      ∀ field ∈ document, field.2.SurvivesCell := by
  induction document generalizing operands with
  | nil =>
    cases hscalars
    exact iff_of_true (fun _ h => absurd h List.not_mem_nil) fun _ h => absurd h List.not_mem_nil
  | cons first rest ih =>
    rw [List.mapM_cons] at hscalars
    obtain ⟨operand, hoperand, hrest⟩ := Option.bind_eq_some_iff.1 hscalars
    obtain ⟨others, hothers, hall⟩ := Option.bind_eq_some_iff.1 hrest
    obtain ⟨v, hv, rfl⟩ := Option.map_eq_some_iff.1 hoperand
    cases hall
    obtain ⟨hvalue, hvalues⟩ := List.forall_mem_cons.1 hvalues
    rw [List.forall_mem_cons, List.forall_mem_cons, ih hothers hvalues,
      Json.survivesCell_iff hv hvalue]

/-! ### Documents of equalities -/

/-- Whether a document demands data columns, each once, to equal given values. -/
structure PlainEqualities (document : List (String × Json)) (operands : List (String × Value)) :
    Prop where
  scalars : document.mapM (fun (name, raw) => (Value.ofJson? raw).map (name, ·)) = some operands
  columns : ∀ operand ∈ operands,
    isMetaField operand.1 = false ∧ Filter.isOperatorKey operand.1 = false
  values : ∀ operand ∈ operands, operand.2 ≠ .null
  distinct : (operands.map Prod.fst).Nodup

namespace Filter

/-- The filter that demands columns to equal values. -/
def equating (operands : List (String × Value)) : Filter :=
  conjunction (operands.map fun (name, v) => field name (.compare .eq v))

theorem condition_of_ofJson? {name : String} {raw : Json} {v : Value}
    (h : Value.ofJson? raw = some v) : condition name raw = .ok (.compare .eq v) := by
  cases raw with
  | array items => cases h
  | object fields => cases h
  | null => cases h; rfl
  | bool b => cases h; rfl
  | number n => cases h; rfl
  | text s => cases h; rfl

theorem join?_of_not_operator {key : String} (h : isOperatorKey key = false) :
    join? key = none := by
  rw [join?]
  split
  case isTrue heq => subst heq; exact absurd h (by decide)
  case isFalse =>
    split
    case isTrue heq => subst heq; exact absurd h (by decide)
    case isFalse =>
      split
      case isTrue heq => subst heq; exact absurd h (by decide)
      case isFalse => rfl

/-- The clauses of a document of scalars. -/
theorem clauses_of_scalars {document : List (String × Json)} {operands : List (String × Value)}
    (hscalars : document.mapM (fun (name, raw) => (Value.ofJson? raw).map (name, ·)) =
      some operands)
    (hkeys : ∀ operand ∈ operands, isOperatorKey operand.1 = false) :
    clauses document = .ok (operands.map fun (name, v) => field name (.compare .eq v)) := by
  induction document generalizing operands with
  | nil =>
    cases hscalars
    rfl
  | cons first rest ih =>
    obtain ⟨name, raw⟩ := first
    rw [List.mapM_cons] at hscalars
    obtain ⟨operand, hoperand, hrest⟩ := Option.bind_eq_some_iff.1 hscalars
    obtain ⟨others, hothers, hall⟩ := Option.bind_eq_some_iff.1 hrest
    obtain ⟨v, hv, rfl⟩ := Option.map_eq_some_iff.1 hoperand
    cases hall
    obtain ⟨hkey, hkeys⟩ := List.forall_mem_cons.1 hkeys
    rw [clauses, join?_of_not_operator hkey, if_neg (by simpa using hkey), condition_of_ofJson? hv,
      ih hothers hkeys]
    rfl

/-- A document of equalities is read as the filter that demands them. -/
theorem read_of_plainEqualities {document : List (String × Json)}
    {operands : List (String × Value)} (h : PlainEqualities document operands) :
    Filter.read (.object document) = .ok (equating operands) := by
  have hclauses := clauses_of_scalars h.scalars fun operand hmem => (h.columns operand hmem).2
  rw [Filter.read, hclauses]
  rfl

/-! ### Rows that equal values -/

theorem holds_conjunction (parts : List Filter) (row : Row) :
    (conjunction parts).holds row = holdsAll row parts := by
  match parts with
  | [] => rfl
  | [part] => exact (Bool.and_true _).symm
  | _ :: _ :: _ => rfl

theorem equalities_conjunction (parts : List Filter) :
    (conjunction parts).equalities = equalitiesOfAll parts := by
  match parts with
  | [] => rfl
  | [part] => exact (List.append_nil _).symm
  | _ :: _ :: _ => rfl

theorem overlooks_conjunction_iff (cell : String → String) (parts : List Filter) :
    (conjunction parts).Overlooks cell ↔ OverlooksOne cell parts := by
  match parts with
  | [] => exact Iff.rfl
  | [part] => exact (or_iff_left id).symm
  | _ :: _ :: _ => exact Iff.rfl

theorem holds_equating_iff (operands : List (String × Value)) (row : Row) :
    (equating operands).holds row = true ↔
      ∀ operand ∈ operands, Condition.equals (row.lookup operand.1) operand.2 = true := by
  rw [equating, holds_conjunction]
  induction operands with
  | nil => exact iff_of_true rfl fun _ hmem => absurd hmem List.not_mem_nil
  | cons operand rest ih =>
    rw [List.map_cons, holdsAll, Bool.and_eq_true, ih, List.forall_mem_cons]
    exact Iff.rfl

/-- The columns and values that are demanded are found in the filter. -/
theorem equalities_equating {operands : List (String × Value)}
    (h : ∀ operand ∈ operands, isMetaField operand.1 = false ∧ operand.2 ≠ .null) :
    (equating operands).equalities = operands := by
  rw [equating, equalities_conjunction]
  induction operands with
  | nil => rfl
  | cons operand rest ih =>
    obtain ⟨⟨hmeta, hne⟩, hrest⟩ := List.forall_mem_cons.1 h
    have hvalue : operand.2.isNull = false := by
      cases hv : operand.2 with
      | null => exact absurd hv hne
      | _ => rfl
    rw [List.map_cons, equalitiesOfAll, ih hrest, equalities, hmeta, hvalue]
    rfl

/-- A demand to equal a value overlooks no row. -/
theorem not_overlooks_equating (operands : List (String × Value)) (cell : String → String) :
    ¬(equating operands).Overlooks cell := by
  rw [equating, overlooks_conjunction_iff]
  induction operands with
  | nil => exact id
  | cons operand rest ih =>
    rw [List.map_cons, OverlooksOne, not_or]
    exact ⟨fun hover => absurd hover.2.1 (by decide), ih⟩

end Filter

/-- Whether the typed cells of a stored row equal values. -/
def StoredRow.Equates (row : StoredRow) (operands : List (String × Value)) : Prop :=
  ∀ operand ∈ operands,
    Condition.equals ((row.cells.get? operand.1).map Cell.value) operand.2 = true

end GridStore
