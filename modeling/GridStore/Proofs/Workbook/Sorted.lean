import GridStore.Proofs.Query.CellOrder
import GridStore.Proofs.Workbook.Found

/-!
# Sorted rows

A query with a column to sort by returns the rows that it accepts, each once, if the cells of the
column can be put in order: the rows are in order then, with equal cells in the order of the
worksheet. If a cell separates two others, sorting may break off or leave the rows in any order, and
if three rows go round in a circle, no order of the rows is that of their cells.

## Main definitions

* `StoredWorksheet.Before`: whether a row belongs before another one in a sorted column.
* `StoredWorksheet.Tangled`: whether a cell of a column separates two others.
* `StoredWorksheet.Circular`: whether three rows go round in a circle.

## Main results

* `RowQuery.exists_arrange`: untangled rows are put in order.
* `StoredWorksheet.queryRows_brokenOff`: a query of a filter fails only if sorting breaks off, which
  it does not for untangled rows.
* `StoredWorksheet.column_order_iff`: the order of cells, and the rows that it sorts.
-/

namespace GridStore

namespace StoredWorksheet

variable {ws : StoredWorksheet} {column : String}

/-- Whether a row belongs before another one in a sorted column: its cell is not above that of the
other one, and if they are equal, it stands first in the worksheet. -/
structure Before (column : String) (a b : Nat × StoredRow) : Prop where
  cells : compareCells (a.2.cell column) (b.2.cell column) ≠ .gt
  positions : compareCells (a.2.cell column) (b.2.cell column) = .eq → a.1 < b.1

/-- Whether the cell of some row in a column separates those of two others. -/
def Tangled (column : String) (rows : List (Nat × StoredRow)) : Prop :=
  ∃ x ∈ rows, ∃ t ∈ rows, ∃ y ∈ rows,
    Separates (x.2.cell column) (t.2.cell column) (y.2.cell column)

instance (column : String) (rows : List (Nat × StoredRow)) : Decidable (Tangled column rows) :=
  inferInstanceAs (Decidable (∃ x ∈ rows, ∃ t ∈ rows, ∃ y ∈ rows, _))

/-- Whether three of some rows go round in a circle in a sorted column. -/
def Circular (column : String) (rows : List (Nat × StoredRow)) : Prop :=
  ∃ a ∈ rows, ∃ b ∈ rows, ∃ c ∈ rows,
    Before column a b ∧ Before column b c ∧ Before column c a

theorem before_asymm {a b : Nat × StoredRow} (h : Before column a b) : ¬Before column b a := by
  intro h'
  cases hcompare : compareCells (a.2.cell column) (b.2.cell column) with
  | lt =>
    have hcells := h'.cells
    rw [compareCells_swap, hcompare] at hcells
    exact hcells rfl
  | gt => exact h.cells hcompare
  | eq =>
    have hpositions := h'.positions (by rw [compareCells_swap, hcompare]; rfl)
    exact Nat.lt_asymm (h.positions hcompare) hpositions

/-- No order of rows that go round in a circle is that of their cells. -/
theorem not_circular_of_pairwise {rows sorted : List (Nat × StoredRow)} (hperm : sorted.Perm rows)
    (h : sorted.Pairwise (Before column)) : ¬Circular column rows := by
  rintro ⟨a, ha, b, hb, c, hc, hab, hbc, hca⟩
  exact not_cyclic_of_pairwise (fun _ _ => before_asymm) h (hperm.mem_iff.2 ha)
    (hperm.mem_iff.2 hb) (hperm.mem_iff.2 hc) hab hbc hca

/-- The cells of untangled rows are ordered. -/
theorem orders_of_not_tangled {rows : List (Nat × StoredRow)} (h : ¬Tangled column rows) :
    Orders (fun a b => compareCells (a.2.cell column) (b.2.cell column)) rows where
  swap a _ b _ := compareCells_swap _ _
  trans a ha b hb c hc := by
    have hcell : ∀ {row : Nat × StoredRow}, row ∈ rows →
        row.2.cell column ∈ rows.map fun row => row.2.cell column := fun hrow =>
      List.mem_map.2 ⟨_, hrow, rfl⟩
    refine (compareCells_trans_iff (rows.map fun row => row.2.cell column)).2 ?_ _ (hcell ha) _
      (hcell hb) _ (hcell hc)
    rintro ⟨x, hx, t, ht, y, hy, hseparates⟩
    obtain ⟨rx, hrx, rfl⟩ := List.mem_map.1 hx
    obtain ⟨rt, hrt, rfl⟩ := List.mem_map.1 ht
    obtain ⟨ry, hry, rfl⟩ := List.mem_map.1 hy
    exact h ⟨rx, hrx, rt, hrt, ry, hry, hseparates⟩

/-- Untangled rows in the order of the worksheet are sorted by the cells of a column, and equal
cells keep their order. -/
theorem exists_sort (sorter : Sorter (Nat × StoredRow)) {rows : List (Nat × StoredRow)}
    (hrows : rows.Sublist ws.numberedRows) (h : ¬Tangled column rows) :
    ∃ sorted, sorter.sort
        (fun (_, a) (_, b) => compareCells (a.cell column) (b.cell column)) rows = some sorted ∧
      sorted.Pairwise (Before column) := by
  have horders := orders_of_not_tangled h
  have hpositions : rows.Pairwise fun a b => a.1 < b.1 :=
    List.pairwise_map.1 (pairwise_positions hrows)
  obtain ⟨sorted, hsorted, hcells, hkeeps⟩ := sorter.sorted horders
  have hequal := pairwise_of_filter_eq (sorter.perm hsorted) (fun a _ => compareCells_self _) hkeeps
    hpositions
  exact ⟨sorted, hsorted, (List.pairwise_and_iff.2 ⟨hcells, hequal⟩).imp fun h => ⟨h.1, h.2⟩⟩

end StoredWorksheet

/-! ### Orders of queries -/

/-- Whether some rows are untangled in the column that a query sorts by, if it sorts by one. -/
def RowQuery.CanSort (query : RowQuery) (rows : List (Nat × StoredRow)) : Prop :=
  ∀ column, query.sort = some column → ¬StoredWorksheet.Tangled column rows

/-- Rows that a query can sort are put in its order. -/
theorem RowQuery.exists_arrange {query : RowQuery} {rows : List (Nat × StoredRow)}
    (h : query.CanSort rows) (sorter : Sorter (Nat × StoredRow)) :
    ∃ sorted, query.arrange sorter rows = some sorted := by
  rw [arrange]
  cases hsort : query.sort with
  | none => exact ⟨_, rfl⟩
  | some column =>
    obtain ⟨sorted, hsorted, -⟩ :=
      sorter.sorted (StoredWorksheet.orders_of_not_tangled (h column hsort))
    exact ⟨_, congrArg (Option.map _) hsorted⟩

namespace StoredWorksheet

/-- A query of a filter returns rows, or sorting them breaks off, which it does only if they are
tangled in the column to sort by. -/
theorem queryRows_brokenOff (ws : StoredWorksheet) (engine : QueryEngine) {query : RowQuery}
    {filter : Filter} (hquery : query.query = filter.queryText) :
    (∃ raw, ws.queryRows query engine = .ok raw) ∨
      (ws.queryRows query engine = .error .brokenOff ∧
        ¬query.CanSort (ws.returned engine.evaluates filter)) := by
  have hanswer := ws.queryRows_of_queryText engine hquery
  cases harranged : query.arrange engine.sorter (ws.returned engine.evaluates filter) with
  | some rows =>
    rw [harranged] at hanswer
    exact .inl ⟨_, hanswer⟩
  | none =>
    rw [harranged] at hanswer
    refine .inr ⟨hanswer, fun h => ?_⟩
    obtain ⟨rows, hrows⟩ := RowQuery.exists_arrange h engine.sorter
    rw [harranged] at hrows
    cases hrows

/-- Exchanging two cells reverses their order, and on some cells the order is transitive exactly if
none of them separates two others. A query with a column to sort by is refused, or accepts some
rows. If no cell of these separates two others, the query returns them in order, each once; and
whatever it returns are these rows, each once, but not in order if three of them go round in a
circle. -/
theorem column_order_iff (a b : String) (cells : List String) (ws : StoredWorksheet)
    (text column : String) (engine : QueryEngine) :
    compareCells b a = (compareCells a b).swap ∧
    ((∀ x ∈ cells, ∀ y ∈ cells, ∀ z ∈ cells, compareCells x y ≠ .gt → compareCells y z ≠ .gt →
        compareCells x z ≠ .gt) ↔
      ¬∃ x ∈ cells, ∃ t ∈ cells, ∃ y ∈ cells, Separates x t y) ∧
    match readAccepted text engine.evaluates with
    | .error e => ws.queryRows ⟨text, some column, false⟩ engine = .error (.invalidQuery e)
    | .ok accepted =>
      (¬Tangled column (ws.acceptedRows accepted) → ∃ rows : List (Nat × StoredRow),
        ws.queryRows ⟨text, some column, false⟩ engine =
          .ok (rows.map fun row => ws.rawRow row.1 row.2) ∧
        rows.Perm (ws.acceptedRows accepted) ∧ rows.Pairwise (Before column)) ∧
      ∀ raw, ws.queryRows ⟨text, some column, false⟩ engine = .ok raw →
        ∃ rows : List (Nat × StoredRow), raw = (rows.map fun row => ws.rawRow row.1 row.2) ∧
          rows.Perm (ws.acceptedRows accepted) ∧
          (Circular column (ws.acceptedRows accepted) → ¬rows.Pairwise (Before column)) := by
  refine ⟨compareCells_swap a b, compareCells_trans_iff cells, ?_⟩
  have hanswer := ws.queryRows_eq ⟨text, some column, false⟩ engine
  cases haccepted : readAccepted text engine.evaluates with
  | error e =>
    rw [haccepted] at hanswer
    exact hanswer
  | ok accepted =>
    rw [haccepted] at hanswer
    refine ⟨fun huntangled => ?_, fun raw hraw => ?_⟩
    · obtain ⟨rows, hsorted, hbefore⟩ := exists_sort engine.sorter List.filter_sublist huntangled
      have harranged : RowQuery.arrange ⟨text, some column, false⟩ engine.sorter
          (ws.acceptedRows accepted) = some rows := congrArg (Option.map _) hsorted
      simp only [harranged] at hanswer
      exact ⟨rows, hanswer, engine.sorter.perm hsorted, hbefore⟩
    · obtain ⟨read, rows, hread, harranged, rfl⟩ := queryRows_eq_ok_iff.1 hraw
      cases hread.symm.trans haccepted
      have hperm := RowQuery.perm_of_arrange harranged
      exact ⟨rows, rfl, hperm, fun hcircular hbefore =>
        not_circular_of_pairwise hperm hbefore hcircular⟩

/-- A worksheet with numbers and a text, which can be put in order. -/
def sheetOfNumbers : StoredWorksheet where
  id := "3f2a91c"
  title := "rows"
  updated := .startOf ⟨2024, 4, 4, by decide, by decide⟩
  rowCount := 5000
  colCount := 50
  header := .ofList [(1, ⟨"a", .startOf ⟨2024, 4, 4, by decide, by decide⟩⟩)]
  rows := ["10", "x", "9", "10"].map fun text =>
    ⟨.startOf ⟨2024, 4, 4, by decide, by decide⟩, .ofList [("a", text)]⟩

/-- The numbers come first, and equal ones stay as they stand. -/
theorem column_order_iff_numbers :
    ¬Tangled "a" (sheetOfNumbers.acceptedRows none) ∧ ∃ rows : List (Nat × StoredRow),
      sheetOfNumbers.queryRows ⟨"", some "a", false⟩ { evaluates := false } =
        .ok (rows.map fun row => sheetOfNumbers.rawRow row.1 row.2) ∧
      rows.Pairwise (Before "a") ∧ (sheetOfNumbers.queryRows ⟨"", some "a", false⟩
        { evaluates := false }).toOption.map (·.map RawRow.id) = some ["3", "1", "4", "2"] := by
  have huntangled : ¬Tangled "a" (sheetOfNumbers.acceptedRows none) := by decide +kernel
  have hread : readAccepted "" false = .ok none := by rfl
  obtain ⟨-, -, hanswer⟩ :=
    column_order_iff "" "" [] sheetOfNumbers "" "a" { evaluates := false }
  rw [hread] at hanswer
  obtain ⟨rows, hrows, -, hbefore⟩ := hanswer.1 huntangled
  exact ⟨huntangled, rows, hrows, hbefore, by decide +kernel⟩

/-- Two numbers and a text that stands between them the other way round. -/
theorem compareCells_not_transitive :
    compareCells "9" "10" ≠ .gt ∧ compareCells "10" "1a" ≠ .gt ∧ compareCells "9" "1a" = .gt := by
  decide +kernel

end StoredWorksheet

end GridStore
