import GridStore.Client.Rows
import GridStore.Proofs.Filter.Narrowing
import GridStore.Proofs.Sorting
import GridStore.Proofs.Text.Count
import GridStore.Proofs.Time.ReadBack
import GridStore.Workbook.Requests

/-!
# The rows that a find returns

A find asks the service for the rows that the query of the filter accepts, takes the window of them,
and keeps what the filter means. So a find of one row tests only the first row that the service
returns, which need not be the first row that the filter means.

## Main definitions

* `StoredWorksheet.shown`: a stored row as a client sees it.
* `readAccepted`: the query that the rows of an answer satisfy.
* `StoredWorksheet.returned`: the rows that the service returns for a filter.
* `StoredWorksheet.found`: the rows that a find returns, all of them or one.
* `StoredWorksheet.firstReturned?`, `firstMeant?`, `picked?`: the first row returned, the first row
  meant, and the row found if one row is wanted.

## Main results

* `StoredWorksheet.queryRows_eq`: the answer to a query of rows.
* `StoredWorksheet.queryRows_of_queryText`: the service never refuses the query of a filter.
* `StoredWorksheet.queryRows_queryText`: its answer in the order of the worksheet.
* `StoredWorksheet.picked?_eq_firstMeant?_iff`: when the row found is the first one meant.
-/

namespace GridStore

/-- The rows that are arranged for a query are the given ones, in some order. -/
theorem RowQuery.perm_of_arrange {query : RowQuery} {sorter : Sorter (Nat × StoredRow)}
    {rows sorted : List (Nat × StoredRow)} (h : query.arrange sorter rows = some sorted) :
    sorted.Perm rows := by
  obtain ⟨inColumn, hcolumn, rfl⟩ := Option.map_eq_some_iff.1 h
  have hperm : inColumn.Perm rows := by
    cases hsort : query.sort with
    | none =>
      rw [hsort] at hcolumn
      cases hcolumn
      exact .refl _
    | some column =>
      rw [hsort] at hcolumn
      exact sorter.perm hcolumn
  split
  · exact (List.reverse_perm _).trans hperm
  · exact hperm

/-- The query that the rows of an answer satisfy: the one that a text describes, or none if queries
are not evaluated. -/
def readAccepted (text : String) (evaluates : Bool) : Except QueryError (Option Query) :=
  if evaluates then Query.read text else .ok none

namespace StoredWorksheet

variable {ws : StoredWorksheet}

/-! ### Positions -/

theorem mem_numberedRows {position : Nat} {row : StoredRow} :
    (position, row) ∈ ws.numberedRows ↔ 1 ≤ position ∧ ws.rows[position - 1]? = some row := by
  simp only [numberedRows, List.mem_map, Prod.exists, Prod.mk.injEq, List.mem_zipIdx_iff_getElem?]
  constructor
  · rintro ⟨row', index, hrow, rfl, rfl⟩
    exact ⟨Nat.le_add_left 1 index, hrow⟩
  · rintro ⟨hposition, hrow⟩
    exact ⟨row, position - 1, hrow, Nat.sub_add_cancel hposition, rfl⟩

theorem mem_rows_of_mem_numberedRows {numbered : Nat × StoredRow} (h : numbered ∈ ws.numberedRows) :
    numbered.2 ∈ ws.rows :=
  List.mem_of_getElem? (mem_numberedRows.1 h).2

/-- Numbered rows stand in the order of their positions. -/
theorem numberedRows_eq (ws : StoredWorksheet) :
    ws.numberedRows = (ws.rows.zipIdx 1).map Prod.swap := by
  rw [List.zipIdx_succ, List.map_map, numberedRows]
  rfl

theorem map_fst_numberedRows (ws : StoredWorksheet) :
    ws.numberedRows.map Prod.fst = List.range' 1 ws.rows.length := by
  rw [numberedRows_eq, List.map_map]
  exact List.zipIdx_map_snd 1 ws.rows

/-- An identity names a row by the count that it writes. -/
theorem rowIndex?_eq_some_iff {id : String} {index : Nat} : ws.rowIndex? id = some index ↔
    count? id = some (index + 1) ∧ index + 1 ≤ ws.rows.length := by
  rw [rowIndex?, Option.bind_eq_some_iff]
  constructor
  · rintro ⟨position, hcount, hindex⟩
    split at hindex
    case isTrue hposition =>
      cases hindex
      rw [Nat.sub_add_cancel hposition.1]
      exact ⟨hcount, hposition.2⟩
    case isFalse => cases hindex
  · rintro ⟨hcount, hposition⟩
    exact ⟨index + 1, hcount, if_pos ⟨Nat.le_add_left 1 index, hposition⟩⟩

/-! ### Shown rows -/

/-- A stored row at a position as a client sees it. -/
def shown (ws : StoredWorksheet) (position : Nat) (row : StoredRow) : Row :=
  { Row.ofCells (ws.rawRow position row).cells with
    id := some (countText position)
    updated := Rfc3339.read? row.updated.cellText }

/-- A client reads a stored row, as long as its last change has a plain year. -/
theorem ofRaw_rawRow (operation : Operation) (position : Nat) {row : StoredRow}
    (h : row.updated.HasPlainYear) :
    Row.ofRaw operation (ws.rawRow position row) = .ok (ws.shown position row) := by
  obtain ⟨t, ht⟩ := Option.isSome_iff_exists.1 (Rfc3339.isSome_read?_cellText h)
  have hupdated : Rfc3339.read? (ws.rawRow position row).updated = some t := ht
  have hid : (ws.rawRow position row).id ≠ "" := countText_ne_empty position
  rw [Row.ofRaw, if_neg hid, hupdated, shown, ht]
  rfl

theorem shownAs_shown {row : StoredRow} (h : row.LiesIn ws) (position : Nat) :
    row.ShownAs (ws.shown position row) := StoredRow.shownAs_ofCells h position

/-! ### Answers to queries of rows -/

/-- A query of rows is refused if it cannot be read, and else answered with the rows that it
accepts, unless sorting them breaks off. -/
theorem queryRows_eq (ws : StoredWorksheet) (query : RowQuery) (engine : QueryEngine) :
    ws.queryRows query engine = match readAccepted query.query engine.evaluates with
      | .error e => .error (.invalidQuery e)
      | .ok accepted => match query.arrange engine.sorter (ws.acceptedRows accepted) with
        | none => .error .brokenOff
        | some rows => .ok (rows.map fun row => ws.rawRow row.1 row.2) := by
  obtain ⟨evaluates, sorter⟩ := engine
  cases evaluates with
  | false => rfl
  | true =>
    rw [queryRows, readAccepted, if_pos rfl, if_pos rfl]
    cases Query.read query.query <;> rfl

theorem queryRows_eq_ok_iff {query : RowQuery} {engine : QueryEngine} {raw : List RawRow} :
    ws.queryRows query engine = .ok raw ↔
      ∃ accepted rows, readAccepted query.query engine.evaluates = .ok accepted ∧
        query.arrange engine.sorter (ws.acceptedRows accepted) = some rows ∧
        raw = rows.map fun row => ws.rawRow row.1 row.2 := by
  rw [queryRows_eq]
  constructor
  · intro h
    split at h
    · cases h
    · split at h
      · cases h
      · exact ⟨_, _, ‹_›, ‹_›, (Except.ok.inj h).symm⟩
  · rintro ⟨accepted, rows, haccepted, hrows, rfl⟩
    rw [haccepted]
    simp only [hrows]

theorem mem_numberedRows_of_arrange {query : RowQuery} {sorter : Sorter (Nat × StoredRow)}
    {accepted : Option Query} {rows : List (Nat × StoredRow)}
    (h : query.arrange sorter (ws.acceptedRows accepted) = some rows) {row : Nat × StoredRow}
    (hrow : row ∈ rows) : row ∈ ws.numberedRows :=
  (List.mem_filter.1 ((RowQuery.perm_of_arrange h).mem_iff.1 hrow)).1

/-! ### Returned rows -/

/-- Whether the service accepts a stored row for a filter. A service that does not evaluate queries
accepts every row. -/
def accepts (evaluates : Bool) (filter : Filter) (row : StoredRow) : Bool :=
  !evaluates || filter.pushDown?.all (·.accepts row.cell)

/-- The rows that the service returns for a filter, in order. -/
def returned (ws : StoredWorksheet) (evaluates : Bool) (filter : Filter) :
    List (Nat × StoredRow) :=
  ws.numberedRows.filter fun numbered => accepts evaluates filter numbered.2

/-- The rows that the query of a filter accepts are those that are returned for the filter. -/
theorem exists_acceptedRows_eq_returned (ws : StoredWorksheet) (evaluates : Bool)
    (filter : Filter) : ∃ accepted, readAccepted filter.queryText evaluates = .ok accepted ∧
      ws.acceptedRows accepted = ws.returned evaluates filter := by
  cases evaluates with
  | false => exact ⟨none, rfl, rfl⟩
  | true =>
    refine ⟨_, Filter.read_queryText filter, List.filter_congr fun numbered _ => ?_⟩
    cases hquery : filter.pushDown? with
    | none => simp [accepts, hquery]
    | some q => simp [accepts, hquery, Query.accepts_canonical]

/-- The service answers the query of a filter with the rows returned for the filter, in the order
that is demanded, unless sorting them breaks off. -/
theorem queryRows_of_queryText (ws : StoredWorksheet) (engine : QueryEngine) {query : RowQuery}
    {filter : Filter} (hquery : query.query = filter.queryText) :
    ws.queryRows query engine =
      match query.arrange engine.sorter (ws.returned engine.evaluates filter) with
      | none => .error .brokenOff
      | some rows => .ok (rows.map fun row => ws.rawRow row.1 row.2) := by
  obtain ⟨accepted, haccepted, hrows⟩ := ws.exists_acceptedRows_eq_returned engine.evaluates filter
  rw [queryRows_eq, hquery, haccepted]
  simp only [hrows]

/-- The answer of the service to the query of a filter, in the order of the worksheet. -/
theorem queryRows_queryText (ws : StoredWorksheet) (engine : QueryEngine) (filter : Filter) :
    ws.queryRows ⟨filter.queryText, none, false⟩ engine =
      .ok ((ws.returned engine.evaluates filter).map fun numbered =>
        ws.rawRow numbered.1 numbered.2) :=
  ws.queryRows_of_queryText engine rfl

/-! ### Found rows -/

/-- Whether a filter means a stored row at a position. -/
def means (ws : StoredWorksheet) (filter : Filter) (numbered : Nat × StoredRow) : Bool :=
  filter.holds (ws.shown numbered.1 numbered.2)

/-- The rows that a find returns: all rows that are returned and meant, or the first returned row if
it is meant. -/
def found (ws : StoredWorksheet) (evaluates : Bool) (filter : Filter) (all : Bool) :
    List (Nat × StoredRow) :=
  ((Client.allOrFirst all).window (ws.returned evaluates filter)).filter (ws.means filter)

/-- The first row that the service returns. -/
def firstReturned? (ws : StoredWorksheet) (evaluates : Bool) (filter : Filter) :
    Option (Nat × StoredRow) := (ws.returned evaluates filter).head?

/-- The first row that a filter means. -/
def firstMeant? (ws : StoredWorksheet) (filter : Filter) : Option (Nat × StoredRow) :=
  ws.numberedRows.find? (ws.means filter)

/-- The row that a find of one row returns. -/
def picked? (ws : StoredWorksheet) (evaluates : Bool) (filter : Filter) :
    Option (Nat × StoredRow) := (ws.firstReturned? evaluates filter).filter (ws.means filter)

theorem found_first (ws : StoredWorksheet) (evaluates : Bool) (filter : Filter) :
    ws.found evaluates filter false = (ws.picked? evaluates filter).toList := by
  rw [found, picked?, firstReturned?]
  cases ws.returned evaluates filter with
  | nil => rfl
  | cons first rest =>
    show [first].filter (ws.means filter) = _
    rw [List.head?_cons, Option.filter_some, List.filter_cons]
    split <;> rfl

theorem found_all (ws : StoredWorksheet) (evaluates : Bool) (filter : Filter) :
    ws.found evaluates filter true =
      (ws.returned evaluates filter).filter (ws.means filter) := rfl

theorem mem_numberedRows_of_mem_found {evaluates all : Bool} {filter : Filter}
    {numbered : Nat × StoredRow} (h : numbered ∈ ws.found evaluates filter all) :
    numbered ∈ ws.numberedRows := by
  cases all with
  | true => exact (List.mem_filter.1 (List.mem_filter.1 h).1).1
  | false =>
    rw [found_first] at h
    have hpicked := Option.mem_toList.1 h
    have hreturned := (Option.filter_eq_some_iff.1 hpicked).1
    exact (List.mem_filter.1 (List.mem_of_mem_head? hreturned)).1

theorem window_sublist {α : Type} (options : FindOptions) (rows : List α) :
    (options.window rows).Sublist rows := by
  simp only [FindOptions.window]
  split
  · exact List.drop_sublist ..
  · exact List.drop_sublist ..
  · exact (List.take_sublist ..).trans (List.drop_sublist ..)

/-- The rows found stand in the order of the worksheet. -/
theorem found_sublist (ws : StoredWorksheet) (evaluates : Bool) (filter : Filter) (all : Bool) :
    (ws.found evaluates filter all).Sublist ws.numberedRows :=
  List.filter_sublist.trans ((window_sublist _ _).trans List.filter_sublist)

/-- The positions of rows in the order of the worksheet increase. -/
theorem pairwise_positions {numbered : List (Nat × StoredRow)}
    (h : numbered.Sublist ws.numberedRows) : (numbered.map Prod.fst).Pairwise (· < ·) := by
  refine List.Pairwise.sublist (h.map Prod.fst) ?_
  rw [map_fst_numberedRows]
  exact List.pairwise_lt_range'

/-- The row that a find of one row returns is the first one meant exactly if no row is meant, or the
first row that the service returns is the first one meant. -/
theorem picked?_eq_firstMeant?_iff {evaluates : Bool} {filter : Filter} :
    ws.picked? evaluates filter = ws.firstMeant? filter ↔
      ws.firstMeant? filter = none ∨
        ws.firstReturned? evaluates filter = ws.firstMeant? filter := by
  constructor
  · intro h
    cases hmeant : ws.firstMeant? filter with
    | none => exact .inl rfl
    | some numbered =>
      rw [hmeant] at h
      exact .inr (Option.filter_eq_some_iff.1 h).1
  · rintro (hnone | hreturned)
    · rw [hnone, picked?, Option.filter_eq_none_iff]
      intro numbered hfirst
      have hmem := (List.mem_filter.1 (List.mem_of_mem_head? hfirst)).1
      exact List.find?_eq_none.1 hnone numbered hmem
    · rw [picked?, hreturned]
      cases hmeant : ws.firstMeant? filter with
      | none => rfl
      | some numbered =>
        exact Option.filter_eq_some_iff.2 ⟨rfl, List.find?_some hmeant⟩

/-! ### Narrowing -/

/-- A row that is meant is accepted by the service exactly if the filter does not overlook it. -/
theorem accepts_iff_not_overlooks {filter : Filter} {numbered : Nat × StoredRow}
    (hcells : numbered.2.LiesIn ws) (hmeant : ws.means filter numbered = true) :
    accepts true filter numbered.2 = true ↔ ¬filter.Overlooks numbered.2.cell := by
  rw [← Filter.rejects_iff_overlooks (shownAs_shown hcells numbered.1) filter hmeant]
  cases hquery : filter.pushDown? with
  | none => simp [accepts, hquery, Query.not_rejects_none]
  | some q => simp [accepts, hquery, Query.rejects_some]

end StoredWorksheet

end GridStore
