import GridStore.Client.Documents
import GridStore.Proofs.Client.Mutations
import GridStore.Proofs.Client.Reached
import GridStore.Proofs.Filter.Equalities

/-!
# Updating a row or inserting it

An update by a selector that demands columns to equal values inserts a row with these values if it
finds none. The same call again is meant to find that row. It does so only if every value is read
again from its cell, and if the row is the first one that the service returns or all rows are
looked at.

## Main results

* `StoredWorksheet.found_append_equating`: which rows are found after a row is added.
* `Client.upsert_again_iff`: when a second call inserts no second row.
-/

namespace GridStore

namespace StoredWorksheet

variable {ws ws' : StoredWorksheet} {row : StoredRow} {operands : List (String × Value)}

/-! ### Rows that equal values -/

/-- A row of a worksheet is meant if its typed cells equal the values that are demanded, whatever
its position. -/
theorem means_equating_iff (hcells : row.LiesIn ws)
    (hdata : ∀ operand ∈ operands, isMetaField operand.1 = false) (position : Nat) :
    ws.means (.equating operands) (position, row) = true ↔ row.Equates operands := by
  have hlookup : ∀ operand ∈ operands, (ws.shown position row).lookup operand.1 =
      (row.cells.get? operand.1).map Cell.value := fun operand hmem => by
    rw [Row.lookup_of_not_meta (hdata operand hmem), shownAs_shown hcells position]
  rw [means, Filter.holds_equating_iff]
  exact forall₂_congr fun operand hmem => by rw [hlookup operand hmem]

/-- The service accepts the rows whose typed cells equal the values that are demanded. -/
theorem accepts_of_equates (hcells : row.LiesIn ws)
    (hdata : ∀ operand ∈ operands, isMetaField operand.1 = false) (h : row.Equates operands) :
    accepts true (.equating operands) row = true := by
  have hmeant := (means_equating_iff hcells hdata 1).2 h
  exact (accepts_iff_not_overlooks hcells hmeant).2
    (Filter.not_overlooks_equating operands row.cell)

/-! ### Added rows -/

theorem numberedRows_append (h : ws'.rows = ws.rows ++ [row]) :
    ws'.numberedRows = ws.numberedRows ++ [(ws.rows.length + 1, row)] := by
  rw [numberedRows, h, List.zipIdx_append, List.map_append, numberedRows]
  simp

theorem returned_append (h : ws'.rows = ws.rows ++ [row]) (evaluates : Bool) (filter : Filter) :
    ws'.returned evaluates filter = ws.returned evaluates filter ++
      if accepts evaluates filter row then [(ws.rows.length + 1, row)] else [] := by
  rw [returned, numberedRows_append h, List.filter_append, returned, List.filter_cons]
  rfl

variable {all : Bool} (hcells : ∀ old ∈ ws.rows, old.LiesIn ws)
  (hcolumns : ∀ name ∈ ws.columnNames, name ∈ ws'.columnNames) (hrow : row.LiesIn ws')
  (hrows : ws'.rows = ws.rows ++ [row])
  (hdata : ∀ operand ∈ operands, isMetaField operand.1 = false)

include hcells hcolumns hdata in
/-- More columns do not change which rows are meant. -/
theorem means_equating_eq {numbered : Nat × StoredRow} (hmem : numbered ∈ ws.numberedRows) :
    ws'.means (.equating operands) numbered = ws.means (.equating operands) numbered := by
  have hold := hcells _ (mem_rows_of_mem_numberedRows hmem)
  have hnew : numbered.2.LiesIn ws' := fun name hname => hcolumns name (hold name hname)
  rw [Bool.eq_iff_iff, means_equating_iff hnew hdata, means_equating_iff hold hdata]

include hcells hcolumns hrow hrows hdata

/-- The rows that a find of all rows returns after a row was added, if it returned none before. -/
theorem found_all_append_equating (hnone : ws.found true (.equating operands) true = []) :
    ws'.found true (.equating operands) true =
      [(ws.rows.length + 1, row)].filter (ws'.means (.equating operands)) := by
  have hold : (ws.returned true (.equating operands)).filter (ws'.means (.equating operands)) =
      [] := by
    rw [← hnone, found_all]
    exact List.filter_congr fun numbered hmem =>
      means_equating_eq hcells hcolumns hdata (List.mem_filter.1 hmem).1
  rw [found_all, returned_append hrows, List.filter_append, hold, List.nil_append]
  by_cases hequates : row.Equates operands
  · rw [accepts_of_equates hrow hdata hequates, if_pos rfl]
  · have hmeans : ws'.means (.equating operands) (ws.rows.length + 1, row) = false :=
      Bool.eq_false_iff.2 fun h => hequates ((means_equating_iff hrow hdata _).1 h)
    rw [List.filter_cons_of_neg (by simp [hmeans])]
    split
    · rw [List.filter_cons_of_neg (by simp [hmeans])]
    · rfl

/-- The row that a find of one row returns after a row was added, if it returned none before. -/
theorem found_first_append_equating (hnone : ws.found true (.equating operands) false = []) :
    ws'.found true (.equating operands) false =
      if ws.returned true (.equating operands) = [] then
        [(ws.rows.length + 1, row)].filter (ws'.means (.equating operands))
      else [] := by
  cases hreturned : ws.returned true (.equating operands) with
  | nil =>
    -- without an earlier row that is returned, it does not matter whether all rows are looked at
    have hall : ws.found true (.equating operands) true = [] := by
      rw [found_all, hreturned]
      rfl
    rw [if_pos rfl, ← found_all_append_equating hcells hcolumns hrow hrows hdata hall, found_all,
      found_first, picked?, firstReturned?, returned_append hrows, hreturned, List.nil_append]
    split
    · rw [List.head?_cons, Option.filter_some, List.filter_cons]
      split <;> rfl
    · rfl
  | cons first rest =>
    have hmem : first ∈ ws.returned true (.equating operands) := by
      rw [hreturned]
      exact List.mem_cons_self ..
    have hfirst : first ∈ ws.numberedRows := (List.mem_filter.1 hmem).1
    have hmissed : ws'.means (.equating operands) first = false := by
      rw [means_equating_eq hcells hcolumns hdata hfirst]
      rw [found_first, picked?, firstReturned?, hreturned, List.head?_cons,
        Option.filter_some] at hnone
      refine Bool.eq_false_iff.2 fun hmeant => ?_
      rw [if_pos hmeant] at hnone
      cases hnone
    rw [if_neg (List.cons_ne_nil _ _), found_first, picked?, firstReturned?, returned_append hrows,
      hreturned, List.cons_append, List.head?_cons, Option.filter_some, hmissed]
    rfl

/-- If no row was found before a row was added, the added row is found if its typed cells equal the
values that are demanded and all rows are looked at or the service returned none before, and else no
row is found. -/
theorem found_append_equating (hnone : ws.found true (.equating operands) all = []) :
    (row.Equates operands ∧ (all = true ∨ ws.returned true (.equating operands) = []) →
        ws'.found true (.equating operands) all = [(ws.rows.length + 1, row)]) ∧
      (¬(row.Equates operands ∧ (all = true ∨ ws.returned true (.equating operands) = [])) →
        ws'.found true (.equating operands) all = []) := by
  have hmeans := means_equating_iff hrow hdata (ws.rows.length + 1)
  cases all with
  | true =>
    rw [found_all_append_equating hcells hcolumns hrow hrows hdata hnone]
    refine ⟨fun h => ?_, fun h => ?_⟩
    · rw [List.filter_cons_of_pos (hmeans.2 h.1), List.filter_nil]
    · rw [List.filter_cons_of_neg fun hmeant => h ⟨hmeans.1 hmeant, .inl rfl⟩, List.filter_nil]
  | false =>
    rw [found_first_append_equating hcells hcolumns hrow hrows hdata hnone]
    refine ⟨fun h => ?_, fun h => ?_⟩
    · rw [if_pos (h.2.resolve_left Bool.false_ne_true), List.filter_cons_of_pos (hmeans.2 h.1),
        List.filter_nil]
    · split
      · rename_i hreturned
        rw [List.filter_cons_of_neg fun hmeant => h ⟨hmeans.1 hmeant, .inr hreturned⟩,
          List.filter_nil]
      · rfl

end StoredWorksheet

/-! ### Inserted rows -/

/-- The typed cells of an inserted row equal the values that are demanded exactly if all scalars of
the document survive their cells. -/
theorem StoredRow.equates_upsertRow_iff {document : List (String × Json)}
    {operands : List (String × Value)} (hdocument : PlainEqualities document operands)
    {ops : UpdateOps} (hunnamed : ∀ operand ∈ operands, operand.1 ∉ ops.names) (now : Instant) :
    StoredRow.Equates ⟨now, .ofList (ops.upsertRow operands now).cells⟩ operands ↔
      ∀ field ∈ document, field.2.SurvivesCell := by
  rw [← forall_survivesCell_iff hdocument.scalars hdocument.values]
  refine forall₂_congr fun operand hmem => ?_
  have hfield : (Row.empty.setAll operands).field? operand.1 = some operand.2 :=
    Row.field?_setAll_of_mem hdocument.distinct hmem _
  rw [Row.get?_cells (ops.nodup_names_upsertRow operands now),
    UpdateOps.field?_upsertRow_of_not_mem (hunnamed operand hmem), hfield]
  rfl

namespace Client

variable {worksheet : WorksheetInfo} {c c' : Client MemorySheets} {ws ws' : StoredWorksheet}
  {clock : Clock} {selector : Filter} {u : Update} {options : UpdateOptions} {rows : List Row}

/-- An update that gives a worksheet more rows has found none and added one. -/
theorem appended_of_lt (hc : c.Sound) (hids : c.service.ids.Reliable)
    (hclock : clock.instant.HasPlainYear) (hws : c.service.book.worksheet? worksheet = some ws)
    (hok : update clock worksheet selector u options c = (.ok rows, c'))
    (hws' : c'.service.book.worksheet? worksheet = some ws')
    (hbound : ws'.rows.length < wordBound) (hlt : ws.rows.length < ws'.rows.length) :
    ws.found c.service.engine.evaluates selector options.multiple = [] ∧
      c'.service.engine = c.service.engine ∧ c'.service.ids = c.service.ids ∧
      (∀ name ∈ ws.columnNames, name ∈ ws'.columnNames) ∧
      ws'.Knows (u.upsertRow selector clock.instant).cells ∧
      ws'.rows = ws.rows ++
        [⟨clock.instant, .ofList (u.upsertRow selector clock.instant).cells⟩] := by
  rcases Decidable.em (ws.found c.service.engine.evaluates selector options.multiple = []) with
    hnone | hfound
  · obtain ⟨wide, hwide, hknows, hmoves, -⟩ :=
      (ends_update_none hc hids hclock hws selector u options hnone).of_ok hok
    have hsame := hmoves.found
    rw [hws'] at hsame
    cases hupsert : options.upsert with
    | false =>
      rw [hupsert] at hsame
      cases hsame
      have hrows : wide.rows.length = ws.rows.length := by rw [hwide.rows]
      exact absurd hlt (by show ¬ws.rows.length < wide.rows.length; omega)
    | true =>
      rw [hupsert] at hsame hknows
      cases hsame
      refine ⟨hnone, hmoves.engine, hmoves.ids, hwide.columns,
        hknows _ (List.mem_singleton_self _), ?_⟩
      rw [StoredWorksheet.rows_appendedAll, hwide.rows]
      rfl
  · have hbound' : ws.rows.length < wordBound := Nat.lt_trans hlt hbound
    obtain ⟨wide, hwide, -, hmoves, -⟩ :=
      (ends_update_found hc hids hclock hws hbound' selector u options hfound).of_ok hok
    have hsame := hmoves.found
    rw [hws'] at hsame
    cases hsame
    rw [StoredWorksheet.length_overwrittenAll, hwide.rows] at hlt
    exact absurd hlt (Nat.lt_irrefl _)

/-! ### Second calls -/

/-- An update by operators that finds one row succeeds, returns that row and adds none. -/
theorem exists_ok_of_found (hc : c.Sound) (hids : c.service.ids.Reliable)
    (hcalm : c.service.faults = []) (hclock : clock.instant.HasPlainYear)
    (hws : c.service.book.worksheet? worksheet = some ws) (hbound : ws.rows.length < wordBound)
    (ops : UpdateOps) {found : Nat × StoredRow}
    (hfound : ws.found c.service.engine.evaluates selector options.multiple = [found]) :
    ∃ row c' ws', update clock worksheet selector (.operators ops) options c = (.ok [row], c') ∧
      c'.service.book.worksheet? worksheet = some ws' ∧ ws'.rows.length = ws.rows.length ∧
      row.id = some (countText found.1) := by
  have hne : ws.found c.service.engine.evaluates selector options.multiple ≠ [] := by
    rw [hfound]
    nofun
  have hends := ends_update_found hc hids hclock hws hbound selector (.operators ops) options hne
  rcases hresult : update clock worksheet selector (.operators ops) options c with ⟨e | rows, c'⟩
  · obtain ⟨hfaults | ⟨hreplaces, -⟩, -⟩ := (StoreM.ends_error hresult).1 hends
    · exact absurd hcalm hfaults
    · cases hreplaces
  · obtain ⟨wide, hwide, -, hmoves, hrows⟩ := hends.of_ok hresult
    rw [hfound] at hrows
    refine ⟨_, c', _, by rw [hrows]; rfl, hmoves.found, ?_, rfl⟩
    rw [StoredWorksheet.length_overwrittenAll, hwide.rows]

/-- An update that finds no row and may insert one succeeds and adds a row, if the worksheet has the
columns of the row. -/
theorem exists_ok_of_none (hc : c.Sound) (hids : c.service.ids.Reliable)
    (hcalm : c.service.faults = []) (hclock : clock.instant.HasPlainYear)
    (hws : c.service.book.worksheet? worksheet = some ws) (hupsert : options.upsert = true)
    (hknows : ws.Knows (u.upsertRow selector clock.instant).cells)
    (hnone : ws.found c.service.engine.evaluates selector options.multiple = []) :
    ∃ row c' ws', update clock worksheet selector u options c = (.ok [row], c') ∧
      c'.service.book.worksheet? worksheet = some ws' ∧
      ws'.rows.length = ws.rows.length + 1 := by
  have hends := ends_update_none hc hids hclock hws selector u options hnone
  simp only [hupsert, if_true] at hends
  rcases hresult : update clock worksheet selector u options c with ⟨e | rows, c'⟩
  · obtain ⟨hfaults | hfull, -⟩ := (StoreM.ends_error hresult).1 hends
    · exact absurd hcalm hfaults
    · refine absurd (StoredWorksheet.accommodates_of_knows fun row hrow => ?_) hfull
      rw [List.mem_singleton.1 hrow]
      exact hknows
  · obtain ⟨wide, hwide, -, hmoves, hrows⟩ := hends.of_ok hresult
    refine ⟨_, c', _, by rw [hrows]; rfl, hmoves.found, ?_⟩
    rw [StoredWorksheet.rows_appendedAll, hwide.rows, List.length_append]
    rfl

/-- If an update by operators inserts a row for a document of equalities whose columns no operator
names, then the same call again succeeds, and it inserts no second row exactly if all scalars of the
document survive their cells, and either all rows are updated or the service returned no row before
the first call. Then it updates the row that the first call inserted. -/
theorem upsert_again_iff {document : List (String × Json)} {operands : List (String × Value)}
    (hdocument : PlainEqualities document operands) {change : Json} {ops : UpdateOps}
    (hchange : Update.read change = .ok (.operators ops))
    (hunnamed : ∀ operand ∈ operands, operand.1 ∉ ops.names) (hupsert : options.upsert = true)
    (hc : c.Reached) (hids : c.service.ids.Reliable)
    (hevaluates : c.service.engine.evaluates = true)
    (hws : c.service.book.worksheet? worksheet = some ws)
    (hclock : clock.instant.HasPlainYear)
    (hfirst : updateDocument clock worksheet (.object document) change options c = (.ok rows, c'))
    (hws' : c'.service.book.worksheet? worksheet = some ws')
    (hinserted : ws.rows.length < ws'.rows.length) (hbound : ws'.rows.length < wordBound)
    (hcalm : c'.service.faults = []) {later : Clock} (hlater : later.instant.HasPlainYear) :
    ∃ row c'' ws'',
      updateDocument later worksheet (.object document) change options c' = (.ok [row], c'') ∧
      c''.service.book.worksheet? worksheet = some ws'' ∧
      (ws''.rows.length = ws'.rows.length ↔ (∀ field ∈ document, field.2.SurvivesCell) ∧
        (options.multiple = true ∨ ws.returned true (.equating operands) = [])) ∧
      (ws''.rows.length = ws'.rows.length → row.id = some (countText ws'.rows.length)) := by
  have hselector : readFilter (.object document) = .ok (.equating operands) := by
    rw [readFilter, Filter.read_of_plainEqualities hdocument]
    rfl
  rw [updateDocument_of_ok _ _ hselector hchange] at hfirst ⊢
  have hdata : ∀ operand ∈ operands, isMetaField operand.1 = false := fun operand hmem =>
    (hdocument.columns operand hmem).1
  have hrow : ∀ now, (Update.operators ops).upsertRow (.equating operands) now =
      ops.upsertRow operands now := fun now => by
    rw [Update.upsertRow, Filter.equalities_equating fun operand hmem =>
      ⟨hdata operand hmem, hdocument.values operand hmem⟩]
  -- the first call has found nothing and added one row
  obtain ⟨hnone, hengine, hsupply, hcolumns, hknows, hrows⟩ :=
    appended_of_lt hc.sound hids hclock hws hfirst hws' hbound hinserted
  have heval : c'.service.engine.evaluates = true := by rw [hengine, hevaluates]
  have hids' : c'.service.ids.Reliable := hsupply ▸ hids
  rw [hevaluates] at hnone
  rw [hrow] at hknows hrows
  have hsound : c'.Sound := by
    have hkept := keeps_update hclock worksheet (.equating operands) (.operators ops) options c
      hc.sound
    rw [hfirst] at hkept
    exact hkept
  have hcells := (hc.sound.service.worksheets (Workbook.stores_of_worksheet? hws).1).liesIn
  have hlength : ws'.rows.length = ws.rows.length + 1 := by
    rw [hrows, List.length_append]
    rfl
  have hfound := StoredWorksheet.found_append_equating hcells hcolumns
    (StoredWorksheet.liesIn_of_knows hknows) hrows hdata hnone
  rw [StoredRow.equates_upsertRow_iff hdocument hunnamed] at hfound
  by_cases hcond : (∀ field ∈ document, field.2.SurvivesCell) ∧
      (options.multiple = true ∨ ws.returned true (.equating operands) = [])
  · obtain ⟨row, c'', ws'', hok, hws'', hsame, hid⟩ := exists_ok_of_found hsound hids' hcalm hlater
      hws' hbound ops (by rw [heval]; exact hfound.1 hcond)
    exact ⟨row, c'', ws'', hok, hws'', iff_of_true hsame hcond, fun _ => hlength ▸ hid⟩
  · have hknows' : ws'.Knows
        ((Update.operators ops).upsertRow (.equating operands) later.instant).cells := by
      intro name hname
      rw [hrow, Row.names_cells, ops.names_upsertRow_eq operands later.instant clock.instant,
        ← Row.names_cells] at hname
      exact hknows name hname
    obtain ⟨row, c'', ws'', hok, hws'', hmore⟩ := exists_ok_of_none hsound hids' hcalm hlater
      hws' hupsert hknows' (by rw [heval]; exact hfound.2 hcond)
    have hne : ws''.rows.length ≠ ws'.rows.length := by omega
    exact ⟨row, c'', ws'', hok, hws'', iff_of_false hne hcond, fun h => absurd h hne⟩

/-- A document that demands the column `key` to equal a text. -/
def keyDocument (text : String) : List (String × Json) := [("key", .text text)]

theorem plainEqualities_key (text : String) :
    PlainEqualities (keyDocument text) [("key", .text text)] where
  scalars := rfl
  columns operand hmem := by
    rw [List.mem_singleton.1 hmem]
    exact (by decide : isMetaField "key" = false ∧ Filter.isOperatorKey "key" = false)
  values operand hmem := by
    rw [List.mem_singleton.1 hmem]
    nofun
  distinct := List.pairwise_singleton _ _

/-- An operator on another column. -/
def setHits : UpdateOps := { set := [("hits", .text "x")] }

/-- The document of the operator. -/
def setHitsDocument : Json := .object [("$set", .object [("hits", .text "x")])]

theorem read_setHitsDocument : Update.read setHitsDocument = .ok (.operators setHits) := rfl

/-- The client of an empty worksheet after a call that updates the row with a key or inserts it. -/
def upsertKey (text : String) (c : Client MemorySheets) :
    Except StoreError (List Row) × Client MemorySheets :=
  updateDocument sampleClock sampleInfo (.object (keyDocument text)) setHitsDocument
    { upsert := true } c

/-- The worksheet after a row with a key was inserted. -/
def keySheet (text : String) : StoredWorksheet where
  id := "3f2a91c"
  title := "rows"
  updated := sampleClock.instant
  rowCount := 5000
  colCount := 50
  header := .ofList [(1, ⟨"key", sampleClock.instant⟩), (2, ⟨"hits", sampleClock.instant⟩)]
  rows := [⟨sampleClock.instant, .ofList [("key", text), ("hits", "x")]⟩]

/-- A key that is read again from its cell is found by the same call again. -/
theorem upsert_again_key : ∃ rows c' row c'' ws'',
    upsertKey "k1" (holding []) = (.ok rows, c') ∧ upsertKey "k1" c' = (.ok [row], c'') ∧
      c''.service.book.worksheet? sampleInfo = some ws'' ∧ ws''.rows.length = 1 := by
  have hreached : (holding []).Reached := reached_holding []
  have hids : (holding []).service.ids.Reliable :=
    IdSupply.reliable_of_sample (by decide +kernel) (by decide +kernel)
  have hevaluates : (holding []).service.engine.evaluates = true := by decide +kernel
  have hws : (holding []).service.book.worksheet? sampleInfo =
      some { keySheet "" with header := .empty, rows := [] } := by decide +kernel
  have hok : (upsertKey "k1" (holding [])).1.toOption.isSome := by decide +kernel
  have hws' : (upsertKey "k1" (holding [])).2.service.book.worksheet? sampleInfo =
      some (keySheet "k1") := by decide +kernel
  have hcalm : (upsertKey "k1" (holding [])).2.service.faults = [] := by decide +kernel
  have hreturned : StoredWorksheet.returned { keySheet "" with header := .empty, rows := [] } true
      (.equating [("key", .text "k1")]) = [] := by decide +kernel
  have hsurvives : ∀ field ∈ keyDocument "k1", field.2.SurvivesCell := fun field hmem => by
    rw [List.mem_singleton.1 hmem]
    exact ⟨by decide, by decide +kernel⟩
  rcases hresult : upsertKey "k1" (holding []) with ⟨e | rows, c'⟩
  · rw [hresult] at hok
    cases hok
  · rw [hresult] at hws' hcalm
    have hunnamed : ∀ operand ∈ [("key", Value.text "k1")], operand.1 ∉ setHits.names := by decide
    obtain ⟨row, c'', ws'', hagain, hws'', hsame, -⟩ := upsert_again_iff (plainEqualities_key "k1")
      read_setHitsDocument hunnamed rfl hreached hids hevaluates hws plainYear_sampleClock hresult
      hws' (by decide) (by decide) hcalm plainYear_sampleClock
    exact ⟨rows, c', row, c'', ws'', rfl, hagain, hws'', hsame.2 ⟨hsurvives, .inr hreturned⟩⟩

/-- Not every such call finds the row that it inserted: a key that looks like a number is inserted a
second time. -/
theorem exists_inserted_twice :
    ∃ (text : String) (c : Client MemorySheets) (ws ws' ws'' : StoredWorksheet),
      PlainEqualities (keyDocument text) [("key", .text text)] ∧
      Update.read setHitsDocument = .ok (.operators setHits) ∧ "key" ∉ setHits.names ∧
      c.Reached ∧ c.service.ids.Reliable ∧ c.service.engine.evaluates = true ∧
      c.service.book.worksheet? sampleInfo = some ws ∧
      (upsertKey text c).2.service.book.worksheet? sampleInfo = some ws' ∧
      (upsertKey text (upsertKey text c).2).2.service.book.worksheet? sampleInfo = some ws'' ∧
      ws.rows.length = 0 ∧ ws'.rows.length = 1 ∧ ws''.rows.length = 2 := by
  have hids : (holding []).service.ids.Reliable :=
    IdSupply.reliable_of_sample (by decide +kernel) (by decide +kernel)
  have hevaluates : (holding []).service.engine.evaluates = true := by decide +kernel
  have hws : (holding []).service.book.worksheet? sampleInfo =
      some { keySheet "" with header := .empty, rows := [] } := by decide +kernel
  have hws' : (upsertKey "5" (holding [])).2.service.book.worksheet? sampleInfo =
      some (keySheet "5") := by decide +kernel
  have hws'' : (upsertKey "5" (upsertKey "5" (holding [])).2).2.service.book.worksheet? sampleInfo =
      some { keySheet "5" with rows := (keySheet "5").rows ++ (keySheet "5").rows } := by
    decide +kernel
  exact ⟨"5", holding [], _, _, _, plainEqualities_key "5", read_setHitsDocument, by decide,
    reached_holding [], hids, hevaluates, hws, hws', hws'', rfl, rfl, rfl⟩

end Client

end GridStore
