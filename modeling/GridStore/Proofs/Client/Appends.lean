import GridStore.Proofs.Client.Headers
import GridStore.Proofs.Client.Mutations

/-!
# Rows that an insertion adds

An insertion puts its rows after those that are stored, and a find that asks for everything returns
what it returned before, followed by the rows that the insertion has returned. The stored rows are
shown as before although there may be more columns, since they have no cells in the new ones.

## Main definitions

* `StoredWorksheet.allShown`: what a find that asks for everything returns.

## Main results

* `Client.ends_findAll`: a find that asks for everything.
* `StoredWorksheet.shown_of_grown`: rows are shown as before if there are more columns at the end.
* `Client.insert_appends`: what an insertion does to the worksheet and to the finds after it.
-/

namespace GridStore

namespace StoredWorksheet

variable {ws ws' : StoredWorksheet} {now : Instant}

/-! ### Everything -/

/-- The rows that a find returns if it asks for everything. -/
def allShown (ws : StoredWorksheet) : List Row :=
  ws.numberedRows.map fun numbered => ws.shown numbered.1 numbered.2

theorem found_everything (ws : StoredWorksheet) (evaluates : Bool) :
    ws.found evaluates .everything true = ws.numberedRows := by
  have haccepted : ∀ row, accepts evaluates .everything row = true := fun row => by
    cases evaluates <;> rfl
  rw [found_all, returned, List.filter_filter]
  refine List.filter_eq_self.2 fun numbered _ => ?_
  rw [haccepted, Bool.and_true]
  rfl

/-- The rows of a worksheet with rows added are the old ones as they are shown now, and the new ones
after them. -/
theorem allShown_append {added : List StoredRow} (h : ws'.rows = ws.rows ++ added) :
    ws'.allShown = (ws.numberedRows.map fun numbered => ws'.shown numbered.1 numbered.2) ++
      (added.zipIdx (ws.rows.length + 1)).map fun (row, position) => ws'.shown position row := by
  rw [allShown, numberedRows_eq, h, List.zipIdx_append, List.map_append, List.map_append,
    ← numberedRows_eq, List.map_map, Nat.add_comm 1]
  rfl

/-! ### More columns -/

/-- The cells of a row are shown as before if there are more columns at the end. -/
theorem rawRow_of_grown (hstarts : ws.columnNames <+: ws'.columnNames)
    (hdistinct : ws'.columnNames.Nodup) {row : StoredRow} (hcells : row.LiesIn ws)
    (position : Nat) : ws'.rawRow position row = ws.rawRow position row := by
  obtain ⟨added, hadded⟩ := hstarts
  rw [← hadded, List.nodup_append] at hdistinct
  have hnone : (added.filterMap fun name => (row.cells.get? name).map (name, ·)) = [] := by
    refine List.filterMap_eq_nil_iff.2 fun name hname => ?_
    cases hcell : row.cells.get? name with
    | none => rfl
    | some text =>
      -- a cell stands in a column that was there before
      have hold := hcells name (Dictionary.mem_keys_of_get? hcell)
      exact absurd rfl (hdistinct.2.2 name hold name hname)
  rw [rawRow, rawRow, ← hadded, List.filterMap_append, hnone, List.append_nil]

/-- A row is shown as before if there are more columns at the end. -/
theorem shown_of_grown (hstarts : ws.columnNames <+: ws'.columnNames)
    (hdistinct : ws'.columnNames.Nodup) {row : StoredRow} (hcells : row.LiesIn ws)
    (position : Nat) : ws'.shown position row = ws.shown position row := by
  rw [shown, shown, rawRow_of_grown hstarts hdistinct hcells]

/-! ### Added rows -/

theorem header_appendedAll (now : Instant) (batch : List Cells) (ws : StoredWorksheet) :
    (ws.appendedAll now batch).header = ws.header := by
  induction batch generalizing ws with
  | nil => rfl
  | cons cells rest ih => exact ih (ws.appended cells now)

/-- Rows are shown as in any worksheet with the same header. -/
theorem shown_congr (h : ws'.header = ws.header) (position : Nat) (row : StoredRow) :
    ws'.shown position row = ws.shown position row := by
  have hnames : ws'.columnNames = ws.columnNames := by rw [columnNames, h, columnNames]
  rw [shown, shown, rawRow, rawRow, hnames]

/-- The rows of a worksheet that has got columns at the end and then rows are those that it had, and
those that have been added. -/
theorem allShown_appendedAll (hsound : ws.Sound) {wide : StoredWorksheet}
    (hrows : wide.rows = ws.rows) (hstarts : ws.columnNames <+: wide.columnNames)
    (hdistinct : wide.columnNames.Nodup) (batch : List Cells) :
    (wide.appendedAll now batch).allShown =
      ws.allShown ++ Client.shownAppended wide now batch := by
  have hheader := header_appendedAll now batch wide
  have hadded : (wide.appendedAll now batch).rows =
      ws.rows ++ batch.map fun cells => ⟨now, .ofList cells⟩ := hrows ▸ rows_appendedAll batch wide
  rw [allShown_append hadded]
  congr 1
  · refine List.map_congr_left fun numbered hmem => ?_
    rw [shown_congr hheader]
    exact shown_of_grown hstarts hdistinct
      (hsound.liesIn numbered.2 (mem_rows_of_mem_numberedRows hmem)) numbered.1
  · rw [List.zipIdx_map, List.map_map, Client.shownAppended, hrows]
    exact List.map_congr_left fun added _ => shown_congr hheader _ _

end StoredWorksheet

namespace Client

variable {worksheet : WorksheetInfo} {c : Client MemorySheets} {ws : StoredWorksheet}
  {clock : Clock}

/-- A find that asks for everything returns all rows of the worksheet as it is, and fails only
because of a failure that is due. -/
theorem ends_findAll (hc : c.Sound) (hids : c.service.ids.Reliable)
    (hws : c.service.book.worksheet? worksheet = some ws) (clock : Clock) :
    StoreM.Ends (find clock worksheet .everything {}) c (fun rows _ => rows = ws.allShown)
      (fun _ _ => c.service.faults ≠ []) := by
  refine (ends_find hc hids hws clock .everything true).mono ?_ fun _ _ h => h.2.2
  rintro rows c' ⟨-, -, rfl⟩
  rw [StoredWorksheet.found_everything]
  rfl

/-- The rows that an insertion returns have the positions after the last one as their identities. -/
theorem map_id_shownAppended (ws : StoredWorksheet) (now : Instant) (batch : List Cells) :
    (shownAppended ws now batch).map Row.id =
      (List.range' (ws.rows.length + 1) batch.length).map fun position =>
        some (countText position) := by
  rw [shownAppended, List.map_map, ← List.zipIdx_map_snd, List.map_map]
  rfl

/-- An insertion fails only because of a failure that is due, or because the worksheet has no place
for the columns that the rows need. If it succeeds, all fields of the rows are columns, and the
stored rows are those from before as they were and then one for each row, in order, with the texts
of its fields and the time of the insertion. The identities of the rows that it returns are the
positions after the last one, and a find of everything at any later time returns what it would have
returned before and then these rows. -/
theorem insert_appends (hc : c.Reached) (hids : c.service.ids.Reliable)
    (hclock : clock.instant.HasPlainYear) (hws : c.service.book.worksheet? worksheet = some ws)
    (rows : List Row) :
    StoreM.Ends (insert clock worksheet rows) c
      (fun shown c' => ∃ ws', c'.service.book.worksheet? worksheet = some ws' ∧
        (∀ row ∈ rows, ∀ name ∈ row.names, name ∈ ws'.columnNames) ∧
        ws'.rows = ws.rows ++ rows.map (fun row => ⟨clock.instant, .ofList row.cells⟩) ∧
        (∀ row ∈ rows, row.names.Nodup → ∀ name,
          (Dictionary.ofList row.cells).get? name = (row.field? name).map Value.cellText) ∧
        shown.map Row.id = (List.range' (ws.rows.length + 1) rows.length).map
          (fun position => some (countText position)) ∧
        ∀ earlier later : Clock,
          StoreM.Ends (find earlier worksheet .everything {}) c
            (fun before _ => StoreM.Ends (find later worksheet .everything {}) c'
              (fun after _ => after = before ++ shown) fun _ _ => c'.service.faults ≠ [])
            fun _ _ => c.service.faults ≠ [])
      (fun _ _ => c.service.faults ≠ [] ∨ ¬ws.Accommodates rows) := by
  have hsound := hc.sound.service.worksheets (Workbook.stores_of_worksheet? hws).1
  have hgrown := grownFrom_rowCall hc.headersInOrder clock worksheet (.insert rows)
  have hkept := keeps_insert hclock worksheet rows c hc.sound
  refine (((ends_insert hc.sound hclock hws rows).and (GrownFrom c.service.book) hgrown).and
    Sound hkept).mono ?_ ?_
  · rintro shown c' ⟨⟨⟨wide, hwide, hknows, hmoves, rfl⟩, hgrown⟩, hsound'⟩
    have hheader := StoredWorksheet.header_appendedAll clock.instant
      (rows.map Row.cells) wide
    have hnames : (wide.appendedAll clock.instant (rows.map Row.cells)).columnNames =
        wide.columnNames := by
      rw [StoredWorksheet.columnNames, hheader, StoredWorksheet.columnNames]
    have hstarts : ws.columnNames <+: wide.columnNames := by
      obtain ⟨ws', hws', hstarts⟩ := hgrown.grow worksheet ws hws
      rw [hmoves.found] at hws'
      cases hws'
      exact hnames ▸ hstarts
    have hdistinct : wide.columnNames.Nodup :=
      hnames ▸ (hgrown.inOrder _ _ (Workbook.stores_of_worksheet? hmoves.found).1).distinct
    refine ⟨_, hmoves.found, fun row hrow name hname => ?_, ?_, fun row _ => Row.get?_cells, ?_,
      fun earlier later => ?_⟩
    · rw [hnames]
      exact hknows row hrow name (by rwa [Row.names_cells])
    · rw [StoredWorksheet.rows_appendedAll, hwide.rows, List.map_map]
      rfl
    · rw [map_id_shownAppended, hwide.rows, List.length_map]
    · refine (ends_findAll hc.sound hids hws earlier).mono ?_ fun _ _ => id
      rintro before - rfl
      refine (ends_findAll hsound' (hmoves.ids ▸ hids) hmoves.found later).mono ?_ fun _ _ => id
      rintro after - rfl
      exact StoredWorksheet.allShown_appendedAll hsound hwide.rows hstarts hdistinct _
  · rintro e c' ⟨⟨⟨hreason, -⟩, -⟩, -⟩
    exact hreason

/-- Two rows, of which only the second one has a field in the column that there is. -/
def twoMoreRows : List Row :=
  [⟨none, none, [("b", .text "u")]⟩, ⟨none, none, [("c", .text "v"), ("a", .text "w")]⟩]

/-- Inserting two more rows into the worksheet with two rows. -/
theorem insert_appends_two : ∃ shown c' ws',
    insert sampleClock sampleInfo twoMoreRows holdingTwo = (.ok shown, c') ∧
    c'.service.book.worksheet? sampleInfo = some ws' ∧
    ws'.rows = sheetOfTwo.rows ++ [⟨sampleClock.instant, .ofList [("b", "u")]⟩,
      ⟨sampleClock.instant, .ofList [("a", "w"), ("c", "v")]⟩] ∧
    shown.map Row.id = [some "3", some "4"] ∧
    (find sampleClock sampleInfo .everything {} c').1 = .ok (sheetOfTwo.allShown ++ shown) := by
  have hreached : holdingTwo.Reached := reached_holding _
  have hcalm : holdingTwo.service.faults = [] := by decide +kernel
  have hends := insert_appends hreached reliable_holdingTwo plainYear_sampleClock
    worksheet?_holdingTwo twoMoreRows
  have hok : (insert sampleClock sampleInfo twoMoreRows holdingTwo).1.isOk = true := by
    decide +kernel
  have hcalm' : (insert sampleClock sampleInfo twoMoreRows holdingTwo).2.service.faults = [] := by
    decide +kernel
  rcases hinsert : insert sampleClock sampleInfo twoMoreRows holdingTwo with ⟨e | shown, c'⟩
  · rw [hinsert] at hok
    cases hok
  · rw [hinsert] at hcalm'
    obtain ⟨ws', hws', -, hrows, -, hids, hfinds⟩ := hends.of_ok hinsert
    refine ⟨shown, c', ws', rfl, hws', hrows.trans (by decide +kernel), hids.trans (by decide), ?_⟩
    have hbefore := ends_findAll hreached.sound reliable_holdingTwo worksheet?_holdingTwo
      sampleClock
    rcases hfirst : find sampleClock sampleInfo .everything {} holdingTwo with ⟨e | before, c₁⟩
    · exact absurd hcalm ((StoreM.ends_error hfirst).1 hbefore)
    · have hafter := (hfinds sampleClock sampleClock).of_ok hfirst
      rw [← hbefore.of_ok hfirst]
      rcases hsecond : find sampleClock sampleInfo .everything {} c' with ⟨e | after, c₂⟩
      · exact absurd hcalm' ((StoreM.ends_error hsecond).1 hafter)
      · rw [hafter.of_ok hsecond]

end Client

end GridStore
