import GridStore.Proofs.Cell.Respelling
import GridStore.Proofs.Client.Mutations
import GridStore.Proofs.Client.Reached

/-!
# Cells that an update does not name

An update by operators writes every row that it finds as a whole. The cells that no operator names
are typed and written again, so that they keep their values but not always their texts.

## Main results

* `StoredWorksheet.get?_cells_applyTo`: the cells of an updated row that no operator names.
* `Client.update_respells_unnamed`: what an update by operators does to rows and their cells.
-/

namespace GridStore

namespace StoredWorksheet

variable {ws : StoredWorksheet} {now : Instant}

/-! ### Positions of found rows -/

/-- Found rows stand at different positions. -/
theorem nodup_positions_found (ws : StoredWorksheet) (evaluates : Bool) (filter : Filter)
    (all : Bool) : ((ws.found evaluates filter all).map fun found => found.1 - 1).Nodup := by
  have hall : (ws.numberedRows.map fun numbered => numbered.1 - 1).Nodup := by
    have hpositions : (ws.numberedRows.map fun numbered => numbered.1 - 1) =
        ws.rows.zipIdx.map Prod.snd := by
      rw [numberedRows, List.map_map]
      rfl
    rw [hpositions, List.zipIdx_map_snd]
    exact List.nodup_range'
  exact ((ws.found_sublist evaluates filter all).map _).nodup hall

/-! ### Rewritten rows -/

theorem map_position_cellsOf_updates (u : Update) (numbered : List (Nat × StoredRow)) :
    ((cellsOf (ws.updates u now numbered)).map fun write => write.1 - 1) =
      numbered.map fun found => found.1 - 1 := by
  rw [cellsOf, updates, List.map_map, List.map_map]
  rfl

/-- An update writes over every row that it finds. -/
theorem getElem?_overwrittenAll_found (u : Update) {evaluates all : Bool} {filter : Filter}
    {found : Nat × StoredRow} (h : found ∈ ws.found evaluates filter all) :
    let writes := cellsOf (ws.updates u now (ws.found evaluates filter all))
    (ws.overwrittenAll now writes).rows[found.1 - 1]? =
      some ⟨now, .ofList (u.applyTo now (ws.shown found.1 found.2)).cells⟩ := by
  have hwrite : (found.1, (u.applyTo now (ws.shown found.1 found.2)).cells) ∈
      cellsOf (ws.updates u now (ws.found evaluates filter all)) :=
    List.mem_map_of_mem (List.mem_map_of_mem h)
  have hposition := position_of_mem_numberedRows (mem_numberedRows_of_mem_found h)
  refine getElem?_overwrittenAll _ ws ?_ hwrite (by simp only; omega)
  rw [map_position_cellsOf_updates]
  exact ws.nodup_positions_found evaluates filter all

/-- An update leaves every row that it does not find. -/
theorem getElem?_overwrittenAll_not_found (u : Update) {numbered : List (Nat × StoredRow)}
    {index : Nat} (h : ∀ found ∈ numbered, found.1 - 1 ≠ index) :
    (ws.overwrittenAll now (cellsOf (ws.updates u now numbered))).rows[index]? =
      ws.rows[index]? := by
  refine getElem?_overwrittenAll_of_ne _ ws fun write hwrite heq => ?_
  have hmem : index ∈ (cellsOf (ws.updates u now numbered)).map fun write => write.1 - 1 :=
    List.mem_map.2 ⟨write, hwrite, heq⟩
  rw [map_position_cellsOf_updates] at hmem
  obtain ⟨found, hfound, hindex⟩ := List.mem_map.1 hmem
  exact h found hfound hindex

/-! ### Updated cells -/

/-- A cell that no operator names is typed and written again. -/
theorem get?_cells_applyTo {ops : UpdateOps} {name : String} (hname : name ∉ ops.names)
    {row : StoredRow} (hcells : row.LiesIn ws) (now : Instant) (position : Nat) :
    (Dictionary.ofList (ops.applyTo now (ws.shown position row)).cells).get? name =
      (row.cells.get? name).map Cell.respelled := by
  have hnodup : (ops.applyTo now (ws.shown position row)).names.Nodup := by
    rw [UpdateOps.names_applyTo]
    exact nodup_names_shown position row
  rw [Row.get?_cells hnodup, UpdateOps.field?_applyTo_of_not_mem hname,
    shownAs_shown hcells position name, Option.map_map]
  rfl

theorem map_respelled_eq_iff {cell : Option String} :
    cell.map Cell.respelled = cell ↔ ∀ text, cell = some text → Cell.KeepsSpelling text := by
  cases cell with
  | none => simp
  | some text => simp [Cell.respelled_eq_iff]

end StoredWorksheet

namespace Client

variable {worksheet : WorksheetInfo} {c : Client MemorySheets} {ws : StoredWorksheet}
  {clock : Clock}

/-- An update by operators that finds rows succeeds unless a failure is due. It rewrites the rows
that it finds and no others. A cell of a rewritten row that no operator names is typed and written
again, and so it stays as it is exactly if its text keeps its spelling; where there is no cell,
there is none afterwards. -/
theorem update_respells_unnamed (hc : c.Reached) (hids : c.service.ids.Reliable)
    (hclock : clock.instant.HasPlainYear) (hws : c.service.book.worksheet? worksheet = some ws)
    (hbound : ws.rows.length < wordBound) (selector : Filter) (ops : UpdateOps)
    (options : UpdateOptions)
    (hfound : ws.found c.service.engine.evaluates selector options.multiple ≠ []) :
    StoreM.Ends (update clock worksheet selector (.operators ops) options) c
      (fun _ c' => ∃ ws', Moves worksheet c ws' c' ∧ ws'.rows.length = ws.rows.length ∧
        (∀ found ∈ ws.found c.service.engine.evaluates selector options.multiple,
          ∃ row, ws'.rows[found.1 - 1]? = some row ∧ ∀ name ∉ ops.names,
            row.cells.get? name = (found.2.cells.get? name).map Cell.respelled ∧
            (row.cells.get? name = found.2.cells.get? name ↔
              ∀ text, found.2.cells.get? name = some text → Cell.KeepsSpelling text)) ∧
        ∀ index, (∀ found ∈ ws.found c.service.engine.evaluates selector options.multiple,
          found.1 - 1 ≠ index) → ws'.rows[index]? = ws.rows[index]?)
      (fun _ _ => c.service.faults ≠ []) := by
  have hsound := hc.sound.service.worksheets (Workbook.stores_of_worksheet? hws).1
  have hends :=
    ends_update_found hc.sound hids hclock hws hbound selector (.operators ops) options hfound
  refine hends.mono ?_ ?_
  · rintro rows c' ⟨wide, -, hwide, hmoves, -⟩
    cases hwide rfl
    refine ⟨_, hmoves, StoredWorksheet.length_overwrittenAll _ ws, fun found hmem =>
      ⟨_, StoredWorksheet.getElem?_overwrittenAll_found _ hmem, fun name hname => ?_⟩,
      fun index => StoredWorksheet.getElem?_overwrittenAll_not_found _⟩
    have hrow := StoredWorksheet.mem_rows_of_mem_numberedRows
      (StoredWorksheet.mem_numberedRows_of_mem_found hmem)
    have hcells := StoredWorksheet.get?_cells_applyTo hname (hsound.liesIn found.2 hrow)
      clock.instant found.1
    exact ⟨hcells, hcells ▸ StoredWorksheet.map_respelled_eq_iff⟩
  · rintro e c' ⟨hfaults | ⟨hreplaces, -⟩, -⟩
    · exact hfaults
    · cases hreplaces

/-- A client of a worksheet with a price that has a decimal comma. -/
def holdingPrice : Client MemorySheets :=
  holding [⟨none, none, [("price", .text "3,5"), ("note", .text "x")]⟩]

/-- The row with the price. -/
def priceRow : StoredRow := ⟨sampleClock.instant, .ofList [("price", "3,5"), ("note", "x")]⟩

/-- The worksheet with the price. -/
def priceSheet : StoredWorksheet where
  id := "3f2a91c"
  title := "rows"
  updated := sampleClock.instant
  rowCount := 5000
  colCount := 50
  header := .ofList [(1, ⟨"price", sampleClock.instant⟩), (2, ⟨"note", sampleClock.instant⟩)]
  rows := [priceRow]

/-- An operator that names the other column. -/
def setNote : UpdateOps := { set := [("note", .text "y")] }

theorem worksheet?_holdingPrice :
    holdingPrice.service.book.worksheet? sampleInfo = some priceSheet := by
  decide +kernel

theorem reliable_holdingPrice : holdingPrice.service.ids.Reliable :=
  IdSupply.reliable_of_sample (by decide +kernel) (by decide +kernel)

/-- An update of the note writes the price with a point. -/
theorem update_respells_price : ∃ rows c' ws' row,
    update sampleClock sampleInfo .everything (.operators setNote) {} holdingPrice =
      (.ok rows, c') ∧
    c'.service.book.worksheet? sampleInfo = some ws' ∧ ws'.rows[0]? = some row ∧
    row.cells.get? "price" = some "3.5" := by
  have hreached : holdingPrice.Reached := reached_holding _
  have hcalm : holdingPrice.service.faults = [] := by decide +kernel
  have hbound : priceSheet.rows.length < wordBound := by decide
  have hfound : priceSheet.found holdingPrice.service.engine.evaluates .everything false =
      [(1, priceRow)] := by decide +kernel
  have hne : priceSheet.found holdingPrice.service.engine.evaluates .everything false ≠ [] := by
    rw [hfound]
    nofun
  have hends := update_respells_unnamed hreached reliable_holdingPrice plainYear_sampleClock
    worksheet?_holdingPrice hbound .everything setNote {} hne
  rcases hresult : update sampleClock sampleInfo .everything (.operators setNote) {} holdingPrice
    with ⟨e | rows, c'⟩
  · exact absurd hcalm ((StoreM.ends_error hresult).1 hends)
  · obtain ⟨ws', hmoves, -, hrows, -⟩ := (StoreM.ends_ok hresult).1 hends
    have hmem : (1, priceRow) ∈
        priceSheet.found holdingPrice.service.engine.evaluates .everything false :=
      hfound ▸ List.mem_singleton_self _
    obtain ⟨row, hrow, hcells⟩ := hrows (1, priceRow) hmem
    have hprice : priceRow.cells.get? "price" = some "3,5" := by decide +kernel
    have hpoint : Cell.respelled "3,5" = "3.5" := by decide +kernel
    have hcell := (hcells "price" (by decide)).1
    rw [hprice, Option.map_some, hpoint] at hcell
    exact ⟨rows, c', ws', row, rfl, hmoves.found, hrow, hcell⟩

/-- Not every cell that no operator names stays as it is: a decimal comma becomes a point. -/
theorem exists_unnamed_cell_changed :
    ∃ (c : Client MemorySheets) (ws ws' : StoredWorksheet) (ops : UpdateOps),
      c.Reached ∧ c.service.ids.Reliable ∧ c.service.book.worksheet? sampleInfo = some ws ∧
      (update sampleClock sampleInfo .everything (.operators ops) {} c).1.toOption.isSome ∧
      (update sampleClock sampleInfo .everything (.operators ops) {} c).2.service.book.worksheet?
        sampleInfo = some ws' ∧
      "price" ∉ ops.names ∧ (ws.rows[0]?.bind (·.cells.get? "price")) = some "3,5" ∧
      (ws'.rows[0]?.bind (·.cells.get? "price")) = some "3.5" := by
  have hok : (update sampleClock sampleInfo .everything (.operators setNote) {}
      holdingPrice).1.toOption.isSome := by decide +kernel
  have hws : (update sampleClock sampleInfo .everything (.operators setNote) {}
      holdingPrice).2.service.book.worksheet? sampleInfo = some { priceSheet with
        rows := [⟨sampleClock.instant, .ofList [("price", "3.5"), ("note", "y")]⟩] } := by
    decide +kernel
  have hbefore : (priceSheet.rows[0]?.bind (·.cells.get? "price")) = some "3,5" := by
    decide +kernel
  exact ⟨holdingPrice, priceSheet, _, setNote, reached_holding _, reliable_holdingPrice,
    worksheet?_holdingPrice, hok, hws,
    by decide, hbefore, by decide +kernel⟩

end Client

end GridStore
