import GridStore.Client.Documents
import GridStore.Proofs.Client.Batches
import GridStore.Proofs.Client.Columns
import GridStore.Proofs.Update.Fields

/-!
# Inserting, updating and removing rows

What the row operations of a client make of a worksheet. A call that fails has failed because of a
failure that is due, or because the worksheet has no place for the columns that the call needs.

## Main definitions

* `StoredWorksheet.updates`: the rows with an update applied, as they are written.

## Main results

* `Client.ends_insert`: what an insertion leads to.
* `Client.ends_update_found`, `ends_update_none`: what an update leads to if it finds rows, and if
  it finds none.
* `Client.ends_remove`: what a removal leads to.
* `Client.findDocument_of_ok`, `insertDocuments_of_ok`, `updateDocument_of_ok`,
  `removeDocument_of_ok`: calls with documents that can be read.
-/

namespace GridStore

/-! ### Rows that are written -/

namespace StoredWorksheet

variable {ws : StoredWorksheet}

/-- The fields of a shown row are columns. -/
theorem mem_columnNames_of_mem_names_shown {position : Nat} {row : StoredRow} {name : String}
    (h : name ∈ (ws.shown position row).names) : name ∈ ws.columnNames := by
  rcases Row.mem_names_setAll h with hempty | hcell
  · cases hempty
  · obtain ⟨field, hfield, rfl⟩ := List.mem_map.1 hcell
    obtain ⟨cell, hmem, rfl⟩ := List.mem_map.1 hfield
    obtain ⟨column, hcolumn, htext⟩ := List.mem_filterMap.1 hmem
    obtain ⟨text, -, rfl⟩ := Option.map_eq_some_iff.1 htext
    exact hcolumn

theorem nodup_names_shown (position : Nat) (row : StoredRow) :
    (ws.shown position row).names.Nodup :=
  @Row.nodup_names_setAll .empty List.nodup_nil _

/-- The rows at positions with an update applied, as they are written. -/
def updates (ws : StoredWorksheet) (u : Update) (now : Instant)
    (numbered : List (Nat × StoredRow)) : List (Nat × Row) :=
  numbered.map fun (position, row) => (position, u.applyTo now (ws.shown position row))

/-- The positions of rows with their cells. -/
def cellsOf (writes : List (Nat × Row)) : List (Nat × Cells) :=
  writes.map fun (position, row) => (position, row.cells)

theorem id_of_mem_updates {u : Update} {now : Instant} {numbered : List (Nat × StoredRow)}
    {write : Nat × Row} (h : write ∈ ws.updates u now numbered) :
    write.2.id = some (countText write.1) := by
  obtain ⟨found, -, rfl⟩ := List.mem_map.1 h
  exact u.id_applyTo now (ws.shown found.1 found.2)

/-- The columns are enough for a row that operators change. -/
theorem knows_applyTo (ops : UpdateOps) (now : Instant) (position : Nat) (row : StoredRow) :
    ws.Knows (ops.applyTo now (ws.shown position row)).cells := by
  intro name hname
  rw [Row.names_cells, UpdateOps.names_applyTo] at hname
  exact mem_columnNames_of_mem_names_shown hname

theorem knows_of_mem_updates {ops : UpdateOps} {now : Instant} {numbered : List (Nat × StoredRow)}
    {write : Nat × Row} (h : write ∈ ws.updates (.operators ops) now numbered) :
    ws.Knows write.2.cells := by
  obtain ⟨found, -, rfl⟩ := List.mem_map.1 h
  exact knows_applyTo ops now found.1 found.2

/-- A worksheet has columns for rows that need no others. -/
theorem accommodates_of_knows {rows : List Row} (h : ∀ row ∈ rows, ws.Knows row.cells) :
    ws.Accommodates rows := by
  refine .inl (List.eq_nil_iff_forall_not_mem.2 fun name hname => ?_)
  obtain ⟨hfield, hcolumn⟩ := Client.mem_missingColumns.1 hname
  obtain ⟨row, hrow, hin⟩ := mem_fieldNames.1 hfield
  rw [map_cell_fieldCells] at hcolumn
  exact hcolumn (h row hrow name (by rwa [Row.names_cells]))

theorem position_of_mem_numberedRows {numbered : Nat × StoredRow} (h : numbered ∈ ws.numberedRows) :
    1 ≤ numbered.1 ∧ numbered.1 ≤ ws.rows.length := by
  obtain ⟨hpositive, hrow⟩ := mem_numberedRows.1 h
  obtain ⟨hlt, -⟩ := List.getElem?_eq_some_iff.1 hrow
  omega

end StoredWorksheet

namespace Client

variable {worksheet : WorksheetInfo} {c : Client MemorySheets} {ws : StoredWorksheet}
  {clock : Clock}

/-! ### Inserting -/

/-- Inserting rows leads to all of them at the end of the worksheet, which may have got columns. -/
theorem ends_insert (hc : c.Sound) (hclock : clock.instant.HasPlainYear)
    (hws : c.service.book.worksheet? worksheet = some ws) (rows : List Row) :
    StoreM.Ends (insert clock worksheet rows) c
      (fun shown c' => ∃ wide, ws.Widens wide ∧ (∀ row ∈ rows, wide.Knows row.cells) ∧
        Moves worksheet c (wide.appendedAll clock.instant (rows.map Row.cells)) c' ∧
        shown = shownAppended wide clock.instant (rows.map Row.cells))
      (fun _ c' => (c.service.faults ≠ [] ∨ ¬ws.Accommodates rows) ∧ ∃ wide, ws.Widens wide ∧
        ∃ done < rows.length, Moves worksheet c
          (wide.appendedAll clock.instant ((rows.take done).map Row.cells)) c') := by
  rw [insert]
  split
  case isTrue hempty =>
    rw [List.isEmpty_iff.1 hempty]
    have hnone : ∀ row ∈ ([] : List Row), ws.Knows row.cells := by
      intro row hrow
      cases hrow
    exact StoreM.ends_pure ⟨ws, .refl ws, hnone, (Agrees.refl c).moves hws, rfl⟩
  case isFalse hne =>
    have hpositive : 0 < rows.length := by
      rw [List.length_pos_iff]
      simpa using hne
    refine (ends_ensureColumns hc hws clock rows).andThen ?_ ?_
    · rintro e c' ⟨wide, hwide, hmoves, hreason⟩
      exact ⟨hreason, wide, hwide, 0, hpositive, hmoves⟩
    · rintro - c₁ ⟨wide, hwide, hmoves, hknows⟩
      refine (ends_insertRows hclock rows hmoves.found hknows).mono ?_ ?_
      · rintro shown c₂ ⟨hmoves₂, rfl⟩
        exact ⟨wide, hwide, hknows, hmoves.trans hmoves₂, rfl⟩
      · rintro e c₂ ⟨hfaults, done, hdone, hmoves₂⟩
        exact ⟨.inl (hmoves.faults_ne hfaults), wide, hwide, done, hdone, hmoves.trans hmoves₂⟩

/-! ### Updating -/

theorem map_snd_updates (u : Update) (now : Instant) (numbered : List (Nat × StoredRow)) :
    (ws.updates u now numbered).map Prod.snd =
      u.apply now (numbered.map fun found => ws.shown found.1 found.2) := by
  rw [StoredWorksheet.updates, List.map_map, Update.apply, List.map_map]
  rfl

/-- Writing the updated rows of a worksheet that may have got columns leads to all of them written,
or to those before a failure that is due. -/
theorem ends_updateRows_updates (hclock : clock.instant.HasPlainYear) {u : Update}
    {numbered : List (Nat × StoredRow)} (hnumbered : ∀ found ∈ numbered, found ∈ ws.numberedRows)
    {wide : StoredWorksheet} (hwide : ws.Widens wide) (hbound : ws.rows.length < wordBound)
    (hmoves : Moves worksheet c wide c)
    (hknows : ∀ write ∈ ws.updates u clock.instant numbered, wide.Knows write.2.cells) :
    StoreM.Ends (updateRows clock worksheet
        ((ws.updates u clock.instant numbered).map Prod.snd)) c
      (fun rows c' => Moves worksheet c (wide.overwrittenAll clock.instant
          (StoredWorksheet.cellsOf (ws.updates u clock.instant numbered))) c' ∧
        rows = (ws.updates u clock.instant numbered).map fun write =>
          wide.shown write.1 ⟨clock.instant, .ofList write.2.cells⟩)
      (fun _ c' => c.service.faults ≠ [] ∧
        ∃ done < (ws.updates u clock.instant numbered).length,
          Moves worksheet c (wide.overwrittenAll clock.instant
            (StoredWorksheet.cellsOf ((ws.updates u clock.instant numbered).take done))) c') := by
  refine ends_updateRows hclock (fun write => StoredWorksheet.id_of_mem_updates) hmoves.found
    (hwide.rows ▸ hbound) (fun write hwrite => ?_) hknows
  obtain ⟨found, hfound, rfl⟩ := List.mem_map.1 hwrite
  rw [hwide.rows]
  exact StoredWorksheet.position_of_mem_numberedRows (hnumbered found hfound)

/-- Writing updated rows after naming the columns that they need leads to all of them written, or to
those before a failure that is due, or to none if there is no place for their columns. -/
theorem ends_ensured_updates (hc : c.Sound) (hclock : clock.instant.HasPlainYear) {u : Update}
    (hws : c.service.book.worksheet? worksheet = some ws) (hbound : ws.rows.length < wordBound)
    {numbered : List (Nat × StoredRow)} (hnumbered : ∀ found ∈ numbered, found ∈ ws.numberedRows)
    (hpositive : 0 < (ws.updates u clock.instant numbered).length) :
    StoreM.Ends (do
        let _ ← ensureColumns clock worksheet ((ws.updates u clock.instant numbered).map Prod.snd)
        updateRows clock worksheet ((ws.updates u clock.instant numbered).map Prod.snd)) c
      (fun rows c' => ∃ wide, ws.Widens wide ∧ Moves worksheet c (wide.overwrittenAll clock.instant
          (StoredWorksheet.cellsOf (ws.updates u clock.instant numbered))) c' ∧
        rows = (ws.updates u clock.instant numbered).map fun write =>
          wide.shown write.1 ⟨clock.instant, .ofList write.2.cells⟩)
      (fun _ c' => (c.service.faults ≠ [] ∨
          ¬ws.Accommodates ((ws.updates u clock.instant numbered).map Prod.snd)) ∧
        ∃ wide, ws.Widens wide ∧ ∃ done < (ws.updates u clock.instant numbered).length,
          Moves worksheet c (wide.overwrittenAll clock.instant
            (StoredWorksheet.cellsOf ((ws.updates u clock.instant numbered).take done))) c') := by
  refine (ends_ensureColumns hc hws clock _).andThen ?_ ?_
  · rintro e c' ⟨wide, hwide, hmoves, hreason⟩
    exact ⟨hreason, wide, hwide, 0, hpositive, hmoves⟩
  · rintro - c₁ ⟨wide, hwide, hmoves, hknows⟩
    refine (ends_updateRows_updates hclock hnumbered hwide hbound
      ((Agrees.refl c₁).moves hmoves.found)
      fun write hwrite => hknows _ (List.mem_map_of_mem hwrite)).mono ?_ ?_
    · rintro rows c₂ ⟨hmoves₂, rfl⟩
      exact ⟨wide, hwide, hmoves.trans hmoves₂, rfl⟩
    · rintro e c₂ ⟨hfaults, done, hdone, hmoves₂⟩
      exact ⟨.inl (hmoves.faults_ne hfaults), wide, hwide, done, hdone, hmoves.trans hmoves₂⟩

/-- An update that finds rows leads to them written with the update applied, each at its position.
Only a replacement can give the worksheet more columns. -/
theorem ends_update_found (hc : c.Sound) (hids : c.service.ids.Reliable)
    (hclock : clock.instant.HasPlainYear) (hws : c.service.book.worksheet? worksheet = some ws)
    (hbound : ws.rows.length < wordBound) (selector : Filter) (u : Update)
    (options : UpdateOptions)
    (hfound : ws.found c.service.engine.evaluates selector options.multiple ≠ []) :
    let writes := ws.updates u clock.instant
      (ws.found c.service.engine.evaluates selector options.multiple)
    StoreM.Ends (update clock worksheet selector u options) c
      (fun rows c' => ∃ wide, ws.Widens wide ∧ (u.isReplacement = false → wide = ws) ∧
        Moves worksheet c (wide.overwrittenAll clock.instant (StoredWorksheet.cellsOf writes)) c' ∧
        rows = writes.map fun write =>
          wide.shown write.1 ⟨clock.instant, .ofList write.2.cells⟩)
      (fun _ c' => (c.service.faults ≠ [] ∨
          u.isReplacement = true ∧ ¬ws.Accommodates (writes.map Prod.snd)) ∧
        ∃ wide, ws.Widens wide ∧ ∃ done < writes.length, Moves worksheet c
          (wide.overwrittenAll clock.instant (StoredWorksheet.cellsOf (writes.take done))) c') := by
  intro writes
  have hnumbered : ∀ found ∈ ws.found c.service.engine.evaluates selector options.multiple,
      found ∈ ws.numberedRows := fun _ => StoredWorksheet.mem_numberedRows_of_mem_found
  have hpositive : 0 < writes.length := by
    have hlength : writes.length =
        (ws.found c.service.engine.evaluates selector options.multiple).length := List.length_map _
    rw [hlength, List.length_pos_iff]
    exact hfound
  refine (ends_find hc hids hws clock selector options.multiple).andThen ?_ ?_
  · rintro e c' ⟨-, hagrees, hfaults⟩
    exact ⟨.inl hfaults, ws, .refl ws, 0, hpositive, hagrees.moves hws⟩
  rintro matched c₁ ⟨hsound, hagrees, rfl⟩
  rw [if_neg (by simpa using hfound), ← map_snd_updates]
  have hws₁ : c₁.service.book.worksheet? worksheet = some ws := hagrees.book ▸ hws
  simp only
  split
  case isTrue hreplaces =>
    refine (ends_ensured_updates hsound hclock hws₁ hbound hnumbered hpositive).mono ?_ ?_
    · rintro rows c₂ ⟨wide, hwide, hmoves, rfl⟩
      refine ⟨wide, hwide, fun h => ?_, (hagrees.moves hws).trans hmoves, rfl⟩
      rw [hreplaces] at h
      cases h
    · rintro e c₂ ⟨hreason, wide, hwide, done, hdone, hmoves⟩
      exact ⟨hreason.imp hagrees.faults_ne fun h => ⟨hreplaces, h⟩, wide, hwide, done, hdone,
        (hagrees.moves hws).trans hmoves⟩
  case isFalse hreplaces =>
    cases u with
    | replacement document => exact absurd rfl hreplaces
    | operators ops =>
      refine (ends_updateRows_updates hclock hnumbered (.refl ws) hbound
        ((Agrees.refl c₁).moves hws₁)
        fun write => StoredWorksheet.knows_of_mem_updates).mono ?_ ?_
      · rintro rows c₂ ⟨hmoves, rfl⟩
        exact ⟨ws, .refl ws, fun _ => rfl, (hagrees.moves hws).trans hmoves, rfl⟩
      · rintro e c₂ ⟨hfaults, done, hdone, hmoves⟩
        exact ⟨.inl (hagrees.faults_ne hfaults), ws, .refl ws, done, hdone,
          (hagrees.moves hws).trans hmoves⟩

/-- An update that finds no row inserts one if it is told to, and else does nothing. -/
theorem ends_update_none (hc : c.Sound) (hids : c.service.ids.Reliable)
    (hclock : clock.instant.HasPlainYear) (hws : c.service.book.worksheet? worksheet = some ws)
    (selector : Filter) (u : Update) (options : UpdateOptions)
    (hfound : ws.found c.service.engine.evaluates selector options.multiple = []) :
    let inserted := if options.upsert then [u.upsertRow selector clock.instant] else []
    StoreM.Ends (update clock worksheet selector u options) c
      (fun rows c' => ∃ wide, ws.Widens wide ∧ (∀ row ∈ inserted, wide.Knows row.cells) ∧
        Moves worksheet c (wide.appendedAll clock.instant (inserted.map Row.cells)) c' ∧
        rows = shownAppended wide clock.instant (inserted.map Row.cells))
      (fun _ c' => (c.service.faults ≠ [] ∨ ¬ws.Accommodates inserted) ∧
        ∃ wide, ws.Widens wide ∧ Moves worksheet c wide c') := by
  intro inserted
  refine (ends_find hc hids hws clock selector options.multiple).andThen ?_ ?_
  · rintro e c' ⟨-, hagrees, hfaults⟩
    exact ⟨.inl hfaults, ws, .refl ws, hagrees.moves hws⟩
  rintro matched c₁ ⟨hsound, hagrees, rfl⟩
  have hws₁ : c₁.service.book.worksheet? worksheet = some ws := hagrees.book ▸ hws
  have hmoves := hagrees.moves hws
  rw [hfound, List.map_nil, if_pos List.isEmpty_nil]
  cases hupsert : options.upsert with
  | false =>
    have hnone : inserted = [] := if_neg (by simp [hupsert])
    rw [hnone]
    exact StoreM.ends_pure ⟨ws, .refl ws, nofun, hmoves, rfl⟩
  | true =>
    have hone : inserted = [u.upsertRow selector clock.instant] := if_pos hupsert
    rw [hone]
    refine (ends_insert hsound hclock hws₁ [u.upsertRow selector clock.instant]).mono ?_ ?_
    · rintro rows c₂ ⟨wide, hwide, hknows, hmoves₂, rfl⟩
      exact ⟨wide, hwide, hknows, hmoves.trans hmoves₂, rfl⟩
    · rintro e c₂ ⟨hreason, wide, hwide, done, hdone, hmoves₂⟩
      have hzero : done = 0 := Nat.lt_one_iff.1 hdone
      subst hzero
      exact ⟨hreason.imp_left hagrees.faults_ne, wide, hwide, hmoves.trans hmoves₂⟩

/-! ### Removing -/

/-- The identities of shown rows are those of their positions. -/
theorem filterMap_id_shown (numbered : List (Nat × StoredRow)) :
    (numbered.map fun found => ws.shown found.1 found.2).filterMap Row.id =
      (numbered.map Prod.fst).map countText := by
  rw [List.filterMap_map, List.map_map, ← List.filterMap_eq_map]
  rfl

/-- A removal by a selector other than an identity leads to the worksheet without the rows that are
found, or without the last ones of them if a failure is due. -/
theorem ends_remove (hc : c.Sound) (hids : c.service.ids.Reliable)
    (hws : c.service.book.worksheet? worksheet = some ws) (hbound : ws.rows.length < wordBound)
    (clock : Clock) {selector : Filter}
    (hselector : selector.identity? = none) (justOne : Bool) :
    let positions := (ws.found c.service.engine.evaluates selector !justOne).map Prod.fst
    StoreM.Ends (remove clock worksheet selector ⟨justOne⟩) c
      (fun n c' => n = positions.length ∧
        Moves worksheet c (ws.withoutAll clock.instant positions.reverse) c')
      (fun _ c' => c.service.faults ≠ [] ∧ ∃ done ≤ positions.length - 1,
        Moves worksheet c (ws.withoutAll clock.instant (positions.reverse.take done)) c') := by
  intro positions
  rw [remove, hselector]
  refine (ends_find hc hids hws clock selector !justOne).andThen ?_ ?_
  · rintro e c' ⟨-, hagrees, hfaults⟩
    exact ⟨hfaults, 0, Nat.zero_le _, hagrees.moves hws⟩
  rintro rows c₁ ⟨-, hagrees, rfl⟩
  have hws₁ : c₁.service.book.worksheet? worksheet = some ws := hagrees.book ▸ hws
  have hmoves := hagrees.moves hws
  rw [filterMap_id_shown]
  refine (ends_deleteRows positions hws₁ hbound
    (StoredWorksheet.pairwise_positions (ws.found_sublist ..)) fun position hmem => ?_).mono ?_ ?_
  · obtain ⟨found, hfound, rfl⟩ := List.mem_map.1 hmem
    exact StoredWorksheet.position_of_mem_numberedRows
      (StoredWorksheet.mem_numberedRows_of_mem_found hfound)
  · rintro n c₂ ⟨rfl, hmoves₂⟩
    exact ⟨rfl, hmoves.trans hmoves₂⟩
  · rintro e c₂ ⟨hfaults, done, hdone, hmoves₂⟩
    exact ⟨hagrees.faults_ne hfaults, done, Nat.le_sub_one_of_lt hdone, hmoves.trans hmoves₂⟩

/-- The worksheet without the row at a position, if there is one. -/
def withoutFound (ws : StoredWorksheet) (now : Instant) : Option (Nat × StoredRow) → StoredWorksheet
  | none => ws
  | some (position, _) => ws.without (position - 1) now

/-- The removal of one row by a selector other than an identity leads to the worksheet without the
row that is found, if there is one. -/
theorem ends_remove_first (hc : c.Sound) (hids : c.service.ids.Reliable)
    (hws : c.service.book.worksheet? worksheet = some ws) (hbound : ws.rows.length < wordBound)
    (clock : Clock) {selector : Filter}
    (hselector : selector.identity? = none) :
    StoreM.Ends (remove clock worksheet selector ⟨true⟩) c
      (fun n c' => n = (ws.picked? c.service.engine.evaluates selector).toList.length ∧
        Moves worksheet c
          (withoutFound ws clock.instant (ws.picked? c.service.engine.evaluates selector)) c')
      (fun _ c' => Moves worksheet c ws c' ∧ c.service.faults ≠ []) := by
  have hends := ends_remove hc hids hws hbound clock hselector true
  simp only [Bool.not_true, StoredWorksheet.found_first] at hends
  cases hpicked : ws.picked? c.service.engine.evaluates selector with
  | none =>
    rw [hpicked] at hends
    refine hends.mono (fun _ _ => id) fun _ _ ⟨hfaults, _, _, hmoves⟩ => ⟨?_, hfaults⟩
    rwa [Option.toList_none, List.map_nil, List.reverse_nil, List.take_nil] at hmoves
  | some found =>
    rw [hpicked] at hends
    refine hends.mono (fun _ _ => id) ?_
    rintro e c' ⟨hfaults, done, hdone, hmoves⟩
    have hzero : done = 0 := Nat.le_zero.1 hdone
    subst hzero
    exact ⟨hmoves, hfaults⟩

/-! ### Calls with documents

A call with documents that can be read is a call with what they are read as. -/

section

variable {σ : Type} [Service σ] (clock : Clock) (worksheet : WorksheetInfo)

theorem findDocument_of_ok {document : Json} {filter : Filter}
    (h : readFilter document = .ok filter) (options : FindOptions) :
    (findDocument clock worksheet document options : StoreM (Client σ) (List Row)) =
      find clock worksheet filter options := by
  rw [findDocument, h]
  rfl

theorem insertDocuments_of_ok {documents : Json} {rows : List Row}
    (h : readRows documents = .ok rows) :
    (insertDocuments clock worksheet documents : StoreM (Client σ) (List Row)) =
      insert clock worksheet rows := by
  rw [insertDocuments, h]
  rfl

theorem updateDocument_of_ok {selector change : Json} {filter : Filter} {u : Update}
    (hselector : readFilter selector = .ok filter) (hchange : Update.read change = .ok u)
    (options : UpdateOptions) :
    (updateDocument clock worksheet selector change options : StoreM (Client σ) (List Row)) =
      update clock worksheet filter u options := by
  rw [updateDocument, hselector, hchange]
  rfl

theorem removeDocument_of_ok {selector : Json} {filter : Filter}
    (h : readFilter selector = .ok filter) (options : RemoveOptions) :
    (removeDocument clock worksheet selector options : StoreM (Client σ) Nat) =
      remove clock worksheet filter options := by
  rw [removeDocument, h]
  rfl

end

end Client

end GridStore
