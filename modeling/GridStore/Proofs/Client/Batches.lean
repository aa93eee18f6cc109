import GridStore.Proofs.Client.Writes
import GridStore.Proofs.Sorting
import GridStore.Proofs.Workbook.Deletions

/-!
# Batches of rows

What a batch of writes leads to in a worksheet that accepts each of them. Such a batch fails only
because of a failure that is due, and then the writes before it have been done.

## Main definitions

* `StoredWorksheet.overwrittenAll`, `StoredWorksheet.appendedAll`: the worksheets after batches.
* `namedPositions`: the positions that identities name.
* `Client.Deletable`: whether the rows at positions can be deleted one after another.

## Main results

* `Client.ends_updateRows`, `Client.ends_insertRows`, `Client.ends_deleteRows`: batches of rows.
* `Client.ends_deleteLoop`: deletions are made up to the first one that is not possible.
-/

namespace GridStore

/-! ### Named positions -/

/-- The positions that identities name. -/
def namedPositions (ids : List String) : List Nat := ids.map fun id => (count? id).getD 0

theorem namedPositions_map_countText {positions : List Nat}
    (hcount : ∀ position ∈ positions, count? (countText position) = some position) :
    namedPositions (positions.map countText) = positions := by
  have hid : ∀ position ∈ positions, (count? (countText position)).getD 0 = id position :=
    fun position hmem => by rw [hcount position hmem]; rfl
  rw [namedPositions, List.map_map]
  exact (List.map_congr_left hid).trans (List.map_id _)

namespace StoredWorksheet

variable {ws ws' : StoredWorksheet} {now : Instant}

/-! ### Worksheets after batches -/

/-- The worksheet with the rows at positions replaced by cells, one after another. -/
def overwrittenAll (ws : StoredWorksheet) (now : Instant) : List (Nat × Cells) → StoredWorksheet
  | [] => ws
  | (position, cells) :: rest => (ws.overwritten (position - 1) cells now).overwrittenAll now rest

/-- The worksheet with rows of cells added at its end. -/
def appendedAll (ws : StoredWorksheet) (now : Instant) : List Cells → StoredWorksheet
  | [] => ws
  | cells :: rest => (ws.appended cells now).appendedAll now rest

theorem length_overwrittenAll (writes : List (Nat × Cells)) (ws : StoredWorksheet) :
    (ws.overwrittenAll now writes).rows.length = ws.rows.length := by
  induction writes generalizing ws with
  | nil => rfl
  | cons write rest ih =>
    rw [overwrittenAll, ih]
    exact List.length_set

theorem rows_appendedAll (batch : List Cells) (ws : StoredWorksheet) :
    (ws.appendedAll now batch).rows = ws.rows ++ batch.map fun cells => ⟨now, .ofList cells⟩ := by
  induction batch generalizing ws with
  | nil => exact (List.append_nil _).symm
  | cons cells rest ih =>
    rw [appendedAll, ih, appended, List.append_assoc]
    rfl

/-- A row that no write names stays as it is. -/
theorem getElem?_overwrittenAll_of_ne {index : Nat} (writes : List (Nat × Cells))
    (ws : StoredWorksheet) (h : ∀ write ∈ writes, write.1 - 1 ≠ index) :
    (ws.overwrittenAll now writes).rows[index]? = ws.rows[index]? := by
  induction writes generalizing ws with
  | nil => rfl
  | cons write rest ih =>
    obtain ⟨hfirst, hrest⟩ := List.forall_mem_cons.1 h
    rw [overwrittenAll, ih _ hrest, overwritten, List.getElem?_set_ne hfirst]

/-- A row that one write names has the cells of that write. -/
theorem getElem?_overwrittenAll (writes : List (Nat × Cells)) (ws : StoredWorksheet)
    (hpositions : (writes.map fun write => write.1 - 1).Nodup) {write : Nat × Cells}
    (hmem : write ∈ writes) (hrange : write.1 - 1 < ws.rows.length) :
    (ws.overwrittenAll now writes).rows[write.1 - 1]? = some ⟨now, .ofList write.2⟩ := by
  induction writes generalizing ws with
  | nil => cases hmem
  | cons first rest ih =>
    rw [List.map_cons, List.nodup_cons] at hpositions
    obtain ⟨hfirst, hrest⟩ := hpositions
    rw [overwrittenAll]
    rcases List.mem_cons.1 hmem with rfl | hmem
    · have hrest : ∀ other ∈ rest, other.1 - 1 ≠ write.1 - 1 := fun other hother heq =>
        hfirst (List.mem_map.2 ⟨other, hother, heq⟩)
      rw [getElem?_overwrittenAll_of_ne rest _ hrest]
      exact List.getElem?_set_self hrange
    · exact ih _ hrest hmem (by rw [overwritten, List.length_set]; exact hrange)

/-! ### Positions -/

/-- The identity of a shown row names the row at its position. -/
theorem rowIndex?_countText {position : Nat} (hbound : ws.rows.length < wordBound)
    (hposition : 1 ≤ position ∧ position ≤ ws.rows.length) :
    ws.rowIndex? (countText position) = some (position - 1) := by
  rw [rowIndex?, count?_countText (Nat.lt_of_le_of_lt hposition.2 hbound), Option.bind_some,
    if_pos hposition]

end StoredWorksheet

namespace Client

variable {worksheet : WorksheetInfo} {c : Client MemorySheets} {ws : StoredWorksheet}
  {clock : Clock}

/-! ### One write after another -/

/-- If the first write of a batch leads to a worksheet in which the other writes are done, the batch
leads to what they lead to. If a write fails, those before it have been done: `p` is the worksheet
after a number of writes. -/
theorem ends_batch_cons {β : Type} {first : StoreM (Client MemorySheets) β}
    {others : StoreM (Client MemorySheets) (List β)} {b : β} {bs : List β}
    {p : Nat → StoredWorksheet} {last : StoredWorksheet} {n : Nat}
    (hfirst : StoreM.Ends first c (fun b' c' => Moves worksheet c (p 1) c' ∧ b' = b)
      fun _ c' => Moves worksheet c (p 0) c' ∧ c.service.faults ≠ [])
    (hothers : ∀ c₁, Moves worksheet c (p 1) c₁ →
      StoreM.Ends others c₁ (fun bs' c' => Moves worksheet c₁ last c' ∧ bs' = bs)
        fun _ c' => c₁.service.faults ≠ [] ∧
          ∃ done < n, Moves worksheet c₁ (p (done + 1)) c') :
    StoreM.Ends (do let b ← first; let bs ← others; return b :: bs) c
      (fun bs' c' => Moves worksheet c last c' ∧ bs' = b :: bs)
      (fun _ c' => c.service.faults ≠ [] ∧ ∃ done < n + 1, Moves worksheet c (p done) c') := by
  refine hfirst.andThen ?_ ?_
  · rintro e c' ⟨hmoves, hfaults⟩
    exact ⟨hfaults, 0, Nat.succ_pos _, hmoves⟩
  · rintro b' c₁ ⟨hmoves, rfl⟩
    refine (hothers c₁ hmoves).andThen ?_ ?_
    · rintro e c₂ ⟨hfaults, done, hdone, hmoves₂⟩
      exact ⟨hmoves.faults_ne hfaults, done + 1, Nat.succ_lt_succ hdone, hmoves.trans hmoves₂⟩
    · rintro bs' c₂ ⟨hmoves₂, rfl⟩
      exact StoreM.ends_pure ⟨hmoves.trans hmoves₂, rfl⟩

/-! ### Writing over rows -/

/-- Writing over a row leads to the row written, unless a failure is due. -/
theorem ends_updateRow (hclock : clock.instant.HasPlainYear)
    (hws : c.service.book.worksheet? worksheet = some ws) (hbound : ws.rows.length < wordBound)
    {position : Nat} (hposition : 1 ≤ position ∧ position ≤ ws.rows.length) {cells : Cells}
    (hknows : ws.Knows cells) :
    StoreM.Ends (ask clock (.updateRow worksheet (countText position) cells) >>=
        decodeRow .updateRow) c
      (fun row c' => Moves worksheet c (ws.overwritten (position - 1) cells clock.instant) c' ∧
        row = ws.shown position ⟨clock.instant, .ofList cells⟩)
      (fun _ c' => Moves worksheet c ws c' ∧ c.service.faults ≠ []) := by
  have hok : ws.updateRow (countText position) cells clock.instant =
      .ok (ws.rawRow (position - 1 + 1) ⟨clock.instant, .ofList cells⟩,
        ws.overwritten (position - 1) cells clock.instant) :=
    StoredWorksheet.updateRow_eq_ok_iff.2
      ⟨_, StoredWorksheet.rowIndex?_countText hbound hposition, hknows, rfl, rfl⟩
  rw [Nat.sub_add_cancel hposition.1] at hok
  refine (ends_ask_accepted hws clock (.updateRow worksheet (countText position) cells)
    (fun ws => ws.updateRow (countText position) cells clock.instant) (fun _ _ _ => rfl) rfl hok
    rfl).bind ?_
  rintro raw c' ⟨rfl, hmoves⟩
  rw [decodeRow_ofRaw (StoredWorksheet.ofRaw_rawRow .updateRow _ hclock)]
  exact StoreM.ends_pure ⟨hmoves, rfl⟩

/-- Writing over rows one after another leads to all of them written, or to those before a failure
that is due. -/
theorem ends_updateBatch (hclock : clock.instant.HasPlainYear) (writes : List (Nat × Cells))
    (hws : c.service.book.worksheet? worksheet = some ws) (hbound : ws.rows.length < wordBound)
    (hpositions : ∀ write ∈ writes, 1 ≤ write.1 ∧ write.1 ≤ ws.rows.length)
    (hknows : ∀ write ∈ writes, ws.Knows write.2) :
    StoreM.Ends ((writes.map fun write => (countText write.1, write.2)).mapM fun (id, cells) => do
        decodeRow .updateRow (← ask clock (.updateRow worksheet id cells))) c
      (fun rows c' => Moves worksheet c (ws.overwrittenAll clock.instant writes) c' ∧
        rows = writes.map fun write => ws.shown write.1 ⟨clock.instant, .ofList write.2⟩)
      (fun _ c' => c.service.faults ≠ [] ∧ ∃ done < writes.length,
        Moves worksheet c (ws.overwrittenAll clock.instant (writes.take done)) c') := by
  induction writes generalizing c ws with
  | nil => exact StoreM.ends_pure ⟨(Agrees.refl c).moves hws, rfl⟩
  | cons write rest ih =>
    obtain ⟨hposition, hpositions⟩ := List.forall_mem_cons.1 hpositions
    obtain ⟨hknown, hknows⟩ := List.forall_mem_cons.1 hknows
    have hlength : (ws.overwritten (write.1 - 1) write.2 clock.instant).rows.length =
        ws.rows.length := List.length_set
    rw [List.map_cons, List.mapM_cons]
    exact ends_batch_cons
      (p := fun done => ws.overwrittenAll clock.instant ((write :: rest).take done))
      (ends_updateRow hclock hws hbound hposition hknown) fun c₁ hmoves =>
        ih hmoves.found (hlength ▸ hbound) (hlength ▸ hpositions) hknows

/-- The identities and cells of rows that all have identities. -/
theorem mapM_identities_of_forall {rows : List Row} (hids : ∀ row ∈ rows, row.id ≠ none) :
    rows.mapM (fun row => row.id.map fun id => (id, row.cells)) =
      some (rows.map fun row => (row.id.getD "", row.cells)) := by
  induction rows with
  | nil => rfl
  | cons row rest ih =>
    obtain ⟨hid, hids⟩ := List.forall_mem_cons.1 hids
    obtain ⟨id, hid⟩ := Option.ne_none_iff_exists'.1 hid
    rw [List.mapM_cons, ih hids, hid, List.map_cons, hid]
    rfl

theorem mapM_identities_of_exists {rows : List Row} (hid : ∃ row ∈ rows, row.id = none) :
    rows.mapM (fun row => row.id.map fun id => (id, row.cells)) = none := by
  induction rows with
  | nil => exact absurd hid (by simp)
  | cons row rest ih =>
    rw [List.mapM_cons]
    cases hrow : row.id with
    | none => rfl
    | some id =>
      have hrest : ∃ row ∈ rest, row.id = none := by
        obtain ⟨other, hother, hnone⟩ := hid
        rcases List.mem_cons.1 hother with rfl | hother
        · rw [hrow] at hnone
          cases hnone
        · exact ⟨other, hother, hnone⟩
      rw [ih hrest]
      rfl

/-- The identities and cells of rows with positions as identities. -/
theorem mapM_writes {writes : List (Nat × Row)}
    (hids : ∀ write ∈ writes, write.2.id = some (countText write.1)) :
    (writes.map Prod.snd).mapM (fun row => row.id.map fun id => (id, row.cells)) =
      some (writes.map fun write => (countText write.1, write.2.cells)) := by
  have hsome : ∀ row ∈ writes.map Prod.snd, row.id ≠ none :=
    List.forall_mem_map.2 fun write hmem => by rw [hids write hmem]; exact nofun
  rw [mapM_identities_of_forall hsome, List.map_map]
  refine congrArg some (List.map_congr_left fun write hmem => ?_)
  show (write.2.id.getD "", write.2.cells) = _
  rw [hids write hmem]
  rfl

/-- Updating rows at positions leads to all of them written, or to those before a failure that is
due. -/
theorem ends_updateRows (hclock : clock.instant.HasPlainYear) {writes : List (Nat × Row)}
    (hids : ∀ write ∈ writes, write.2.id = some (countText write.1))
    (hws : c.service.book.worksheet? worksheet = some ws) (hbound : ws.rows.length < wordBound)
    (hpositions : ∀ write ∈ writes, 1 ≤ write.1 ∧ write.1 ≤ ws.rows.length)
    (hknows : ∀ write ∈ writes, ws.Knows write.2.cells) :
    StoreM.Ends (updateRows clock worksheet (writes.map Prod.snd)) c
      (fun rows c' => Moves worksheet c
          (ws.overwrittenAll clock.instant (writes.map fun write => (write.1, write.2.cells))) c' ∧
        rows = writes.map fun write => ws.shown write.1 ⟨clock.instant, .ofList write.2.cells⟩)
      (fun _ c' => c.service.faults ≠ [] ∧ ∃ done < writes.length, Moves worksheet c
        (ws.overwrittenAll clock.instant
          ((writes.take done).map fun write => (write.1, write.2.cells))) c') := by
  rw [updateRows, mapM_writes hids]
  simp only
  split
  case isTrue hempty =>
    cases writes with
    | nil => exact StoreM.ends_pure ⟨(Agrees.refl c).moves hws, rfl⟩
    | cons => cases hempty
  case isFalse =>
    have hbatch := ends_updateBatch hclock (writes.map fun write => (write.1, write.2.cells)) hws
      hbound (List.forall_mem_map.2 hpositions) (List.forall_mem_map.2 hknows)
    rw [List.map_map] at hbatch
    refine ends_forgetting (hbatch.mono ?_ ?_)
    · rintro rows c' ⟨hmoves, rfl⟩
      exact ⟨hmoves.forget, List.map_map⟩
    · rintro e c' ⟨hfaults, done, hdone, hmoves⟩
      rw [List.length_map] at hdone
      rw [← List.map_take] at hmoves
      exact ⟨hfaults, done, hdone, hmoves.forget⟩

/-! ### Adding rows -/

/-- Adding a row leads to the row at the end, unless a failure is due. -/
theorem ends_insertRow (hclock : clock.instant.HasPlainYear)
    (hws : c.service.book.worksheet? worksheet = some ws) {cells : Cells}
    (hknows : ws.Knows cells) :
    StoreM.Ends (ask clock (.insertRow worksheet cells) >>= decodeRow .insertRow) c
      (fun row c' => Moves worksheet c (ws.appended cells clock.instant) c' ∧
        row = ws.shown (ws.rows.length + 1) ⟨clock.instant, .ofList cells⟩)
      (fun _ c' => Moves worksheet c ws c' ∧ c.service.faults ≠ []) := by
  have hok : ws.insertRow cells clock.instant =
      .ok (ws.rawRow (ws.rows.length + 1) ⟨clock.instant, .ofList cells⟩,
        ws.appended cells clock.instant) :=
    StoredWorksheet.insertRow_eq_ok_iff.2 ⟨hknows, rfl, rfl⟩
  refine (ends_ask_accepted hws clock (.insertRow worksheet cells)
    (fun ws => ws.insertRow cells clock.instant) (fun _ _ _ => rfl) rfl hok rfl).bind ?_
  rintro raw c' ⟨rfl, hmoves⟩
  rw [decodeRow_ofRaw (StoredWorksheet.ofRaw_rawRow .insertRow _ hclock)]
  exact StoreM.ends_pure ⟨hmoves, rfl⟩

/-- Rows of cells added at the end as a client sees them. -/
def shownAppended (ws : StoredWorksheet) (now : Instant) (batch : List Cells) : List Row :=
  (batch.zipIdx (ws.rows.length + 1)).map fun (cells, position) =>
    ws.shown position ⟨now, .ofList cells⟩

theorem shownAppended_cons (ws : StoredWorksheet) (now : Instant) (cells : Cells)
    (rest : List Cells) : shownAppended ws now (cells :: rest) =
      ws.shown (ws.rows.length + 1) ⟨now, .ofList cells⟩ ::
        shownAppended (ws.appended cells now) now rest := by
  have hlength : (ws.appended cells now).rows.length = ws.rows.length + 1 := by
    rw [StoredWorksheet.appended, List.length_append, List.length_singleton]
  rw [shownAppended, shownAppended, hlength, List.zipIdx_cons]
  rfl

/-- Adding rows one after another leads to all of them added, or to those before a failure that is
due. -/
theorem ends_insertBatch (hclock : clock.instant.HasPlainYear) (rows : List Row)
    (hws : c.service.book.worksheet? worksheet = some ws)
    (hknows : ∀ row ∈ rows, ws.Knows row.cells) :
    StoreM.Ends (rows.mapM fun row => do
        decodeRow .insertRow (← ask clock (.insertRow worksheet row.cells))) c
      (fun shown c' => Moves worksheet c (ws.appendedAll clock.instant (rows.map Row.cells)) c' ∧
        shown = shownAppended ws clock.instant (rows.map Row.cells))
      (fun _ c' => c.service.faults ≠ [] ∧ ∃ done < rows.length,
        Moves worksheet c (ws.appendedAll clock.instant ((rows.take done).map Row.cells)) c') := by
  induction rows generalizing c ws with
  | nil => exact StoreM.ends_pure ⟨(Agrees.refl c).moves hws, rfl⟩
  | cons row rest ih =>
    obtain ⟨hknown, hknows⟩ := List.forall_mem_cons.1 hknows
    rw [List.mapM_cons, List.map_cons (l := rest), shownAppended_cons]
    exact ends_batch_cons
      (p := fun done => ws.appendedAll clock.instant (((row :: rest).take done).map Row.cells))
      (ends_insertRow hclock hws hknown) fun c₁ hmoves => ih hmoves.found hknows

/-- Inserting rows leads to all of them added, or to those before a failure that is due. -/
theorem ends_insertRows (hclock : clock.instant.HasPlainYear) (rows : List Row)
    (hws : c.service.book.worksheet? worksheet = some ws)
    (hknows : ∀ row ∈ rows, ws.Knows row.cells) :
    StoreM.Ends (insertRows clock worksheet rows) c
      (fun shown c' => Moves worksheet c (ws.appendedAll clock.instant (rows.map Row.cells)) c' ∧
        shown = shownAppended ws clock.instant (rows.map Row.cells))
      (fun _ c' => c.service.faults ≠ [] ∧ ∃ done < rows.length,
        Moves worksheet c (ws.appendedAll clock.instant ((rows.take done).map Row.cells)) c') := by
  rw [insertRows]
  split
  case isTrue hempty =>
    rw [List.isEmpty_iff.1 hempty]
    exact StoreM.ends_pure ⟨(Agrees.refl c).moves hws, rfl⟩
  case isFalse =>
    refine ends_forgetting ((ends_insertBatch hclock rows hws hknows).mono ?_ ?_)
    · rintro shown c' ⟨hmoves, rfl⟩
      exact ⟨hmoves.forget, rfl⟩
    · rintro e c' ⟨hfaults, done, hdone, hmoves⟩
      exact ⟨hfaults, done, hdone, hmoves.forget⟩

/-! ### Deleting rows -/

/-- A request to delete a row leads to the worksheet without the row that its identity names, unless
it names none or a failure is due. -/
theorem ends_ask_deleteRow (hws : c.service.book.worksheet? worksheet = some ws) (clock : Clock)
    (id : String) :
    StoreM.Ends (ask clock (.deleteRow worksheet id)) c
      (fun _ c' => ∃ index, ws.rowIndex? id = some index ∧
        Moves worksheet c (ws.without index clock.instant) c')
      (fun _ c' => Moves worksheet c ws c' ∧
        (c.service.faults ≠ [] ∨ ws.rowIndex? id = none)) := by
  have hends := ends_ask_change hws clock (.deleteRow worksheet id)
    (fun ws => ws.deleteRow id clock.instant) (fun _ _ _ => rfl) rfl fun u ws' h => by
      obtain ⟨index, -, rfl⟩ := StoredWorksheet.deleteRow_eq_ok_iff.1 h
      rfl
  refine hends.mono ?_ ?_
  · rintro u c' ⟨ws', hchange, hmoves⟩
    obtain ⟨index, hindex, rfl⟩ := StoredWorksheet.deleteRow_eq_ok_iff.1 hchange
    exact ⟨index, hindex, hmoves⟩
  · rintro e c' ⟨hmoves, hfaults | ⟨refusal, hrefused⟩⟩
    · exact ⟨hmoves, .inl hfaults⟩
    · refine ⟨hmoves, .inr ?_⟩
      cases hindex : ws.rowIndex? id with
      | none => rfl
      | some index =>
        rw [StoredWorksheet.deleteRow, hindex] at hrefused
        cases hrefused

/-- Whether the rows at positions can be deleted one after another: no failure is going to happen to
so many deletions, and there is a row at each position when its turn comes. -/
def Deletable (c : Client MemorySheets) (ws : StoredWorksheet) (positions : List Nat) : Prop :=
  Fault.Spares .deleteRow c.service.faults positions.length ∧ Erasable ws.rows.length positions

theorem deletable_nil (c : Client MemorySheets) (ws : StoredWorksheet) : Deletable c ws [] :=
  ⟨Fault.spares_zero _ _, trivial⟩

theorem Deletable.head {position : Nat} {rest : List Nat}
    (h : Deletable c ws (position :: rest)) :
    ¬c.service.Due .deleteRow ∧ position ≤ ws.rows.length :=
  ⟨fun hdue => hdue (Fault.spares_succ_iff.1 h.1).1, h.2.1⟩

/-- After a deletion the others have to be possible. -/
theorem deletable_cons_iff {ws' : StoredWorksheet} {position : Nat} {rest : List Nat}
    (hfirst : ¬c.service.Due .deleteRow ∧ position ≤ ws.rows.length)
    (hfaults : c'.service.faults = (Fault.strike .deleteRow c.service.faults).2)
    (hlength : ws'.rows.length = ws.rows.length - 1) :
    Deletable c ws (position :: rest) ↔ Deletable c' ws' rest := by
  rw [Deletable, Deletable, List.length_cons, Fault.spares_succ_iff, Erasable, hfaults, hlength,
    and_iff_right (Decidable.not_not.1 hfirst.1), and_iff_right hfirst.2]

theorem isOk_answer_deleteRow_iff {book : Workbook} (hws : book.worksheet? worksheet = some ws)
    {id : String} {position : Nat} (hid : count? id = some position) (hpositive : 1 ≤ position)
    (now : Instant) (newId : String) (engine : QueryEngine) :
    (book.answer now newId engine (.deleteRow worksheet id)).1.isOk = true ↔
      position ≤ ws.rows.length := by
  have hindex : ws.rowIndex? id =
      if position ≤ ws.rows.length then some (position - 1) else none := by
    rw [StoredWorksheet.rowIndex?, hid, Option.bind_some]
    simp only [hpositive, true_and]
  show (book.changeWorksheet worksheet fun ws => ws.deleteRow id now).1.isOk = true ↔ _
  rw [Workbook.changeWorksheet, hws]
  simp only
  rw [StoredWorksheet.deleteRow, hindex]
  by_cases hle : position ≤ ws.rows.length
  · rw [if_pos hle]
    exact iff_of_true rfl hle
  · rw [if_neg hle]
    exact iff_of_false Bool.false_ne_true hle

/-- The row at the position that an identity names is deleted exactly if there is one and no failure
is due. -/
theorem ends_ask_deleteRow_named (hws : c.service.book.worksheet? worksheet = some ws)
    (clock : Clock) {id : String} {position : Nat} (hid : count? id = some position)
    (hpositive : 1 ≤ position) :
    StoreM.Ends (ask clock (.deleteRow worksheet id)) c
      (fun _ c' => (¬c.service.Due .deleteRow ∧ position ≤ ws.rows.length) ∧
        Moves worksheet c (ws.without (position - 1) clock.instant) c' ∧
        c'.service.faults = (Fault.strike .deleteRow c.service.faults).2)
      (fun _ c' => ¬(¬c.service.Due .deleteRow ∧ position ≤ ws.rows.length) ∧
        Moves worksheet c ws c') := by
  have haccepted : (c.service.answer clock.instant (.deleteRow worksheet id)).1.isOk = true ↔
      ¬c.service.Due .deleteRow ∧ position ≤ ws.rows.length :=
    MemorySheets.isOk_answer_iff.trans (and_congr_right fun _ =>
      isOk_answer_deleteRow_iff hws hid hpositive ..)
  refine (ends_ask_deleteRow hws clock id).with_eq.mono ?_ ?_
  · rintro u c' ⟨hask, index, hindex, hmoves⟩
    rw [ask_apply] at hask
    obtain ⟨hanswer, rfl⟩ := Prod.mk.inj hask
    rw [(StoredWorksheet.rowIndex?_eq_some_iff.1 hindex).1] at hid
    cases hid
    exact ⟨haccepted.1 (by rw [hanswer]; rfl), hmoves, MemorySheets.faults_answer ..⟩
  · rintro e c' ⟨hask, hmoves, -⟩
    rw [ask_apply] at hask
    refine ⟨fun h => ?_, hmoves⟩
    have hok := haccepted.2 h
    rw [(Prod.mk.inj hask).1] at hok
    cases hok

/-- Rows are deleted at the positions that identities name, one after another, up to the first one
that cannot be deleted. -/
theorem ends_deleteLoop (clock : Clock) (ids : List String)
    (hws : c.service.book.worksheet? worksheet = some ws)
    (hids : ∀ id ∈ ids, ∃ position, count? id = some position ∧ 1 ≤ position) :
    StoreM.Ends (ids.forM fun id => ask clock (.deleteRow worksheet id)) c
      (fun _ c' => Deletable c ws (namedPositions ids) ∧
        Moves worksheet c (ws.withoutAll clock.instant (namedPositions ids)) c')
      (fun _ c' => ∃ done next, done ++ [next] <+: namedPositions ids ∧ Deletable c ws done ∧
        ¬Deletable c ws (done ++ [next]) ∧
        Moves worksheet c (ws.withoutAll clock.instant done) c') := by
  induction ids generalizing c ws with
  | nil => exact StoreM.ends_pure ⟨deletable_nil c ws, (Agrees.refl c).moves hws⟩
  | cons id rest ih =>
    obtain ⟨⟨position, hid, hpositive⟩, hrest⟩ := List.forall_mem_cons.1 hids
    have hnamed : namedPositions (id :: rest) = position :: namedPositions rest := by
      rw [namedPositions, List.map_cons, hid]
      rfl
    rw [hnamed]
    refine (ends_ask_deleteRow_named hws clock hid hpositive).andThen ?_ ?_
    · rintro e c₁ ⟨hrefused, hmoves⟩
      exact ⟨[], position, ⟨_, rfl⟩, deletable_nil c ws, fun h => hrefused h.head, hmoves⟩
    · rintro - c₁ ⟨haccepted, hmoves, hfaults⟩
      have hcons : ∀ positions, Deletable c ws (position :: positions) ↔
          Deletable c₁ (ws.without (position - 1) clock.instant) positions := fun positions =>
        deletable_cons_iff haccepted hfaults
          (StoredWorksheet.length_without clock.instant ⟨hpositive, haccepted.2⟩)
      refine (ih hmoves.found hrest).mono ?_ ?_
      · rintro - c₂ ⟨hdeletable, hmoves₂⟩
        exact ⟨(hcons _).2 hdeletable, hmoves.trans hmoves₂⟩
      · rintro e c₂ ⟨done, next, hstart, hdeletable, hnot, hmoves₂⟩
        exact ⟨position :: done, next, (List.prefix_cons_inj position).2 hstart,
          (hcons done).2 hdeletable, fun h => hnot ((hcons _).1 h), hmoves.trans hmoves₂⟩

/-- Deleting the rows at positions from the bottom up leads to the worksheet without them, or
without those before a failure that is due. -/
theorem ends_deleteBatch (positions : List Nat)
    (hws : c.service.book.worksheet? worksheet = some ws) (hbound : ws.rows.length < wordBound)
    (hdescending : positions.Pairwise (· > ·))
    (hpositions : ∀ position ∈ positions, 1 ≤ position ∧ position ≤ ws.rows.length) :
    StoreM.Ends ((positions.map countText).forM fun id => ask clock (.deleteRow worksheet id)) c
      (fun _ c' => Moves worksheet c (ws.withoutAll clock.instant positions) c')
      (fun _ c' => c.service.faults ≠ [] ∧ ∃ done < positions.length,
        Moves worksheet c (ws.withoutAll clock.instant (positions.take done)) c') := by
  have hcount : ∀ position ∈ positions, count? (countText position) = some position :=
    fun position hmem => count?_countText (Nat.lt_of_le_of_lt (hpositions position hmem).2 hbound)
  have hids : ∀ id ∈ positions.map countText, ∃ position, count? id = some position ∧
      1 ≤ position := List.forall_mem_map.2 fun position hmem =>
    ⟨position, hcount position hmem, (hpositions position hmem).1⟩
  have hloop := ends_deleteLoop clock (positions.map countText) hws hids
  rw [namedPositions_map_countText hcount] at hloop
  refine hloop.mono (fun _ _ h => h.2) ?_
  rintro e c' ⟨done, next, hstart, -, hnot, hmoves⟩
  refine ⟨fun hcalm => hnot ?_, done.length, ?_, ?_⟩
  · refine ⟨hcalm ▸ Fault.spares_nil _ _, ?_⟩
    exact erasable_of_descending (hdescending.sublist hstart.sublist) fun position hmem =>
      (hpositions position (hstart.subset hmem)).2
  · exact Nat.lt_of_lt_of_le (by rw [List.length_append]; exact Nat.lt_succ_self _)
      hstart.length_le
  · rwa [← List.prefix_iff_eq_take.1 ((List.prefix_append ..).trans hstart)]

/-- The identities of increasing positions are deleted in reverse. -/
theorem deletionOrder_map_countText {positions : List Nat}
    (hincreasing : positions.Pairwise (· < ·))
    (hbound : ∀ position ∈ positions, position < wordBound) :
    deletionOrder (positions.map countText) = positions.reverse.map countText := by
  have hnumbered : ((positions.map countText).mapM fun id =>
      (count? id).map fun position => (position, id)) =
      some (positions.map fun position => (position, countText position)) := by
    clear hincreasing
    induction positions with
    | nil => rfl
    | cons position rest ih =>
      obtain ⟨hposition, hrest⟩ := List.forall_mem_cons.1 hbound
      rw [List.map_cons, List.mapM_cons, count?_countText hposition, ih hrest]
      rfl
  have hsorted : sortedBy (fun a b => b.1 < a.1)
        (positions.map fun position => (position, countText position)) =
      (positions.map fun position => (position, countText position)).reverse :=
    sortedBy_eq_reverse (List.pairwise_map.2 (hincreasing.imp fun h => decide_eq_true h))
  rw [deletionOrder, hnumbered]
  simp only [hsorted]
  rw [← List.map_reverse, List.map_map]
  rfl

theorem deletionOrder_singleton (id : String) : deletionOrder [id] = [id] := by
  rw [deletionOrder, List.mapM_cons, List.mapM_nil]
  cases count? id <;> rfl

/-- Deleting the rows at increasing positions leads to the worksheet without them, or without the
last ones of them if a failure is due. -/
theorem ends_deleteRows (positions : List Nat)
    (hws : c.service.book.worksheet? worksheet = some ws) (hbound : ws.rows.length < wordBound)
    (hincreasing : positions.Pairwise (· < ·))
    (hpositions : ∀ position ∈ positions, 1 ≤ position ∧ position ≤ ws.rows.length) :
    StoreM.Ends (deleteRows clock worksheet (positions.map countText)) c
      (fun n c' => n = positions.length ∧
        Moves worksheet c (ws.withoutAll clock.instant positions.reverse) c')
      (fun _ c' => c.service.faults ≠ [] ∧ ∃ done < positions.length,
        Moves worksheet c (ws.withoutAll clock.instant (positions.reverse.take done)) c') := by
  rw [deleteRows]
  split
  case isTrue hempty =>
    have hnil : positions = [] := by simpa using hempty
    rw [hnil]
    exact StoreM.ends_pure ⟨rfl, (Agrees.refl c).moves hws⟩
  case isFalse =>
    rw [deletionOrder_map_countText hincreasing fun position hmem =>
      Nat.lt_of_le_of_lt (hpositions position hmem).2 hbound]
    have hbatch := @ends_deleteBatch worksheet c ws clock positions.reverse hws hbound
      (List.pairwise_reverse.2 hincreasing) fun position hmem =>
        hpositions position (List.mem_reverse.1 hmem)
    rw [List.length_reverse] at hbatch
    refine (ends_forgetting (hbatch.mono (fun _ _ h => h.forget) fun _ _ h => ?_)).bind
      fun _ _ h => StoreM.ends_pure ⟨List.length_map _, h⟩
    obtain ⟨hfaults, done, hdone, hmoves⟩ := h
    exact ⟨hfaults, done, hdone, hmoves.forget⟩

/-- Deleting the row with one identity leads to the worksheet without the row that the identity
names, unless it names none or a failure is due. -/
theorem ends_deleteRows_singleton (hws : c.service.book.worksheet? worksheet = some ws)
    (clock : Clock) (id : String) :
    StoreM.Ends (deleteRows clock worksheet [id]) c
      (fun n c' => n = 1 ∧ ∃ index, ws.rowIndex? id = some index ∧
        Moves worksheet c (ws.without index clock.instant) c')
      (fun _ c' => Moves worksheet c ws c' ∧
        (c.service.faults ≠ [] ∨ ws.rowIndex? id = none)) := by
  rw [deleteRows, List.isEmpty_cons, if_neg Bool.false_ne_true, deletionOrder_singleton]
  have hbatch : StoreM.Ends ([id].forM fun id => ask clock (.deleteRow worksheet id)) c
      (fun _ c' => ∃ index, ws.rowIndex? id = some index ∧
        Moves worksheet c (ws.without index clock.instant) c')
      (fun _ c' => Moves worksheet c ws c' ∧
        (c.service.faults ≠ [] ∨ ws.rowIndex? id = none)) :=
    (ends_ask_deleteRow hws clock id).bind fun _ _ h => StoreM.ends_pure h
  refine (ends_forgetting (hbatch.mono ?_ ?_)).bind fun _ _ h => StoreM.ends_pure ⟨rfl, h⟩
  · rintro - c' ⟨index, hindex, hmoves⟩
    exact ⟨index, hindex, hmoves.forget⟩
  · rintro e c' ⟨hmoves, hreason⟩
    exact ⟨hmoves.forget, hreason⟩

end Client

end GridStore
