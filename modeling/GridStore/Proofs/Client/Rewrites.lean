import GridStore.Proofs.Client.Appends
import GridStore.Proofs.Client.Removals
import GridStore.Proofs.Client.Untouched

/-!
# Rows that an update rewrites

An update writes the rows that it finds in their places and leaves all others as they are. What it
returns is what a find that asks for everything shows afterwards at the identities of these rows.

## Main definitions

* `StoredWorksheet.Rewrites`: whether a worksheet is another one with found rows rewritten.

## Main results

* `StoredWorksheet.rewrites_overwrittenAll`: what an update writes.
* `StoredWorksheet.filter_allShown`: one row is shown for each identity.
* `Client.update_rewrites_found`: what an update that finds rows does to the worksheet, and what it
  returns.
-/

namespace GridStore

namespace StoredWorksheet

variable {ws ws' wide : StoredWorksheet} {now : Instant}

/-! ### Rewritten worksheets -/

/-- Whether a worksheet is another one with each found row replaced in its place by the texts of the
row that is written for it, at a time, and with all other rows as they were. -/
structure Rewrites (ws ws' : StoredWorksheet) (now : Instant) (found written : List Row) :
    Prop where
  length : ws'.rows.length = ws.rows.length
  rewritten : ∀ pair ∈ found.zip written, ∃ id index, pair.1.id = some id ∧
    ws.rowIndex? id = some index ∧ ws'.rows[index]? = some ⟨now, .ofList pair.2.cells⟩
  others : ∀ index, (∀ row ∈ found, row.id.bind ws.rowIndex? ≠ some index) →
    ws'.rows[index]? = ws.rows[index]?

theorem header_overwrittenAll (writes : List (Nat × Cells)) (ws : StoredWorksheet) :
    (ws.overwrittenAll now writes).header = ws.header := by
  induction writes generalizing ws with
  | nil => rfl
  | cons write rest ih => exact ih (ws.overwritten (write.1 - 1) write.2 now)

/-- Writes over rows lead to the same rows in worksheets with the same rows. -/
theorem rows_overwrittenAll_congr (writes : List (Nat × Cells)) (h : wide.rows = ws.rows) :
    (wide.overwrittenAll now writes).rows = (ws.overwrittenAll now writes).rows := by
  induction writes generalizing wide ws with
  | nil => exact h
  | cons write rest ih =>
    refine ih ?_
    rw [overwritten, overwritten, h]

section

variable (u : Update) {evaluates all : Bool} {filter : Filter}

/-- The row of a worksheet that an update finds is written over, also if the worksheet has got more
columns before. -/
theorem getElem?_overwrittenAll_wide (h : wide.rows = ws.rows) {found : Nat × StoredRow}
    (hfound : found ∈ ws.found evaluates filter all) :
    (wide.overwrittenAll now (cellsOf
        (ws.updates u now (ws.found evaluates filter all)))).rows[found.1 - 1]? =
      some ⟨now, .ofList (u.applyTo now (ws.shown found.1 found.2)).cells⟩ := by
  rw [rows_overwrittenAll_congr _ h]
  exact getElem?_overwrittenAll_found u hfound

/-- An update writes the rows that it finds and no others. -/
theorem rewrites_overwrittenAll (h : wide.rows = ws.rows) (hbound : ws.rows.length < wordBound) :
    ws.Rewrites (wide.overwrittenAll now (cellsOf
        (ws.updates u now (ws.found evaluates filter all)))) now
      ((ws.found evaluates filter all).map fun found => ws.shown found.1 found.2)
      (u.apply now ((ws.found evaluates filter all).map fun found =>
        ws.shown found.1 found.2)) := by
  have hindex : ∀ found ∈ ws.found evaluates filter all,
      ws.rowIndex? (countText found.1) = some (found.1 - 1) := fun found hfound =>
    rowIndex?_countText hbound (position_of_mem_numberedRows (mem_numberedRows_of_mem_found hfound))
  refine ⟨?_, fun pair hpair => ?_, fun index hothers => ?_⟩
  · rw [length_overwrittenAll, h]
  · rw [Update.apply, List.map_map, List.zip_map'] at hpair
    obtain ⟨found, hfound, rfl⟩ := List.mem_map.1 hpair
    exact ⟨countText found.1, found.1 - 1, rfl, hindex found hfound,
      getElem?_overwrittenAll_wide u h hfound⟩
  · rw [rows_overwrittenAll_congr _ h]
    refine getElem?_overwrittenAll_not_found u fun found hfound heq => ?_
    refine hothers _ (List.mem_map_of_mem hfound) ?_
    rw [← heq]
    exact hindex found hfound

end

/-! ### Rows shown for identities -/

/-- The row at a position is the only one shown with its identity. -/
theorem filter_allShown {position : Nat} {row : StoredRow}
    (h : (position, row) ∈ ws.numberedRows) :
    (ws.allShown.filter fun shown => shown.id == some (countText position)) =
      [ws.shown position row] := by
  have hfilter : (ws.allShown.filter fun shown => shown.id == some (countText position)) =
      (ws.identified (countText position)).map fun numbered =>
        ws.shown numbered.1 numbered.2 := by
    rw [allShown, List.filter_map, identified]
    rfl
  have hpositions := identified_countText (position_of_mem_numberedRows h)
  have hmem : (position, row) ∈ ws.identified (countText position) :=
    List.mem_filter.2 ⟨h, decide_eq_true rfl⟩
  have hone : ws.identified (countText position) = [(position, row)] := by
    obtain ⟨found, hfound⟩ := List.map_eq_singleton_iff.1 hpositions |>.imp fun _ => And.left
    rw [hfound] at hmem ⊢
    rw [List.mem_singleton.1 hmem]
  rw [hfilter, hone]
  rfl

/-- What an update returns is what is shown afterwards for the identities of the rows found. -/
theorem filter_allShown_updates (u : Update) {evaluates all : Bool} {filter : Filter}
    (h : wide.rows = ws.rows) :
    let writes := ws.updates u now (ws.found evaluates filter all)
    ((ws.found evaluates filter all).map fun found =>
        (wide.overwrittenAll now (cellsOf writes)).allShown.filter fun row =>
          row.id == (ws.shown found.1 found.2).id) =
      (writes.map fun write => wide.shown write.1 ⟨now, .ofList write.2.cells⟩).map ([·]) := by
  intro writes
  have hreturned : (writes.map fun write =>
        wide.shown write.1 ⟨now, .ofList write.2.cells⟩).map ([·]) =
      (ws.found evaluates filter all).map fun found =>
        [wide.shown found.1 ⟨now, .ofList (u.applyTo now (ws.shown found.1 found.2)).cells⟩] := by
    rw [List.map_map]
    exact List.map_map
  rw [hreturned]
  refine List.map_congr_left fun found hfound => ?_
  have hposition := position_of_mem_numberedRows (mem_numberedRows_of_mem_found hfound)
  have hmem : (found.1, ⟨now, .ofList (u.applyTo now (ws.shown found.1 found.2)).cells⟩) ∈
      (wide.overwrittenAll now (cellsOf writes)).numberedRows :=
    mem_numberedRows.2 ⟨hposition.1, getElem?_overwrittenAll_wide u h hfound⟩
  have hshown := filter_allShown hmem
  rw [shown_congr (header_overwrittenAll _ wide)] at hshown
  exact hshown

end StoredWorksheet

namespace Client

variable {worksheet : WorksheetInfo} {c : Client MemorySheets} {ws : StoredWorksheet}
  {clock : Clock}

/-- An update whose find, of all rows or of the first one, returns rows fails only because of a
failure that is due, or because the worksheet has no place for the columns of a replacement. If it
succeeds, each row found is rewritten in its place with the texts of the updated row and the time of
the update, and all other rows stay as they are. Operators leave the header. The rows that it
returns are, in the order of the rows found, the only ones that a find of everything at any later
time returns for their identities. -/
theorem update_rewrites_found (hc : c.Reached) (hids : c.service.ids.Reliable)
    (hclock : clock.instant.HasPlainYear) (hws : c.service.book.worksheet? worksheet = some ws)
    (hbound : ws.rows.length < wordBound) (earlier : Clock) (selector : Filter) (u : Update)
    (options : UpdateOptions) :
    StoreM.Ends (find earlier worksheet selector (allOrFirst options.multiple)) c
      (fun found _ => found ≠ [] →
        StoreM.Ends (update clock worksheet selector u options) c
          (fun rows c' => ∃ ws', c'.service.book.worksheet? worksheet = some ws' ∧
            ws.Rewrites ws' clock.instant found (u.apply clock.instant found) ∧
            (u.isReplacement = false → ws'.header = ws.header) ∧
            ∀ later, StoreM.Ends (find later worksheet .everything {}) c'
              (fun all _ => (found.map fun row => all.filter fun shown => shown.id == row.id) =
                rows.map ([·]))
              fun _ _ => c'.service.faults ≠ [])
          fun _ _ => c.service.faults ≠ [] ∨
            u.isReplacement = true ∧ ¬ws.Accommodates (u.apply clock.instant found))
      (fun _ _ => c.service.faults ≠ []) := by
  refine (ends_find hc.sound hids hws earlier selector options.multiple).mono ?_ fun _ _ h => h.2.2
  rintro found - ⟨-, -, rfl⟩ hfound
  have hne : ws.found c.service.engine.evaluates selector options.multiple ≠ [] := by
    rintro hnil
    exact hfound (by rw [hnil]; rfl)
  have hkept := keeps_update hclock worksheet selector u options c hc.sound
  refine ((ends_update_found hc.sound hids hclock hws hbound selector u options hne).and
    Sound hkept).mono ?_ ?_
  · rintro rows c' ⟨⟨wide, hwide, hoperators, hmoves, rfl⟩, hsound⟩
    refine ⟨_, hmoves.found, StoredWorksheet.rewrites_overwrittenAll u hwide.rows hbound,
      fun hreplaces => ?_, fun later => ?_⟩
    · rw [StoredWorksheet.header_overwrittenAll, hoperators hreplaces]
    · refine (ends_findAll hsound (hmoves.ids ▸ hids) hmoves.found later).mono ?_ fun _ _ => id
      rintro all - rfl
      rw [List.map_map]
      exact StoredWorksheet.filter_allShown_updates u hwide.rows
  · rintro e c' ⟨⟨hreason, -⟩, -⟩
    rwa [map_snd_updates] at hreason

/-- An operator that sets the only field of the two rows. -/
def setBoth : UpdateOps := { set := [("a", .text "z")] }

/-- An update of both rows of the worksheet with two rows. -/
theorem update_rewrites_two : ∃ found c₁ rows c' ws',
    find sampleClock sampleInfo .everything {} holdingTwo = (.ok found, c₁) ∧
    update sampleClock sampleInfo .everything (.operators setBoth) { multiple := true } holdingTwo =
      (.ok rows, c') ∧
    c'.service.book.worksheet? sampleInfo = some ws' ∧ found.map Row.id = [some "1", some "2"] ∧
    sheetOfTwo.Rewrites ws' sampleClock.instant found
      ((Update.operators setBoth).apply sampleClock.instant found) ∧
    ws'.header = sheetOfTwo.header := by
  have hreached : holdingTwo.Reached := reached_holding _
  have hcalm : holdingTwo.service.faults = [] := by decide +kernel
  have hbound : sheetOfTwo.rows.length < wordBound := by decide
  have hends := update_rewrites_found hreached reliable_holdingTwo plainYear_sampleClock
    worksheet?_holdingTwo hbound sampleClock .everything (.operators setBoth) { multiple := true }
  have hids : ((find sampleClock sampleInfo .everything {} holdingTwo).1.toOption.map
      fun found => found.map Row.id) = some [some "1", some "2"] := by decide +kernel
  rcases hfind : find sampleClock sampleInfo .everything {} holdingTwo with ⟨e | found, c₁⟩
  · rw [hfind] at hids
    cases hids
  rw [hfind] at hids
  have hfound : found.map Row.id = [some "1", some "2"] := Option.some.inj hids
  have hne : found ≠ [] := by
    rintro rfl
    cases hfound
  have hupdate := hends.of_ok hfind hne
  rcases hresult : update sampleClock sampleInfo .everything (.operators setBoth)
    { multiple := true } holdingTwo with ⟨e | rows, c'⟩
  · rcases (StoreM.ends_error hresult).1 hupdate with hfaults | ⟨hreplaces, -⟩
    · exact absurd hcalm hfaults
    · cases hreplaces
  · obtain ⟨ws', hws', hrewrites, hheader, -⟩ := hupdate.of_ok hresult
    exact ⟨found, c₁, rows, c', ws', rfl, rfl, hws', hfound, hrewrites, hheader rfl⟩

end Client

end GridStore
