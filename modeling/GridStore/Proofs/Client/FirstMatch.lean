import GridStore.Proofs.Client.Mutations
import GridStore.Proofs.Client.Reached

/-!
# Changes of one row

An update or a removal of one row is meant to change the first row that the selector means. It
looks at the first row that the service returns alone: if the selector does not mean that row, the
call finds nothing, although a later row may be meant.

## Main definitions

* `StoredWorksheet.written?`, `StoredWorksheet.rowsWith`: the row that an update of one row writes,
  and the rows of the worksheet with it.
* `Client.UpdatesAt`, `Client.RemovesAt`: whether calls act on a row of the worksheet.

## Main results

* `Client.updatesAt_picked`, `Client.removesAt_picked`: which row calls act on.
* `Client.actsOnFirstMeant_iff`: when calls act on the first row that the selector means.
-/

namespace GridStore

/-! ### First elements -/

/-- If the first element of one kind is of another kind, and the first one of that kind is of the
first kind, they are the same. -/
theorem eq_of_find?_eq_some {α : Type} {p q : α → Bool} {xs : List α} {x y : α}
    (hx : xs.find? p = some x) (hy : xs.find? q = some y) (hpy : p y = true) (hqx : q x = true) :
    x = y := by
  induction xs with
  | nil => cases hx
  | cons first rest ih =>
    rw [List.find?_cons] at hx hy
    split at hx
    case h_1 =>
      cases hx
      rw [hqx] at hy
      exact Option.some.inj hy
    case h_2 hfirst =>
      split at hy
      case h_1 =>
        cases hy
        rw [hpy] at hfirst
        cases hfirst
      case h_2 => exact ih hx hy

/-- Elements whose removals leave the same list are the same. -/
theorem getElem?_eq_of_eraseIdx_eq {α : Type} {xs : List α} {i j : Nat} (hle : i ≤ j)
    (h : xs.eraseIdx i = xs.eraseIdx j) : xs[j]? = xs[i]? := by
  have hrun : ∀ k, i + k ≤ j → xs[i + k]? = xs[i]? := by
    intro k
    induction k with
    | zero => exact fun _ => rfl
    | succ k ih =>
      intro hk
      have hleft : (xs.eraseIdx i)[i + k]? = xs[i + (k + 1)]? := by
        rw [List.getElem?_eraseIdx, if_neg (by omega), Nat.add_assoc]
      have hright : (xs.eraseIdx j)[i + k]? = xs[i + k]? := by
        rw [List.getElem?_eraseIdx, if_pos (by omega)]
      rw [← hleft, h, hright]
      exact ih (by omega)
  have hj := hrun (j - i) (by omega)
  rwa [Nat.add_sub_cancel' hle] at hj

/-! ### Written rows -/

namespace StoredWorksheet

variable {ws : StoredWorksheet} {now : Instant}

/-- The position and the row that an update of one row writes: the updated row in its place, or a
new row after the last one if there is no row to update. -/
def written? (ws : StoredWorksheet) (selector : Filter) (u : Update) (upsert : Bool)
    (now : Instant) : Option (Nat × StoredRow) → Option (Nat × Row)
  | some (position, row) => some (position, u.applyTo now (ws.shown position row))
  | none => if upsert then some (ws.rows.length + 1, u.upsertRow selector now) else none

/-- The rows of a worksheet with a row written at a position, which may be the one after the
last. -/
def rowsWith (ws : StoredWorksheet) (now : Instant) : Option (Nat × Row) → List StoredRow
  | none => ws.rows
  | some (position, row) =>
    ws.rows.take (position - 1) ++ ⟨now, .ofList row.cells⟩ :: ws.rows.drop position

/-- The rows of a worksheet without the one at a position. -/
def rowsWithout (ws : StoredWorksheet) : Option (Nat × StoredRow) → List StoredRow
  | none => ws.rows
  | some (position, _) => ws.rows.eraseIdx (position - 1)

theorem rows_overwritten {position : Nat} (h : 1 ≤ position ∧ position ≤ ws.rows.length)
    (row : Row) :
    (ws.overwritten (position - 1) row.cells now).rows =
      ws.rowsWith now (some (position, row)) := by
  rw [overwritten, List.set_eq_take_append_cons_drop, if_pos (by omega), rowsWith,
    Nat.sub_add_cancel h.1]

theorem rows_appended (row : Row) :
    (ws.appended row.cells now).rows = ws.rowsWith now (some (ws.rows.length + 1, row)) := by
  rw [appended, rowsWith, Nat.add_sub_cancel, List.take_length,
    List.drop_eq_nil_of_le (Nat.le_succ _)]

/-- A row that operators change needs no columns. -/
theorem accommodates_written?_operators (selector : Filter) (ops : UpdateOps)
    (target : Option (Nat × StoredRow)) :
    ws.Accommodates
      ((ws.written? selector (.operators ops) false now target).toList.map Prod.snd) := by
  refine accommodates_of_knows fun row hrow => ?_
  cases target with
  | none => cases hrow
  | some found =>
    rw [List.mem_singleton.1 hrow]
    exact knows_applyTo ops now found.1 found.2

theorem mem_numberedRows_of_picked? {evaluates : Bool} {selector : Filter}
    {found : Nat × StoredRow} (h : ws.picked? evaluates selector = some found) :
    found ∈ ws.numberedRows := by
  have hmem : found ∈ ws.found evaluates selector false := by
    rw [found_first, h]
    exact List.mem_singleton_self found
  exact mem_numberedRows_of_mem_found hmem

/-- Rows of a worksheet at one position are the same. -/
theorem eq_of_mem_numberedRows {found other : Nat × StoredRow} (h : found ∈ ws.numberedRows)
    (hother : other ∈ ws.numberedRows) (hposition : found.1 = other.1) : found = other := by
  obtain ⟨-, hrow⟩ := mem_numberedRows.1 h
  obtain ⟨-, hrow'⟩ := mem_numberedRows.1 hother
  rw [hposition, hrow'] at hrow
  exact Prod.ext hposition (Option.some.inj hrow).symm

theorem eq_of_positions_eq {target other : Option (Nat × StoredRow)}
    (htarget : ∀ found, target = some found → found ∈ ws.numberedRows)
    (hother : ∀ found, other = some found → found ∈ ws.numberedRows)
    (h : (target.toList.map fun found => some (countText found.1)) =
      other.toList.map fun found => some (countText found.1)) : target = other := by
  cases target with
  | none =>
    cases other with
    | none => rfl
    | some found => cases h
  | some found =>
    cases other with
    | none => cases h
    | some found' =>
      have hposition := countText_injective (Option.some.inj (List.cons.inj h).1)
      rw [eq_of_mem_numberedRows (htarget found rfl) (hother found' rfl) hposition]

/-- If the removals of the row that is found and of the first row that is meant lead to the same
rows, they are the same row. -/
theorem picked?_eq_firstMeant?_of_rowsWithout {evaluates : Bool} {selector : Filter}
    (hlength : (ws.picked? evaluates selector).toList.length =
      (ws.firstMeant? selector).toList.length)
    (hrows : ws.rowsWithout (ws.picked? evaluates selector) =
      ws.rowsWithout (ws.firstMeant? selector)) :
    ws.picked? evaluates selector = ws.firstMeant? selector := by
  cases hpicked : ws.picked? evaluates selector with
  | none =>
    cases hmeant : ws.firstMeant? selector with
    | none => rfl
    | some other => rw [hpicked, hmeant] at hlength; cases hlength
  | some found =>
    cases hmeant : ws.firstMeant? selector with
    | none => rw [hpicked, hmeant] at hlength; cases hlength
    | some other =>
      rw [hpicked, hmeant] at hrows
      obtain ⟨-, hrow⟩ := mem_numberedRows.1 (mem_numberedRows_of_picked? hpicked)
      obtain ⟨-, hrow'⟩ := mem_numberedRows.1 (List.mem_of_find?_eq_some hmeant)
      have hsame : found.2 = other.2 := by
        rcases Nat.le_total (found.1 - 1) (other.1 - 1) with hle | hle
        · rw [getElem?_eq_of_eraseIdx_eq hle hrows, hrow] at hrow'
          exact Option.some.inj hrow'
        · rw [getElem?_eq_of_eraseIdx_eq hle hrows.symm, hrow'] at hrow
          exact (Option.some.inj hrow).symm
      -- the service accepts both rows or none, so that each of them comes first
      obtain ⟨hreturned, hmeans⟩ := Option.filter_eq_some_iff.1 hpicked
      rw [firstReturned?, returned, List.head?_filter] at hreturned
      have haccepted := List.find?_some hreturned
      rw [hsame] at haccepted
      rw [eq_of_find?_eq_some hreturned hmeant haccepted hmeans]

end StoredWorksheet

namespace Client

variable {worksheet : WorksheetInfo} {c : Client MemorySheets} {ws : StoredWorksheet}
  {clock : Clock}

/-! ### Calls on one row -/

/-- Whether an update of one row acts on a row of the worksheet, or on none: it writes the updated
row in its place and nothing else, or inserts a row if there is none to update and it is told to,
and returns the written row. If it fails, a failure was due or there is no place for the columns of
the written row, and the rows are as before. -/
def UpdatesAt (c : Client MemorySheets) (clock : Clock) (worksheet : WorksheetInfo)
    (ws : StoredWorksheet) (selector : Filter) (u : Update) (upsert : Bool)
    (target : Option (Nat × StoredRow)) : Prop :=
  let written := ws.written? selector u upsert clock.instant target
  StoreM.Ends (update clock worksheet selector u ⟨false, upsert⟩) c
    (fun rows c' => ∃ ws', Moves worksheet c ws' c' ∧
      ws'.rows = ws.rowsWith clock.instant written ∧
      rows = written.toList.map fun write =>
        ws'.shown write.1 ⟨clock.instant, .ofList write.2.cells⟩)
    (fun _ c' => (c.service.faults ≠ [] ∨ ¬ws.Accommodates (written.toList.map Prod.snd)) ∧
      ∃ ws', Moves worksheet c ws' c' ∧ ws'.rows = ws.rows)

/-- Whether a removal of one row acts on a row of the worksheet, or on none: it removes that row and
nothing else, and returns how many rows it removed. If it fails, a failure was due, and the rows are
as before. -/
def RemovesAt (c : Client MemorySheets) (clock : Clock) (worksheet : WorksheetInfo)
    (ws : StoredWorksheet) (selector : Filter) (target : Option (Nat × StoredRow)) : Prop :=
  StoreM.Ends (remove clock worksheet selector ⟨true⟩) c
    (fun n c' => n = target.toList.length ∧
      ∃ ws', Moves worksheet c ws' c' ∧ ws'.rows = ws.rowsWithout target)
    (fun _ c' => c.service.faults ≠ [] ∧ ∃ ws', Moves worksheet c ws' c' ∧ ws'.rows = ws.rows)

/-- An update of one row that finds none acts on none, and may insert one. -/
theorem updatesAt_none (hc : c.Sound) (hids : c.service.ids.Reliable)
    (hclock : clock.instant.HasPlainYear) (hws : c.service.book.worksheet? worksheet = some ws)
    (selector : Filter) (u : Update) (upsert : Bool)
    (hnone : ws.found c.service.engine.evaluates selector false = []) :
    UpdatesAt c clock worksheet ws selector u upsert none := by
  have hends := ends_update_none hc hids hclock hws selector u ⟨false, upsert⟩ hnone
  rw [UpdatesAt]
  refine hends.mono ?_ ?_
  · rintro rows c' ⟨wide, hwide, -, hmoves, rfl⟩
    cases upsert with
    | false => exact ⟨wide, hmoves, hwide.rows, rfl⟩
    | true =>
      refine ⟨_, hmoves, ?_, ?_⟩
      · refine (StoredWorksheet.rows_appended _).trans ?_
        rw [StoredWorksheet.rowsWith, StoredWorksheet.written?, hwide.rows]
        rfl
      · rw [StoredWorksheet.written?, ← hwide.rows]
        rfl
  · rintro e c' ⟨hreason, wide, hwide, hmoves⟩
    refine ⟨?_, wide, hmoves, hwide.rows⟩
    cases upsert with
    | false => exact hreason
    | true => exact hreason

/-- An update of one row that finds one acts on it. -/
theorem updatesAt_found (hc : c.Sound) (hids : c.service.ids.Reliable)
    (hclock : clock.instant.HasPlainYear) (hws : c.service.book.worksheet? worksheet = some ws)
    (hbound : ws.rows.length < wordBound) (selector : Filter) (u : Update) (upsert : Bool)
    {found : Nat × StoredRow} (hmem : found ∈ ws.numberedRows)
    (hfound : ws.found c.service.engine.evaluates selector false = [found]) :
    UpdatesAt c clock worksheet ws selector u upsert (some found) := by
  have hne : ws.found c.service.engine.evaluates selector false ≠ [] := by
    rw [hfound]
    nofun
  have hends := ends_update_found hc hids hclock hws hbound selector u ⟨false, upsert⟩ hne
  simp only [hfound] at hends
  rw [UpdatesAt]
  refine hends.mono ?_ ?_
  · rintro rows c' ⟨wide, hwide, -, hmoves, rfl⟩
    have hposition := StoredWorksheet.position_of_mem_numberedRows hmem
    refine ⟨_, hmoves, ?_, rfl⟩
    refine (StoredWorksheet.rows_overwritten (hwide.rows ▸ hposition) _).trans ?_
    rw [StoredWorksheet.rowsWith, hwide.rows]
    rfl
  · rintro e c' ⟨hreason, wide, hwide, done, hdone, hmoves⟩
    have hzero : done = 0 := Nat.lt_one_iff.1 hdone
    subst hzero
    exact ⟨hreason.imp_right And.right, wide, hmoves, hwide.rows⟩

/-- An update of one row acts on the first row that the service returns, if the selector means that
row, and else on none. -/
theorem updatesAt_picked (hc : c.Sound) (hids : c.service.ids.Reliable)
    (hclock : clock.instant.HasPlainYear) (hws : c.service.book.worksheet? worksheet = some ws)
    (hbound : ws.rows.length < wordBound) (selector : Filter) (u : Update) (upsert : Bool) :
    UpdatesAt c clock worksheet ws selector u upsert
      (ws.picked? c.service.engine.evaluates selector) := by
  have hfirst := ws.found_first c.service.engine.evaluates selector
  cases hpicked : ws.picked? c.service.engine.evaluates selector with
  | none =>
    rw [hpicked] at hfirst
    exact updatesAt_none hc hids hclock hws selector u upsert hfirst
  | some found =>
    rw [hpicked] at hfirst
    exact updatesAt_found hc hids hclock hws hbound selector u upsert
      (StoredWorksheet.mem_numberedRows_of_picked? hpicked) hfirst

/-- A removal of one row acts on the first row that the service returns, if the selector means that
row, and else on none. -/
theorem removesAt_picked (hc : c.Sound) (hids : c.service.ids.Reliable)
    (hws : c.service.book.worksheet? worksheet = some ws) (hbound : ws.rows.length < wordBound)
    (clock : Clock) {selector : Filter} (hselector : selector.identity? = none) :
    RemovesAt c clock worksheet ws selector (ws.picked? c.service.engine.evaluates selector) := by
  refine (ends_remove_first hc hids hws hbound clock hselector).mono ?_ ?_
  · rintro n c' ⟨rfl, hmoves⟩
    refine ⟨rfl, _, hmoves, ?_⟩
    cases hpicked : ws.picked? c.service.engine.evaluates selector with
    | none => rfl
    | some found => rfl
  · rintro e c' ⟨hmoves, hfaults⟩
    exact ⟨hfaults, ws, hmoves, rfl⟩

/-- The positions that an update without operators returns are those of the row that it acts on. -/
theorem positions_of_updatesAt {rows : List Row} {c' : Client MemorySheets} {selector : Filter}
    {target : Option (Nat × StoredRow)}
    (hat : UpdatesAt c clock worksheet ws selector (.operators {}) false target)
    (hok : update clock worksheet selector (.operators {}) ⟨false, false⟩ c = (.ok rows, c')) :
    rows.map Row.id = target.toList.map fun found => some (countText found.1) := by
  obtain ⟨ws', -, -, hrows⟩ := hat.of_ok hok
  rw [hrows]
  cases target <;> rfl

/-- An update by operators that inserts nothing succeeds if no failure is due. -/
theorem exists_ok_of_updatesAt (hcalm : c.service.faults = []) {selector : Filter}
    {ops : UpdateOps} {target : Option (Nat × StoredRow)}
    (hat : UpdatesAt c clock worksheet ws selector (.operators ops) false target) :
    ∃ rows c', update clock worksheet selector (.operators ops) ⟨false, false⟩ c =
      (.ok rows, c') := by
  rcases hresult : update clock worksheet selector (.operators ops) ⟨false, false⟩ c with
    ⟨e | rows, c'⟩
  · obtain ⟨hfaults | hfull, -⟩ := (StoreM.ends_error hresult).1 hat
    · exact absurd hcalm hfaults
    · exact absurd (StoredWorksheet.accommodates_written?_operators selector ops target) hfull
  · exact ⟨rows, c', rfl⟩

/-- In every worksheet that calls lead to, every update of one row acts on the first row that the
selector means exactly if no row is meant or the first row that the service returns is the first one
meant. The same holds of the removal of one row by a selector other than an identity. -/
theorem actsOnFirstMeant_iff (hc : c.Reached) (hids : c.service.ids.Reliable)
    (hcalm : c.service.faults = []) (hclock : clock.instant.HasPlainYear)
    (hws : c.service.book.worksheet? worksheet = some ws) (hbound : ws.rows.length < wordBound)
    (selector : Filter) :
    ((∀ u upsert, UpdatesAt c clock worksheet ws selector u upsert (ws.firstMeant? selector)) ↔
        ws.firstMeant? selector = none ∨
          ws.firstReturned? c.service.engine.evaluates selector = ws.firstMeant? selector) ∧
      (selector.identity? = none →
        (RemovesAt c clock worksheet ws selector (ws.firstMeant? selector) ↔
          ws.firstMeant? selector = none ∨
            ws.firstReturned? c.service.engine.evaluates selector = ws.firstMeant? selector)) := by
  rw [← StoredWorksheet.picked?_eq_firstMeant?_iff]
  refine ⟨⟨fun hupdates => ?_, fun heq => ?_⟩, fun hselector => ⟨fun hremoves => ?_, fun heq => ?_⟩⟩
  · -- an update that changes nothing shows by its result which row it acts on
    have hpicked := updatesAt_picked hc.sound hids hclock hws hbound selector (.operators {}) false
    obtain ⟨rows, c', hok⟩ := exists_ok_of_updatesAt hcalm hpicked
    have hpositions := positions_of_updatesAt hpicked hok
    rw [positions_of_updatesAt (hupdates (.operators {}) false) hok] at hpositions
    exact StoredWorksheet.eq_of_positions_eq
      (fun _ => StoredWorksheet.mem_numberedRows_of_picked?)
      (fun _ => List.mem_of_find?_eq_some) hpositions.symm
  · rw [← heq]
    exact updatesAt_picked hc.sound hids hclock hws hbound selector
  · have hpicked := removesAt_picked hc.sound hids hws hbound clock hselector
    rcases hresult : remove clock worksheet selector ⟨true⟩ c with ⟨e | n, c'⟩
    · exact absurd hcalm ((StoreM.ends_error hresult).1 hpicked).1
    · obtain ⟨hn, ws₁, hmoves₁, hrows₁⟩ := hpicked.of_ok hresult
      obtain ⟨hn', ws₂, hmoves₂, hrows₂⟩ := hremoves.of_ok hresult
      have hfound := hmoves₁.found
      rw [hmoves₂.found] at hfound
      cases hfound
      exact StoredWorksheet.picked?_eq_firstMeant?_of_rowsWithout (hn.symm.trans hn')
        (hrows₁.symm.trans hrows₂)
  · rw [← heq]
    exact removesAt_picked hc.sound hids hws hbound clock hselector

/-- A selector of a row by its identity that no query expresses. -/
def selectSecond : Filter := .field idField (.isIn [.text "2"])

/-- The first row is found by the value of a column, but the second one is not found by its
identity. -/
theorem actsOnFirstMeant_two :
    (∀ u upsert, UpdatesAt holdingTwo sampleClock sampleInfo sheetOfTwo
        (.field "a" (.compare .eq (.text "y"))) u upsert
        (sheetOfTwo.firstMeant? (.field "a" (.compare .eq (.text "y"))))) ∧
      ¬RemovesAt holdingTwo sampleClock sampleInfo sheetOfTwo selectSecond
        (sheetOfTwo.firstMeant? selectSecond) := by
  have hreached : holdingTwo.Reached := reached_holding _
  have hcalm : holdingTwo.service.faults = [] := by decide +kernel
  have hbound : sheetOfTwo.rows.length < wordBound := by decide
  have hfirst : sheetOfTwo.firstReturned? holdingTwo.service.engine.evaluates
        (.field "a" (.compare .eq (.text "y"))) =
      sheetOfTwo.firstMeant? (.field "a" (.compare .eq (.text "y"))) := by decide +kernel
  have hmissed : ¬(sheetOfTwo.firstMeant? selectSecond = none ∨
      sheetOfTwo.firstReturned? holdingTwo.service.engine.evaluates selectSecond =
        sheetOfTwo.firstMeant? selectSecond) := by decide +kernel
  exact ⟨(actsOnFirstMeant_iff hreached reliable_holdingTwo hcalm plainYear_sampleClock
      worksheet?_holdingTwo hbound _).1.2 (.inr hfirst),
    fun hremoves => hmissed ((actsOnFirstMeant_iff hreached reliable_holdingTwo hcalm
      plainYear_sampleClock worksheet?_holdingTwo hbound selectSecond).2 rfl |>.1 hremoves)⟩

/-- An update that sets a column. -/
def setA : Update := .operators { set := [("a", .text "z")] }

/-- Not every call on one row acts on the first row that its selector means: a row that is meant is
not updated and not removed if it is not the first row that the service returns. -/
theorem exists_meant_not_found :
    ∃ (c : Client MemorySheets) (ws : StoredWorksheet) (selector : Filter) (u : Update),
      c.Reached ∧ c.service.ids.Reliable ∧ c.service.faults = [] ∧
      c.service.book.worksheet? sampleInfo = some ws ∧ (ws.firstMeant? selector).isSome ∧
      selector.identity? = none ∧
      (update sampleClock sampleInfo selector u {} c).1.toOption = some [] ∧
      (update sampleClock sampleInfo selector u {} c).2.service.book = c.service.book ∧
      (remove sampleClock sampleInfo selector ⟨true⟩ c).1.toOption = some 0 ∧
      (remove sampleClock sampleInfo selector ⟨true⟩ c).2.service.book = c.service.book := by
  have hcalm : holdingTwo.service.faults = [] := by decide +kernel
  have hmeant : (sheetOfTwo.firstMeant? selectSecond).isSome := by decide +kernel
  have hupdate : (update sampleClock sampleInfo selectSecond setA {} holdingTwo).1.toOption =
      some [] ∧ (update sampleClock sampleInfo selectSecond setA {} holdingTwo).2.service.book =
        holdingTwo.service.book := by decide +kernel
  have hremove : (remove sampleClock sampleInfo selectSecond ⟨true⟩ holdingTwo).1.toOption =
      some 0 ∧ (remove sampleClock sampleInfo selectSecond ⟨true⟩ holdingTwo).2.service.book =
        holdingTwo.service.book := by decide +kernel
  exact ⟨holdingTwo, sheetOfTwo, selectSecond, setA, reached_holding _, reliable_holdingTwo, hcalm,
    worksheet?_holdingTwo, hmeant, rfl, hupdate.1, hupdate.2, hremove⟩

end Client

end GridStore
