import GridStore.Proofs.Client.Sessions
import GridStore.Proofs.Workbook.Sorted

/-!
# Kept rows

A read of rows answers with the rows that are kept under the key of its query, if there are any. As
every kept answer is current, these are the rows that the service returns now, unless they were left
by a query whose order mimics the order that is wanted.

## Main definitions

* `RowsRead`: the reads of rows, which are finds and the queries that finds send.
* `RowsRead.result`: what a read makes of an answer of the service.
* `Client.uncached`: a client with its cache switched off.
* `Session.OfFinds`: the sessions in which rows are queried as finds query them.
* `Session.Mistakes`: whether the kept rows are those of an order that mimics the wanted one.

## Main results

* `RowsRead.rows_of_kept`, `RowsRead.rows_of_asked`: what a read returns if rows are kept for it,
  and if the service is asked.
* `Session.rows_eq_uncached_iff`: when a read returns what it would return without a cache.
-/

namespace GridStore

/-! ### Reads of rows -/

/-- A read of the rows of a worksheet: a find, or a query as finds send it. -/
inductive RowsRead where
  | find (filter : Filter) (options : FindOptions)
  | query (filter : Filter) (sort : Option String) (descending : Bool)

namespace RowsRead

/-- The filter of a read. -/
def filter : RowsRead → Filter
  | find filter _ => filter
  | query filter _ _ => filter

/-- The query of a read. -/
def request : RowsRead → RowQuery
  | find filter options => options.rowQuery filter.queryText
  | query filter sort descending => ⟨filter.queryText, sort, descending⟩

/-- What a read makes of the rows that its query returns. -/
def pick : RowsRead → List Row → List Row
  | find filter options, rows => filter.select (options.window rows)
  | query .., rows => rows

/-- The rows that a read returns. -/
def rows (clock : Clock) (worksheet : WorksheetInfo) :
    RowsRead → StoreM (Client MemorySheets) (List Row)
  | find filter options => Client.find clock worksheet filter options
  | query filter sort descending =>
    Client.queryRows clock worksheet ⟨filter.queryText, sort, descending⟩

theorem query_request (read : RowsRead) : read.request.query = read.filter.queryText := by
  cases read <;> rfl

/-- A read leads to what its query leads to. -/
theorem ends_rows {read : RowsRead} {clock : Clock} {worksheet : WorksheetInfo}
    {c : Client MemorySheets} {ok : List Row → Client MemorySheets → Prop}
    {fail : StoreError → Client MemorySheets → Prop}
    (h : StoreM.Ends (Client.queryRows clock worksheet read.request) c
      (fun rows => ok (read.pick rows)) fail) :
    StoreM.Ends (read.rows clock worksheet) c ok fail := by
  cases read with
  | find filter options => exact h.bind fun rows c' hok => StoreM.ends_pure hok
  | query filter sort descending => exact h

end RowsRead

namespace Client

variable {clock : Clock} {worksheet : WorksheetInfo} {q : RowQuery} {c : Client MemorySheets}
  {raw : List RawRow}

/-- The client with its cache switched off. -/
def uncached (c : Client MemorySheets) : Client MemorySheets :=
  { c with cache := { c.cache with enabled := false } }

/-- What a client makes of the answer to a request for rows. -/
def answeredRows (request : Request) : Except Refusal (List RawRow) → Except StoreError (List Row)
  | .error refusal => .error (refusal.toError request)
  | .ok raw => (raw.mapM (Row.ofRaw .queryRows)).mapError StoreError.malformed

/-- Rows that are decoded are what the client makes of them. -/
theorem ends_decodeRows_answered (request : Request) (raw : List RawRow)
    (c : Client MemorySheets) :
    StoreM.Ends (raw.mapM (decodeRow .queryRows)) c
      (fun rows _ => answeredRows request (.ok raw) = .ok rows)
      (fun e _ => answeredRows request (.ok raw) = .error e) := by
  refine (ends_decodeRows .queryRows raw c).mono ?_ ?_
  · rintro rows c' ⟨-, hrows⟩
    rw [answeredRows, hrows]
    rfl
  · rintro e c' ⟨-, cause, rfl, hcause⟩
    rw [answeredRows, hcause]
    rfl

/-- A query whose rows are kept returns them. -/
theorem queryRows_of_kept
    (hkept : (c.cache.get clock.elapsed (rowsKey worksheet q)).1 = some (.rows raw)) :
    (queryRows clock worksheet q c).1 = answeredRows (.queryRows worksheet q) (.ok raw) := by
  refine StoreM.ends_iff_fst_eq.1 ?_
  rw [queryRows]
  have hlooked : StoreM.Ends (kept? clock (rowsKey worksheet q)) c
      (fun answer _ => answer = some (.rows raw)) fun _ _ => False := ⟨hkept⟩
  refine hlooked.andThen (fun _ _ => False.elim) ?_
  rintro answer c₁ rfl
  exact ends_decodeRows_answered _ raw c₁

/-- A query whose rows are not kept returns what the service answers. -/
theorem queryRows_of_asked
    (hkept : ∀ raw, (c.cache.get clock.elapsed (rowsKey worksheet q)).1 ≠ some (.rows raw))
    (hcalm : c.service.faults = []) :
    (queryRows clock worksheet q c).1 = answeredRows (.queryRows worksheet q)
      (c.service.book.answer clock.instant c.service.ids.next c.service.engine
        (.queryRows worksheet q)).1 := by
  refine StoreM.ends_iff_fst_eq.1 ?_
  rw [queryRows]
  have hlooked : StoreM.Ends (kept? clock (rowsKey worksheet q)) c
      (fun answer c' => (∀ raw, answer ≠ some (.rows raw)) ∧ c'.service = c.service)
      fun _ _ => False := ⟨hkept, rfl⟩
  refine hlooked.andThen (fun _ _ => False.elim) ?_
  rintro answer c₁ ⟨hnone, hservice⟩
  have hasked : (ask clock (.queryRows worksheet q) c₁).1 =
      (c.service.book.answer clock.instant c.service.ids.next c.service.engine
        (.queryRows worksheet q)).1.mapError (·.toError (.queryRows worksheet q)) := by
    rw [ask_apply, hservice]
    exact MemorySheets.fst_answer_of_calm hcalm ..
  generalize (c.service.book.answer clock.instant c.service.ids.next c.service.engine
    (.queryRows worksheet q)).1 = result at hasked ⊢
  split
  case h_1 raw => exact absurd rfl (hnone raw)
  case h_2 =>
    refine (StoreM.ends_iff_fst_eq.2 hasked).andThen ?_ ?_
    · intro e c₂ he
      cases result <;> cases he
      rfl
    · intro raw c₂ hraw
      cases result <;> cases hraw
      exact (ends_decodeRows_answered _ raw c₂).andThen (fun _ _ => id)
        fun rows c₃ hrows => ⟨hrows⟩

end Client

namespace RowsRead

variable {clock : Clock} {worksheet : WorksheetInfo} {read : RowsRead} {c : Client MemorySheets}
  {raw : List RawRow}

/-- What a read returns if its query is answered in some way. -/
def result (read : RowsRead) (worksheet : WorksheetInfo) (answer : Except Refusal (List RawRow)) :
    Except StoreError (List Row) :=
  (Client.answeredRows (.queryRows worksheet read.request) answer).map read.pick

theorem fst_rows {answer : Except Refusal (List RawRow)}
    (h : (Client.queryRows clock worksheet read.request c).1 =
      Client.answeredRows (.queryRows worksheet read.request) answer) :
    (read.rows clock worksheet c).1 = read.result worksheet answer := by
  refine StoreM.ends_iff_fst_eq.1 (ends_rows ((StoreM.ends_iff_fst_eq.2 h).mono ?_ ?_))
  · exact fun rows _ hrows => congrArg (Except.map read.pick) hrows
  · exact fun e _ he => congrArg (Except.map read.pick) he

/-- A read whose rows are kept returns its pick of them. -/
theorem rows_of_kept
    (hkept : (c.cache.get clock.elapsed (Client.rowsKey worksheet read.request)).1 =
      some (.rows raw)) : (read.rows clock worksheet c).1 = read.result worksheet (.ok raw) :=
  fst_rows (Client.queryRows_of_kept hkept)

/-- A read whose rows are not kept returns its pick of what the worksheet answers. -/
theorem rows_of_asked
    (hkept : ∀ raw, (c.cache.get clock.elapsed (Client.rowsKey worksheet read.request)).1 ≠
      some (.rows raw))
    (hcalm : c.service.faults = []) {ws : StoredWorksheet}
    (hws : c.service.book.worksheet? worksheet = some ws) :
    (read.rows clock worksheet c).1 =
      read.result worksheet (ws.queryRows read.request c.service.engine) := by
  have hanswer : (c.service.book.answer clock.instant c.service.ids.next c.service.engine
      (.queryRows worksheet read.request)).1 = ws.queryRows read.request c.service.engine := by
    rw [Workbook.answer, Workbook.readWorksheet, hws]
  exact fst_rows (hanswer ▸ Client.queryRows_of_asked hkept hcalm)

theorem result_ok {rows : List Row} (h : raw.mapM (Row.ofRaw .queryRows) = .ok rows) :
    read.result worksheet (.ok raw) = .ok (read.pick rows) := by
  rw [result, Client.answeredRows, h]
  rfl

end RowsRead

/-! ### Requests that leave rows -/

theorem ClientCall.request?_of_keptRequest? {clock : Clock} {call : ClientCall}
    {c : Client MemorySheets} {request : Request} (h : call.keptRequest? clock c = some request) :
    call.request? = some request := by
  simp only [keptRequest?] at h
  split at h
  · exact h
  · cases h

theorem ClientCall.eq_queryRows_of_request? {call : ClientCall} {worksheet : WorksheetInfo}
    {q : RowQuery} (h : call.request? = some (.queryRows worksheet q)) :
    call = .queryRows worksheet q := by
  cases call <;> cases h
  rfl

/-- Rows that the service would answer now are those of a worksheet. -/
theorem MemorySheets.WouldAnswer.rows {s : MemorySheets} {request : Request} {raw : List RawRow}
    (h : s.WouldAnswer request (.rows raw)) (now : Instant) :
    ∃ worksheet q ws, request = .queryRows worksheet q ∧ s.book.worksheet? worksheet = some ws ∧
      ws.queryRows q s.engine = .ok raw := by
  obtain ⟨a, hanswer, hkept⟩ := h now
  cases request with
  | queryRows worksheet q =>
    cases hkept
    have hbook := answer_calm_eq_ok_iff.1 hanswer
    rcases Client.answer_queryRows hbook with ⟨ws, hws, hrows⟩ | ⟨-, hno⟩
    · exact ⟨worksheet, q, ws, rfl, hws, hrows⟩
    · cases hno
  | _ => cases hkept

namespace Client

/-- A call that queries rows as finds do keeps a client sound. -/
theorem Sound.clientCall {c : Client MemorySheets} (h : c.Sound) {clock : Clock}
    (hclock : clock.instant.HasPlainYear) (call : ClientCall)
    (hfilters : ∀ worksheet q, call = .queryRows worksheet q →
      ∃ filter : Filter, q.query = filter.queryText) : (call.run clock c).2.Sound := by
  cases call with
  | sheetInfo sheetId => exact keeps_sheetInfo clock sheetId c h
  | queryRows worksheet q =>
    obtain ⟨filter, hq⟩ := hfilters worksheet q rfl
    exact keeps_queryRows clock worksheet hq c h
  | queryFields worksheet => exact keeps_queryFields clock worksheet c h
  | freshFields worksheet => exact keeps_freshFields clock worksheet c h
  | createWorksheet sheetId title size => exact keeps_createWorksheet hclock sheetId title size c h
  | dropWorksheet sheetId worksheetId => exact keeps_dropWorksheet hclock sheetId worksheetId c h
  | createColumns worksheet names start =>
    exact keeps_createColumns hclock worksheet names start c h
  | insertRows worksheet rows => exact keeps_insertRows hclock worksheet rows c h
  | updateRows worksheet rows => exact keeps_updateRows hclock worksheet rows c h
  | deleteRows worksheet ids => exact keeps_deleteRows hclock worksheet ids c h
  | setToken token => exact keeps_setToken token c h

end Client

namespace Session

/-! ### Sessions of finds -/

/-- Whether a step is taken at a time with a plain year, and queries rows as finds query them. -/
def IsOfFinds : Step → Prop
  | .call clock call => clock.instant.HasPlainYear ∧ ∀ worksheet q,
      call = .queryRows worksheet q → ∃ filter : Filter, q.query = filter.queryText
  | .fault _ => True

/-- The sessions that start with a client that calls lead to and that has no kept answers, and in
which rows are queried as finds query them. -/
def OfFinds (s : Session) : Prop :=
  ∃ (c : Client MemorySheets) (steps : List Step), c.Reached ∧ c.cache.entries = [] ∧
    (∀ step ∈ steps, IsOfFinds step) ∧ s = run { client := c } steps

/-- What the steps of such a session keep: the client is sound, all answers are current, and kept
rows were left by queries of filters. -/
structure Sound (s : Session) : Prop where
  client : s.client.Sound
  current : s.Current
  filters : ∀ {key worksheet q}, s.origin key = some (.queryRows worksheet q) →
    ∃ filter : Filter, q.query = filter.queryText

theorem Sound.step {s : Session} (h : s.Sound) {step : Step} (hstep : IsOfFinds step) :
    (s.step step).Sound := by
  have hcurrent := h.current.step step
  cases step with
  | fault fault => exact ⟨h.client.failing fault, hcurrent, h.filters⟩
  | call clock call =>
    obtain ⟨hclock, hfilters⟩ := hstep
    refine ⟨h.client.clientCall hclock call hfilters, hcurrent, fun {key worksheet q} horigin => ?_⟩
    rcases Option.or_eq_some_iff.1 horigin with hkept | ⟨-, hold⟩
    · have hrequest := ClientCall.request?_of_keptRequest? (Option.filter_eq_some_iff.1 hkept).1
      exact hfilters worksheet q (ClientCall.eq_queryRows_of_request? hrequest)
    · exact h.filters hold

theorem Sound.run {s : Session} (h : s.Sound) {steps : List Step}
    (hsteps : ∀ step ∈ steps, IsOfFinds step) : (s.run steps).Sound := by
  induction steps generalizing s with
  | nil => exact h
  | cons step rest ih =>
    obtain ⟨hstep, hrest⟩ := List.forall_mem_cons.1 hsteps
    exact ih (h.step hstep) hrest

theorem OfFinds.sound {s : Session} (h : s.OfFinds) : s.Sound := by
  obtain ⟨c, steps, hc, hcache, hsteps, rfl⟩ := h
  have hstart : Sound { client := c } := ⟨hc.sound, current_of_nil hcache, nofun⟩
  exact hstart.run hsteps

/-! ### Mistaken rows -/

/-- Whether a read of rows is answered with rows of another order, though this is not what is
wanted: the kept answer was left by a query of the worksheet whose order mimics the order of the
read, and is not too old. -/
def Mistakes (s : Session) (clock : Clock) (worksheet : WorksheetInfo) (read : RowsRead)
    (wanted : Except StoreError (List Row)) : Prop :=
  ∃ other q raw rows, s.origin (Client.rowsKey worksheet read.request) =
      some (.queryRows other q) ∧
    other.worksheetId = worksheet.worksheetId ∧ q.Mimics read.request ∧
    (s.client.cache.get clock.elapsed (Client.rowsKey worksheet read.request)).1 =
      some (.rows raw) ∧
    raw.mapM (Row.ofRaw .queryRows) = .ok rows ∧ .ok (read.pick rows) ≠ wanted

/-- Rows that are kept under the key of the query of a filter were left by a query of the same
worksheet with the same text, in the same order or in one that mimics it, and are what the worksheet
answers to that query. -/
theorem Sound.kept_rows {s : Session} (h : s.Sound) (hids : s.client.service.ids.Reliable)
    {worksheet : WorksheetInfo} {ws : StoredWorksheet}
    (hws : s.client.service.book.worksheet? worksheet = some ws)
    {q : RowQuery} {filter : Filter} (hq : q.query = filter.queryText) {clock : Clock}
    {raw : List RawRow}
    (hkept : (s.client.cache.get clock.elapsed (Client.rowsKey worksheet q)).1 =
      some (.rows raw)) :
    ∃ other left, s.origin (Client.rowsKey worksheet q) = some (.queryRows other left) ∧
      other.worksheetId = worksheet.worksheetId ∧ (left = q ∨ left.Mimics q) ∧
      ws.queryRows left s.client.service.engine = .ok raw ∧
      ∃ rows, raw.mapM (Row.ofRaw .queryRows) = .ok rows := by
  obtain ⟨stored, hmem⟩ := ResponseCache.mem_of_get hkept
  obtain ⟨request, horigin, hkey, hcurrent, hreadable⟩ := h.current.answers hmem
  obtain ⟨other, left, otherWs, rfl, hother, hanswer⟩ := hcurrent.rows clock.instant
  obtain ⟨otherFilter, hleft⟩ := h.filters horigin
  obtain ⟨hsame, horder⟩ :=
    (h.client.rowsKey_eq_iff hids hws hother hq hleft).1 (Option.some.inj hkey)
  cases h.client.service.eq_of_worksheetId_eq hids hws hother hsame
  exact ⟨other, left, horigin, hsame, horder, hanswer, hreadable⟩

/-- A worksheet answers the query of a filter with rows that can be read, or sorting them breaks
off, as they are tangled. -/
theorem Sound.queryRows_cases {s : Session} (h : s.Sound) {worksheet : WorksheetInfo}
    {ws : StoredWorksheet} (hws : s.client.service.book.worksheet? worksheet = some ws)
    {q : RowQuery} {filter : Filter} (hq : q.query = filter.queryText) :
    (∃ raw rows, ws.queryRows q s.client.service.engine = .ok raw ∧
      raw.mapM (Row.ofRaw .queryRows) = .ok rows) ∨
    (ws.queryRows q s.client.service.engine = .error .brokenOff ∧
      ¬q.CanSort (ws.returned s.client.service.engine.evaluates filter)) := by
  obtain ⟨hstored, -⟩ := Workbook.stores_of_worksheet? hws
  refine (ws.queryRows_brokenOff s.client.service.engine hq).imp_left ?_
  rintro ⟨raw, hraw⟩
  obtain ⟨accepted, numbered, -, harranged, rfl⟩ := StoredWorksheet.queryRows_eq_ok_iff.1 hraw
  exact ⟨_, _, hraw, Client.mapM_ofRaw_rawRow (h.client.service.worksheets hstored) .queryRows
    fun row => StoredWorksheet.mem_numberedRows_of_arrange harranged⟩

/-- Kept rows are what a read wants exactly if they are not mistaken for it. -/
theorem Sound.rows_eq_iff_of_kept {s : Session} (h : s.Sound)
    (hids : s.client.service.ids.Reliable) {worksheet : WorksheetInfo} {ws : StoredWorksheet}
    (hws : s.client.service.book.worksheet? worksheet = some ws) {clock : Clock} {read : RowsRead}
    {wanted : Except StoreError (List Row)}
    (hwanted : wanted =
      read.result worksheet (ws.queryRows read.request s.client.service.engine))
    {left : List RawRow}
    (hkept : (s.client.cache.get clock.elapsed (Client.rowsKey worksheet read.request)).1 =
      some (.rows left)) :
    (read.rows clock worksheet s.client).1 = wanted ↔ ¬s.Mistakes clock worksheet read wanted := by
  obtain ⟨other, q, horigin, hsame, horder, hleft, rows, hrows⟩ :=
    h.kept_rows hids hws read.query_request hkept
  rw [RowsRead.rows_of_kept hkept, RowsRead.result_ok hrows]
  constructor
  · rintro heq ⟨-, -, raw', rows', -, -, -, hget, hrows', hne⟩
    rw [hkept] at hget
    cases hget
    rw [hrows] at hrows'
    cases hrows'
    exact hne heq
  · intro hright
    rcases horder with rfl | hmimics
    · rw [hwanted, hleft, RowsRead.result_ok hrows]
    · refine Classical.byContradiction fun hne => hright ?_
      exact ⟨other, q, left, rows, horigin, hsame, hmimics, hkept, hrows, hne⟩

/-- Without a cache a read returns rows, or it breaks off, as rows are tangled in the column to sort
by. With the cache it returns the same exactly if no kept rows of an order that mimics its own are
mistaken for that. Reads of stored worksheets have the same key exactly if they are reads of one
worksheet with one query, in one order or in orders of which the one mimics the other. -/
theorem rows_eq_uncached_iff {s : Session} (hs : s.OfFinds)
    (hids : s.client.service.ids.Reliable) (hcalm : s.client.service.faults = [])
    {worksheet : WorksheetInfo} {ws : StoredWorksheet}
    (hws : s.client.service.book.worksheet? worksheet = some ws) (clock : Clock)
    (read : RowsRead) :
    ((∃ rows, (read.rows clock worksheet s.client.uncached).1 = .ok rows) ∨
      (read.rows clock worksheet s.client.uncached).1 = .error .brokenOff ∧
        ¬read.request.CanSort (ws.returned s.client.service.engine.evaluates read.filter)) ∧
    ((read.rows clock worksheet s.client).1 = (read.rows clock worksheet s.client.uncached).1 ↔
      ¬s.Mistakes clock worksheet read (read.rows clock worksheet s.client.uncached).1) ∧
    ∀ (other : WorksheetInfo) (otherWs : StoredWorksheet) (otherRead : RowsRead),
      s.client.service.book.worksheet? other = some otherWs →
      (Client.rowsKey other otherRead.request = Client.rowsKey worksheet read.request ↔
        other.worksheetId = worksheet.worksheetId ∧
          (otherRead.request = read.request ∨ otherRead.request.Mimics read.request)) := by
  have hsound := hs.sound
  have hnothing : ∀ raw, (s.client.uncached.cache.get clock.elapsed
      (Client.rowsKey worksheet read.request)).1 ≠ some (.rows raw) :=
    fun _ => (Option.some_ne_none _).symm
  have huncached : (read.rows clock worksheet s.client.uncached).1 =
      read.result worksheet (ws.queryRows read.request s.client.service.engine) :=
    RowsRead.rows_of_asked hnothing hcalm hws
  refine ⟨?_, ?_, fun other otherWs otherRead hother =>
    hsound.client.rowsKey_eq_iff hids hws hother read.query_request otherRead.query_request⟩
  · rw [huncached]
    rcases hsound.queryRows_cases hws read.query_request with
      ⟨raw, rows, hanswer, hrows⟩ | ⟨hanswer, htangled⟩
    · rw [hanswer]
      exact .inl ⟨_, RowsRead.result_ok hrows⟩
    · rw [hanswer]
      exact .inr ⟨rfl, htangled⟩
  · by_cases hkept : ∃ raw, (s.client.cache.get clock.elapsed
      (Client.rowsKey worksheet read.request)).1 = some (.rows raw)
    · obtain ⟨left, hkept⟩ := hkept
      exact hsound.rows_eq_iff_of_kept hids hws huncached hkept
    · have hnone := not_exists.1 hkept
      refine iff_of_true ((RowsRead.rows_of_asked hnone hcalm hws).trans huncached.symm) ?_
      rintro ⟨-, -, raw', -, -, -, -, hget, -⟩
      exact hnone raw' hget

/-- A session that creates a worksheet and asks for its rows in descending order. -/
def descendingSteps : List Step :=
  [.createWorksheet "s1" "rows" {}, .createColumns Client.sampleInfo ["a"] 0,
    .insertRows Client.sampleInfo
      [⟨none, none, [("a", .text "x")]⟩, ⟨none, none, [("a", .text "y")]⟩],
    .queryRows Client.sampleInfo ⟨"", some "a", true⟩].map fun call => .call Client.sampleClock call

/-- The session after these steps. -/
def descendingSession : Session := run { client := Client.sampleClient } descendingSteps

theorem isOfFinds_of_mem_descendingSteps : ∀ step ∈ descendingSteps, IsOfFinds step := by
  intro step hstep
  obtain ⟨call, hcall, rfl⟩ := List.mem_map.1 hstep
  refine ⟨Client.plainYear_sampleClock, fun worksheet q heq => ⟨.everything, ?_⟩⟩
  subst heq
  simp only [List.mem_cons, List.not_mem_nil, or_false, reduceCtorEq, false_or,
    ClientCall.queryRows.injEq] at hcall
  rw [hcall.2]
  rfl

theorem ofFinds_descendingSession : descendingSession.OfFinds :=
  ⟨Client.sampleClient, descendingSteps, .start _ .sample rfl rfl, rfl,
    isOfFinds_of_mem_descendingSteps, rfl⟩

/-- A find in descending order. -/
def descendingFind : RowsRead := .find .everything { sort := some "a", descending := true }

/-- A find in descending order returns the kept rows, which are those of its own order. -/
theorem rows_eq_uncached_descending :
    (descendingFind.rows Client.sampleClock Client.sampleInfo
      descendingSession.client).1 = (descendingFind.rows Client.sampleClock Client.sampleInfo
        descendingSession.client.uncached).1 ∧
    ((descendingFind.rows Client.sampleClock Client.sampleInfo
      descendingSession.client.uncached).1.toOption.map (·.map Row.id)) =
        some [some "2", some "1"] := by
  have hids : descendingSession.client.service.ids.Reliable :=
    IdSupply.reliable_of_sample (by decide +kernel) (by decide +kernel)
  have hcalm : descendingSession.client.service.faults = [] := by decide +kernel
  have hws : descendingSession.client.service.book.worksheet? Client.sampleInfo =
      some Client.sheetOfTwo := by decide +kernel
  have horigin : descendingSession.origin
      (Client.rowsKey Client.sampleInfo descendingFind.request) =
        some (.queryRows Client.sampleInfo descendingFind.request) := by decide +kernel
  obtain ⟨-, hiff, -⟩ := rows_eq_uncached_iff ofFinds_descendingSession hids hcalm hws
    Client.sampleClock descendingFind
  refine ⟨hiff.2 ?_, by decide +kernel⟩
  rintro ⟨other, q, -, -, hleft, -, hmimics, -⟩
  rw [horigin] at hleft
  cases hleft
  exact hmimics.descending_ne rfl

/-- Not every read returns the rows that it would return without a cache: the two rows that a find
in descending order has left are mistaken for those of a find in ascending order of a column whose
name ends in what stands for descending order. Both queries have the same key. -/
theorem exists_rows_ne_uncached :
    ∃ (c : Client MemorySheets) (ws : StoredWorksheet) (first second : FindOptions),
      let c₁ := (Client.find Client.sampleClock Client.sampleInfo .everything first c).2
      c.Reached ∧ c.service.ids.Reliable ∧ c.service.faults = [] ∧
      c.service.book.worksheet? Client.sampleInfo = some ws ∧
      first.rowQuery "" ≠ second.rowQuery "" ∧
      Client.rowsKey Client.sampleInfo (first.rowQuery "") =
        Client.rowsKey Client.sampleInfo (second.rowQuery "") ∧
      (Client.find Client.sampleClock Client.sampleInfo .everything second c₁).1.toOption.map
        (·.map Row.id) = some [some "2", some "1"] ∧
      (Client.find Client.sampleClock Client.sampleInfo .everything second
        c₁.uncached).1.toOption.map (·.map Row.id) = some [some "1", some "2"] := by
  refine ⟨Client.holdingTwo, Client.sheetOfTwo, { sort := some "a", descending := true },
    { sort := some "a&reverse=true" }, Client.reached_holding _, Client.reliable_holdingTwo, ?_,
    Client.worksheet?_holdingTwo, by decide, by decide, ?_, ?_⟩
  · decide +kernel
  · decide +kernel
  · decide +kernel

end Session

end GridStore
