import GridStore.Proofs.Cache
import GridStore.Proofs.Client.Keys
import GridStore.Proofs.Service.Sound
import GridStore.Proofs.StoreM
import GridStore.Proofs.Workbook.Answers
import GridStore.Proofs.Workbook.Found

/-!
# Reads of a client

A client keeps the answers to the queries of filters, and as long as only this client changes the
workbook, a kept answer is the answer that the service would give now. So a find returns the rows
found in the worksheet as it is, whether the answer was kept or not.

## Main definitions

* `Client.RowsCurrent`: whether all kept answers of rows are answers that the service gives now.
* `Client.Sound`: what every operation of a client keeps.
* `Client.Agrees`: whether two states of a client hold the same workbook.

## Main results

* `Client.ends_find`: a find returns the rows found in the worksheet.
* `Client.keeps_queryRows`, `keeps_queryFields`, `keeps_sheetInfo`: reads keep the client sound.
-/

namespace GridStore

namespace Client

/-! ### Sound clients -/

/-- Whether rows are what the service answers now to the query of a filter with a key. -/
def AnswersNow (c : Client MemorySheets) (key : String) (raw : List RawRow) : Prop :=
  ∃ worksheet q ws, ∃ filter : Filter, q.query = filter.queryText ∧ key = rowsKey worksheet q ∧
    c.service.book.worksheet? worksheet = some ws ∧ ws.queryRows q c.service.engine = .ok raw

/-- Whether all kept answers of rows are what the service answers now. -/
def RowsCurrent (c : Client MemorySheets) : Prop :=
  ∀ key stored raw, (key, (stored, .rows raw)) ∈ c.cache.entries → c.AnswersNow key raw

/-- What every operation of a client keeps: the service is sound, and kept rows are current. -/
structure Sound (c : Client MemorySheets) : Prop where
  service : c.service.Sound
  rows : c.RowsCurrent

/-- Whether a state of a client holds the same workbook as another one, has drawn the same
identities, and has no failure to come if that one had none. -/
structure Agrees (c c' : Client MemorySheets) : Prop where
  book : c'.service.book = c.service.book
  engine : c'.service.engine = c.service.engine
  ids : c'.service.ids = c.service.ids
  calm : c.service.faults = [] → c'.service.faults = []

theorem Agrees.refl (c : Client MemorySheets) : Agrees c c := ⟨rfl, rfl, rfl, id⟩

theorem Agrees.trans {a b c : Client MemorySheets} (hab : Agrees a b) (hbc : Agrees b c) :
    Agrees a c :=
  ⟨hbc.book.trans hab.book, hbc.engine.trans hab.engine, hbc.ids.trans hab.ids,
    hbc.calm ∘ hab.calm⟩

theorem Agrees.answersNow_iff {c c' : Client MemorySheets} (h : Agrees c c') {key : String}
    {raw : List RawRow} : c'.AnswersNow key raw ↔ c.AnswersNow key raw := by
  rw [AnswersNow, AnswersNow, h.book, h.engine]

theorem RowsCurrent.mono {c c' : Client MemorySheets} (h : c.RowsCurrent) (hagrees : Agrees c c')
    (hsub : ∀ entry ∈ c'.cache.entries, entry ∈ c.cache.entries) : c'.RowsCurrent :=
  fun key stored raw hmem => hagrees.answersNow_iff.2 (h key stored raw (hsub _ hmem))

theorem rowsCurrent_of_nil {c : Client MemorySheets} (h : c.cache.entries = []) :
    c.RowsCurrent := fun _ _ _ hmem => by
  rw [h] at hmem
  cases hmem

/-! ### Requests -/

theorem ask_apply (clock : Clock) (request : Request) (c : Client MemorySheets) :
    ask clock request c = ((c.service.answer clock.instant request).1,
      { c with service := (c.service.answer clock.instant request).2 }) := rfl

/-- What a request leads to. -/
theorem ends_ask (clock : Clock) (request : Request) (c : Client MemorySheets) :
    StoreM.Ends (ask clock request) c
      (fun a c' => ∃ s', c' = { c with service := s' } ∧
        MemorySheets.Answered clock.instant request c.service (.ok a) s')
      (fun e c' => ∃ s', c' = { c with service := s' } ∧
        MemorySheets.Answered clock.instant request c.service (.error e) s') := by
  have hanswered := MemorySheets.answered clock.instant request c.service
  rcases hresult : c.service.answer clock.instant request with ⟨e | a, s'⟩
  · rw [hresult] at hanswered
    have hask : ask clock request c = (.error e, { c with service := s' }) := by
      rw [ask_apply, hresult]
    exact (StoreM.ends_error hask).2 ⟨s', rfl, hanswered⟩
  · rw [hresult] at hanswered
    have hask : ask clock request c = (.ok a, { c with service := s' }) := by
      rw [ask_apply, hresult]
    exact (StoreM.ends_ok hask).2 ⟨s', rfl, hanswered⟩

/-- The client after a request is logged. -/
theorem log_ask (clock : Clock) (request : Request) (c : Client MemorySheets) :
    (ask clock request c).2.service.log = c.service.log ++ [request] :=
  MemorySheets.log_answer clock.instant request c.service

/-- What a request that reads leaves as it is: all but the log, and the failures that are due. -/
structure Unchanged (c c' : Client MemorySheets) : Prop extends Agrees c c' where
  cache : c'.cache = c.cache

theorem Unchanged.sound {c c' : Client MemorySheets} (h : Unchanged c c') (hc : c.Sound) :
    c'.Sound := by
  obtain ⟨hworksheets, hdrawn⟩ := hc.service
  have hservice : c'.service.Sound :=
    ⟨h.book ▸ hworksheets, by rw [h.book, h.ids]; exact hdrawn⟩
  exact ⟨hservice, hc.rows.mono h.toAgrees fun _ hmem => h.cache ▸ hmem⟩

/-- A request that reads leads to what the workbook answers, at any time, and changes nothing. -/
theorem ends_ask_isRead (clock : Clock) {request : Request} (hread : request.isRead = true)
    (c : Client MemorySheets) :
    StoreM.Ends (ask clock request) c
      (fun a c' => Unchanged c c' ∧ ∀ now newId,
        (c.service.book.answer now newId c.service.engine request).1 = .ok a)
      (fun _ c' => Unchanged c c' ∧ (c.service.faults ≠ [] ∨ ∃ refusal, ∀ now newId,
        (c.service.book.answer now newId c.service.engine request).1 = .error refusal)) := by
  have hbook := fun now newId =>
    Workbook.answer_of_isRead c.service.book now newId c.service.engine hread
  have hnow := fun now newId =>
    c.service.book.answer_now clock.instant now c.service.ids.next newId c.service.engine hread
  have hids := c.service.ids.afterAccepted_of_isRead hread
  refine (ends_ask clock request c).mono ?_ ?_
  · rintro a c' ⟨s', rfl, hanswered⟩
    cases hanswered with
    | accepted book engine ids calm =>
      have hs : s'.book = c.service.book := by rw [← hbook, book]
      exact ⟨⟨⟨hs, engine, ids.trans hids, calm⟩, rfl⟩, fun now newId => by rw [← hnow, book]⟩
  · rintro e c' ⟨s', rfl, hanswered⟩
    cases hanswered with
    | struck due book engine ids =>
      exact ⟨⟨⟨book, engine, ids, fun h => absurd h due⟩, rfl⟩, .inl due⟩
    | refused book engine ids calm =>
      have hs : s'.book = c.service.book := by rw [← hbook, book]
      exact ⟨⟨⟨hs, engine, ids, calm⟩, rfl⟩, .inr ⟨_, fun now newId => by rw [← hnow, book]⟩⟩

/-- A request that reads keeps a client sound. -/
theorem ends_ask_read {c : Client MemorySheets} (hc : c.Sound) (clock : Clock) {request : Request}
    (hread : request.isRead = true) :
    StoreM.Ends (ask clock request) c
      (fun a c' => c'.Sound ∧ Agrees c c' ∧ c'.cache = c.cache ∧
        (c.service.book.answer clock.instant c.service.ids.next c.service.engine request).1 =
          .ok a)
      (fun _ c' => c'.Sound ∧ Agrees c c' ∧ (c.service.faults ≠ [] ∨ ∃ refusal,
        (c.service.book.answer clock.instant c.service.ids.next c.service.engine request).1 =
          .error refusal)) := by
  refine (ends_ask_isRead clock hread c).mono ?_ ?_
  · rintro a c' ⟨hunchanged, hanswer⟩
    exact ⟨hunchanged.sound hc, hunchanged.toAgrees, hunchanged.cache, hanswer _ _⟩
  · rintro e c' ⟨hunchanged, hreason⟩
    refine ⟨hunchanged.sound hc, hunchanged.toAgrees, hreason.imp_right ?_⟩
    rintro ⟨refusal, hrefused⟩
    exact ⟨refusal, hrefused _ _⟩

/-! ### Kept rows -/

/-- Looking for a kept answer changes nothing but the cache. -/
theorem ends_kept? {c : Client MemorySheets} (hc : c.Sound) (clock : Clock) (key : String) :
    StoreM.Ends (kept? clock key) c
      (fun answer c' => c'.Sound ∧ Agrees c c' ∧
        ∀ raw, answer = some (.rows raw) → c.AnswersNow key raw)
      (fun _ _ => False) := by
  have hagrees : Agrees c { c with cache := (c.cache.get clock.elapsed key).2 } :=
    ⟨rfl, rfl, rfl, id⟩
  refine ⟨⟨hc.service, hc.rows.mono hagrees fun _ hmem =>
    ResponseCache.sublist_get.subset hmem⟩, hagrees, fun raw hraw => ?_⟩
  obtain ⟨stored, hmem⟩ := ResponseCache.mem_of_get hraw
  exact hc.rows key stored raw hmem

/-- Keeping an answer changes nothing but the cache. -/
theorem ends_keep {c : Client MemorySheets} (hc : c.Sound) (clock : Clock) (key : String)
    (answer : KeptAnswer) (hrows : ∀ raw, answer = .rows raw → c.AnswersNow key raw) :
    StoreM.Ends (keep clock key answer) c (fun _ c' => c'.Sound ∧ Agrees c c')
      (fun _ _ => False) := by
  have hagrees : Agrees c { c with cache := c.cache.put clock.elapsed key answer } :=
    ⟨rfl, rfl, rfl, id⟩
  refine ⟨⟨hc.service, fun k stored raw hmem => hagrees.answersNow_iff.2 ?_⟩, hagrees⟩
  rcases ResponseCache.mem_put hmem with heq | hold
  · cases heq
    exact hrows raw rfl
  · exact hc.rows k stored raw hold

theorem decodeRow_ofRaw {operation : Operation} {raw : RawRow} {row : Row}
    (h : Row.ofRaw operation raw = .ok row) :
    (decodeRow operation raw : StoreM (Client MemorySheets) Row) = pure row := by
  rw [decodeRow, h]
  rfl

/-- Decoding rows leads to the rows, or to a failure if one of them cannot be read. -/
theorem ends_decodeRows (operation : Operation) (raw : List RawRow) (c : Client MemorySheets) :
    StoreM.Ends (raw.mapM (decodeRow operation)) c
      (fun rows c' => c' = c ∧ raw.mapM (Row.ofRaw operation) = .ok rows)
      (fun e c' => c' = c ∧
        ∃ cause, e = .malformed cause ∧ raw.mapM (Row.ofRaw operation) = .error cause) := by
  induction raw with
  | nil => exact ⟨rfl, rfl⟩
  | cons first rest ih =>
    rw [List.mapM_cons, List.mapM_cons]
    cases hfirst : Row.ofRaw operation first with
    | error e =>
      have hdecode : (decodeRow operation first : StoreM (Client MemorySheets) Row) =
          throw (.malformed e) := by
        rw [decodeRow, hfirst]
        rfl
      rw [hdecode]
      exact ⟨rfl, e, rfl, rfl⟩
    | ok row =>
      rw [decodeRow_ofRaw hfirst, pure_bind]
      refine StoreM.Ends.andThen ih ?_ ?_
      · rintro _ c' ⟨rfl, e, rfl, he⟩
        exact ⟨rfl, e, rfl, by rw [he]; rfl⟩
      · rintro rows c' ⟨rfl, hrows⟩
        exact StoreM.ends_pure ⟨rfl, by rw [hrows]; rfl⟩

/-- Why a query of rows can fail: because of a failure that is due, because the service refuses the
query, or because a row in its answer cannot be read. -/
def RowsFail (c : Client MemorySheets) (worksheet : WorksheetInfo) (q : RowQuery) : Prop :=
  c.service.faults ≠ [] ∨
    (∀ ws, c.service.book.worksheet? worksheet = some ws →
      ∃ refusal, ws.queryRows q c.service.engine = .error refusal) ∨
    ∃ raw e, c.AnswersNow (rowsKey worksheet q) raw ∧
      raw.mapM (Row.ofRaw .queryRows) = .error e

theorem Agrees.faults_ne {c c' : Client MemorySheets} (h : Agrees c c')
    (hfaults : c'.service.faults ≠ []) : c.service.faults ≠ [] := fun hnil =>
  hfaults (h.calm hnil)

theorem Agrees.rowsFail {c c' : Client MemorySheets} (h : Agrees c c') {worksheet : WorksheetInfo}
    {q : RowQuery} (hfail : c'.RowsFail worksheet q) : c.RowsFail worksheet q := by
  rcases hfail with hfaults | hrefuse | ⟨raw, e, hraw, he⟩
  · exact .inl (h.faults_ne hfaults)
  · rw [h.book, h.engine] at hrefuse
    exact .inr (.inl hrefuse)
  · exact .inr (.inr ⟨raw, e, h.answersNow_iff.1 hraw, he⟩)

/-- The answer of the workbook to a query of rows is that of the worksheet. -/
theorem answer_queryRows {book : Workbook} {now : Instant} {newId : String} {engine : QueryEngine}
    {worksheet : WorksheetInfo} {q : RowQuery} {result : Except Refusal (List RawRow)}
    (h : (book.answer now newId engine (.queryRows worksheet q)).1 = result) :
    (∃ ws, book.worksheet? worksheet = some ws ∧ ws.queryRows q engine = result) ∨
      (book.worksheet? worksheet = none ∧ result = .error .missingWorksheet) := by
  rw [Workbook.answer, Workbook.readWorksheet] at h
  split at h
  · exact .inr ⟨‹_›, h.symm⟩
  · exact .inl ⟨_, ‹_›, h⟩

theorem rowsFail_of_refused {c : Client MemorySheets} {now : Instant} {newId : String}
    {worksheet : WorksheetInfo} {q : RowQuery} {refusal : Refusal}
    (h : (c.service.book.answer now newId c.service.engine (.queryRows worksheet q)).1 =
      .error refusal) : c.RowsFail worksheet q := by
  refine .inr (.inl fun ws hws => ⟨refusal, ?_⟩)
  rcases answer_queryRows h with ⟨ws', hws', hrows⟩ | ⟨hnone, -⟩
  · rw [hws] at hws'
    cases hws'
    exact hrows
  · rw [hws] at hnone
    cases hnone

theorem answersNow_of_answer {c : Client MemorySheets} {now : Instant} {newId : String}
    {worksheet : WorksheetInfo} {q : RowQuery} {filter : Filter} (hq : q.query = filter.queryText)
    {raw : List RawRow}
    (h : (c.service.book.answer now newId c.service.engine (.queryRows worksheet q)).1 =
      .ok raw) : c.AnswersNow (rowsKey worksheet q) raw := by
  rcases answer_queryRows h with ⟨ws, hws, hrows⟩ | ⟨-, hnone⟩
  · exact ⟨worksheet, q, ws, filter, hq, rfl, hws, hrows⟩
  · cases hnone

/-- A query of rows leads to rows that the service answers now to the query of some filter with the
same key. -/
theorem ends_queryRows {c : Client MemorySheets} (hc : c.Sound) (clock : Clock)
    (worksheet : WorksheetInfo) {q : RowQuery} {filter : Filter} (hq : q.query = filter.queryText) :
    StoreM.Ends (queryRows clock worksheet q) c
      (fun rows c' => c'.Sound ∧ Agrees c c' ∧ ∃ raw, c.AnswersNow (rowsKey worksheet q) raw ∧
        raw.mapM (Row.ofRaw .queryRows) = .ok rows)
      (fun _ c' => c'.Sound ∧ Agrees c c' ∧ c.RowsFail worksheet q) := by
  have hdecode : ∀ {raw : List RawRow} {c' : Client MemorySheets}, c'.Sound → Agrees c c' →
      c.AnswersNow (rowsKey worksheet q) raw →
      StoreM.Ends (raw.mapM (decodeRow .queryRows)) c'
        (fun rows c'' => c'' = c' ∧ raw.mapM (Row.ofRaw .queryRows) = .ok rows)
        (fun _ c'' => c''.Sound ∧ Agrees c c'' ∧ c.RowsFail worksheet q) := by
    intro raw c' hsound hagrees hraw
    refine (ends_decodeRows .queryRows raw c').mono (fun _ _ => id) ?_
    rintro _ c'' ⟨rfl, e, -, he⟩
    exact ⟨hsound, hagrees, .inr (.inr ⟨raw, e, hraw, he⟩)⟩
  rw [queryRows]
  refine (ends_kept? hc clock _).andThen (fun _ _ => False.elim) ?_
  rintro kept c₁ ⟨hsound, hagrees, hkept⟩
  split
  case h_1 raw =>
    refine (hdecode hsound hagrees (hkept raw rfl)).mono ?_ fun _ _ => id
    rintro rows c₂ ⟨rfl, hrows⟩
    exact ⟨hsound, hagrees, raw, hkept raw rfl, hrows⟩
  case h_2 =>
    -- the answer was not kept
    refine (@ends_ask_read c₁ hsound clock (.queryRows worksheet q) rfl).andThen ?_ ?_
    · rintro e c₂ ⟨hsound₂, hagrees₂, hfaults | ⟨refusal, hrefused⟩⟩
      · exact ⟨hsound₂, hagrees.trans hagrees₂, .inl (hagrees.faults_ne hfaults)⟩
      · exact ⟨hsound₂, hagrees.trans hagrees₂, hagrees.rowsFail (rowsFail_of_refused hrefused)⟩
    · rintro raw c₂ ⟨hsound₂, hagrees₂, -, hanswer⟩
      have hraw : c₁.AnswersNow (rowsKey worksheet q) raw := answersNow_of_answer hq hanswer
      have hraw₀ : c.AnswersNow (rowsKey worksheet q) raw := hagrees.answersNow_iff.1 hraw
      refine (hdecode hsound₂ (hagrees.trans hagrees₂) hraw₀).bind ?_
      rintro rows c₃ ⟨rfl, hrows⟩
      refine (ends_keep hsound₂ clock _ _ fun _ heq => ?_).andThen (fun _ _ => False.elim) ?_
      · cases heq
        exact hagrees₂.answersNow_iff.2 hraw
      · rintro - c₄ ⟨hsound₄, hagrees₄⟩
        exact StoreM.ends_pure ⟨hsound₄, (hagrees.trans hagrees₂).trans hagrees₄, raw, hraw₀, hrows⟩

/-- Queries of filters on worksheets that are found have the same key exactly if they are queries of
one worksheet with one text, and in one order unless the one order mimics the other. -/
theorem Sound.rowsKey_eq_iff {c : Client MemorySheets} (hc : c.Sound)
    (hids : c.service.ids.Reliable) {worksheet other : WorksheetInfo} {ws otherWs : StoredWorksheet}
    (hws : c.service.book.worksheet? worksheet = some ws)
    (hother : c.service.book.worksheet? other = some otherWs) {q otherQuery : RowQuery}
    {filter otherFilter : Filter} (hq : q.query = filter.queryText)
    (hotherQuery : otherQuery.query = otherFilter.queryText) :
    rowsKey other otherQuery = rowsKey worksheet q ↔
      other.worksheetId = worksheet.worksheetId ∧ (otherQuery = q ∨ otherQuery.Mimics q) := by
  obtain ⟨hstored, hid⟩ := Workbook.stores_of_worksheet? hws
  obtain ⟨hotherStored, hotherId⟩ := Workbook.stores_of_worksheet? hother
  exact Client.rowsKey_eq_iff (hid ▸ (hc.service.isWorksheetId hids hstored).underscore_not_mem)
    (hotherId ▸ (hc.service.isWorksheetId hids hotherStored).underscore_not_mem) hq hotherQuery

/-- The rows that the service answers now to the query of a filter, without an order, are the rows
returned for that filter. -/
theorem raw_of_answersNow {c : Client MemorySheets} (hc : c.Sound)
    (hids : c.service.ids.Reliable) {worksheet : WorksheetInfo} {ws : StoredWorksheet}
    (hws : c.service.book.worksheet? worksheet = some ws) {filter : Filter}
    {raw : List RawRow}
    (hraw : c.AnswersNow (rowsKey worksheet ⟨filter.queryText, none, false⟩) raw) :
    raw = (ws.returned c.service.engine.evaluates filter).map fun numbered =>
      ws.rawRow numbered.1 numbered.2 := by
  obtain ⟨other, q, ws', otherFilter, hquery, hkey, hws', hanswer⟩ := hraw
  obtain ⟨hsame, rfl | hmimics⟩ := (hc.rowsKey_eq_iff hids hws hws' rfl hquery).1 hkey.symm
  · cases hc.service.eq_of_worksheetId_eq hids hws hws' hsame
    rw [ws.queryRows_queryText] at hanswer
    exact (Except.ok.inj hanswer).symm
  · -- no order mimics the order of the service
    cases hmimics

/-- The rows of a sound worksheet can be read. -/
theorem mapM_ofRaw_rawRow {ws : StoredWorksheet} (h : ws.Sound) (operation : Operation)
    {numbered : List (Nat × StoredRow)} (hmem : ∀ row ∈ numbered, row ∈ ws.numberedRows) :
    (numbered.map fun row => ws.rawRow row.1 row.2).mapM (Row.ofRaw operation) =
      .ok (numbered.map fun row => ws.shown row.1 row.2) := by
  induction numbered with
  | nil => rfl
  | cons first rest ih =>
    obtain ⟨hfirst, hrest⟩ := List.forall_mem_cons.1 hmem
    have hyear := h.plainYears _ (StoredWorksheet.mem_rows_of_mem_numberedRows hfirst)
    rw [List.map_cons, List.mapM_cons, StoredWorksheet.ofRaw_rawRow operation first.1 hyear,
      ih hrest]
    rfl

/-! ### Finding -/

theorem window_map {α β : Type} (options : FindOptions) (f : α → β) (rows : List α) :
    options.window (rows.map f) = (options.window rows).map f := by
  simp only [FindOptions.window]
  split <;> simp [List.map_drop, List.map_take]

variable {c : Client MemorySheets} {worksheet : WorksheetInfo} {ws : StoredWorksheet}

/-- A find of all rows or of the first one returns the rows found in the worksheet as it is, and
fails only because of a failure that is due. -/
theorem ends_find (hc : c.Sound) (hids : c.service.ids.Reliable)
    (hws : c.service.book.worksheet? worksheet = some ws) (clock : Clock) (filter : Filter)
    (all : Bool) :
    StoreM.Ends (find clock worksheet filter (allOrFirst all)) c
      (fun rows c' => c'.Sound ∧ Agrees c c' ∧
        rows = (ws.found c.service.engine.evaluates filter all).map fun numbered =>
          ws.shown numbered.1 numbered.2)
      (fun _ c' => c'.Sound ∧ Agrees c c' ∧ c.service.faults ≠ []) := by
  obtain ⟨hstored, -⟩ := Workbook.stores_of_worksheet? hws
  have hread : ∀ raw, c.AnswersNow (rowsKey worksheet ⟨filter.queryText, none, false⟩) raw →
      raw.mapM (Row.ofRaw .queryRows) = .ok ((ws.returned c.service.engine.evaluates filter).map
        fun numbered => ws.shown numbered.1 numbered.2) := by
    intro raw hraw
    rw [raw_of_answersNow hc hids hws hraw]
    exact mapM_ofRaw_rawRow (hc.service.worksheets hstored) .queryRows fun row hrow =>
      (List.mem_filter.1 hrow).1
  have hquery : (allOrFirst all).rowQuery filter.queryText = ⟨filter.queryText, none, false⟩ := rfl
  rw [find, hquery]
  refine (ends_queryRows hc clock worksheet rfl).andThen ?_ ?_
  · rintro e c' ⟨hsound, hagrees, hfaults | hrefuse | ⟨raw, e', hraw, he⟩⟩
    · exact ⟨hsound, hagrees, hfaults⟩
    · obtain ⟨refusal, hrefusal⟩ := hrefuse ws hws
      rw [ws.queryRows_queryText] at hrefusal
      cases hrefusal
    · rw [hread raw hraw] at he
      cases he
  · rintro rows c' ⟨hsound, hagrees, raw, hraw, hrows⟩
    rw [hread raw hraw] at hrows
    cases hrows
    refine StoreM.ends_pure ⟨hsound, hagrees, ?_⟩
    rw [Filter.select, window_map, StoredWorksheet.found, List.filter_map]
    rfl

/-! ### Reads keep a client sound -/

/-- The query of a filter keeps a client sound. -/
theorem keeps_queryRows (clock : Clock) (worksheet : WorksheetInfo) {q : RowQuery} {filter : Filter}
    (hq : q.query = filter.queryText) : StoreM.Keeps Sound (queryRows clock worksheet q) :=
  StoreM.keeps_of_ends fun _ hc =>
    (ends_queryRows hc clock worksheet hq).mono (fun _ _ => And.left) fun _ _ => And.left

theorem keeps_ask_read (clock : Clock) {request : Request} (h : request.isRead = true) :
    StoreM.Keeps Sound (ask clock request) :=
  StoreM.keeps_of_ends fun _ hc =>
    (ends_ask_read hc clock h).mono (fun _ _ => And.left) fun _ _ => And.left

theorem keeps_kept? (clock : Clock) (key : String) : StoreM.Keeps Sound (kept? clock key) :=
  StoreM.keeps_of_ends fun _ hc =>
    (ends_kept? hc clock key).mono (fun _ _ => And.left) fun _ _ => False.elim

theorem keeps_keep (clock : Clock) (key : String) {answer : KeptAnswer}
    (h : ∀ raw, answer ≠ .rows raw) : StoreM.Keeps Sound (keep clock key answer) :=
  StoreM.keeps_of_ends fun _ hc =>
    (ends_keep hc clock key answer fun raw heq => absurd heq (h raw)).mono (fun _ _ => And.left)
      fun _ _ => False.elim

theorem keeps_freshFields (clock : Clock) (worksheet : WorksheetInfo) :
    StoreM.Keeps Sound (freshFields clock worksheet) := by
  refine (keeps_ask_read clock rfl).bind fun cells => ?_
  split
  · exact StoreM.keeps_throw _
  · exact (keeps_keep clock _ (fun _ h => by cases h)).bind fun _ => StoreM.keeps_pure _

theorem keeps_queryFields (clock : Clock) (worksheet : WorksheetInfo) :
    StoreM.Keeps Sound (queryFields clock worksheet) := by
  refine (keeps_kept? clock _).bind fun kept => ?_
  split
  · exact StoreM.keeps_pure _
  · exact keeps_freshFields clock worksheet

theorem keeps_sheetInfo (clock : Clock) (sheetId : String) :
    StoreM.Keeps Sound (sheetInfo clock sheetId) := by
  refine (keeps_kept? clock _).bind fun kept => ?_
  split
  · exact StoreM.keeps_pure _
  · exact (keeps_ask_read clock rfl).bind fun info =>
      (keeps_keep clock _ (fun _ h => by cases h)).bind fun _ => StoreM.keeps_pure _

end Client

end GridStore
