import GridStore.Proofs.Client.KeptRows
import GridStore.Proofs.Results

/-!
# Pages of a find

A find cuts a window out of the rows in the order of the service before the filter has its word.
The windows of all pages make up all rows, so the pages make up what a find of all rows returns, as
long as both are made from rows in one order. The rows that are kept for a find may be in an order
that mimics the wanted one; if kept answers can grow too old, some pages may be made of these rows
and the others of rows in the wanted order.

## Main definitions

* `Listing`: what all pages have in common.
* `Session.PagedFind`: a find with a window, after other reads.
* `Session.visit`, `Session.found`: where the finds of a run take place, and what they return.
* `Session.seen`, `Session.order`: the query that has left the rows with which a find is answered.
* `Session.Holds`: whether rows are kept under a key for good.

## Main results

* `flatten_windows`: the windows of all pages make up a list.
* `Session.OfFinds.rows_seen`: what a find returns, by the order that it sees.
* `Session.Holds.run`: without a greatest age reads keep the rows that are kept.
* `Session.order_eq_of_found`: without a greatest age all finds after one that has returned rows see
  one order.
* `Session.found_or_brokenOff`, `Session.pages_of_one_order`: what finds of a run return, and what
  pages of one order make up.
* `Session.pages_make_up_whole`: the pages of one order make up the whole.
-/

namespace GridStore

/-! ### Windows -/

/-- The windows of pages of one size make up a list that they cover. -/
theorem flatten_windows {α : Type} (size count : Nat) {xs : List α}
    (h : xs.length ≤ count * size) :
    ((List.range count).map fun i => (xs.drop (i * size)).take size).flatten = xs := by
  induction count generalizing xs with
  | zero =>
    rw [Nat.zero_mul, Nat.le_zero] at h
    exact (List.eq_nil_of_length_eq_zero h).symm
  | succ count ih =>
    have hrest : (xs.drop size).length ≤ count * size := by
      rw [List.length_drop, Nat.sub_le_iff_le_add, ← Nat.succ_mul]
      exact h
    have hshift : ∀ i, xs.drop ((i + 1) * size) = (xs.drop size).drop (i * size) := by
      intro i
      rw [List.drop_drop, Nat.succ_mul, Nat.add_comm]
    rw [List.range_succ_eq_map, List.map_cons, List.map_map, List.flatten_cons, Nat.zero_mul,
      List.drop_zero]
    simp only [Function.comp_def, hshift]
    rw [ih hrest, List.take_append_drop]

/-- The rows that a filter means in the pages are those that it means in the whole. -/
theorem Filter.flatten_select_windows (filter : Filter) (size count : Nat) {rows : List Row}
    (h : rows.length ≤ count * size) :
    ((List.range count).map fun i => filter.select ((rows.drop (i * size)).take size)).flatten =
      filter.select rows := by
  have hmap : ((List.range count).map fun i => filter.select ((rows.drop (i * size)).take size)) =
      ((List.range count).map fun i => (rows.drop (i * size)).take size).map filter.select :=
    (List.map_map ..).symm
  rw [hmap]
  exact List.filter_flatten.symm.trans (congrArg filter.select (flatten_windows size count h))

namespace StoredWorksheet

/-- A worksheet returns as many rows for the query of a filter in any order. -/
theorem length_queryRows {ws : StoredWorksheet} {engine : QueryEngine} {filter : Filter}
    {q : RowQuery} (hq : q.query = filter.queryText) {raw : List RawRow}
    (h : ws.queryRows q engine = .ok raw) :
    raw.length = (ws.returned engine.evaluates filter).length := by
  obtain ⟨accepted, rows, haccepted, harranged, rfl⟩ := queryRows_eq_ok_iff.1 h
  obtain ⟨accepted', haccepted', hrows⟩ :=
    ws.exists_acceptedRows_eq_returned engine.evaluates filter
  rw [hq, haccepted', Except.ok.injEq] at haccepted
  rw [List.length_map, ← hrows, haccepted]
  exact (RowQuery.perm_of_arrange harranged).length_eq

end StoredWorksheet

/-! ### What reads keep -/

namespace ClientCall

/-- A read has a request, whose answer is kept under a key. -/
theorem exists_key_of_request? {call : ClientCall} {request : Request}
    (h : call.request? = some request) :
    request.isRead = true ∧ ∃ key, request.key? = some key := by
  cases call <;> cases h <;> exact ⟨rfl, _, rfl⟩

/-- A read keeps what is kept by looking for its answer, asking for it and keeping it. -/
theorem keeps_read {P : Client MemorySheets → Prop} {clock : Clock} {call : ClientCall}
    {request : Request} {key : String} (hrequest : call.request? = some request)
    (hkey : request.key? = some key) (hlook : StoreM.Keeps P (Client.kept? clock key))
    (hask : StoreM.Keeps P (Client.ask clock request))
    (hkeep : ∀ answer, StoreM.Keeps P (Client.keep clock key answer)) {c : Client MemorySheets}
    (h : P c) : P (call.run clock c).2 := by
  have hdecode : ∀ raw : List RawRow, StoreM.Keeps P (raw.mapM (Client.decodeRow .queryRows)) :=
    fun raw => StoreM.keeps_mapM (fun _ => StoreM.keeps_liftExcept _) raw
  have hfields : ∀ worksheet, request = .queryFields worksheet →
      StoreM.Keeps P (Client.freshFields clock worksheet) := by
    rintro worksheet rfl
    cases hkey
    refine hask.bind fun cells => ?_
    split
    · exact StoreM.keeps_throw _
    · exact (hkeep _).bind fun _ => StoreM.keeps_pure _
  cases call with
  | sheetInfo sheetId =>
    cases hrequest
    cases hkey
    refine (hlook.bind fun answer => ?_ : StoreM.Keeps P (Client.sheetInfo clock sheetId)) c h
    split
    · exact StoreM.keeps_pure _
    · exact hask.bind fun info => (hkeep _).bind fun _ => StoreM.keeps_pure info
  | queryRows worksheet query =>
    cases hrequest
    cases hkey
    refine (hlook.bind fun answer => ?_ :
      StoreM.Keeps P (Client.queryRows clock worksheet query)) c h
    split
    · exact hdecode _
    · exact hask.bind fun raw => (hdecode raw).bind fun rows =>
        (hkeep _).bind fun _ => StoreM.keeps_pure rows
  | queryFields worksheet =>
    cases hrequest
    cases hkey
    refine (hlook.bind fun answer => ?_ : StoreM.Keeps P (Client.queryFields clock worksheet)) c h
    split
    · exact StoreM.keeps_pure _
    · exact hfields worksheet rfl
  | freshFields worksheet =>
    cases hrequest
    exact hfields worksheet rfl c h
  | _ => cases hrequest

end ClientCall

namespace Client

/-- A read leaves the workbook as it is, and brings about no failures. -/
theorem Agrees.read {start c : Client MemorySheets} (h : Agrees start c) (clock : Clock)
    {call : ClientCall} {request : Request} (hrequest : call.request? = some request) :
    Agrees start (call.run clock c).2 := by
  obtain ⟨hread, key, hkey⟩ := ClientCall.exists_key_of_request? hrequest
  have hask : StoreM.Keeps (Agrees start) (ask clock request) := by
    refine StoreM.keeps_of_ends fun c' h' => (ends_ask_isRead clock hread c').mono ?_ ?_
    · exact fun _ _ hends => h'.trans hends.1.toAgrees
    · exact fun _ _ hends => h'.trans hends.1.toAgrees
  have hlook : StoreM.Keeps (Agrees start) (kept? clock key) :=
    fun _ h' => ⟨h'.book, h'.engine, h'.ids, h'.calm⟩
  have hkeep : ∀ answer, StoreM.Keeps (Agrees start) (keep clock key answer) :=
    fun _ _ h' => ⟨h'.book, h'.engine, h'.ids, h'.calm⟩
  exact ClientCall.keeps_read hrequest hkey hlook hask hkeep h

end Client

namespace ClientCall

variable {clock : Clock} {call : ClientCall} {request : Request} {key : String}

/-- A read leaves the settings of the cache as they are. -/
theorem settings_read (clock : Clock) (hrequest : call.request? = some request)
    (hkey : request.key? = some key) (c : Client MemorySheets) :
    (call.run clock c).2.cache.enabled = c.cache.enabled ∧
      (call.run clock c).2.cache.maxAge = c.cache.maxAge := by
  refine keeps_read (P := fun c' => c'.cache.enabled = c.cache.enabled ∧
    c'.cache.maxAge = c.cache.maxAge) hrequest hkey ?_ ?_ ?_ ⟨rfl, rfl⟩
  · rintro c' ⟨henabled, hage⟩
    exact ⟨ResponseCache.enabled_get.trans henabled, ResponseCache.maxAge_get.trans hage⟩
  · exact fun c' h => h
  · rintro answer c' ⟨henabled, hage⟩
    exact ⟨ResponseCache.enabled_put.trans henabled, ResponseCache.maxAge_put.trans hage⟩

/-- Without a greatest age a read keeps what is kept under other keys. -/
theorem get?_entries_read_of_ne (hrequest : call.request? = some request)
    (hkey : request.key? = some key) {other : String} (hne : key ≠ other)
    {c : Client MemorySheets} (hage : c.cache.maxAge = none) :
    Entries.get? (call.run clock c).2.cache.entries other =
      Entries.get? c.cache.entries other := by
  refine (keeps_read (P := fun c' => c'.cache.maxAge = none ∧
    Entries.get? c'.cache.entries other = Entries.get? c.cache.entries other)
    hrequest hkey ?_ ?_ ?_ ⟨hage, rfl⟩).2
  · rintro c' ⟨hage, hentry⟩
    refine ⟨ResponseCache.maxAge_get.trans hage, ?_⟩
    show Entries.get? (c'.cache.get clock.elapsed key).2.entries other = _
    rw [ResponseCache.snd_get_of_ageless hage, hentry]
  · exact fun c' h => h
  · rintro answer c' ⟨hage, hentry⟩
    exact ⟨ResponseCache.maxAge_put.trans hage,
      (ResponseCache.get?_entries_put_of_ne hne).trans hentry⟩

end ClientCall

/-! ### Keys of other answers -/

namespace Client

/-- An identity has seven digits, so a key that starts with a shorter or longer word is not that of
rows of a stored worksheet. -/
theorem Sound.ne_rowsKey {c : Client MemorySheets} (h : c.Sound)
    (hids : c.service.ids.Reliable) {worksheet : WorksheetInfo} {ws : StoredWorksheet}
    (hws : c.service.book.worksheet? worksheet = some ws) {word : String}
    (hword : '_' ∉ word.toList) (hlength : word.toList.length ≠ 7) (rest : String)
    (q : RowQuery) : word ++ "_" ++ rest ≠ rowsKey worksheet q := by
  obtain ⟨hstored, hid⟩ := Workbook.stores_of_worksheet? hws
  have hform : IsWorksheetId worksheet.worksheetId :=
    hid ▸ h.service.isWorksheetId hids hstored
  intro heq
  have hlist := congrArg String.toList heq
  simp only [rowsKey, ResponseCache.rowsKey, String.toList_append] at hlist
  have hparts : word.toList ++ '_' :: rest.toList = worksheet.worksheetId.toList ++ '_' ::
      (q.query.toList ++ '_' :: ({ q with query := "" } : RowQuery).params.toList) := by
    simpa using hlist
  obtain ⟨hsame, -⟩ := eq_of_append_underscore hword hform.underscore_not_mem hparts
  rw [hsame] at hlength
  exact hlength hform.1

/-- Only the answer to a query of rows is kept under the key of rows of a stored worksheet. -/
theorem Sound.eq_queryRows_of_key? {c : Client MemorySheets} (h : c.Sound)
    (hids : c.service.ids.Reliable) {worksheet : WorksheetInfo} {ws : StoredWorksheet}
    (hws : c.service.book.worksheet? worksheet = some ws) {q : RowQuery} {request : Request}
    (hkey : request.key? = some (rowsKey worksheet q)) :
    ∃ other left, request = .queryRows other left := by
  cases request with
  | sheetInfo sheetId =>
    have hsheet : ResponseCache.sheetKey sheetId = "sheet" ++ "_" ++ ("info_" ++ sheetId) := by
      simp [ResponseCache.sheetKey, ← String.toList_inj]
    exact absurd (Option.some.inj hkey)
      (hsheet ▸ h.ne_rowsKey hids hws (by decide) (by decide) _ q)
  | queryFields other =>
    have hfields : ResponseCache.fieldsKey other.worksheetId =
        "query" ++ "_" ++ ("fields_" ++ other.worksheetId) := by
      simp [ResponseCache.fieldsKey, ← String.toList_inj]
    exact absurd (Option.some.inj hkey)
      (hfields ▸ h.ne_rowsKey hids hws (by decide) (by decide) _ q)
  | queryRows other left => exact ⟨other, left, rfl⟩
  | _ => cases hkey

/-- A find that succeeds has asked for its rows with success. -/
theorem exists_ok_of_find {clock : Clock} {worksheet : WorksheetInfo} {filter : Filter}
    {options : FindOptions} {c : Client MemorySheets} {rows : List Row}
    (h : (find clock worksheet filter options c).1 = .ok rows) :
    ∃ rows', (queryRows clock worksheet (options.rowQuery filter.queryText) c).1 = .ok rows' := by
  rw [find, StoreM.bind_apply] at h
  rcases hquery : queryRows clock worksheet (options.rowQuery filter.queryText) c with
    ⟨e | rows', c'⟩
  · rw [hquery] at h
    cases h
  · exact ⟨rows', rfl⟩

/-- A query whose rows are kept leaves the client as looking for them does. -/
theorem snd_queryRows_of_kept {clock : Clock} {worksheet : WorksheetInfo} {q : RowQuery}
    {c : Client MemorySheets} {raw : List RawRow}
    (hkept : (c.cache.get clock.elapsed (rowsKey worksheet q)).1 = some (.rows raw)) :
    (queryRows clock worksheet q c).2 =
      { c with cache := (c.cache.get clock.elapsed (rowsKey worksheet q)).2 } := by
  have hlooked : kept? clock (rowsKey worksheet q) c = (.ok (some (.rows raw)),
      { c with cache := (c.cache.get clock.elapsed (rowsKey worksheet q)).2 }) := by
    rw [← hkept]
    rfl
  rw [queryRows, StoreM.bind_apply, hlooked]
  exact StoreM.keeps_mapM (P := (· = _)) (fun _ => StoreM.keeps_liftExcept _) raw _ rfl

/-- A query whose rows are not kept asks for them, and keeps them if it succeeds. -/
theorem ends_queryRows_put {clock : Clock} {worksheet : WorksheetInfo} {q : RowQuery}
    {c : Client MemorySheets}
    (hkept : ∀ raw, (c.cache.get clock.elapsed (rowsKey worksheet q)).1 ≠ some (.rows raw)) :
    StoreM.Ends (queryRows clock worksheet q) c
      (fun _ c' => c'.service.log ≠ c.service.log ∧
        ∃ (cache : ResponseCache KeptAnswer) (raw : List RawRow),
          cache.enabled = c.cache.enabled ∧ cache.maxAge = c.cache.maxAge ∧
          c'.cache = cache.put clock.elapsed (rowsKey worksheet q) (.rows raw))
      fun _ _ => True := by
  rw [queryRows]
  have hlooked : StoreM.Ends (kept? clock (rowsKey worksheet q)) c
      (fun answer c' => (∀ raw, answer ≠ some (.rows raw)) ∧ c'.service = c.service ∧
        c'.cache.enabled = c.cache.enabled ∧ c'.cache.maxAge = c.cache.maxAge)
      fun _ _ => False :=
    ⟨hkept, rfl, ResponseCache.enabled_get, ResponseCache.maxAge_get⟩
  refine hlooked.andThen (fun _ _ => False.elim) ?_
  rintro answer c₁ ⟨hnone, hservice, henabled, hage⟩
  split
  case h_1 raw => exact absurd rfl (hnone raw)
  case h_2 =>
    have hasked : StoreM.Ends (ask clock (.queryRows worksheet q)) c₁
        (fun _ c' => c'.service.log ≠ c.service.log ∧ c'.cache = c₁.cache) fun _ _ => True := by
      refine ((ends_ask_isRead clock rfl c₁).and
        (fun c' => c'.service.log = c₁.service.log ++ [.queryRows worksheet q])
        (log_ask clock _ c₁)).mono ?_ fun _ _ _ => trivial
      rintro raw c₂ ⟨⟨hunchanged, -⟩, hlog⟩
      rw [hlog, hservice]
      exact ⟨fun heq => List.cons_ne_nil _ _ (List.self_eq_append_right.1 heq.symm),
        hunchanged.cache⟩
    refine hasked.andThen (fun _ _ => id) ?_
    rintro raw c₂ ⟨hlog, hcache⟩
    refine (ends_decodeRows .queryRows raw c₂).andThen (fun _ _ _ => trivial) ?_
    rintro rows c₃ ⟨rfl, -⟩
    refine ⟨hlog, c₃.cache, raw, ?_, ?_, rfl⟩
    · rw [hcache, henabled]
    · rw [hcache, hage]

end Client

/-! ### Reads in a session -/

/-- What the finds of all pages have in common. -/
structure Listing where
  worksheet : WorksheetInfo
  filter : Filter
  sort : Option String := none
  descending : Bool := false

namespace Listing

/-- The query that all pages send. -/
def query (l : Listing) : RowQuery := ⟨l.filter.queryText, l.sort, l.descending⟩

/-- The key under which the rows of all pages are kept. -/
def key (l : Listing) : String := Client.rowsKey l.worksheet l.query

/-- The find of a window. -/
def find (l : Listing) (skip : Nat) (limit : Option Nat) : RowsRead :=
  .find l.filter ⟨skip, limit, l.sort, l.descending⟩

end Listing

namespace Session

/-- Whether a step is a read, and queries rows as finds query them. -/
def IsBrowsing : Step → Prop
  | .call clock call => IsOfFinds (.call clock call) ∧ ∃ request, call.request? = some request
  | .fault _ => False

theorem OfFinds.step {t : Session} (h : t.OfFinds) {step : Step} (hstep : IsOfFinds step) :
    (t.step step).OfFinds := by
  obtain ⟨c, steps, hc, hcache, hsteps, rfl⟩ := h
  refine ⟨c, steps ++ [step], hc, hcache, fun other hmem => ?_, ?_⟩
  · rcases List.mem_append.1 hmem with hold | hnew
    · exact hsteps other hold
    · exact List.mem_singleton.1 hnew ▸ hstep
  · exact (run_append { client := c } steps [step]).symm

/-- What reads leave of a session as it is: the workbook, that there are no failures to come, and
whether and how long answers are kept. -/
structure Browsed (s t : Session) : Prop where
  ofFinds : t.OfFinds
  agrees : s.client.Agrees t.client
  enabled : t.client.cache.enabled = s.client.cache.enabled
  maxAge : t.client.cache.maxAge = s.client.cache.maxAge

variable {s t : Session}

theorem OfFinds.browsed (h : s.OfFinds) : s.Browsed s := ⟨h, .refl _, rfl, rfl⟩

theorem Browsed.step (h : s.Browsed t) {step : Step} (hstep : IsBrowsing step) :
    s.Browsed (t.step step) := by
  cases step with
  | fault fault => exact hstep.elim
  | call clock call =>
    obtain ⟨hfinds, request, hrequest⟩ := hstep
    obtain ⟨-, key, hkey⟩ := ClientCall.exists_key_of_request? hrequest
    obtain ⟨henabled, hage⟩ := ClientCall.settings_read clock hrequest hkey t.client
    exact ⟨h.ofFinds.step hfinds, h.agrees.read clock hrequest, henabled.trans h.enabled,
      hage.trans h.maxAge⟩

theorem Browsed.run (h : s.Browsed t) {steps : List Step}
    (hsteps : ∀ step ∈ steps, IsBrowsing step) : s.Browsed (t.run steps) := by
  induction steps generalizing t with
  | nil => exact h
  | cons step rest ih =>
    obtain ⟨hstep, hrest⟩ := List.forall_mem_cons.1 hsteps
    exact ih (h.step hstep) hrest

/-! ### The order that a find sees -/

/-- The query that has left the rows with which a find is answered: that of the kept rows, if there
are any, and else that of the find. -/
def seen (t : Session) (clock : Clock) (l : Listing) : RowQuery :=
  match (t.client.cache.get clock.elapsed l.key).1, t.origin l.key with
  | some (.rows _), some (.queryRows _ left) => left
  | _, _ => l.query

variable {l : Listing} {ws : StoredWorksheet} {clock : Clock}

theorem seen_of_not_kept
    (h : ∀ raw, (t.client.cache.get clock.elapsed l.key).1 ≠ some (.rows raw)) :
    t.seen clock l = l.query := by
  rw [seen]
  split
  case h_1 raw _ _ hkept _ => exact absurd hkept (h raw)
  case h_2 => rfl

theorem seen_of_disabled (h : t.client.cache.enabled = false) : t.seen clock l = l.query :=
  seen_of_not_kept fun raw => by
    rw [ResponseCache.fst_get_of_disabled h]
    exact (Option.some_ne_none _).symm

/-- A read with the query of a listing returns its pick of what the worksheet answers to the query
that it sees. This is the query of the listing, or rows are kept that were left by a query whose
order mimics that of the listing. -/
theorem OfFinds.rows_seen (ht : t.OfFinds) (hids : t.client.service.ids.Reliable)
    (hcalm : t.client.service.faults = [])
    (hws : t.client.service.book.worksheet? l.worksheet = some ws) (clock : Clock) :
    (t.seen clock l = l.query ∨ (t.seen clock l).Mimics l.query ∧
        ∃ raw, ws.queryRows (t.seen clock l) t.client.service.engine = .ok raw) ∧
      ∀ read : RowsRead, read.request = l.query → (read.rows clock l.worksheet t.client).1 =
        read.result l.worksheet (ws.queryRows (t.seen clock l) t.client.service.engine) := by
  have hsound := ht.sound
  by_cases hkept : ∃ raw, (t.client.cache.get clock.elapsed l.key).1 = some (.rows raw)
  · obtain ⟨raw, hkept⟩ := hkept
    have hquery : l.query.query = l.filter.queryText := rfl
    obtain ⟨other, left, horigin, -, horder, hanswer, -⟩ :=
      hsound.kept_rows hids hws hquery hkept
    have hseen : t.seen clock l = left := by
      rw [seen, hkept, show t.origin l.key = _ from horigin]
    rw [hseen]
    refine ⟨horder.imp_right fun hmimics => ⟨hmimics, raw, hanswer⟩, fun read hread => ?_⟩
    rw [hanswer]
    rw [Listing.key, ← hread] at hkept
    exact RowsRead.rows_of_kept hkept
  · have hnone := not_exists.1 hkept
    rw [seen_of_not_kept hnone]
    refine ⟨.inl rfl, fun read hread => ?_⟩
    rw [Listing.key, ← hread] at hnone
    rw [← hread]
    exact RowsRead.rows_of_asked hnone hcalm hws

/-! ### Rows that are kept for good -/

/-- Whether rows that a query has left are kept under a key, without a greatest age. -/
structure Holds (t : Session) (key : String) (left : RowQuery) : Prop where
  enabled : t.client.cache.enabled = true
  ageless : t.client.cache.maxAge = none
  kept : ∃ stored raw, Entries.get? t.client.cache.entries key = some (stored, .rows raw)
  origin : ∃ other, t.origin key = some (.queryRows other left)

theorem Holds.fst_get {key : String} {left : RowQuery} (h : t.Holds key left) (now : Nat) :
    ∃ raw, (t.client.cache.get now key).1 = some (.rows raw) := by
  obtain ⟨stored, raw, hkept⟩ := h.kept
  exact ⟨raw, ResponseCache.fst_get_of_ageless h.enabled h.ageless hkept now⟩

theorem Holds.seen {left : RowQuery} (h : t.Holds l.key left) (clock : Clock) :
    t.seen clock l = left := by
  obtain ⟨raw, hkept⟩ := h.fst_get clock.elapsed
  obtain ⟨other, horigin⟩ := h.origin
  rw [Session.seen, hkept, horigin]

/-- A read of rows that are kept for good changes nothing. -/
theorem Holds.call_eq_self {worksheet : WorksheetInfo} {q left : RowQuery}
    (h : t.Holds (Client.rowsKey worksheet q) left) (clock : Clock) :
    t.call clock (.queryRows worksheet q) = t := by
  obtain ⟨raw, hkept⟩ := h.fst_get clock.elapsed
  have hrun : ((ClientCall.queryRows worksheet q).run clock t.client).2 = t.client := by
    show (Client.queryRows clock worksheet q t.client).2 = t.client
    rw [Client.snd_queryRows_of_kept hkept, ResponseCache.snd_get_of_ageless h.ageless]
  rw [call_of_keptRequest?_eq_none (by simp [ClientCall.keptRequest?, hrun]), hrun]

/-- Reads keep rows that are kept for good: those that look for them find them, and those that do
not keep their answers under other keys. -/
theorem Holds.step {left : RowQuery} (h : t.Holds l.key left) (ht : t.Sound)
    (hids : t.client.service.ids.Reliable)
    (hws : t.client.service.book.worksheet? l.worksheet = some ws) {step : Step}
    (hstep : IsBrowsing step) : (t.step step).Holds l.key left := by
  cases step with
  | fault fault => exact hstep.elim
  | call clock call =>
    obtain ⟨-, request, hrequest⟩ := hstep
    obtain ⟨-, key, hkey⟩ := ClientCall.exists_key_of_request? hrequest
    by_cases hsame : key = l.key
    -- only rows are asked for under this key, and they are found there
    · subst hsame
      obtain ⟨other, q, rfl⟩ := ht.client.eq_queryRows_of_key? hids hws hkey
      obtain rfl := ClientCall.eq_queryRows_of_request? hrequest
      have hother : l.key = Client.rowsKey other q := (Option.some.inj hkey).symm
      show (t.call clock _).Holds l.key left
      rw [hother] at h ⊢
      rwa [h.call_eq_self clock]
    · obtain ⟨stored, raw, hkept⟩ := h.kept
      obtain ⟨other, horigin⟩ := h.origin
      obtain ⟨henabled, hage⟩ := ClientCall.settings_read clock hrequest hkey t.client
      have hentry : Entries.get? (call.run clock t.client).2.cache.entries l.key =
          some (stored, .rows raw) :=
        (ClientCall.get?_entries_read_of_ne hrequest hkey hsame h.ageless).trans hkept
      have hstays : (t.call clock call).origin l.key = t.origin l.key := by
        have hnone : (call.keptRequest? clock t.client).filter
            (fun request => request.key? = some l.key) = none := by
          rw [Option.filter_eq_none_iff]
          intro other hother
          cases (ClientCall.request?_of_keptRequest? hother).symm.trans hrequest
          simpa [hkey] using hsame
        show ((call.keptRequest? clock t.client).filter _).or (t.origin l.key) = _
        rw [hnone]
        rfl
      exact ⟨henabled.trans h.enabled, hage.trans h.ageless, ⟨stored, raw, hentry⟩, other,
        hstays.trans horigin⟩

/-- A find that succeeds keeps the rows with which it is answered. -/
theorem OfFinds.holds_call (ht : t.OfFinds) (hids : t.client.service.ids.Reliable)
    (hws : t.client.service.book.worksheet? l.worksheet = some ws)
    (henabled : t.client.cache.enabled = true) (hage : t.client.cache.maxAge = none)
    {clock : Clock} {rows : List Row}
    (hok : (Client.queryRows clock l.worksheet l.query t.client).1 = .ok rows) :
    (t.call clock (.queryRows l.worksheet l.query)).Holds l.key (t.seen clock l) := by
  have hsound := ht.sound
  by_cases hkept : ∃ raw, (t.client.cache.get clock.elapsed l.key).1 = some (.rows raw)
  · obtain ⟨raw, hkept⟩ := hkept
    have hquery : l.query.query = l.filter.queryText := rfl
    obtain ⟨other, left, horigin, -⟩ := hsound.kept_rows hids hws hquery hkept
    obtain ⟨stored, hmem⟩ := ResponseCache.mem_of_get hkept
    have hholds : t.Holds l.key left :=
      ⟨henabled, hage, ⟨stored, raw, Entries.get?_of_mem hsound.current.names hmem⟩, other, horigin⟩
    rw [hholds.seen clock]
    rwa [hholds.call_eq_self clock]
  · have hnone := not_exists.1 hkept
    rw [seen_of_not_kept hnone]
    obtain ⟨hlog, cache, raw, hsame, hsameAge, hput⟩ :=
      (Client.ends_queryRows_put hnone).of_ok (Prod.ext hok rfl)
    have hasks : (ClientCall.queryRows l.worksheet l.query).keptRequest? clock t.client =
        some (.queryRows l.worksheet l.query) := by
      have hsucceeds :
          ((ClientCall.queryRows l.worksheet l.query).run clock t.client).1 = true := by
        show (Client.queryRows clock l.worksheet l.query t.client).1.isOk = true
        rw [hok]
        rfl
      exact if_pos ⟨hsucceeds, hlog, henabled⟩
    have hcache : (t.call clock (.queryRows l.worksheet l.query)).client.cache =
        cache.put clock.elapsed l.key (.rows raw) := hput
    refine ⟨?_, ?_, ⟨clock.elapsed, raw, ?_⟩, l.worksheet, ?_⟩
    · rw [hcache, ResponseCache.enabled_put, hsame, henabled]
    · rw [hcache, ResponseCache.maxAge_put, hsameAge, hage]
    · rw [hcache, ResponseCache.put, if_pos (hsame.trans henabled), Entries.get?_set, if_pos rfl]
    · have hkey : (Request.queryRows l.worksheet l.query).key? = some l.key := rfl
      simp [Session.call, hasks, hkey]

/-- Reads one after another keep rows that are kept for good. -/
theorem Holds.run {left : RowQuery} (hs : s.Browsed t) (h : t.Holds l.key left)
    (hids : s.client.service.ids.Reliable)
    (hws : s.client.service.book.worksheet? l.worksheet = some ws) {steps : List Step}
    (hsteps : ∀ step ∈ steps, IsBrowsing step) : (t.run steps).Holds l.key left := by
  induction steps generalizing t with
  | nil => exact h
  | cons step rest ih =>
    obtain ⟨hstep, hrest⟩ := List.forall_mem_cons.1 hsteps
    have hthere : t.client.service.book.worksheet? l.worksheet = some ws := by
      rw [hs.agrees.book, hws]
    exact ih (hs.step hstep) (h.step hs.ofFinds.sound (hs.agrees.ids ▸ hids) hthere hstep) hrest

/-! ### Runs of finds -/

/-- A find of a window, after other steps of a session. -/
structure PagedFind where
  before : List Step := []
  clock : Clock
  skip : Nat := 0
  limit : Option Nat := none

/-- Whether only reads stand before a find, all at times with a plain year. -/
def PagedFind.IsBrowsing (f : PagedFind) : Prop :=
  f.clock.instant.HasPlainYear ∧ ∀ step ∈ f.before, Session.IsBrowsing step

/-- The session in which a find of a run takes place, each of which leaves the session as its query
does. -/
def visit (s : Session) (l : Listing) (finds : Nat → PagedFind) : Nat → Session
  | 0 => s.run (finds 0).before
  | i + 1 => ((s.visit l finds i).call (finds i).clock (.queryRows l.worksheet l.query)).run
      (finds (i + 1)).before

/-- What a find of a run returns. -/
def found (s : Session) (l : Listing) (finds : Nat → PagedFind) (i : Nat) :
    Except StoreError (List Row) :=
  (Client.find (finds i).clock l.worksheet l.filter
    ⟨(finds i).skip, (finds i).limit, l.sort, l.descending⟩ (s.visit l finds i).client).1

/-- The order that a find of a run sees. -/
def order (s : Session) (l : Listing) (finds : Nat → PagedFind) (i : Nat) : RowQuery :=
  (s.visit l finds i).seen (finds i).clock l

variable {finds : Nat → PagedFind}

theorem isBrowsing_query {clock : Clock} (h : clock.instant.HasPlainYear) (l : Listing) :
    IsBrowsing (.call clock (.queryRows l.worksheet l.query)) := by
  refine ⟨⟨h, fun worksheet q heq => ⟨l.filter, ?_⟩⟩, _, rfl⟩
  cases heq
  rfl

theorem browsed_visit (hs : s.OfFinds) (hfinds : ∀ i, (finds i).IsBrowsing) (i : Nat) :
    s.Browsed (s.visit l finds i) := by
  induction i with
  | zero => exact hs.browsed.run (hfinds 0).2
  | succ i ih => exact (ih.step (isBrowsing_query (hfinds i).1 l)).run (hfinds (i + 1)).2

/-- Without a greatest age all later finds of a run see the order that a find has seen which
returned rows: what answered that one answers all. -/
theorem order_eq_of_found (hs : s.OfFinds) (hids : s.client.service.ids.Reliable)
    (hws : s.client.service.book.worksheet? l.worksheet = some ws)
    (hfinds : ∀ i, (finds i).IsBrowsing) (hage : s.client.cache.maxAge = none) {i j : Nat}
    (hle : i ≤ j) {rows : List Row} (hfound : s.found l finds i = .ok rows) :
    s.order l finds j = s.order l finds i := by
  have hvisit := fun i => browsed_visit (l := l) hs hfinds i
  cases henabled : s.client.cache.enabled with
  | false =>
    rw [order, order, seen_of_disabled ((hvisit i).enabled.trans henabled),
      seen_of_disabled ((hvisit j).enabled.trans henabled)]
  | true =>
    obtain ⟨rows', hok⟩ := Client.exists_ok_of_find hfound
    have hthere : (s.visit l finds i).client.service.book.worksheet? l.worksheet = some ws := by
      rw [(hvisit i).agrees.book, hws]
    -- the find leaves the rows under its key that it has seen, and all reads after it keep them
    have hleft := (hvisit i).ofFinds.holds_call ((hvisit i).agrees.ids ▸ hids) hthere
      ((hvisit i).enabled.trans henabled) ((hvisit i).maxAge.trans hage) hok
    have hholds : ∀ k, (s.visit l finds (i + 1 + k)).Holds l.key (s.order l finds i) := by
      intro k
      induction k with
      | zero =>
        exact Holds.run ((hvisit i).step (isBrowsing_query (hfinds i).1 l)) hleft hids hws
          (hfinds (i + 1)).2
      | succ k ih =>
        refine Holds.run ((hvisit _).step (isBrowsing_query (hfinds _).1 l)) ?_ hids hws
          (hfinds (i + 1 + k + 1)).2
        show ((s.visit l finds (i + 1 + k)).call _ _).Holds l.key _
        rw [ih.call_eq_self]
        exact ih
    rcases Nat.eq_or_lt_of_le hle with rfl | hlt
    · rfl
    · obtain ⟨k, rfl⟩ := Nat.exists_eq_add_of_le hlt
      exact (hholds k).seen _

section

variable (hs : s.OfFinds) (hids : s.client.service.ids.Reliable)
  (hcalm : s.client.service.faults = [])
  (hws : s.client.service.book.worksheet? l.worksheet = some ws)
  (hfinds : ∀ i, (finds i).IsBrowsing)

include hs hids hcalm hws hfinds

/-- A find of a run returns its pick of what the worksheet answers to the query that it sees: the
query of the listing, or one that is answered with rows and whose order mimics the wanted one. -/
theorem found_eq_result (i : Nat) :
    (s.order l finds i = l.query ∨ (s.order l finds i).Mimics l.query ∧
      ∃ raw, ws.queryRows (s.order l finds i) s.client.service.engine = .ok raw) ∧
    s.found l finds i = (l.find (finds i).skip (finds i).limit).result l.worksheet
      (ws.queryRows (s.order l finds i) s.client.service.engine) := by
  have hvisit := browsed_visit (l := l) hs hfinds i
  have hthere : (s.visit l finds i).client.service.book.worksheet? l.worksheet = some ws := by
    rw [hvisit.agrees.book, hws]
  obtain ⟨horder, hfound⟩ := hvisit.ofFinds.rows_seen (hvisit.agrees.ids ▸ hids)
    (hvisit.agrees.calm hcalm) hthere (finds i).clock
  rw [hvisit.agrees.engine] at horder hfound
  exact ⟨horder, hfound (l.find _ _) rfl⟩

/-- The query that a find sees asks for the rows of its filter, in some order. -/
theorem query_order (i : Nat) : (s.order l finds i).query = l.filter.queryText := by
  rcases (found_eq_result hs hids hcalm hws hfinds i).1 with heq | ⟨hmimics, -⟩
  · rw [heq]
    rfl
  · exact hmimics.query

/-- A find of a run returns rows, or it breaks off in sorting tangled rows in its own order. -/
theorem found_or_brokenOff (i : Nat) : (∃ rows, s.found l finds i = .ok rows) ∨
    s.found l finds i = .error .brokenOff ∧ s.order l finds i = l.query ∧
      ¬l.query.CanSort (ws.returned s.client.service.engine.evaluates l.filter) := by
  obtain ⟨hseen, hfound⟩ := found_eq_result hs hids hcalm hws hfinds i
  rcases hs.sound.queryRows_cases hws (query_order hs hids hcalm hws hfinds i) with
    ⟨raw, rows, hanswer, hrows⟩ | ⟨hanswer, htangled⟩
  · rw [hfound, hanswer]
    exact .inl ⟨_, RowsRead.result_ok hrows⟩
  · have horder : s.order l finds i = l.query := by
      refine hseen.resolve_right ?_
      rintro ⟨-, raw, hok⟩
      rw [hanswer] at hok
      cases hok
    rw [hfound, hanswer]
    exact .inr ⟨rfl, horder, horder ▸ htangled⟩

/-- Pages that see the order of the whole are windows of the same rows, or break off with it. -/
theorem pages_of_one_order {size count : Nat} {page : Nat → Nat} {whole : Nat} (hsize : 0 < size)
    (hpages : ∀ i < count,
      (finds (page i)).skip = i * size ∧ (finds (page i)).limit = some size)
    (hskip : (finds whole).skip = 0) (hlimit : (finds whole).limit = none)
    (hcovers : (ws.returned s.client.service.engine.evaluates l.filter).length ≤ count * size)
    (hone : ∀ i < count, s.order l finds (page i) = s.order l finds whole) :
    (∃ (pages : Nat → List Row) (rows : List Row),
      (∀ i < count, s.found l finds (page i) = .ok (pages i)) ∧
      s.found l finds whole = .ok rows ∧ ((List.range count).map pages).flatten = rows) ∨
    (∀ i < count, s.found l finds (page i) = .error .brokenOff) ∧
      s.found l finds whole = .error .brokenOff := by
  have hfound i := (found_eq_result hs hids hcalm hws hfinds i).2
  have hquery := query_order hs hids hcalm hws hfinds whole
  rcases hs.sound.queryRows_cases hws hquery with ⟨raw, rows, hanswer, hread⟩ | ⟨hanswer, -⟩
  · have hpage : ∀ i < count, s.found l finds (page i) =
        .ok (l.filter.select ((rows.drop (i * size)).take size)) := by
      intro i hi
      rw [hfound, hone i hi, hanswer, RowsRead.result_ok hread, (hpages i hi).1, (hpages i hi).2]
      obtain ⟨n, rfl⟩ := Nat.exists_eq_add_of_lt hsize
      rfl
    have hwhole : s.found l finds whole = .ok (l.filter.select rows) := by
      rw [hfound, hanswer, RowsRead.result_ok hread, hskip, hlimit]
      rfl
    have hlength : rows.length ≤ count * size := by
      rw [length_of_mapM hread, StoredWorksheet.length_queryRows hquery hanswer]
      exact hcovers
    exact .inl ⟨_, _, hpage, hwhole, l.filter.flatten_select_windows size count hlength⟩
  · refine .inr ⟨fun i hi => ?_, ?_⟩
    · rw [hfound, hone i hi, hanswer]
      rfl
    · rw [hfound, hanswer]
      rfl

end

/-- In a run of finds of one listing, with only reads between them, every find returns rows, or it
sees its own order and breaks off, as the rows are tangled in the column to sort by. Without a
greatest age all finds after one that has returned rows see one order; with one, a find may see an
order that mimics its own. The pages of one order make up the whole in that order, or all of them
break off. -/
theorem pages_make_up_whole (hs : s.OfFinds) (hids : s.client.service.ids.Reliable)
    (hcalm : s.client.service.faults = [])
    (hws : s.client.service.book.worksheet? l.worksheet = some ws)
    (hfinds : ∀ i, (finds i).IsBrowsing) :
    (∀ i, (∃ rows, s.found l finds i = .ok rows) ∨
      s.found l finds i = .error .brokenOff ∧ s.order l finds i = l.query ∧
        ¬l.query.CanSort (ws.returned s.client.service.engine.evaluates l.filter)) ∧
    (∀ i, s.order l finds i = l.query ∨ (s.order l finds i).Mimics l.query) ∧
    (s.client.cache.maxAge = none → ∀ i j, i ≤ j → (∃ rows, s.found l finds i = .ok rows) →
      s.order l finds j = s.order l finds i) ∧
    ∀ (size count : Nat) (page : Nat → Nat) (whole : Nat), 0 < size →
      (∀ i < count, (finds (page i)).skip = i * size ∧ (finds (page i)).limit = some size) →
      (finds whole).skip = 0 → (finds whole).limit = none →
      (ws.returned s.client.service.engine.evaluates l.filter).length ≤ count * size →
      (∀ i < count, s.order l finds (page i) = s.order l finds whole) →
      (∃ (pages : Nat → List Row) (rows : List Row),
        (∀ i < count, s.found l finds (page i) = .ok (pages i)) ∧
        s.found l finds whole = .ok rows ∧ ((List.range count).map pages).flatten = rows) ∨
      (∀ i < count, s.found l finds (page i) = .error .brokenOff) ∧
        s.found l finds whole = .error .brokenOff := by
  refine ⟨found_or_brokenOff hs hids hcalm hws hfinds,
    fun i => (found_eq_result hs hids hcalm hws hfinds i).1.imp_right And.left,
    fun hage i j hle ⟨rows, hfound⟩ => order_eq_of_found hs hids hws hfinds hage hle hfound, ?_⟩
  intro size count page whole hsize hpages hskip hlimit hcovers hone
  exact pages_of_one_order hs hids hcalm hws hfinds hsize hpages hskip hlimit hcovers hone

/-- All rows of the first worksheet in an order that mimics the descending one. -/
def mimickingListing : Listing where
  worksheet := Client.sampleInfo
  filter := .everything
  sort := some "a&reverse=true"

/-- Two pages of one row each and then the whole, at given times after the start. -/
def pagesOfOne (elapsed : Nat → Nat) (i : Nat) : PagedFind where
  clock := { Client.sampleClock with elapsed := elapsed i }
  skip := if i = 2 then 0 else i
  limit := if i = 2 then none else some 1

theorem isBrowsing_pagesOfOne (elapsed : Nat → Nat) (i : Nat) : (pagesOfOne elapsed i).IsBrowsing :=
  ⟨Client.plainYear_sampleClock, nofun⟩

/-- After a find in descending order both pages and the whole are in the order that it has left. -/
theorem pages_make_up_whole_descending :
    ∃ (pages : Nat → List Row) (rows : List Row),
      (∀ i < 2, descendingSession.found mimickingListing (pagesOfOne fun _ => 0) i =
        .ok (pages i)) ∧
      descendingSession.found mimickingListing (pagesOfOne fun _ => 0) 2 = .ok rows ∧
      pages 0 ++ pages 1 = rows ∧ rows.map Row.id = [some "2", some "1"] := by
  have hids : descendingSession.client.service.ids.Reliable :=
    IdSupply.reliable_of_sample (by decide +kernel) (by decide +kernel)
  have hcalm : descendingSession.client.service.faults = [] := by decide +kernel
  have hws : descendingSession.client.service.book.worksheet? mimickingListing.worksheet =
      some Client.sheetOfTwo := by decide +kernel
  have hage : descendingSession.client.cache.maxAge = none := by decide +kernel
  have hcovers : (Client.sheetOfTwo.returned descendingSession.client.service.engine.evaluates
      mimickingListing.filter).length ≤ 2 * 1 := by decide +kernel
  have hfirst : (descendingSession.found mimickingListing (pagesOfOne fun _ => 0)
      0).toOption.isSome := by decide +kernel
  have hall : (descendingSession.found mimickingListing (pagesOfOne fun _ => 0)
      2).toOption.map (·.map Row.id) = some [some "2", some "1"] := by decide +kernel
  have hpages : ∀ i < 2, (pagesOfOne (fun _ => 0) i).skip = i * 1 ∧
      (pagesOfOne (fun _ => 0) i).limit = some 1 := by decide
  obtain ⟨hrows, -, hone, hlaw⟩ := pages_make_up_whole ofFinds_descendingSession hids hcalm hws
    (isBrowsing_pagesOfOne fun _ => 0)
  have hstart := (hrows 0).resolve_right fun ⟨hbroken, _⟩ => by
    rw [hbroken] at hfirst
    cases hfirst
  have horder : ∀ i < 2, descendingSession.order mimickingListing (pagesOfOne fun _ => 0) i =
      descendingSession.order mimickingListing (pagesOfOne fun _ => 0) 2 := fun i _ =>
    (hone hage 0 i (Nat.zero_le i) hstart).trans (hone hage 0 2 (Nat.zero_le 2) hstart).symm
  obtain ⟨pages, rows, hfound, hwhole, hflatten⟩ | ⟨-, hbroken⟩ :=
    hlaw 1 2 id 2 (by decide) hpages rfl rfl hcovers horder
  · refine ⟨pages, rows, hfound, hwhole, ?_, ?_⟩
    · rw [← hflatten]
      simp [List.range_succ]
    · rw [hwhole] at hall
      exact Option.some.inj hall
  · rw [hbroken] at hall
    cases hall

/-- A session like the one with a find in descending order, in which answers are kept for a
second. -/
def agingSession : Session :=
  run { client := { Client.sampleClient with cache := { maxAge := some 1000 } } } descendingSteps

theorem ofFinds_agingSession : agingSession.OfFinds :=
  ⟨{ Client.sampleClient with cache := { maxAge := some 1000 } }, descendingSteps,
    .start _ .sample rfl rfl, rfl, isOfFinds_of_mem_descendingSteps, rfl⟩

/-- Two pages, of which the second one is asked for when kept answers have grown too old, and then
the whole. -/
def agingPages : Nat → PagedFind := pagesOfOne fun i => if i = 0 then 600 else 1200

/-- The pages do not always make up the whole: the first page is made of the rows that a find in
descending order has left, and these have grown too old when the second page is asked for. One row
is on both pages, and the other one on none. -/
theorem exists_pages_ne_whole :
    ∃ (s : Session) (ws : StoredWorksheet) (l : Listing) (finds : Nat → PagedFind)
      (first second rows : List Row),
      s.OfFinds ∧ s.client.service.ids.Reliable ∧ s.client.service.faults = [] ∧
      s.client.service.book.worksheet? l.worksheet = some ws ∧ (∀ i, (finds i).IsBrowsing) ∧
      (∀ i < 2, (finds i).skip = i * 1 ∧ (finds i).limit = some 1) ∧
      (finds 2).skip = 0 ∧ (finds 2).limit = none ∧
      (ws.returned s.client.service.engine.evaluates l.filter).length ≤ 2 * 1 ∧
      s.found l finds 0 = .ok first ∧ s.found l finds 1 = .ok second ∧
      s.found l finds 2 = .ok rows ∧ first.map Row.id = [some "2"] ∧
      second.map Row.id = [some "2"] ∧ rows.map Row.id = [some "1", some "2"] ∧
      first ++ second ≠ rows := by
  have hfound : ∀ i ids,
      (agingSession.found mimickingListing agingPages i).toOption.map (·.map Row.id) = some ids →
      ∃ rows, agingSession.found mimickingListing agingPages i = .ok rows ∧
        rows.map Row.id = ids := by
    intro i ids hids
    cases hrows : agingSession.found mimickingListing agingPages i with
    | error e =>
      rw [hrows] at hids
      cases hids
    | ok rows =>
      rw [hrows] at hids
      exact ⟨rows, rfl, Option.some.inj hids⟩
  obtain ⟨first, hfirst, hfirstIds⟩ := hfound 0 [some "2"] (by decide +kernel)
  obtain ⟨second, hsecond, hsecondIds⟩ := hfound 1 [some "2"] (by decide +kernel)
  obtain ⟨rows, hrows, hids⟩ := hfound 2 [some "1", some "2"] (by decide +kernel)
  refine ⟨agingSession, Client.sheetOfTwo, mimickingListing, agingPages, first, second, rows,
    ofFinds_agingSession, IdSupply.reliable_of_sample (by decide +kernel) (by decide +kernel),
    by decide +kernel, by decide +kernel, isBrowsing_pagesOfOne _, ?_, rfl, rfl, by decide +kernel,
    hfirst, hsecond, hrows, hfirstIds, hsecondIds, hids, fun heq => ?_⟩
  · decide
  · have hmap := congrArg (List.map Row.id) heq
    rw [List.map_append, hfirstIds, hsecondIds, hids] at hmap
    exact absurd hmap (by decide)

end Session

end GridStore
