import GridStore.Proofs.Client.Writes
import GridStore.Proofs.Sorting

/-!
# Answers that a client keeps

A read answers with what is kept, or it asks the service and keeps the answer. A write leaves no
kept answers, unless it was refused before its first request and has changed nothing.

## Main definitions

* `Request.key?`, `Request.kept?`: where and how a client keeps the answer to a request.
* `MemorySheets.WouldAnswer`: whether what is kept is what the service would answer now.
* `Client.ReadsTo`: what a read that succeeds leads to.
* `Client.Settles`: whether a computation leaves no kept answers or changes nothing.

## Main results

* `Client.ends_reads_sheetInfo`, `ends_reads_queryRows`, `ends_reads_queryFields`: reads.
* `Client.settles_insertRows`, `settles_updateRows`, `settles_deleteRows`: writes.
-/

namespace GridStore

/-! ### Requests -/

namespace Request

/-- The key under which a client keeps the answer to a request. Only answers to reads are kept. -/
def key? : Request → Option String
  | sheetInfo sheetId => some (ResponseCache.sheetKey sheetId)
  | queryRows worksheet query => some (Client.rowsKey worksheet query)
  | queryFields worksheet => some (ResponseCache.fieldsKey worksheet.worksheetId)
  | _ => none

/-- An answer to a request as a client keeps it. -/
def kept? : (request : Request) → request.Answer → Option KeptAnswer
  | sheetInfo _, info => some (.sheet info)
  | queryRows .., raw => some (.rows raw)
  | queryFields _, cells => some (.fields cells)
  | _, _ => none

theorem isRead_of_key? {request : Request} {key : String} (h : request.key? = some key) :
    request.isRead = true := by
  cases request <;> first | rfl | cases h

end Request

/-- Whether the rows of a kept answer can be read. -/
def KeptAnswer.IsReadable : KeptAnswer → Prop
  | rows raw => ∃ rows, raw.mapM (Row.ofRaw .queryRows) = .ok rows
  | _ => True

namespace MemorySheets

variable {s s' : MemorySheets} {request : Request} {answer : KeptAnswer}

/-- Whether the service would answer a request with what is kept if it were asked now, at any time
and with no failure due. -/
def WouldAnswer (s : MemorySheets) (request : Request) (answer : KeptAnswer) : Prop :=
  ∀ now, ∃ a, ({ s with faults := [] }.answer now request).1 = .ok a ∧
    request.kept? a = some answer

/-- A service without failures that are due accepts what its workbook accepts. -/
theorem answer_calm_eq_ok_iff {now : Instant} {a : request.Answer} :
    ({ s with faults := [] }.answer now request).1 = .ok a ↔
      (s.book.answer now s.ids.next s.engine request).1 = .ok a := by
  rw [fst_answer_of_calm rfl]
  cases (s.book.answer now s.ids.next s.engine request).1 with
  | error refusal => exact iff_of_false nofun nofun
  | ok a' => exact ⟨fun h => congrArg _ (Except.ok.inj h), fun h => congrArg _ (Except.ok.inj h)⟩

theorem wouldAnswer_of_book {a : request.Answer}
    (h : ∀ now newId, (s.book.answer now newId s.engine request).1 = .ok a)
    (hkept : request.kept? a = some answer) : s.WouldAnswer request answer := fun now =>
  ⟨a, answer_calm_eq_ok_iff.2 (h now s.ids.next), hkept⟩

/-- What the service would answer to a read depends on its workbook alone. -/
theorem WouldAnswer.congr (h : s.WouldAnswer request answer) (hread : request.isRead = true)
    (hbook : s'.book = s.book) (hengine : s'.engine = s.engine) :
    s'.WouldAnswer request answer := fun now => by
  obtain ⟨a, hanswer, hkept⟩ := h now
  refine ⟨a, answer_calm_eq_ok_iff.2 ?_, hkept⟩
  rw [hbook, hengine, Workbook.answer_now s.book now now _ s.ids.next s.engine hread]
  exact answer_calm_eq_ok_iff.1 hanswer

end MemorySheets

/-! ### Header cells -/

/-- The cells of a header are described in the order of their positions. -/
theorem StoredWorksheet.sortedBy_fieldCells (ws : StoredWorksheet) :
    sortedBy (fun a b => a.col < b.col) ws.fieldCells = ws.fieldCells := by
  refine sortedBy_eq_self (List.pairwise_map.2 (ws.header.increasing.imp fun {a b} h => ?_))
  have hlt : a.1 < b.1 := Nat.compare_eq_lt.1 h
  exact decide_eq_false (Nat.lt_asymm hlt)

namespace Client

variable {clock : Clock} {c c' : Client MemorySheets}

/-! ### Reads -/

/-- Whether a state of a client holds the same workbook as another one, and no other kept
answers. -/
structure Shrinks (c c' : Client MemorySheets) : Prop where
  book : c'.service.book = c.service.book
  engine : c'.service.engine = c.service.engine
  enabled : c'.cache.enabled = c.cache.enabled
  entries : c'.cache.entries.Sublist c.cache.entries

theorem Shrinks.trans {c'' : Client MemorySheets} (h : Shrinks c c') (h' : Shrinks c' c'') :
    Shrinks c c'' where
  book := h'.book.trans h.book
  engine := h'.engine.trans h.engine
  enabled := h'.enabled.trans h.enabled
  entries := h'.entries.trans h.entries

theorem Unchanged.shrinks (h : Unchanged c c') : Shrinks c c' :=
  ⟨h.book, h.engine, by rw [h.cache], h.cache ▸ .refl _⟩

/-- What a read of a request that succeeds leads to: the answer was kept, and nothing is asked, or
the service is asked, and its answer is kept. -/
inductive ReadsTo (clock : Clock) (request : Request) (key : String) (c : Client MemorySheets) :
    Client MemorySheets → Prop
  | kept {c' : Client MemorySheets} (shrinks : Shrinks c c')
      (log : c'.service.log = c.service.log) : ReadsTo clock request key c c'
  | asked {c' : Client MemorySheets} {answer : KeptAnswer} (shrinks : Shrinks c c')
      (log : c'.service.log ≠ c.service.log) (current : c'.service.WouldAnswer request answer)
      (readable : answer.IsReadable) :
      ReadsTo clock request key c
        { c' with cache := c'.cache.put clock.elapsed key answer }

theorem ReadsTo.of_shrinks {request : Request} {key : String} {c'' : Client MemorySheets}
    (h : Shrinks c c') (hlog : c'.service.log = c.service.log)
    (hreads : ReadsTo clock request key c' c'') : ReadsTo clock request key c c'' := by
  cases hreads with
  | kept shrinks log => exact .kept (h.trans shrinks) (log.trans hlog)
  | asked shrinks log current readable =>
    exact .asked (h.trans shrinks) (hlog ▸ log) current readable

/-- Looking for a kept answer may forget it, and changes nothing else. -/
theorem ends_kept?_shrinks (clock : Clock) (key : String) (c : Client MemorySheets) :
    StoreM.Ends (kept? clock key) c (fun _ c' => Shrinks c c' ∧ c'.service = c.service)
      (fun _ _ => False) := by
  refine ⟨⟨rfl, rfl, ?_, ?_⟩, rfl⟩
  · exact ResponseCache.enabled_get
  · exact ResponseCache.sublist_get

/-- A request that reads is logged, and leads to what the workbook answers. -/
theorem ends_ask_logged {request : Request} (hread : request.isRead = true) (clock : Clock)
    (c : Client MemorySheets) :
    StoreM.Ends (ask clock request) c
      (fun a c' => Shrinks c c' ∧ c'.service.log ≠ c.service.log ∧ ∀ now newId,
        (c'.service.book.answer now newId c'.service.engine request).1 = .ok a)
      (fun _ c' => Shrinks c c') := by
  refine ((ends_ask_isRead clock hread c).and
    (fun c' => c'.service.log = c.service.log ++ [request]) (log_ask clock request c)).mono ?_ ?_
  · rintro a c' ⟨⟨hunchanged, hanswer⟩, hlog⟩
    refine ⟨hunchanged.shrinks, fun heq => ?_, hunchanged.book ▸ hunchanged.engine ▸ hanswer⟩
    rw [heq] at hlog
    exact List.cons_ne_nil _ _ (List.self_eq_append_right.1 hlog)
  · rintro e c' ⟨⟨hunchanged, -⟩, -⟩
    exact hunchanged.shrinks

/-- An answer that was asked for is kept. -/
theorem ends_keep_asked {α : Type} {request : Request} {answer : KeptAnswer}
    (hshrinks : Shrinks c c') (hlog : c'.service.log ≠ c.service.log)
    (hcurrent : c'.service.WouldAnswer request answer) (hreadable : answer.IsReadable)
    (key : String) (value : α) :
    StoreM.Ends (do keep clock key answer; return value) c'
      (fun _ c'' => ReadsTo clock request key c c'') (fun _ c'' => Shrinks c c'') :=
  ⟨.asked hshrinks hlog hcurrent hreadable⟩

/-- The description of a sheet is kept. -/
theorem ends_reads_sheetInfo (clock : Clock) (sheetId : String) (c : Client MemorySheets) :
    StoreM.Ends (sheetInfo clock sheetId) c
      (fun _ c' => ReadsTo clock (.sheetInfo sheetId) (ResponseCache.sheetKey sheetId) c c')
      (fun _ c' => Shrinks c c') := by
  refine (ends_kept?_shrinks clock _ c).andThen (fun _ _ => False.elim) ?_
  rintro answer c₁ ⟨hshrinks, hservice⟩
  split
  · exact StoreM.ends_pure (.kept hshrinks (by rw [hservice]))
  · refine (@ends_ask_logged (.sheetInfo sheetId) rfl clock c₁).andThen
      (fun _ _ => hshrinks.trans) ?_
    rintro info c₂ ⟨hshrinks₂, hlog, hanswer⟩
    exact ends_keep_asked (hshrinks.trans hshrinks₂) (hservice ▸ hlog)
      (MemorySheets.wouldAnswer_of_book hanswer rfl) trivial _ info

/-- The rows of a query are kept if they can be read. -/
theorem ends_reads_queryRows (clock : Clock) (worksheet : WorksheetInfo) (query : RowQuery)
    (c : Client MemorySheets) :
    StoreM.Ends (queryRows clock worksheet query) c
      (fun _ c' => ReadsTo clock (.queryRows worksheet query) (rowsKey worksheet query) c c')
      (fun _ c' => Shrinks c c') := by
  refine (ends_kept?_shrinks clock _ c).andThen (fun _ _ => False.elim) ?_
  rintro answer c₁ ⟨hshrinks, hservice⟩
  split
  case h_1 raw =>
    refine (ends_decodeRows .queryRows raw c₁).mono ?_ ?_
    · rintro rows c₂ ⟨rfl, -⟩
      exact .kept hshrinks (by rw [hservice])
    · rintro e c₂ ⟨rfl, -⟩
      exact hshrinks
  case h_2 =>
    refine (@ends_ask_logged (.queryRows worksheet query) rfl clock c₁).andThen
      (fun _ _ => hshrinks.trans) ?_
    rintro raw c₂ ⟨hshrinks₂, hlog, hanswer⟩
    refine (ends_decodeRows .queryRows raw c₂).andThen ?_ ?_
    · rintro e c₃ ⟨rfl, -⟩
      exact hshrinks.trans hshrinks₂
    · rintro rows c₃ ⟨rfl, hrows⟩
      exact ends_keep_asked (hshrinks.trans hshrinks₂) (hservice ▸ hlog)
        (MemorySheets.wouldAnswer_of_book hanswer rfl) ⟨rows, hrows⟩ _ rows

/-- The answer of the workbook to a query of header cells describes the header of a worksheet. -/
theorem exists_fieldCells_of_answer {book : Workbook} {now : Instant} {newId : String}
    {engine : QueryEngine} {worksheet : WorksheetInfo} {cells : List FieldCell}
    (h : (book.answer now newId engine (.queryFields worksheet)).1 = .ok cells) :
    ∃ ws : StoredWorksheet, cells = ws.fieldCells := by
  rw [Workbook.answer, Workbook.readWorksheet] at h
  split at h
  · cases h
  · exact ⟨_, (Except.ok.inj h).symm⟩

/-- The header cells are kept as the service answers them. -/
theorem ends_reads_freshFields (clock : Clock) (worksheet : WorksheetInfo)
    (c : Client MemorySheets) :
    StoreM.Ends (freshFields clock worksheet) c
      (fun _ c' => ReadsTo clock (.queryFields worksheet)
        (ResponseCache.fieldsKey worksheet.worksheetId) c c')
      (fun _ c' => Shrinks c c') := by
  refine (@ends_ask_logged (.queryFields worksheet) rfl clock c).bind ?_
  rintro cells c₁ ⟨hshrinks, hlog, hanswer⟩
  split
  · exact StoreM.ends_throw hshrinks
  · obtain ⟨ws, rfl⟩ := exists_fieldCells_of_answer (hanswer clock.instant c₁.service.ids.next)
    have hreadable : (KeptAnswer.fields ws.fieldCells).IsReadable := trivial
    simp only [ws.sortedBy_fieldCells]
    exact ends_keep_asked hshrinks hlog (MemorySheets.wouldAnswer_of_book hanswer rfl) hreadable _ _

theorem ends_reads_queryFields (clock : Clock) (worksheet : WorksheetInfo)
    (c : Client MemorySheets) :
    StoreM.Ends (queryFields clock worksheet) c
      (fun _ c' => ReadsTo clock (.queryFields worksheet)
        (ResponseCache.fieldsKey worksheet.worksheetId) c c')
      (fun _ c' => Shrinks c c') := by
  refine (ends_kept?_shrinks clock _ c).andThen (fun _ _ => False.elim) ?_
  rintro answer c₁ ⟨hshrinks, hservice⟩
  split
  · exact StoreM.ends_pure (.kept hshrinks (by rw [hservice]))
  · exact (ends_reads_freshFields clock worksheet c₁).mono
      (fun _ _ => .of_shrinks hshrinks (by rw [hservice])) fun _ _ => hshrinks.trans

/-! ### Writes -/

/-- Whether a computation ends with no kept answers, or leaves the service and the kept answers as
they were. -/
def Settles {α : Type} (x : StoreM (Client MemorySheets) α) : Prop :=
  ∀ c, (x c).2.cache.entries = [] ∨ (x c).2.service = c.service ∧ (x c).2.cache = c.cache

section

variable {α β : Type}

theorem settles_pure (a : α) : Settles (pure a) := fun _ => .inr ⟨rfl, rfl⟩

theorem settles_throw (e : StoreError) : Settles (throw e : StoreM (Client MemorySheets) α) :=
  fun _ => .inr ⟨rfl, rfl⟩

theorem settles_forgetting (change : StoreM (Client MemorySheets) α) :
    Settles (forgetting change) := fun _ => .inl rfl

theorem Settles.bind {x : StoreM (Client MemorySheets) α} {f : α → StoreM (Client MemorySheets) β}
    (hx : Settles x) (hf : ∀ a, Settles (f a)) : Settles (x >>= f) := by
  intro c
  rw [StoreM.bind_apply]
  have hfirst := hx c
  rcases hresult : x c with ⟨_ | a, c'⟩
  · rw [hresult] at hfirst
    exact hfirst
  · rw [hresult] at hfirst
    rcases hf a c' with hnone | ⟨hservice, hcache⟩
    · exact .inl hnone
    · refine hfirst.imp (fun h => ?_) fun h => ⟨hservice.trans h.1, hcache.trans h.2⟩
      rw [hcache]
      exact h

end

theorem settles_requireToken (operation : Operation) :
    Settles (requireToken operation : StoreM (Client MemorySheets) Unit) := by
  have hget : Settles (get : StoreM (Client MemorySheets) (Client MemorySheets)) :=
    fun _ => .inr ⟨rfl, rfl⟩
  refine hget.bind fun c => ?_
  split
  · exact settles_throw _
  · exact settles_pure _

theorem settles_setToken (token : String) :
    Settles (setToken token : StoreM (Client MemorySheets) Unit) := by
  rw [setToken]
  split
  · exact fun _ => .inr ⟨rfl, rfl⟩
  · exact fun _ => .inr ⟨rfl, rfl⟩

theorem settles_createWorksheet (clock : Clock) (sheetId title : String) (size : WorksheetSize) :
    Settles (createWorksheet clock sheetId title size) :=
  (settles_requireToken _).bind fun _ => settles_forgetting _

theorem settles_dropWorksheet (clock : Clock) (sheetId worksheetId : String) :
    Settles (dropWorksheet clock sheetId worksheetId) :=
  (settles_requireToken _).bind fun _ => settles_forgetting _

theorem settles_createColumns (clock : Clock) (worksheet : WorksheetInfo) (names : List String)
    (start : Nat) : Settles (createColumns clock worksheet names start) := by
  rw [createColumns]
  split
  · exact settles_throw _
  · split
    · exact settles_pure _
    · exact settles_forgetting _

theorem settles_insertRows (clock : Clock) (worksheet : WorksheetInfo) (rows : List Row) :
    Settles (insertRows clock worksheet rows) := by
  rw [insertRows]
  split
  · exact settles_pure _
  · exact settles_forgetting _

theorem settles_updateRows (clock : Clock) (worksheet : WorksheetInfo) (rows : List Row) :
    Settles (updateRows clock worksheet rows) := by
  rw [updateRows]
  split
  · exact settles_throw _
  · split
    · exact settles_pure _
    · exact settles_forgetting _

theorem settles_deleteRows (clock : Clock) (worksheet : WorksheetInfo) (ids : List String) :
    Settles (deleteRows clock worksheet ids) := by
  rw [deleteRows]
  split
  · exact settles_pure _
  · exact (settles_forgetting _).bind fun _ => settles_pure _

end Client

end GridStore
