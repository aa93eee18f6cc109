import GridStore.Proofs.Client.Reads

/-!
# Writes of a client

Every write ends with no kept answers, so a write keeps a client sound whatever it changed. A write
to one worksheet leaves all others as they are.

## Main definitions

* `Client.RowSteps`: whether the steps of calls on a worksheet keep a property of the client.
* `Client.Moves`: whether one state of a client follows another one by changes of one worksheet.

## Main results

* `Client.ends_ask_set`, `Client.ends_ask_change`: what a request to change a worksheet leads to.
* `Client.rowSteps_sound`: the steps of calls on a worksheet keep a client sound.
-/

namespace GridStore

namespace Client

/-! ### What calls on a worksheet are made of -/

section

variable {σ : Type} [Service σ]

/-- Whether the steps that calls on a worksheet are made of keep a property of the client. -/
structure RowSteps (P : Client σ → Prop) (clock : Clock) (worksheet : WorksheetInfo) : Prop where
  query : ∀ (filter : Filter) (options : FindOptions),
    StoreM.Keeps P (queryRows clock worksheet (options.rowQuery filter.queryText))
  fields : StoreM.Keeps P (queryFields clock worksheet)
  ensure : ∀ rows, StoreM.Keeps P (ensureColumns clock worksheet rows)
  insert : ∀ rows, StoreM.Keeps P (insertRows clock worksheet rows)
  update : ∀ rows, StoreM.Keeps P (updateRows clock worksheet rows)
  delete : ∀ ids, StoreM.Keeps P (deleteRows clock worksheet ids)

namespace RowSteps

variable {P : Client σ → Prop} {clock : Clock} {worksheet : WorksheetInfo}
  (h : RowSteps P clock worksheet)

include h

theorem keeps_find (filter : Filter) (options : FindOptions) :
    StoreM.Keeps P (find clock worksheet filter options) :=
  (h.query filter options).bind fun _ => StoreM.keeps_pure _

theorem keeps_insert (rows : List Row) : StoreM.Keeps P (Client.insert clock worksheet rows) := by
  rw [Client.insert]
  split
  · exact StoreM.keeps_pure _
  · exact (h.ensure rows).bind fun _ => h.insert rows

theorem keeps_update (selector : Filter) (u : Update) (options : UpdateOptions) :
    StoreM.Keeps P (Client.update clock worksheet selector u options) := by
  refine (h.keeps_find selector _).bind fun matched => ?_
  split
  · split
    · exact h.keeps_insert _
    · exact StoreM.keeps_pure _
  · simp only
    split
    · exact (h.ensure _).bind fun _ => h.update _
    · exact h.update _

theorem keeps_remove (selector : Filter) (options : RemoveOptions) :
    StoreM.Keeps P (remove clock worksheet selector options) := by
  rw [remove]
  split
  · exact h.delete _
  · exact (h.keeps_find selector _).bind fun rows => h.delete _

theorem keeps_columns : StoreM.Keeps P (columns clock worksheet) :=
  h.fields.bind fun _ => StoreM.keeps_pure _

end RowSteps

end

section

variable {σ : Type} {P : Client σ → Prop}

theorem keeps_decodeRow (operation : Operation) (raw : RawRow) :
    StoreM.Keeps P (decodeRow operation raw) := StoreM.keeps_liftExcept _

theorem keeps_requireToken (operation : Operation) : StoreM.Keeps P (requireToken operation) := by
  refine StoreM.keeps_get.bind fun c => ?_
  split
  · exact StoreM.keeps_throw _
  · exact StoreM.keeps_pure _

end

/-! ### Writes keep a client sound -/

/-- Whether the service of a client is sound. -/
def ServiceSound (c : Client MemorySheets) : Prop := c.service.Sound

/-- Every request at a time with a plain year keeps the service sound. -/
theorem keeps_ask {clock : Clock} (hclock : clock.instant.HasPlainYear) (request : Request) :
    StoreM.Keeps ServiceSound (ask clock request) :=
  StoreM.keeps_of_ends fun c hc => by
    refine (ends_ask clock request c).mono ?_ ?_
    · rintro a c' ⟨s', rfl, hanswered⟩
      exact MemorySheets.sound_answer hc hclock hanswered
    · rintro e c' ⟨s', rfl, hanswered⟩
      exact MemorySheets.sound_answer hc hclock hanswered

/-- A change that keeps the service sound keeps the client sound, as it ends with no kept
answers. -/
theorem keeps_forgetting {α : Type} {change : StoreM (Client MemorySheets) α}
    (h : StoreM.Keeps ServiceSound change) : StoreM.Keeps Sound (forgetting change) :=
  fun c hc => ⟨h c hc.service, rowsCurrent_of_nil rfl⟩

theorem keeps_setToken (token : String) :
    StoreM.Keeps Sound (setToken token : StoreM (Client MemorySheets) Unit) := by
  rw [setToken]
  split
  · exact fun c hc => hc
  · exact fun c hc => ⟨hc.service, hc.rows⟩

section

variable {clock : Clock} (hclock : clock.instant.HasPlainYear) (worksheet : WorksheetInfo)

include hclock

theorem keeps_createColumns (names : List String) (start : Nat) :
    StoreM.Keeps Sound (createColumns clock worksheet names start) := by
  rw [createColumns]
  split
  · exact StoreM.keeps_throw _
  · split
    · exact StoreM.keeps_pure _
    · exact keeps_forgetting (StoreM.keeps_forM (fun _ => keeps_ask hclock _) _)

theorem keeps_insertRows (rows : List Row) :
    StoreM.Keeps Sound (insertRows clock worksheet rows) := by
  rw [insertRows]
  split
  · exact StoreM.keeps_pure _
  · exact keeps_forgetting (StoreM.keeps_mapM
      (fun _ => (keeps_ask hclock _).bind fun _ => keeps_decodeRow _ _) _)

theorem keeps_updateRows (rows : List Row) :
    StoreM.Keeps Sound (updateRows clock worksheet rows) := by
  rw [updateRows]
  split
  · exact StoreM.keeps_throw _
  · split
    · exact StoreM.keeps_pure _
    · exact keeps_forgetting (StoreM.keeps_mapM
        (fun _ => (keeps_ask hclock _).bind fun _ => keeps_decodeRow _ _) _)

theorem keeps_deleteRows (ids : List String) :
    StoreM.Keeps Sound (deleteRows clock worksheet ids) := by
  rw [deleteRows]
  split
  · exact StoreM.keeps_pure _
  · exact (keeps_forgetting (StoreM.keeps_forM (fun _ => keeps_ask hclock _) _)).bind fun _ =>
      StoreM.keeps_pure _

theorem keeps_ensureColumns (rows : List Row) :
    StoreM.Keeps Sound (ensureColumns clock worksheet rows) := by
  refine (keeps_freshFields clock worksheet).bind fun cells => ?_
  simp only
  split
  · exact (keeps_createColumns hclock worksheet _ _).bind fun _ => StoreM.keeps_pure _
  · exact StoreM.keeps_pure _

theorem rowSteps_sound : RowSteps Sound clock worksheet where
  query _ _ := keeps_queryRows clock worksheet rfl
  fields := keeps_queryFields clock worksheet
  ensure := keeps_ensureColumns hclock worksheet
  insert := keeps_insertRows hclock worksheet
  update := keeps_updateRows hclock worksheet
  delete := keeps_deleteRows hclock worksheet

theorem keeps_insert (rows : List Row) : StoreM.Keeps Sound (insert clock worksheet rows) :=
  (rowSteps_sound hclock worksheet).keeps_insert rows

theorem keeps_update (selector : Filter) (u : Update) (options : UpdateOptions) :
    StoreM.Keeps Sound (update clock worksheet selector u options) :=
  (rowSteps_sound hclock worksheet).keeps_update selector u options

theorem keeps_createWorksheet (sheetId title : String) (size : WorksheetSize) :
    StoreM.Keeps Sound (createWorksheet clock sheetId title size) :=
  (keeps_requireToken _).bind fun _ => keeps_forgetting (keeps_ask hclock _)

theorem keeps_dropWorksheet (sheetId worksheetId : String) :
    StoreM.Keeps Sound (dropWorksheet clock sheetId worksheetId) :=
  (keeps_requireToken _).bind fun _ => keeps_forgetting (keeps_ask hclock _)

end

/-! ### Changes of one worksheet -/

/-- Whether one state of a client follows another one by changes of one worksheet, which is `ws`
afterwards. -/
structure Moves (worksheet : WorksheetInfo) (c : Client MemorySheets) (ws : StoredWorksheet)
    (c' : Client MemorySheets) : Prop where
  found : c'.service.book.worksheet? worksheet = some ws
  others : ∀ other : WorksheetInfo, other.sheetId ≠ worksheet.sheetId ∨
    other.worksheetId ≠ worksheet.worksheetId →
    c'.service.book.worksheet? other = c.service.book.worksheet? other
  engine : c'.service.engine = c.service.engine
  ids : c'.service.ids = c.service.ids
  calm : c.service.faults = [] → c'.service.faults = []

variable {worksheet : WorksheetInfo} {c c' c'' : Client MemorySheets} {ws ws' : StoredWorksheet}

theorem Agrees.moves (h : Agrees c c') (hws : c.service.book.worksheet? worksheet = some ws) :
    Moves worksheet c ws c' :=
  ⟨h.book ▸ hws, fun _ _ => by rw [h.book], h.engine, h.ids, h.calm⟩

theorem Moves.trans (h : Moves worksheet c ws c') (h' : Moves worksheet c' ws' c'') :
    Moves worksheet c ws' c'' where
  found := h'.found
  others other hother := (h'.others other hother).trans (h.others other hother)
  engine := h'.engine.trans h.engine
  ids := h'.ids.trans h.ids
  calm := h'.calm ∘ h.calm

theorem Moves.faults_ne (h : Moves worksheet c ws c') (hfaults : c'.service.faults ≠ []) :
    c.service.faults ≠ [] := fun hnil => hfaults (h.calm hnil)

/-- Forgetting kept answers changes nothing else. -/
theorem ends_forgetting {α : Type} {change : StoreM (Client MemorySheets) α}
    {ok : α → Client MemorySheets → Prop} {fail : StoreError → Client MemorySheets → Prop}
    (h : StoreM.Ends change c (fun a c' => ok a { c' with cache := c'.cache.clear })
      fun e c' => fail e { c' with cache := c'.cache.clear }) :
    StoreM.Ends (forgetting change) c ok fail := by
  rcases hchange : change c with ⟨e | a, c'⟩
  · have hfail := (StoreM.ends_error hchange).1 h
    refine (StoreM.ends_error ?_).2 hfail
    rw [forgetting, hchange]
  · have hok := (StoreM.ends_ok hchange).1 h
    refine (StoreM.ends_ok ?_).2 hok
    rw [forgetting, hchange]

theorem Moves.forget (h : Moves worksheet c ws c') :
    Moves worksheet c ws { c' with cache := c'.cache.clear } :=
  ⟨h.found, h.others, h.engine, h.ids, h.calm⟩

/-- A request to change a worksheet leads to the workbook with the changed worksheet set, or leaves
the workbook as it is if a failure is due or the change is refused. -/
theorem ends_ask_set (hws : c.service.book.worksheet? worksheet = some ws) (clock : Clock)
    (request : Request)
    (change : StoredWorksheet → Except Refusal (request.Answer × StoredWorksheet))
    (hrequest : ∀ (book : Workbook) (newId : String) (engine : QueryEngine),
      book.answer clock.instant newId engine request = book.changeWorksheet worksheet change)
    (hdraws : c.service.ids.afterAccepted request = c.service.ids) :
    StoreM.Ends (ask clock request) c
      (fun a c' => ∃ ws', change ws = .ok (a, ws') ∧
        c'.service.book = c.service.book.setWorksheet worksheet ws' ∧
        c'.service.engine = c.service.engine ∧ c'.service.ids = c.service.ids ∧
        (c.service.faults = [] → c'.service.faults = []))
      (fun _ c' => Agrees c c' ∧
        (c.service.faults ≠ [] ∨ ∃ refusal, change ws = .error refusal)) := by
  refine (ends_ask clock request c).mono ?_ ?_
  · rintro a c' ⟨s', rfl, hanswered⟩
    cases hanswered with
    | accepted book engine ids calm =>
      rw [hrequest, Workbook.changeWorksheet, hws] at book
      simp only at book
      cases hchange : change ws with
      | error refusal => rw [hchange] at book; cases book
      | ok result =>
        obtain ⟨a', ws'⟩ := result
        rw [hchange] at book
        simp only [Prod.mk.injEq, Except.ok.injEq] at book
        obtain ⟨rfl, hbook⟩ := book
        exact ⟨ws', rfl, hbook.symm, engine, ids.trans hdraws, calm⟩
  · rintro e c' ⟨s', rfl, hanswered⟩
    cases hanswered with
    | struck due book engine ids => exact ⟨⟨book, engine, ids, fun h => absurd h due⟩, .inl due⟩
    | refused book engine ids calm =>
      rw [hrequest, Workbook.changeWorksheet, hws] at book
      simp only at book
      cases hchange : change ws with
      | ok result => rw [hchange] at book; cases book
      | error refusal =>
        rw [hchange] at book
        exact ⟨⟨(Prod.mk.inj book).2.symm, engine, ids, calm⟩, .inr ⟨refusal, rfl⟩⟩

/-- A request to change a worksheet leads to the changed worksheet, or leaves it as it is if a
failure is due or the change is refused. -/
theorem ends_ask_change (hws : c.service.book.worksheet? worksheet = some ws) (clock : Clock)
    (request : Request)
    (change : StoredWorksheet → Except Refusal (request.Answer × StoredWorksheet))
    (hrequest : ∀ (book : Workbook) (newId : String) (engine : QueryEngine),
      book.answer clock.instant newId engine request = book.changeWorksheet worksheet change)
    (hdraws : c.service.ids.afterAccepted request = c.service.ids)
    (hid : ∀ a ws', change ws = .ok (a, ws') → ws'.id = ws.id) :
    StoreM.Ends (ask clock request) c
      (fun a c' => ∃ ws', change ws = .ok (a, ws') ∧ Moves worksheet c ws' c')
      (fun _ c' => Moves worksheet c ws c' ∧
        (c.service.faults ≠ [] ∨ ∃ refusal, change ws = .error refusal)) := by
  refine (ends_ask_set hws clock request change hrequest hdraws).mono ?_ ?_
  · rintro a c' ⟨ws', hchange, hbook, hengine, hids, hcalm⟩
    have hws' := hid a ws' hchange
    exact ⟨ws', hchange, hbook ▸ Workbook.worksheet?_setWorksheet hws hws', fun other hother =>
      hbook ▸ Workbook.worksheet?_setWorksheet_of_ne hws hws' hother, hengine, hids, hcalm⟩
  · rintro e c' ⟨hagrees, hreason⟩
    exact ⟨hagrees.moves hws, hreason⟩

/-- A request to change a worksheet that is not refused leads to the changed worksheet, unless a
failure is due. -/
theorem ends_ask_accepted (hws : c.service.book.worksheet? worksheet = some ws) (clock : Clock)
    (request : Request)
    (change : StoredWorksheet → Except Refusal (request.Answer × StoredWorksheet))
    (hrequest : ∀ (book : Workbook) (newId : String) (engine : QueryEngine),
      book.answer clock.instant newId engine request = book.changeWorksheet worksheet change)
    (hdraws : c.service.ids.afterAccepted request = c.service.ids)
    {answer : request.Answer} (hok : change ws = .ok (answer, ws')) (hid : ws'.id = ws.id) :
    StoreM.Ends (ask clock request) c
      (fun a c' => a = answer ∧ Moves worksheet c ws' c')
      (fun _ c' => Moves worksheet c ws c' ∧ c.service.faults ≠ []) := by
  have hids : ∀ a ws'', change ws = .ok (a, ws'') → ws''.id = ws.id := by
    intro a ws'' h
    rw [hok] at h
    cases h
    exact hid
  refine (ends_ask_change hws clock request change hrequest hdraws hids).mono ?_ ?_
  · rintro a c' ⟨ws'', hchange, hmoves⟩
    rw [hok] at hchange
    cases hchange
    exact ⟨rfl, hmoves⟩
  · rintro e c' ⟨hmoves, hfaults | ⟨refusal, hrefused⟩⟩
    · exact ⟨hmoves, hfaults⟩
    · rw [hok] at hrefused
      cases hrefused

end Client

end GridStore
