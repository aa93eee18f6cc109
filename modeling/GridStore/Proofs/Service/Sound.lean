import GridStore.Proofs.Service.Identities
import GridStore.Proofs.Service.Memory
import GridStore.Proofs.Workbook.Changes

/-!
# What the service in memory keeps

Every answer of the service keeps its worksheets sound. Their identities are drawn one after another
from the supply, those of worksheets of different sheets at different times.

## Main definitions

* `MemorySheets.Sound`: what every answer keeps.

## Main results

* `Workbook.stores_answer`: where the worksheets stored after an answer come from.
* `MemorySheets.sound_answer`: an answer keeps the service sound.
* `MemorySheets.Sound.eq_of_worksheetId_eq`: a reliable identity names one worksheet.
-/

namespace GridStore

/-! ### Answers of a workbook -/

namespace Workbook

variable {book : Workbook} {now : Instant} {newId : String}

/-- How a stored worksheet comes out of an answer: it was stored before, or it is a changed form of
one that was stored in the same sheet, or it is new. -/
inductive Origin (book : Workbook) (newId : String) (request : Request) (accepted : Prop)
    (sheetId : String) (ws : StoredWorksheet) : Prop
  | stored (h : book.Stores sheetId ws)
  | changed (old : StoredWorksheet) (h : book.Stores sheetId old) (id : ws.id = old.id)
      (sound : old.Sound → ws.Sound)
  | created (h : accepted) (title : String) (size : WorksheetSize)
      (eq : request = .createWorksheet sheetId title size) (id : ws.id = newId) (sound : ws.Sound)

/-- The identity of a stored worksheet is that of one stored before in the same sheet, or new. -/
theorem Origin.id {request : Request} {accepted : Prop} {sheetId : String} {ws : StoredWorksheet}
    (h : Origin book newId request accepted sheetId ws) :
    (∃ old, book.Stores sheetId old ∧ ws.id = old.id) ∨
      (ws.id = newId ∧ accepted ∧ ∃ title size, request = .createWorksheet sheetId title size) := by
  cases h with
  | stored hold => exact .inl ⟨ws, hold, rfl⟩
  | changed old hold hid hsound => exact .inl ⟨old, hold, hid⟩
  | created haccepted title size heq hid hsound => exact .inr ⟨hid, haccepted, title, size, heq⟩

/-- A change of one worksheet leaves the others, and an accepted change keeps its identity. -/
theorem origin_changeWorksheet {α : Type} {info : WorksheetInfo} {request : Request}
    {accepted : Prop} {change : StoredWorksheet → Except Refusal (α × StoredWorksheet)}
    (hchange : ∀ ws a ws', change ws = .ok (a, ws') → ws'.id = ws.id ∧ (ws.Sound → ws'.Sound))
    {sheetId : String} {ws : StoredWorksheet}
    (h : (book.changeWorksheet info change).2.Stores sheetId ws) :
    Origin book newId request accepted sheetId ws := by
  rcases stores_changeWorksheet h with hold | ⟨rfl, old, a, hfind, hresult⟩
  · exact .stored hold
  · obtain ⟨hid, hsound⟩ := hchange old a ws hresult
    exact .changed old (stores_of_worksheet? hfind).1 hid hsound

/-- Where the worksheets that are stored after an answer come from. -/
theorem stores_answer (newId : String) (engine : QueryEngine) (hnow : now.HasPlainYear)
    (request : Request) {sheetId : String} {ws : StoredWorksheet}
    (h : (book.answer now newId engine request).2.Stores sheetId ws) :
    Origin book newId request (∃ a, (book.answer now newId engine request).1 = .ok a)
      sheetId ws := by
  cases request with
  | sheetInfo sheetId =>
    rw [answer] at h
    split at h <;> exact .stored h
  | createWorksheet sheet title size =>
    rcases stores_createWorksheet h with hold | ⟨haccepted, rfl, rfl⟩
    · exact .stored hold
    · exact .created haccepted title size rfl rfl (StoredWorksheet.sound_new ..)
  | dropWorksheet sheet worksheet => exact .stored (stores_dropWorksheet h)
  | queryRows info query =>
    rw [answer, readWorksheet] at h
    split at h <;> exact .stored h
  | queryFields info =>
    rw [answer, readWorksheet] at h
    split at h <;> exact .stored h
  | insertRow info cells =>
    refine origin_changeWorksheet (fun ws raw ws' hok => ?_) h
    obtain ⟨hknows, -, rfl⟩ := StoredWorksheet.insertRow_eq_ok_iff.1 hok
    exact ⟨rfl, fun hsound => StoredWorksheet.sound_appended hsound hknows hnow⟩
  | updateRow info id cells =>
    refine origin_changeWorksheet (fun ws raw ws' hok => ?_) h
    obtain ⟨index, -, hknows, -, rfl⟩ := StoredWorksheet.updateRow_eq_ok_iff.1 hok
    exact ⟨rfl, fun hsound => StoredWorksheet.sound_overwritten hsound index hknows hnow⟩
  | deleteRow info id =>
    refine origin_changeWorksheet (fun ws u ws' hok => ?_) h
    obtain ⟨index, -, rfl⟩ := StoredWorksheet.deleteRow_eq_ok_iff.1 hok
    exact ⟨rfl, fun hsound => StoredWorksheet.sound_without hsound index now⟩
  | createField info name col =>
    refine origin_changeWorksheet (fun ws u ws' hok => ?_) h
    obtain ⟨⟨hname, hcol, -⟩, hfree, rfl⟩ := StoredWorksheet.createField_eq_ok_iff.1 hok
    exact ⟨rfl, fun hsound => StoredWorksheet.sound_named hsound hname hcol hfree⟩

end Workbook

/-! ### The service -/

namespace MemorySheets

/-- What every answer of the service keeps: its worksheets are sound, and their identities have been
drawn from the supply, each draw for one sheet. -/
structure Sound (s : MemorySheets) : Prop where
  worksheets : ∀ {sheetId ws}, s.book.Stores sheetId ws → ws.Sound
  drawn : ∃ drawnFor : Nat → String, ∀ {sheetId ws}, s.book.Stores sheetId ws →
    ∃ n < s.ids.drawn, s.ids.stream n = ws.id ∧ drawnFor n = sheetId

variable {s s' : MemorySheets} {now : Instant} {request : Request}

theorem not_stores_empty (sheetId : String) (ws : StoredWorksheet) :
    ¬Workbook.empty.Stores sheetId ws := fun ⟨_, h, _⟩ => nomatch h

theorem sound_create (engine : QueryEngine) (ids : IdSupply) : (create engine ids).Sound where
  worksheets hstored := absurd hstored (not_stores_empty _ _)
  drawn := ⟨fun _ => "", fun hstored => absurd hstored (not_stores_empty _ _)⟩

theorem sound_withSheet (h : s.Sound) (sheetId title : String) (now : Instant) :
    (s.withSheet sheetId title now).Sound where
  worksheets hstored := h.worksheets (Workbook.stores_addSheet hstored)
  drawn := h.drawn.imp fun _ hdrawn _ _ hstored => hdrawn (Workbook.stores_addSheet hstored)

/-- A reliable identity of a stored worksheet has the form of one. -/
theorem Sound.isWorksheetId (h : s.Sound) (hids : s.ids.Reliable) {sheetId : String}
    {ws : StoredWorksheet} (hstored : s.book.Stores sheetId ws) : IsWorksheetId ws.id := by
  obtain ⟨_, hdrawn⟩ := h.drawn
  obtain ⟨n, hn, hid, -⟩ := hdrawn hstored
  exact hid ▸ hids.form n hn

/-- Descriptions with one identity name one worksheet, as worksheets of one identity are stored
under one sheet. -/
theorem Sound.eq_of_worksheetId_eq (h : s.Sound) (hids : s.ids.Reliable)
    {worksheet other : WorksheetInfo} {ws otherWs : StoredWorksheet}
    (hws : s.book.worksheet? worksheet = some ws)
    (hother : s.book.worksheet? other = some otherWs)
    (hsame : other.worksheetId = worksheet.worksheetId) : otherWs = ws := by
  obtain ⟨hstored, hid⟩ := Workbook.stores_of_worksheet? hws
  obtain ⟨hotherStored, hotherId⟩ := Workbook.stores_of_worksheet? hother
  obtain ⟨_, hdrawn⟩ := h.drawn
  obtain ⟨m, hm, hdraw, hsheet⟩ := hdrawn hstored
  obtain ⟨n, hn, hotherDraw, hotherSheet⟩ := hdrawn hotherStored
  have hmn : m = n :=
    hids.distinct m hm n hn (by rw [hdraw, hotherDraw, hid, hotherId, hsame])
  rw [Workbook.worksheet?, ← hotherSheet, ← hmn, hsheet, hsame] at hother
  exact Option.some.inj (hother.symm.trans hws)

theorem sound_of_origin (h : s.Sound) (request : Request) (accepted : Prop)
    (horigin : ∀ sheetId ws, s'.book.Stores sheetId ws →
      Workbook.Origin s.book s.ids.next request accepted sheetId ws)
    (hids : s'.ids = s.ids ∨ s'.ids = s.ids.afterAccepted request)
    (hdraws : accepted → s'.ids = s.ids.afterAccepted request) : s'.Sound where
  worksheets hstored := by
    cases horigin _ _ hstored with
    | stored hold => exact h.worksheets hold
    | changed old hold hid hsound => exact hsound (h.worksheets hold)
    | created haccepted title size heq hid hsound => exact hsound
  drawn := by
    have hstream : s'.ids.stream = s.ids.stream := by
      rcases hids with heq | heq
      · rw [heq]
      · rw [heq, s.ids.stream_afterAccepted]
    have hlater : s.ids.drawn ≤ s'.ids.drawn := by
      rcases hids with heq | heq
      · exact heq ▸ Nat.le_refl _
      · exact heq ▸ s.ids.drawn_le_drawn_afterAccepted request
    obtain ⟨sheet, hsheet⟩ : ∃ sheet, ∀ sheetId title size,
        request = .createWorksheet sheetId title size → sheetId = sheet := by
      cases request with
      | createWorksheet sheet => exact ⟨sheet, by rintro _ _ _ ⟨⟩; rfl⟩
      | _ => exact ⟨"", nofun⟩
    obtain ⟨drawnFor, hdrawn⟩ := h.drawn
    -- the identity of a new worksheet is the first one that had not been drawn
    refine ⟨fun n => if n < s.ids.drawn then drawnFor n else sheet, fun hstored => ?_⟩
    rcases (horigin _ _ hstored).id with ⟨old, hold, hid⟩ | ⟨hid, haccepted, title, size, heq⟩
    · obtain ⟨n, hn, hdraw, hfor⟩ := hdrawn hold
      exact ⟨n, Nat.lt_of_lt_of_le hn hlater, by rw [hstream, hdraw, hid], (if_pos hn).trans hfor⟩
    · refine ⟨s.ids.drawn, ?_, by rw [hstream, hid, IdSupply.next], ?_⟩
      · rw [hdraws haccepted, heq]
        exact Nat.lt_succ_self _
      · exact (if_neg (Nat.lt_irrefl _)).trans (hsheet _ _ _ heq).symm

/-- An answer at a time with a plain year keeps the service sound. -/
theorem sound_answer (h : s.Sound) (hnow : now.HasPlainYear) {a : Except StoreError request.Answer}
    (hanswer : Answered now request s a s') : s'.Sound := by
  cases hanswer with
  | struck due book engine ids =>
    exact sound_of_origin h request False (fun _ _ hstored => .stored (book ▸ hstored)) (.inl ids)
      False.elim
  | refused book engine ids =>
    refine sound_of_origin h request False (fun _ _ hstored => ?_) (.inl ids) False.elim
    have horigin := Workbook.stores_answer s.ids.next s.engine hnow request
      (by rw [book]; exact hstored)
    rw [book] at horigin
    cases horigin with
    | stored hold => exact .stored hold
    | changed old hold hid hsound => exact .changed old hold hid hsound
    | created haccepted => exact nomatch haccepted.choose_spec
  | accepted book engine ids =>
    have horigin : ∀ sheetId ws, s'.book.Stores sheetId ws → Workbook.Origin s.book s.ids.next
        request (∃ a, (s.book.answer now s.ids.next s.engine request).1 = .ok a) sheetId ws :=
      fun _ _ hstored => Workbook.stores_answer s.ids.next s.engine hnow request
        (by rw [book]; exact hstored)
    exact sound_of_origin h request _ horigin (.inr ids) fun _ => ids

end MemorySheets

end GridStore
