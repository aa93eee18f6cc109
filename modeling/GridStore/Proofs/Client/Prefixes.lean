import GridStore.Proofs.Client.Appends

/-!
# Batches that stop

A batch that cannot be sent as a whole is refused before its first request. Otherwise its requests
are sent one after another up to the first one that the service rejects: those before it stay done,
none after it is sent, and no answer stays kept.

## Main definitions

* `DeletionOrder`: the order in which rows are deleted.
* `Batch`: the batches of changes, and `Batch.run`.
* `Batch.Refuses`: why a batch is refused as a whole.
* `Batch.Sends`: the requests of a batch in their order.
* `Batch.Returns`: what a batch returns once all its requests are accepted.

## Main results

* `deletionOrder_spec`: rows are deleted in the order of `DeletionOrder`.
* `Client.batch_stops_at_first_rejected`: a batch is refused, stops at its first rejected request,
  or is done.
-/

namespace GridStore

/-! ### The order of deletions -/

/-- Whether identities stand in the order in which the rows are to be deleted: the last position
first, with identities of the same position as they were, or in reverse if an identity is no
position. -/
structure DeletionOrder (ids ordered : List String) : Prop where
  perm : ordered.Perm ids
  descending : (∀ id ∈ ids, (count? id).isSome = true) →
    ordered.Pairwise fun id later => (count? later).getD 0 ≤ (count? id).getD 0
  stable : (∀ id ∈ ids, (count? id).isSome = true) → ∀ position : Nat,
    ordered.filter (fun id => count? id == some position) =
      ids.filter fun id => count? id == some position
  reversed : (∃ id ∈ ids, count? id = none) → ordered = ids.reverse

/-- Identities are numbered if all of them are positions. -/
theorem mapM_count? (ids : List String) :
    ids.mapM (fun id => (count? id).map fun position => (position, id)) =
      if ∀ id ∈ ids, (count? id).isSome = true then
        some (ids.map fun id => ((count? id).getD 0, id))
      else none := by
  induction ids with
  | nil => rfl
  | cons id rest ih =>
    rw [List.mapM_cons, ih]
    cases hid : count? id with
    | none => simp [hid]
    | some position =>
      by_cases hrest : ∀ id ∈ rest, (count? id).isSome = true
      · rw [if_pos hrest, if_pos (List.forall_mem_cons.2 ⟨by rw [hid]; rfl, hrest⟩), List.map_cons,
          hid]
        rfl
      · rw [if_neg hrest, if_neg fun h => hrest (List.forall_mem_cons.1 h).2]
        rfl

section

variable {ids : List String} (hall : ∀ id ∈ ids, (count? id).isSome = true)

include hall

theorem deletionOrder_of_forall : deletionOrder ids =
    (sortedBy (fun a b => b.1 < a.1)
      (ids.map fun id => ((count? id).getD 0, id))).map Prod.snd := by
  rw [deletionOrder, mapM_count?, if_pos hall]

theorem count?_of_mem_sortedBy {numbered : Nat × String} (h : numbered ∈
      sortedBy (fun a b => b.1 < a.1) (ids.map fun id => ((count? id).getD 0, id))) :
    count? numbered.2 = some numbered.1 := by
  obtain ⟨id, hid, rfl⟩ := List.mem_map.1 ((sortedBy_perm ..).mem_iff.1 h)
  obtain ⟨position, hposition⟩ := Option.isSome_iff_exists.1 (hall id hid)
  rw [hposition]
  rfl

theorem perm_deletionOrder : (deletionOrder ids).Perm ids := by
  have hperm := (sortedBy_perm (fun a b => decide (b.1 < a.1))
    (ids.map fun id => ((count? id).getD 0, id))).map Prod.snd
  rw [List.map_map] at hperm
  rw [deletionOrder_of_forall hall]
  exact hperm.trans (.of_eq (List.map_id ids))

/-- Rows with positions are deleted from the last one up. -/
theorem descending_deletionOrder : (deletionOrder ids).Pairwise fun id later =>
    (count? later).getD 0 ≤ (count? id).getD 0 := by
  have hsorted : (sortedBy (fun a b => decide (b.1 < a.1))
      (ids.map fun id => ((count? id).getD 0, id))).Pairwise fun a b => ¬a.1 < b.1 := by
    refine (pairwise_sortedBy ?_ ?_ _).imp of_decide_eq_false
    · intro a b h
      exact decide_eq_false (Nat.not_lt_of_gt (of_decide_eq_true h))
    · intro a b c hab hbc
      have := of_decide_eq_false hab
      have := of_decide_eq_false hbc
      exact decide_eq_false (by omega)
  rw [deletionOrder_of_forall hall, List.pairwise_map]
  refine hsorted.imp_of_mem fun {a b} ha hb h => ?_
  rw [count?_of_mem_sortedBy hall ha, count?_of_mem_sortedBy hall hb]
  exact Nat.not_lt.1 h

/-- Identities of the same position stay in their order. -/
theorem stable_deletionOrder (position : Nat) :
    (deletionOrder ids).filter (fun id => count? id == some position) =
      ids.filter fun id => count? id == some position := by
  have hkept : (sortedBy (fun a b => decide (b.1 < a.1))
      (ids.map fun id => ((count? id).getD 0, id))).filter
        (fun numbered => numbered.1 == position) =
      (ids.map fun id => ((count? id).getD 0, id)).filter fun numbered =>
        numbered.1 == position :=
    filter_sortedBy fun a _ b _ ha hb =>
      decide_eq_false (by rw [eq_of_beq ha, eq_of_beq hb]; exact Nat.lt_irrefl _)
  have hsame : ∀ numbered ∈ sortedBy (fun a b => decide (b.1 < a.1))
      (ids.map fun id => ((count? id).getD 0, id)),
      (count? numbered.2 == some position) = (numbered.1 == position) := fun numbered h => by
    rw [count?_of_mem_sortedBy hall h]
    rfl
  rw [deletionOrder_of_forall hall, List.filter_map, Function.comp_def, List.filter_congr hsame,
    hkept, List.filter_map, List.map_map]
  refine (List.map_id _).trans (List.filter_congr fun id hid => ?_)
  obtain ⟨n, hn⟩ := Option.isSome_iff_exists.1 (hall id hid)
  show ((count? id).getD 0 == position) = _
  rw [hn]
  rfl

end

/-- Rows are deleted from the last position up, or in reverse. -/
theorem deletionOrder_spec (ids : List String) : DeletionOrder ids (deletionOrder ids) := by
  by_cases hall : ∀ id ∈ ids, (count? id).isSome = true
  · refine ⟨perm_deletionOrder hall, fun _ => descending_deletionOrder hall,
      fun _ => stable_deletionOrder hall, fun ⟨id, hid, hnone⟩ => ?_⟩
    have hsome := hall id hid
    rw [hnone] at hsome
    cases hsome
  · rw [deletionOrder, mapM_count?, if_neg hall]
    exact ⟨List.reverse_perm _, fun h => absurd h hall, fun h => absurd h hall, fun _ => rfl⟩

/-! ### Batches -/

/-- A batch of changes of a worksheet. -/
inductive Batch where
  | createColumns (names : List String) (start : Nat)
  | insertRows (rows : List Row)
  | updateRows (rows : List Row)
  | deleteRows (ids : List String)

namespace Batch

/-- What a batch returns. -/
@[reducible] def Result : Batch → Type
  | createColumns .. => Unit
  | insertRows _ => List Row
  | updateRows _ => List Row
  | deleteRows _ => Nat

/-- Sends a batch. -/
def run (clock : Clock) (worksheet : WorksheetInfo) :
    (batch : Batch) → StoreM (Client MemorySheets) batch.Result
  | createColumns names start => Client.createColumns clock worksheet names start
  | insertRows rows => Client.insertRows clock worksheet rows
  | updateRows rows => Client.updateRows clock worksheet rows
  | deleteRows ids => Client.deleteRows clock worksheet ids

/-- Why a batch is refused as a whole: a column name is blank or reserved, or a row to be written
has no identity. -/
def Refuses (batch : Batch) (why : Precondition) : Prop :=
  match batch with
  | createColumns names _ => ∃ name ∈ names,
      (trimBlanks name = "" ∨ isMetaField name = true) ∧ why = .invalidColumnName name
  | insertRows _ => False
  | updateRows rows => (∃ row ∈ rows, row.id = none) ∧ why = .updateWithoutIdentity
  | deleteRows _ => False

/-- The requests of a batch in the order in which they are sent. -/
def Sends (worksheet : WorksheetInfo) (batch : Batch) (requests : List Request) : Prop :=
  match batch with
  | createColumns names start => requests = (names.zipIdx (start + 1)).map fun (name, col) =>
      .createField worksheet name (col % wordBound)
  | insertRows rows => requests = rows.map fun row => .insertRow worksheet row.cells
  | updateRows rows => requests = rows.map fun row =>
      .updateRow worksheet (row.id.getD "") row.cells
  | deleteRows ids => ∃ ordered, DeletionOrder ids ordered ∧
      requests = ordered.map fun id => .deleteRow worksheet id

/-- What a batch returns from a workbook that accepts all its requests: rows as they are stored, in
the order of the batch, or the number of rows deleted. -/
def Returns (now : Instant) (worksheet : WorksheetInfo) (book : Workbook) (batch : Batch) :
    batch.Result → Prop :=
  match batch with
  | createColumns .. => fun _ => True
  | insertRows rows => fun shown => ∃ ws,
      (rows ≠ [] → book.worksheet? worksheet = some ws) ∧
        shown = Client.shownAppended ws now (rows.map Row.cells)
  | updateRows rows => fun shown => ∃ ws,
      (rows ≠ [] → book.worksheet? worksheet = some ws) ∧
        shown = rows.map fun row =>
          ws.shown ((count? (row.id.getD "")).getD 0) ⟨now, .ofList row.cells⟩
  | deleteRows ids => fun n => n = ids.length

end Batch

namespace Client

variable {now : Instant} {worksheet : WorksheetInfo} {clock : Clock} {c c' : Client MemorySheets}

/-! ### Requests one after another -/

/-- The client after requests that change the service alone. -/
def afterRequests (now : Instant) (requests : List Request) (c : Client MemorySheets) :
    Client MemorySheets :=
  { c with service := c.service.after now requests }

/-- Whether a computation sends one request: it fails with the failure of the request, and succeeds
if the request is accepted. -/
structure AsksOnce {β : Type} (now : Instant) (request : Request)
    (x : StoreM (Client MemorySheets) β) : Prop where
  rejected : ∀ (c : Client MemorySheets) (e : StoreError),
    (c.service.answer now request).1 = .error e → x c = (.error e, c.afterRequests now [request])
  accepted : ∀ c : Client MemorySheets, (c.service.answer now request).1.isOk = true →
    ∃ b, x c = (.ok b, c.afterRequests now [request])

theorem asksOnce_ask (clock : Clock) (request : Request) :
    AsksOnce clock.instant request (ask clock request) where
  rejected c e h := by
    rw [ask_apply, h]
    rfl
  accepted c h := by
    rw [ask_apply]
    cases hanswer : (c.service.answer clock.instant request).1 with
    | error e =>
      rw [hanswer] at h
      cases h
    | ok a => exact ⟨a, rfl⟩

/-- A request for a row that is accepted with an answer that can be read. -/
theorem ask_decodeRow_apply {request : Request} {ask : StoreM (Client MemorySheets) RawRow}
    {operation : Operation} {raw : RawRow} {row : Row}
    (hask : ask c = (.ok raw, c.afterRequests now [request]))
    (hread : Row.ofRaw operation raw = .ok row) :
    (ask >>= decodeRow operation) c = (.ok row, c.afterRequests now [request]) := by
  rw [StoreM.bind_apply, hask]
  simp only
  rw [decodeRow_ofRaw hread]
  rfl

/-- A request for a row whose answer can always be read. -/
theorem asksOnce_decodeRow {request : Request} {ask : StoreM (Client MemorySheets) RawRow}
    {operation : Operation} (hask : AsksOnce now request ask)
    (hread : ∀ (c : Client MemorySheets) raw, ask c = (.ok raw, c.afterRequests now [request]) →
      ∃ row, Row.ofRaw operation raw = .ok row) :
    AsksOnce now request (ask >>= decodeRow operation) where
  rejected c e h := by rw [StoreM.bind_apply, hask.rejected c e h]
  accepted c h := by
    obtain ⟨raw, hraw⟩ := hask.accepted c h
    obtain ⟨row, hrow⟩ := hread c raw hraw
    exact ⟨row, ask_decodeRow_apply hraw hrow⟩

section

variable {α β : Type} {request : α → Request} {f : α → StoreM (Client MemorySheets) β}

/-- One computation for each element stops at the first request that is rejected. -/
theorem mapM_of_rejected {xs : List α} (hf : ∀ x ∈ xs, AsksOnce now (request x) (f x))
    {done rest : List Request} {last : Request} (hxs : xs.map request = done ++ last :: rest)
    (hdone : c.service.Accepts now done) {e : StoreError}
    (hlast : ((c.service.after now done).answer now last).1 = .error e) :
    xs.mapM f c = (.error e, c.afterRequests now (done ++ [last])) := by
  induction done generalizing xs c with
  | nil =>
    obtain ⟨x, others, rfl, rfl, -⟩ := List.map_eq_cons_iff.1 hxs
    rw [List.mapM_cons, StoreM.bind_apply, (hf x (List.mem_cons_self ..)).rejected c e hlast]
    rfl
  | cons first done ih =>
    obtain ⟨x, others, rfl, rfl, hothers⟩ := List.map_eq_cons_iff.1 hxs
    obtain ⟨hx, hf⟩ := List.forall_mem_cons.1 hf
    obtain ⟨b, hb⟩ := hx.accepted c hdone.1
    have hnext := ih (c := c.afterRequests now [request x]) hf hothers hdone.2 hlast
    rw [List.mapM_cons, StoreM.bind_apply, hb]
    simp only
    rw [StoreM.bind_apply, hnext]
    rfl

/-- One computation for each element sends all requests if all of them are accepted. -/
theorem mapM_of_accepted {xs : List α} (hf : ∀ x ∈ xs, AsksOnce now (request x) (f x))
    (hxs : c.service.Accepts now (xs.map request)) :
    ∃ bs, xs.mapM f c = (.ok bs, c.afterRequests now (xs.map request)) := by
  induction xs generalizing c with
  | nil => exact ⟨[], rfl⟩
  | cons x rest ih =>
    obtain ⟨hx, hf⟩ := List.forall_mem_cons.1 hf
    obtain ⟨b, hb⟩ := hx.accepted c hxs.1
    obtain ⟨bs, hbs⟩ := ih (c := c.afterRequests now [request x]) hf hxs.2
    refine ⟨b :: bs, ?_⟩
    rw [List.mapM_cons, StoreM.bind_apply, hb]
    simp only
    rw [StoreM.bind_apply, hbs]
    rfl

/-- The values of a loop are those of its computations. -/
theorem mapM_cons_value {x : α} {rest : List α} {b : β} {bs : List β}
    (hfirst : f x c = (.ok b, c')) (hrest : (rest.mapM f c').1 = .ok bs) :
    ((x :: rest).mapM f c).1 = .ok (b :: bs) := by
  rw [List.mapM_cons, StoreM.bind_apply, hfirst]
  simp only
  rw [StoreM.bind_apply]
  rcases hresult : rest.mapM f c' with ⟨e | _, c₂⟩ <;> rw [hresult] at hrest <;> cases hrest
  rfl

/-- A loop does what the computations with values do, and drops the values. -/
theorem forM_apply {f : α → StoreM (Client MemorySheets) PUnit} (xs : List α)
    (c : Client MemorySheets) :
    xs.forM f c = ((xs.mapM f c).1.map fun _ => ⟨⟩, (xs.mapM f c).2) := by
  induction xs generalizing c with
  | nil => rfl
  | cons x rest ih =>
    show (f x >>= fun _ => rest.forM f) c = _
    rw [List.mapM_cons, StoreM.bind_apply, StoreM.bind_apply]
    rcases f x c with ⟨e | b, c₁⟩
    · rfl
    · simp only
      rw [ih, StoreM.bind_apply]
      rcases rest.mapM f c₁ with ⟨e | bs, c₂⟩ <;> rfl

end

/-! ### Rows in answers -/

/-- An accepted change of a worksheet is a change that the worksheet accepts, and the worksheet is
set to what it leads to. -/
theorem exists_change_of_ok (request : Request) {s : MemorySheets}
    (change : StoredWorksheet → Except Refusal (request.Answer × StoredWorksheet))
    (hrequest : ∀ (book : Workbook) (newId : String) (engine : QueryEngine),
      book.answer now newId engine request = book.changeWorksheet worksheet change)
    {a : request.Answer} (h : (s.answer now request).1 = .ok a) :
    ∃ ws ws', s.book.worksheet? worksheet = some ws ∧ change ws = .ok (a, ws') ∧
      (s.answer now request).2.book = s.book.setWorksheet worksheet ws' := by
  have hanswered := MemorySheets.answered now request s
  rw [h] at hanswered
  cases hanswered with
  | accepted book engine ids calm =>
    rw [hrequest, Workbook.changeWorksheet] at book
    cases hws : s.book.worksheet? worksheet with
    | none =>
      rw [hws] at book
      cases (Prod.mk.inj book).1
    | some ws =>
      rw [hws] at book
      simp only at book
      cases hchange : change ws with
      | error refusal =>
        rw [hchange] at book
        cases (Prod.mk.inj book).1
      | ok result =>
        obtain ⟨a', ws'⟩ := result
        rw [hchange] at book
        obtain ⟨ha, hbook⟩ := Prod.mk.inj book
        cases ha
        exact ⟨ws, ws', rfl, hchange, hbook.symm⟩

section

variable (hclock : clock.instant.HasPlainYear) {s : MemorySheets} {cells : Cells} {raw : RawRow}

include hclock

/-- The answer to an accepted insertion is the row at the end. -/
theorem exists_of_insertRow_ok
    (h : (s.answer clock.instant (.insertRow worksheet cells)).1 = .ok raw) :
    ∃ ws, s.book.worksheet? worksheet = some ws ∧
      (s.answer clock.instant (.insertRow worksheet cells)).2.book.worksheet? worksheet =
        some (ws.appended cells clock.instant) ∧
      Row.ofRaw .insertRow raw =
        .ok (ws.shown (ws.rows.length + 1) ⟨clock.instant, .ofList cells⟩) := by
  obtain ⟨ws, ws', hws, hchange, hbook⟩ :=
    exists_change_of_ok (.insertRow worksheet cells)
      (fun ws => ws.insertRow cells clock.instant) (fun _ _ _ => rfl) h
  obtain ⟨-, rfl, rfl⟩ := StoredWorksheet.insertRow_eq_ok_iff.1 hchange
  refine ⟨ws, hws, ?_, StoredWorksheet.ofRaw_rawRow .insertRow _ hclock⟩
  rw [hbook]
  exact Workbook.worksheet?_setWorksheet hws rfl

/-- The answer to an accepted update is the row at the position that the identity writes. -/
theorem exists_of_updateRow_ok {id : String}
    (h : (s.answer clock.instant (.updateRow worksheet id cells)).1 = .ok raw) :
    ∃ ws ws', s.book.worksheet? worksheet = some ws ∧
      (s.answer clock.instant (.updateRow worksheet id cells)).2.book.worksheet? worksheet =
        some ws' ∧
      ws'.header = ws.header ∧
      Row.ofRaw .updateRow raw =
        .ok (ws.shown ((count? id).getD 0) ⟨clock.instant, .ofList cells⟩) := by
  obtain ⟨ws, ws', hws, hchange, hbook⟩ :=
    exists_change_of_ok (.updateRow worksheet id cells)
      (fun ws => ws.updateRow id cells clock.instant) (fun _ _ _ => rfl) h
  obtain ⟨index, hindex, -, rfl, rfl⟩ := StoredWorksheet.updateRow_eq_ok_iff.1 hchange
  have hposition : (count? id).getD 0 = index + 1 := by
    obtain ⟨position, hcount, hrange⟩ := Option.bind_eq_some_iff.1 hindex
    split at hrange
    case isTrue hpositive =>
      cases hrange
      rw [hcount]
      exact (Nat.sub_add_cancel hpositive.1).symm
    case isFalse => cases hrange
  refine ⟨ws, ws.overwritten index cells clock.instant, hws, ?_, rfl, ?_⟩
  · rw [hbook]
    exact Workbook.worksheet?_setWorksheet hws rfl
  · rw [hposition]
    exact StoredWorksheet.ofRaw_rawRow .updateRow _ hclock

end

/-! ### Batches of rows -/

section

variable (hclock : clock.instant.HasPlainYear) {ws : StoredWorksheet}

include hclock

theorem asksOnce_insertRow (worksheet : WorksheetInfo) (cells : Cells) :
    AsksOnce clock.instant (.insertRow worksheet cells)
      (ask clock (.insertRow worksheet cells) >>= decodeRow .insertRow) := by
  refine asksOnce_decodeRow (asksOnce_ask clock _) fun c raw hraw => ?_
  obtain ⟨ws, -, -, hread⟩ := exists_of_insertRow_ok hclock (Prod.mk.inj hraw).1
  exact ⟨_, hread⟩

theorem asksOnce_updateRow (worksheet : WorksheetInfo) (id : String) (cells : Cells) :
    AsksOnce clock.instant (.updateRow worksheet id cells)
      (ask clock (.updateRow worksheet id cells) >>= decodeRow .updateRow) := by
  refine asksOnce_decodeRow (asksOnce_ask clock _) fun c raw hraw => ?_
  obtain ⟨ws, ws', -, -, -, hread⟩ := exists_of_updateRow_ok hclock (Prod.mk.inj hraw).1
  exact ⟨_, hread⟩

/-- Accepted insertions return the rows at the end of the worksheet, in order. -/
theorem mapM_insertRow_value (rows : List Row)
    (hws : c.service.book.worksheet? worksheet = some ws)
    (haccepts : c.service.Accepts clock.instant
      (rows.map fun row => .insertRow worksheet row.cells)) :
    (rows.mapM (fun row => ask clock (.insertRow worksheet row.cells) >>= decodeRow .insertRow)
      c).1 = .ok (shownAppended ws clock.instant (rows.map Row.cells)) := by
  induction rows generalizing c ws with
  | nil => rfl
  | cons row rest ih =>
    obtain ⟨hfirst, hrest⟩ := haccepts
    obtain ⟨raw, hraw⟩ := (asksOnce_ask clock (.insertRow worksheet row.cells)).accepted c hfirst
    obtain ⟨found, hfound, hnext, hread⟩ := exists_of_insertRow_ok hclock (Prod.mk.inj hraw).1
    rw [hws] at hfound
    cases hfound
    have hvalues := ih (c := c.afterRequests clock.instant [.insertRow worksheet row.cells])
      hnext hrest
    rw [List.map_cons, shownAppended_cons]
    exact mapM_cons_value (ask_decodeRow_apply hraw hread) hvalues

/-- Accepted updates return the rows at the positions of their identities, in order. -/
theorem mapM_updateRow_value (writes : List (String × Cells))
    (hws : c.service.book.worksheet? worksheet = some ws)
    (haccepts : c.service.Accepts clock.instant
      (writes.map fun write => .updateRow worksheet write.1 write.2)) :
    (writes.mapM (fun write =>
        ask clock (.updateRow worksheet write.1 write.2) >>= decodeRow .updateRow) c).1 =
      .ok (writes.map fun write =>
        ws.shown ((count? write.1).getD 0) ⟨clock.instant, .ofList write.2⟩) := by
  induction writes generalizing c ws with
  | nil => rfl
  | cons write rest ih =>
    obtain ⟨hfirst, hrest⟩ := haccepts
    obtain ⟨raw, hraw⟩ :=
      (asksOnce_ask clock (.updateRow worksheet write.1 write.2)).accepted c hfirst
    obtain ⟨found, ws', hfound, hnext, hheader, hread⟩ :=
      exists_of_updateRow_ok hclock (Prod.mk.inj hraw).1
    rw [hws] at hfound
    cases hfound
    have hvalues := ih
      (c := c.afterRequests clock.instant [.updateRow worksheet write.1 write.2]) hnext hrest
    simp only [StoredWorksheet.shown_congr hheader] at hvalues
    exact mapM_cons_value (ask_decodeRow_apply hraw hread) hvalues

end

/-! ### Batches -/

/-- A client without its kept answers. -/
def forgotten (c : Client MemorySheets) : Client MemorySheets := { c with cache := c.cache.clear }

theorem forgetting_apply {α : Type} (change : StoreM (Client MemorySheets) α)
    (c : Client MemorySheets) : forgetting change c = ((change c).1, (change c).2.forgotten) := rfl

/-- How a batch with given requests runs from a client: at the first request that the service
rejects it fails, with the requests before done, no request after sent and no answer kept; and it
returns what it should if all requests are accepted. -/
structure Stops (clock : Clock) (worksheet : WorksheetInfo) (batch : Batch)
    (requests : List Request) (c : Client MemorySheets) : Prop where
  rejected : ∀ done request rest e, requests = done ++ request :: rest →
    c.service.Accepts clock.instant done →
    ((c.service.after clock.instant done).answer clock.instant request).1 = .error e →
    ∃ c', batch.run clock worksheet c = (.error e, c') ∧
      c'.service.book = (c.service.after clock.instant done).book ∧
      c'.service.log = c.service.log ++ (done ++ [request]) ∧ c'.cache.entries = []
  accepted : c.service.Accepts clock.instant requests →
    ∃ result c', batch.run clock worksheet c = (.ok result, c') ∧
      c'.service = c.service.after clock.instant requests ∧
      batch.Returns clock.instant worksheet c.service.book result

/-- A batch without requests does nothing. -/
theorem stops_nil {batch : Batch} (result : batch.Result)
    (hrun : batch.run clock worksheet c = (.ok result, c))
    (hreturns : batch.Returns clock.instant worksheet c.service.book result) :
    Stops clock worksheet batch [] c where
  rejected done _ _ _ h := absurd h.symm (List.append_ne_nil_of_right_ne_nil done nofun)
  accepted _ := ⟨result, c, hrun, rfl, hreturns⟩

/-- A batch that runs a computation for each of its requests, and forgets the kept answers. -/
theorem stops_of_loop {α β : Type} {batch : Batch} {xs : List α} {request : α → Request}
    {f : α → StoreM (Client MemorySheets) β} (finish : List β → batch.Result)
    (hasks : ∀ x ∈ xs, AsksOnce clock.instant (request x) (f x))
    (hrun : batch.run clock worksheet c =
      ((xs.mapM f c).1.map finish, (xs.mapM f c).2.forgotten))
    (hreturns : c.service.Accepts clock.instant (xs.map request) → ∀ bs,
      (xs.mapM f c).1 = .ok bs →
        batch.Returns clock.instant worksheet c.service.book (finish bs)) :
    Stops clock worksheet batch (xs.map request) c where
  rejected done last rest e hrequests hdone hlast := by
    rw [mapM_of_rejected hasks hrequests hdone hlast] at hrun
    refine ⟨_, hrun, ?_, MemorySheets.log_after .., rfl⟩
    show (c.service.after clock.instant (done ++ [last])).book = _
    rw [MemorySheets.after_append]
    exact MemorySheets.book_of_error hlast
  accepted haccepts := by
    obtain ⟨bs, hbs⟩ := mapM_of_accepted hasks haccepts
    have hresult := hreturns haccepts bs (by rw [hbs])
    rw [hbs] at hrun
    exact ⟨finish bs, _, hrun, rfl, hresult⟩

/-- Naming columns one after another. -/
theorem stops_createColumns {names : List String}
    (hnames : ∀ name ∈ names, isColumnName name = true) (start : Nat) (c : Client MemorySheets) :
    Stops clock worksheet (.createColumns names start) ((names.zipIdx (start + 1)).map
      fun (name, col) => .createField worksheet name (col % wordBound)) c := by
  have hfind := find?_isColumnName_eq_none hnames
  cases names with
  | nil => exact stops_nil () rfl trivial
  | cons first rest =>
    refine stops_of_loop (f := fun (name, col) =>
      ask clock (.createField worksheet name (col % wordBound))) (fun _ => ())
      (fun _ _ => asksOnce_ask clock _) ?_ fun _ _ _ => trivial
    show createColumns clock worksheet (first :: rest) start c = _
    rw [createColumns, hfind]
    simp only
    rw [List.isEmpty_cons, if_neg Bool.false_ne_true, forgetting_apply, forM_apply]

/-- Deleting rows one after another. -/
theorem stops_deleteRows (ids : List String) (c : Client MemorySheets) :
    Stops clock worksheet (.deleteRows ids)
      ((deletionOrder ids).map fun id => .deleteRow worksheet id) c := by
  cases ids with
  | nil => exact stops_nil 0 rfl rfl
  | cons first rest =>
    refine stops_of_loop (f := fun id => ask clock (.deleteRow worksheet id))
      (fun _ => (first :: rest).length) (fun _ _ => asksOnce_ask clock _) ?_ fun _ _ _ => rfl
    show deleteRows clock worksheet (first :: rest) c = _
    rw [deleteRows, List.isEmpty_cons, if_neg Bool.false_ne_true, StoreM.bind_apply,
      forgetting_apply, forM_apply]
    rcases (deletionOrder (first :: rest)).mapM
      (fun id => ask clock (.deleteRow worksheet id)) c with ⟨e | us, c'⟩ <;> rfl

section

variable (hclock : clock.instant.HasPlainYear)

include hclock

/-- Inserting rows one after another. -/
theorem stops_insertRows (rows : List Row) (c : Client MemorySheets) :
    Stops clock worksheet (.insertRows rows)
      (rows.map fun row => .insertRow worksheet row.cells) c := by
  cases rows with
  | nil => exact stops_nil [] rfl ⟨⟨"", "", clock.instant, 0, 0, .empty, []⟩, nofun, rfl⟩
  | cons first rest =>
    refine stops_of_loop id (fun row _ => asksOnce_insertRow hclock worksheet row.cells) ?_ ?_
    · show insertRows clock worksheet (first :: rest) c = _
      rw [insertRows, List.isEmpty_cons, if_neg Bool.false_ne_true, forgetting_apply, Except.map_id]
      rfl
    · intro haccepts shown hshown
      obtain ⟨raw, hraw⟩ :=
        (asksOnce_ask clock (.insertRow worksheet first.cells)).accepted c haccepts.1
      obtain ⟨ws, hws, -⟩ := exists_of_insertRow_ok hclock (Prod.mk.inj hraw).1
      have hvalue := mapM_insertRow_value hclock (first :: rest) hws haccepts
      exact ⟨ws, fun _ => hws, Except.ok.inj (hshown.symm.trans hvalue)⟩

/-- Updating rows with identities one after another. -/
theorem stops_updateRows {rows : List Row} (hids : ∀ row ∈ rows, row.id ≠ none)
    (c : Client MemorySheets) :
    Stops clock worksheet (.updateRows rows)
      (rows.map fun row => .updateRow worksheet (row.id.getD "") row.cells) c := by
  have hwrites := mapM_identities_of_forall hids
  cases rows with
  | nil => exact stops_nil [] rfl ⟨⟨"", "", clock.instant, 0, 0, .empty, []⟩, nofun, rfl⟩
  | cons first rest =>
    have hloop := @stops_of_loop worksheet clock c (String × Cells) Row
      (.updateRows (first :: rest)) ((first :: rest).map fun row => (row.id.getD "", row.cells)) _ _
      id (fun write _ => asksOnce_updateRow hclock worksheet write.1 write.2)
    rw [List.map_map] at hloop
    refine hloop ?_ ?_
    · show updateRows clock worksheet (first :: rest) c = _
      rw [updateRows, hwrites]
      simp only
      rw [List.map_cons, List.isEmpty_cons, if_neg Bool.false_ne_true, forgetting_apply,
        Except.map_id]
      rfl
    · intro haccepts shown hshown
      obtain ⟨raw, hraw⟩ := (asksOnce_ask clock (.updateRow worksheet (first.id.getD "")
        first.cells)).accepted c haccepts.1
      obtain ⟨ws, ws', hws, -⟩ := exists_of_updateRow_ok hclock (Prod.mk.inj hraw).1
      have hvalue := mapM_updateRow_value hclock
        ((first :: rest).map fun row => (row.id.getD "", row.cells)) hws
        (by rw [List.map_map]; exact haccepts)
      rw [List.map_map] at hvalue
      exact ⟨ws, fun _ => hws, Except.ok.inj (hshown.symm.trans hvalue)⟩

end

/-! ### All batches -/

/-- A batch is refused before its first request and changes nothing if one of its column names is
blank or reserved or if one of its rows to be written has no identity. Any other batch sends its
requests one after another and stops at the first one that the service rejects. -/
theorem batch_stops_at_first_rejected (hclock : clock.instant.HasPlainYear)
    (worksheet : WorksheetInfo) (batch : Batch) (c : Client MemorySheets) :
    ((∃ why, batch.Refuses why) → ∃ why, batch.Refuses why ∧
        batch.run clock worksheet c = (.error (.precondition why), c)) ∧
      ((¬∃ why, batch.Refuses why) → ∃ requests, batch.Sends worksheet requests ∧
        Stops clock worksheet batch requests c) := by
  cases batch with
  | createColumns names start =>
    constructor
    · rintro ⟨-, name, hmem, hbad, -⟩
      obtain ⟨first, hfirst, hbad, hrun⟩ := createColumns_of_exists MemorySheets
        ⟨name, hmem, isColumnName_eq_false_iff.2 hbad⟩ clock worksheet start
      exact ⟨.invalidColumnName first, ⟨first, hfirst, isColumnName_eq_false_iff.1 hbad, rfl⟩,
        congrFun hrun c⟩
    · intro hnone
      refine ⟨_, rfl, stops_createColumns (fun name hmem => ?_) start c⟩
      cases hname : isColumnName name with
      | true => rfl
      | false => exact absurd ⟨_, name, hmem, isColumnName_eq_false_iff.1 hname, rfl⟩ hnone
  | insertRows rows =>
    refine ⟨?_, fun _ => ⟨_, rfl, stops_insertRows hclock rows c⟩⟩
    rintro ⟨-, ⟨⟩⟩
  | updateRows rows =>
    constructor
    · rintro ⟨-, hmissing, -⟩
      refine ⟨.updateWithoutIdentity, ⟨hmissing, rfl⟩, ?_⟩
      show updateRows clock worksheet rows c = _
      rw [updateRows, mapM_identities_of_exists hmissing]
      rfl
    · intro hnone
      exact ⟨_, rfl, stops_updateRows hclock
        (fun row hrow hid => hnone ⟨_, ⟨row, hrow, hid⟩, rfl⟩) c⟩
  | deleteRows ids =>
    refine ⟨?_, fun _ =>
      ⟨_, ⟨deletionOrder ids, deletionOrder_spec ids, rfl⟩, stops_deleteRows ids c⟩⟩
    rintro ⟨-, ⟨⟩⟩

/-- Three rows, of which the second one has a field without a column. -/
def oneUnknown : List Row :=
  [⟨none, none, [("a", .text "u")]⟩, ⟨none, none, [("b", .text "v")]⟩,
    ⟨none, none, [("a", .text "w")]⟩]

/-- The first one of three rows is inserted, the second one is rejected, and the third one is not
sent. -/
theorem batch_stops_at_first_rejected_unknown : sampleClock.instant.HasPlainYear ∧
    ∃ e c', insertRows sampleClock sampleInfo oneUnknown holdingTwo = (.error e, c') ∧
      c'.service.book.worksheet? sampleInfo =
        some (sheetOfTwo.appended [("a", "u")] sampleClock.instant) ∧
      c'.service.log = holdingTwo.service.log ++
        [.insertRow sampleInfo [("a", "u")], .insertRow sampleInfo [("b", "v")]] ∧
      c'.cache.entries = [] := by
  refine ⟨plainYear_sampleClock, ?_⟩
  obtain ⟨requests, hsends, hstops⟩ := (batch_stops_at_first_rejected plainYear_sampleClock
    sampleInfo (.insertRows oneUnknown) holdingTwo).2 (fun ⟨_, h⟩ => h)
  have hok : ((holdingTwo.service.after sampleClock.instant
      [.insertRow sampleInfo [("a", "u")]]).answer sampleClock.instant
        (.insertRow sampleInfo [("b", "v")])).1.isOk = false := by decide +kernel
  cases hanswer : ((holdingTwo.service.after sampleClock.instant
      [.insertRow sampleInfo [("a", "u")]]).answer sampleClock.instant
        (.insertRow sampleInfo [("b", "v")])).1 with
  | ok raw =>
    rw [hanswer] at hok
    cases hok
  | error e =>
    obtain ⟨c', hrun, hbook, hlog, hcache⟩ := hstops.rejected
      [.insertRow sampleInfo [("a", "u")]] (.insertRow sampleInfo [("b", "v")])
      [.insertRow sampleInfo [("a", "w")]] e hsends ⟨by decide +kernel, trivial⟩ hanswer
    refine ⟨e, c', hrun, ?_, hlog, hcache⟩
    rw [hbook]
    decide +kernel

end Client

end GridStore
