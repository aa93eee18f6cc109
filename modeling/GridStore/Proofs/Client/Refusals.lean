import GridStore.Proofs.Client.Mutations
import GridStore.Proofs.Client.Reached
import GridStore.Proofs.Spreadsheet.Outcomes
import GridStore.Proofs.Update.Fields

/-!
# Refusals of input

A call that is refused because of what it is given should be refused before any request. Documents
and tokens are checked first, but a name that no column can have is found only after the header has
been asked for, and in an update after the rows have been looked for.

## Main definitions

* `StoreError.blamesInput`: whether a failure is about what a call is given.
* `RequestLog`: services that tell which requests they have received.
* `FacadeCall`: the calls of the facade.
* `FacadeCall.RefusesEarly`: whether a call refuses its input before any request.
* `FacadeCall.NeedsUnusable`: whether a call needs a column with a name that no column can have.

## Main results

* `FacadeCall.refusesEarly_iff`: a call refuses its input before any request exactly if it needs no
  such column.
* `FacadeCall.exists_refused_late`: a document that is refused after a request.
-/

namespace GridStore

/-- Whether a failure is about what a call is given, and not about what the service did. -/
def StoreError.blamesInput : StoreError → Bool
  | precondition _ => true
  | filter _ => true
  | update _ => true
  | _ => false

/-- Services that tell which requests they have received. Their failures are not about the input of
calls, which they do not know. -/
class RequestLog (σ : Type) [Service σ] where
  received : σ → List Request
  received_answer : ∀ (now : Instant) (request : Request) (s : σ),
    received (Service.answer now request s).2 = received s ++ [request]
  blamesInput_answer : ∀ (now : Instant) (request : Request) (s : σ) (e : StoreError),
    (Service.answer now request s).1 = .error e → e.blamesInput = false

/-- The rows for whose fields an update makes columns, given the rows that it has found: the row
that it inserts if there are none, or the rows that it replaces. -/
def Update.rowsToName (u : Update) (selector : Filter) (now : Instant) (upsert : Bool)
    (matched : List Row) : List Row :=
  if matched.isEmpty then if upsert then [u.upsertRow selector now] else []
  else if u.isReplacement then u.apply now matched else []

/-- The service in memory keeps a log of its requests. -/
instance : RequestLog MemorySheets where
  received := MemorySheets.log
  received_answer := MemorySheets.log_answer
  blamesInput_answer now request s e h := by
    obtain ⟨refusal, rfl⟩ | rfl := MemorySheets.eq_api_or_eq_brokenOff h <;> rfl

/-! ### Failures of computations -/

namespace StoreM

variable {σ α β : Type}

/-- Whether no failure of a computation is about what a call is given. -/
def BlamesNoInput (x : StoreM σ α) : Prop :=
  ∀ s e, (x s).1 = .error e → e.blamesInput = false

theorem BlamesNoInput.ends {x : StoreM σ α} (h : BlamesNoInput x) (s : σ) :
    Ends x s (fun _ _ => True) fun e _ => e.blamesInput = false := by
  rcases hx : x s with ⟨e | a, s'⟩
  · exact (ends_error hx).2 (h s e (by rw [hx]))
  · exact (ends_ok hx).2 trivial

theorem blamesNoInput_of_ends {x : StoreM σ α} {ok : σ → α → σ → Prop}
    (h : ∀ s, Ends x s (ok s) fun e _ => e.blamesInput = false) : BlamesNoInput x := by
  intro s e hx
  have hends := h s
  rcases hresult : x s with ⟨e' | a, s'⟩ <;> rw [hresult] at hx <;> cases hx
  exact (ends_error hresult).1 hends

theorem blamesNoInput_pure (a : α) : BlamesNoInput (pure a : StoreM σ α) := fun _ _ h => nomatch h

theorem BlamesNoInput.bind {x : StoreM σ α} {f : α → StoreM σ β} (hx : BlamesNoInput x)
    (hf : ∀ a, BlamesNoInput (f a)) : BlamesNoInput (x >>= f) := by
  have hends : ∀ s, Ends (x >>= f) s (fun _ _ => True) fun e _ => e.blamesInput = false :=
    fun s => (hx.ends s).bind fun a s' _ => (hf a).ends s'
  exact blamesNoInput_of_ends hends

theorem blamesNoInput_mapM {f : α → StoreM σ β} (hf : ∀ a, BlamesNoInput (f a)) (xs : List α) :
    BlamesNoInput (xs.mapM f) := by
  induction xs with
  | nil => exact blamesNoInput_pure []
  | cons a rest ih =>
    rw [List.mapM_cons]
    exact (hf a).bind fun b => ih.bind fun bs => blamesNoInput_pure (b :: bs)

theorem blamesNoInput_forM {f : α → StoreM σ PUnit} (hf : ∀ a, BlamesNoInput (f a))
    (xs : List α) : BlamesNoInput (xs.forM f) := by
  induction xs with
  | nil => exact blamesNoInput_pure _
  | cons a rest ih => exact (hf a).bind fun _ => ih

end StoreM

namespace Client

open RequestLog

variable {σ : Type} [Service σ] [RequestLog σ] {clock : Clock} {worksheet : WorksheetInfo}
  {c c' : Client σ} {selector : Filter} {u : Update} {options : UpdateOptions} {matched : List Row}

/-! ### Requests and reads -/

/-- A request is logged, and its failure is about no input. -/
theorem ends_ask_received (clock : Clock) (request : Request) (c : Client σ) :
    StoreM.Ends (ask clock request) c
      (fun _ c' => received c'.service = received c.service ++ [request] ∧ c'.token = c.token)
      fun e _ => e.blamesInput = false := by
  have hreceived := received_answer clock.instant request c.service
  have hblames := blamesInput_answer clock.instant request c.service
  rcases hanswer : Service.answer clock.instant request c.service with ⟨e | a, s'⟩
  · have hask : ask clock request c = (.error e, { c with service := s' }) := by
      rw [ask, hanswer]
    exact (StoreM.ends_error hask).2 (hblames e (by rw [hanswer]))
  · have hask : ask clock request c = (.ok a, { c with service := s' }) := by
      rw [ask, hanswer]
    rw [hanswer] at hreceived
    exact (StoreM.ends_ok hask).2 ⟨hreceived, rfl⟩

theorem blamesNoInput_ask (clock : Clock) (request : Request) :
    StoreM.BlamesNoInput (ask clock request : StoreM (Client σ) request.Answer) :=
  StoreM.blamesNoInput_of_ends (ends_ask_received clock request)

omit [Service σ] [RequestLog σ] in
theorem blamesNoInput_forgetting {α : Type} {change : StoreM (Client σ) α}
    (h : StoreM.BlamesNoInput change) : StoreM.BlamesNoInput (forgetting change) :=
  fun c e hchange => h c e hchange

omit [Service σ] [RequestLog σ] in
/-- A row in an answer has an identity if it can be read. -/
theorem ends_decodeRow (operation : Operation) (raw : RawRow) (c : Client σ) :
    StoreM.Ends (decodeRow operation raw) c (fun row c' => row.id ≠ none ∧ c' = c)
      fun e _ => e.blamesInput = false := by
  rw [decodeRow]
  rcases hraw : Row.ofRaw operation raw with e | row
  · exact StoreM.ends_throw rfl
  · refine StoreM.ends_pure ⟨?_, rfl⟩
    rw [Row.ofRaw] at hraw
    split at hraw
    · cases hraw
    · split at hraw
      · cases hraw
      · cases hraw
        exact Option.some_ne_none _

omit [Service σ] [RequestLog σ] in
theorem ends_decodeRows_identified (operation : Operation) (raw : List RawRow) (c : Client σ) :
    StoreM.Ends (raw.mapM (decodeRow operation)) c
      (fun rows c' => (∀ row ∈ rows, row.id ≠ none) ∧ c' = c)
      fun e _ => e.blamesInput = false := by
  induction raw with
  | nil => exact StoreM.ends_pure ⟨nofun, rfl⟩
  | cons first rest ih =>
    rw [List.mapM_cons]
    refine (ends_decodeRow operation first c).bind ?_
    rintro row c' ⟨hid, rfl⟩
    refine ih.bind ?_
    rintro rows c'' ⟨hids, rfl⟩
    exact StoreM.ends_pure ⟨List.forall_mem_cons.2 ⟨hid, hids⟩, rfl⟩

/-- The rows that a query accepts have identities, and requests are only added to the log. -/
theorem ends_queryRows_identified (clock : Clock) (worksheet : WorksheetInfo) (query : RowQuery)
    (c : Client σ) :
    StoreM.Ends (queryRows clock worksheet query) c
      (fun rows c' => (∀ row ∈ rows, row.id ≠ none) ∧
        received c.service <+: received c'.service)
      fun e _ => e.blamesInput = false := by
  have hkept : StoreM.Ends (kept? clock (rowsKey worksheet query)) c
      (fun _ c' => c'.service = c.service) (fun e _ => e.blamesInput = false) := ⟨rfl⟩
  refine hkept.bind fun answer c₁ hservice => ?_
  split
  · refine (ends_decodeRows_identified .queryRows _ c₁).mono ?_ fun _ _ => id
    rintro rows c' ⟨hids, rfl⟩
    exact ⟨hids, hservice ▸ List.prefix_rfl⟩
  · refine (ends_ask_received clock _ c₁).bind fun raw c₂ hasked => ?_
    refine (ends_decodeRows_identified .queryRows raw c₂).bind ?_
    rintro rows c₃ ⟨hids, rfl⟩
    refine ⟨hids, ?_⟩
    show received c.service <+: received c₃.service
    rw [hasked.1, hservice]
    exact List.prefix_append ..

/-- The rows that a filter means have identities. -/
theorem ends_find_identified (clock : Clock) (worksheet : WorksheetInfo) (filter : Filter)
    (options : FindOptions) (c : Client σ) :
    StoreM.Ends (find clock worksheet filter options) c
      (fun rows c' => (∀ row ∈ rows, row.id ≠ none) ∧
        received c.service <+: received c'.service)
      fun e _ => e.blamesInput = false := by
  refine (ends_queryRows_identified clock worksheet _ c).bind ?_
  rintro rows c' ⟨hids, hreceived⟩
  refine StoreM.ends_pure ⟨fun row hrow => hids row ?_, hreceived⟩
  exact (StoredWorksheet.window_sublist options rows).mem (List.mem_filter.1 hrow).1

/-- The header is asked for. -/
theorem ends_freshFields_received (clock : Clock) (worksheet : WorksheetInfo) (c : Client σ) :
    StoreM.Ends (freshFields clock worksheet) c
      (fun _ c' => received c'.service = received c.service ++ [.queryFields worksheet])
      fun e _ => e.blamesInput = false := by
  refine (ends_ask_received clock _ c).bind fun cells c₁ hasked => ?_
  split
  · exact StoreM.ends_throw rfl
  · exact ⟨hasked.1⟩

/-! ### Columns -/

/-- Whether rows need a column with a name that no column can have, as the header is when it is
asked for. -/
def NeedsUnusable (clock : Clock) (worksheet : WorksheetInfo) (rows : List Row) (c : Client σ) :
    Prop :=
  ∃ cells c', freshFields clock worksheet c = (.ok cells, c') ∧
    ∃ row ∈ rows, ∃ name ∈ row.names, name ∉ cells.map FieldCell.cell ∧
      (trimBlanks name = "" ∨ isMetaField name = true)

omit [Service σ] [RequestLog σ] in
theorem exists_missing_unusable_iff {cells : List FieldCell} {rows : List Row} :
    (∃ name ∈ missingColumns cells rows, isColumnName name = false) ↔
      ∃ row ∈ rows, ∃ name ∈ row.names, name ∉ cells.map FieldCell.cell ∧
        (trimBlanks name = "" ∨ isMetaField name = true) := by
  simp only [mem_missingColumns, mem_fieldNames, isColumnName_eq_false_iff]
  constructor
  · rintro ⟨name, ⟨⟨row, hrow, hname⟩, hmissing⟩, hbad⟩
    exact ⟨row, hrow, name, hname, hmissing, hbad⟩
  · rintro ⟨row, hrow, name, hname, hmissing, hbad⟩
    exact ⟨name, ⟨⟨row, hrow, hname⟩, hmissing⟩, hbad⟩

/-- Columns that can be named are named without blaming the names. -/
theorem blamesNoInput_createColumns {names : List String}
    (h : ∀ name ∈ names, isColumnName name = true) (clock : Clock) (worksheet : WorksheetInfo)
    (start : Nat) : StoreM.BlamesNoInput
      (createColumns clock worksheet names start : StoreM (Client σ) Unit) := by
  rw [createColumns, find?_isColumnName_eq_none h]
  simp only
  split
  · exact StoreM.blamesNoInput_pure _
  · exact blamesNoInput_forgetting
      (StoreM.blamesNoInput_forM (fun _ => blamesNoInput_ask clock _) _)

/-- Naming the columns that rows need blames the rows if one of the names cannot be used, after the
header has been asked for. -/
theorem ensureColumns_of_needsUnusable {rows : List Row}
    (h : c.NeedsUnusable clock worksheet rows) : ∃ name c',
      ensureColumns clock worksheet rows c =
        (.error (.precondition (.invalidColumnName name)), c') ∧
      received c'.service = received c.service ++ [.queryFields worksheet] := by
  obtain ⟨cells, c', hcells, hbad⟩ := h
  obtain ⟨name, hmem, hunusable⟩ := exists_missing_unusable_iff.2 hbad
  obtain ⟨first, -, -, hrun⟩ := createColumns_of_exists σ ⟨name, hmem, hunusable⟩ clock worksheet
    (lastColumn cells)
  have hmissing : (!(missingColumns cells rows).isEmpty) = true := by
    simpa using List.ne_nil_of_mem hmem
  refine ⟨first, c', ?_, (ends_freshFields_received clock worksheet c).of_ok hcells⟩
  rw [ensureColumns, StoreM.bind_apply, hcells]
  simp only
  rw [if_pos hmissing, hrun]
  rfl

/-- Otherwise the columns are named without blaming the rows. -/
theorem ends_ensureColumns_blames {rows : List Row} (h : ¬c.NeedsUnusable clock worksheet rows) :
    StoreM.Ends (ensureColumns clock worksheet rows) c (fun _ _ => True)
      fun e _ => e.blamesInput = false := by
  refine (ends_freshFields_received clock worksheet c).with_eq.andThen (fun _ _ h => h.2) ?_
  rintro cells c' ⟨hcells, -⟩
  have husable : ∀ name ∈ missingColumns cells rows, isColumnName name = true := by
    intro name hmem
    cases hname : isColumnName name with
    | true => rfl
    | false =>
      exact absurd ⟨cells, c', hcells, exists_missing_unusable_iff.1 ⟨name, hmem, hname⟩⟩ h
  simp only
  split
  · exact ((blamesNoInput_createColumns husable clock worksheet _).bind
      fun _ => StoreM.blamesNoInput_pure _).ends c'
  · exact StoreM.ends_pure trivial

/-! ### Writes -/

omit [Service σ] [RequestLog σ] in
theorem blamesNoInput_askRow (operation : Operation) {ask : StoreM (Client σ) RawRow}
    (hask : StoreM.BlamesNoInput ask) : StoreM.BlamesNoInput (ask >>= decodeRow operation) :=
  hask.bind fun raw => StoreM.blamesNoInput_of_ends (ends_decodeRow operation raw)

theorem blamesNoInput_insertRows (clock : Clock) (worksheet : WorksheetInfo) (rows : List Row) :
    StoreM.BlamesNoInput (insertRows clock worksheet rows : StoreM (Client σ) (List Row)) := by
  rw [insertRows]
  split
  · exact StoreM.blamesNoInput_pure _
  · exact blamesNoInput_forgetting (StoreM.blamesNoInput_mapM
      (fun _ => blamesNoInput_askRow .insertRow (blamesNoInput_ask clock _)) _)

theorem blamesNoInput_deleteRows (clock : Clock) (worksheet : WorksheetInfo) (ids : List String) :
    StoreM.BlamesNoInput (deleteRows clock worksheet ids : StoreM (Client σ) Nat) := by
  rw [deleteRows]
  split
  · exact StoreM.blamesNoInput_pure _
  · exact (blamesNoInput_forgetting
      (StoreM.blamesNoInput_forM (fun _ => blamesNoInput_ask clock _) _)).bind fun _ =>
        StoreM.blamesNoInput_pure _

/-- Rows with identities are written without blaming the rows. -/
theorem blamesNoInput_updateRows {rows : List Row} (hids : ∀ row ∈ rows, row.id ≠ none)
    (clock : Clock) (worksheet : WorksheetInfo) :
    StoreM.BlamesNoInput (updateRows clock worksheet rows : StoreM (Client σ) (List Row)) := by
  rw [updateRows, mapM_identities_of_forall hids]
  simp only
  split
  · exact StoreM.blamesNoInput_pure _
  · exact blamesNoInput_forgetting (StoreM.blamesNoInput_mapM
      (fun _ => blamesNoInput_askRow .updateRow (blamesNoInput_ask clock _)) _)

/-! ### Row operations -/

/-- An insertion blames its rows if one of their fields can have no column, after the header has
been asked for. -/
theorem insert_of_needsUnusable {rows : List Row} (h : c.NeedsUnusable clock worksheet rows) :
    ∃ name c', insert clock worksheet rows c =
        (.error (.precondition (.invalidColumnName name)), c') ∧
      received c'.service = received c.service ++ [.queryFields worksheet] := by
  obtain ⟨name, c', hrun, hreceived⟩ := ensureColumns_of_needsUnusable h
  refine ⟨name, c', ?_, hreceived⟩
  cases rows with
  | nil =>
    obtain ⟨cells, c', -, row, hrow, -⟩ := h
    cases hrow
  | cons first rest =>
    rw [insert, List.isEmpty_cons, if_neg Bool.false_ne_true, StoreM.bind_apply, hrun]

theorem ends_insert_blames {rows : List Row} (h : ¬c.NeedsUnusable clock worksheet rows) :
    StoreM.Ends (insert clock worksheet rows) c (fun _ _ => True)
      fun e _ => e.blamesInput = false := by
  rw [insert]
  split
  · exact StoreM.ends_pure trivial
  · exact (ends_ensureColumns_blames h).bind fun _ c' _ =>
      (blamesNoInput_insertRows clock worksheet rows).ends c'

/-- An update blames its documents if a field of the rows for which it makes columns can have none,
after the rows have been looked for and the header has been asked for. -/
theorem update_of_needsUnusable
    (hfind : find clock worksheet selector (allOrFirst options.multiple) c = (.ok matched, c'))
    (h : c'.NeedsUnusable clock worksheet
      (u.rowsToName selector clock.instant options.upsert matched)) :
    ∃ name c'', update clock worksheet selector u options c =
        (.error (.precondition (.invalidColumnName name)), c'') ∧
      received c''.service = received c'.service ++ [.queryFields worksheet] := by
  rw [update, StoreM.bind_apply, hfind]
  rw [Update.rowsToName] at h
  simp only
  split at h
  case isTrue hnone =>
    rw [if_pos hnone]
    split at h
    case isTrue hupsert =>
      rw [if_pos hupsert]
      exact insert_of_needsUnusable h
    case isFalse =>
      obtain ⟨cells, c', -, row, hrow, -⟩ := h
      cases hrow
  case isFalse hsome =>
    rw [if_neg hsome]
    split at h
    case isTrue hreplaces =>
      obtain ⟨name, c'', hrun, hreceived⟩ := ensureColumns_of_needsUnusable h
      refine ⟨name, c'', ?_, hreceived⟩
      rw [if_pos hreplaces, StoreM.bind_apply, hrun]
    case isFalse =>
      obtain ⟨cells, c', -, row, hrow, -⟩ := h
      cases hrow

theorem ends_update_blames
    (h : ∀ matched c', find clock worksheet selector (allOrFirst options.multiple) c =
      (.ok matched, c') → ¬c'.NeedsUnusable clock worksheet
        (u.rowsToName selector clock.instant options.upsert matched)) :
    StoreM.Ends (update clock worksheet selector u options) c (fun _ _ => True)
      fun e _ => e.blamesInput = false := by
  refine (ends_find_identified clock worksheet selector _ c).with_eq.andThen (fun _ _ h => h.2) ?_
  rintro matched c' ⟨hfind, hids, -⟩
  have hneeds := h matched c' hfind
  have hids' : ∀ row ∈ u.apply clock.instant matched, row.id ≠ none :=
    List.forall_mem_map.2 fun row hrow => by
      rw [u.id_applyTo clock.instant row]
      exact hids row hrow
  rw [Update.rowsToName] at hneeds
  split
  case isTrue hnone =>
    rw [if_pos hnone] at hneeds
    split
    case isTrue hupsert =>
      rw [if_pos hupsert] at hneeds
      exact ends_insert_blames hneeds
    case isFalse => exact StoreM.ends_pure trivial
  case isFalse hsome =>
    rw [if_neg hsome] at hneeds
    simp only
    split
    case isTrue hreplaces =>
      rw [if_pos hreplaces] at hneeds
      exact (ends_ensureColumns_blames hneeds).bind fun _ c'' _ =>
        (blamesNoInput_updateRows hids' clock worksheet).ends c''
    case isFalse => exact (blamesNoInput_updateRows hids' clock worksheet).ends c'

theorem blamesNoInput_find (clock : Clock) (worksheet : WorksheetInfo) (filter : Filter)
    (options : FindOptions) :
    StoreM.BlamesNoInput (find clock worksheet filter options : StoreM (Client σ) (List Row)) :=
  StoreM.blamesNoInput_of_ends (ends_find_identified clock worksheet filter options)

theorem blamesNoInput_remove (clock : Clock) (worksheet : WorksheetInfo) (selector : Filter)
    (options : RemoveOptions) :
    StoreM.BlamesNoInput (remove clock worksheet selector options : StoreM (Client σ) Nat) := by
  rw [remove]
  split
  · exact blamesNoInput_deleteRows clock worksheet _
  · exact (blamesNoInput_find clock worksheet selector _).bind fun rows =>
      blamesNoInput_deleteRows clock worksheet _

/-! ### Worksheets -/

theorem ends_sheetInfo_token (clock : Clock) (sheetId : String) (c : Client σ) :
    StoreM.Ends (sheetInfo clock sheetId) c (fun _ c' => c'.token = c.token)
      fun e _ => e.blamesInput = false := by
  have hkept : StoreM.Ends (kept? clock (ResponseCache.sheetKey sheetId)) c
      (fun _ c' => c'.token = c.token) (fun e _ => e.blamesInput = false) := ⟨rfl⟩
  refine hkept.bind fun answer c₁ htoken => ?_
  split
  · exact StoreM.ends_pure htoken
  · refine (ends_ask_received clock _ c₁).bind fun info c₂ hasked => ?_
    exact ⟨hasked.2.trans htoken⟩

/-- With a token, a worksheet is created without blaming the call. -/
theorem ends_createWorksheet_blames (h : c.isAuthenticated = true) (sheetId title : String)
    (size : WorksheetSize) :
    StoreM.Ends (createWorksheet clock sheetId title size) c (fun _ _ => True)
      fun e _ => e.blamesInput = false :=
  StoreM.ends_bind_of_eq (requireToken_of_isAuthenticated h _)
    ((blamesNoInput_forgetting (blamesNoInput_ask clock _)).ends c)

/-- With a token, a worksheet is dropped without blaming the call. -/
theorem ends_dropWorksheet_blames (h : c.isAuthenticated = true) (sheetId worksheetId : String) :
    StoreM.Ends (dropWorksheet clock sheetId worksheetId) c (fun _ _ => True)
      fun e _ => e.blamesInput = false :=
  StoreM.ends_bind_of_eq (requireToken_of_isAuthenticated h _)
    ((blamesNoInput_forgetting (blamesNoInput_ask clock _)).ends c)

end Client

namespace Spreadsheet

variable {σ : Type} [Service σ] [RequestLog σ] {clock : Clock} {sheet : Spreadsheet σ}

omit [Service σ] [RequestLog σ] in
/-- A call on a worksheet whose computation blames no input. -/
theorem ends_onClient_blames {α : Type} {action : StoreM (Client σ) α}
    (h : StoreM.Ends action sheet.client (fun _ _ => True) fun e _ => e.blamesInput = false) :
    StoreM.Ends (onClient action) sheet (fun _ _ => True) fun e _ => e.blamesInput = false := by
  refine (ends_onClient h).mono (fun _ _ _ => trivial) ?_
  rintro e s' ⟨c', he, -⟩
  exact he

/-- With a token, a worksheet is created without blaming the call. -/
theorem ends_createWorksheet_blames (h : sheet.client.isAuthenticated = true) (title : String)
    (size : WorksheetSize) :
    StoreM.Ends (createWorksheet clock title size) sheet (fun _ _ => True)
      fun e _ => e.blamesInput = false := by
  have hcreate : sheet.known? title = none →
      StoreM.Ends (Client.createWorksheet clock sheet.id title size) sheet.client
        (fun _ c' => StoreM.Ends (Client.sheetInfo clock sheet.id) c' (fun _ _ => True)
          fun e _ => e.blamesInput = false) (fun e _ => e.blamesInput = false) := fun _ =>
    (Client.ends_createWorksheet_blames h sheet.id title size).mono
      (fun _ c' _ => (Client.ends_sheetInfo_token clock sheet.id c').mono (fun _ _ _ => trivial)
        fun _ _ he => he) fun _ _ he => he
  refine (ends_createWorksheet h title size hcreate).mono (fun _ _ _ => trivial) ?_
  rintro e s' ⟨-, ⟨-, -, -, -, -, rfl⟩ | ⟨-, he, -⟩ | ⟨-, he, -⟩⟩
  · rfl
  · exact he
  · exact he

/-- With a token, a worksheet is dropped without blaming the call. -/
theorem ends_dropWorksheet_blames (h : sheet.client.isAuthenticated = true) (title : String) :
    StoreM.Ends (dropWorksheet clock title) sheet (fun _ _ => True)
      fun e _ => e.blamesInput = false := by
  refine (ends_dropWorksheet h title (fun _ => True)
    (fun _ => Client.ends_sheetInfo_token clock sheet.id sheet.client) ?_).mono
    (fun _ _ _ => trivial) ?_
  · intro ws s' hconsults _
    refine Client.ends_dropWorksheet_blames ?_ sheet.id ws.worksheetId
    cases hconsults with
    | remembered => exact h
    | asked unknown htoken =>
      show Option.isSome _ = true
      rw [htoken]
      exact h
  · rintro e s' (⟨-, -, rfl⟩ | ⟨-, he, -⟩)
    · rfl
    · exact he

end Spreadsheet

/-! ### Calls of the facade -/

/-- A call of the facade: with documents on a worksheet, or on an open spreadsheet. -/
inductive FacadeCall where
  | find (worksheet : WorksheetInfo) (filter : Json) (options : FindOptions)
  | insert (worksheet : WorksheetInfo) (documents : Json)
  | update (worksheet : WorksheetInfo) (selector change : Json) (options : UpdateOptions)
  | remove (worksheet : WorksheetInfo) (selector : Json) (options : RemoveOptions)
  | createWorksheet (title : String) (size : WorksheetSize)
  | dropWorksheet (title : String)
  | changeToken (token : String)

namespace FacadeCall

open RequestLog

/-- What a call returns. -/
@[reducible] def Result : FacadeCall → Type
  | find .. => List Row
  | insert .. => List Row
  | update .. => List Row
  | remove .. => Nat
  | createWorksheet .. => WorksheetInfo
  | dropWorksheet _ => Unit
  | changeToken _ => Unit

variable {σ : Type} [Service σ]

/-- Makes a call. -/
def run (clock : Clock) : (call : FacadeCall) → StoreM (Spreadsheet σ) call.Result
  | find worksheet filter options =>
    Spreadsheet.onClient (Client.findDocument clock worksheet filter options)
  | insert worksheet documents =>
    Spreadsheet.onClient (Client.insertDocuments clock worksheet documents)
  | update worksheet selector change options =>
    Spreadsheet.onClient (Client.updateDocument clock worksheet selector change options)
  | remove worksheet selector options =>
    Spreadsheet.onClient (Client.removeDocument clock worksheet selector options)
  | createWorksheet title size => Spreadsheet.createWorksheet clock title size
  | dropWorksheet title => Spreadsheet.dropWorksheet clock title
  | changeToken token => Spreadsheet.changeToken token

/-- Whether a call that fails because of its input has sent no request. -/
def RefusesEarly [RequestLog σ] (clock : Clock) (sheet : Spreadsheet σ) (call : FacadeCall) :
    Prop :=
  ∀ e, (call.run clock sheet).1 = .error e → e.blamesInput = true →
    received (call.run clock sheet).2.client.service = received sheet.client.service

/-- Whether a call makes a column for a field, and the name of the field is blank or reserved: an
insertion for the fields of its rows, and an update for those of the row that it inserts or of the
rows that it replaces. -/
def NeedsUnusable (clock : Clock) (sheet : Spreadsheet σ) : FacadeCall → Prop
  | insert worksheet documents => ∃ rows, readRows documents = .ok rows ∧
      sheet.client.NeedsUnusable clock worksheet rows
  | update worksheet selector change options => ∃ filter u matched c',
      readFilter selector = .ok filter ∧ Update.read change = .ok u ∧
      Client.find clock worksheet filter (Client.allOrFirst options.multiple) sheet.client =
        (.ok matched, c') ∧
      c'.NeedsUnusable clock worksheet
        (u.rowsToName filter clock.instant options.upsert matched)
  | _ => False

variable [RequestLog σ] {clock : Clock} {sheet : Spreadsheet σ} {call : FacadeCall}

theorem refusesEarly_of_ends (h : StoreM.Ends (call.run clock) sheet (fun _ _ => True)
    fun e _ => e.blamesInput = false) : call.RefusesEarly clock sheet := by
  intro e he hblames
  rcases hrun : call.run clock sheet with ⟨e' | a, s'⟩ <;> rw [hrun] at he <;> cases he
  rw [(StoreM.ends_error hrun).1 h] at hblames
  cases hblames

theorem refusesEarly_of_eq {e : StoreError} (h : call.run clock sheet = (.error e, sheet)) :
    call.RefusesEarly clock sheet := by
  intro _ _ _
  rw [h]

theorem not_refusesEarly {e : StoreError} {s' : Spreadsheet σ}
    (h : call.run clock sheet = (.error e, s')) (hblames : e.blamesInput = true)
    (hlog : (received sheet.client.service).length < (received s'.client.service).length) :
    ¬call.RefusesEarly clock sheet := by
  intro hearly
  have hsame := hearly e (by rw [h]) hblames
  rw [h] at hsame
  exact absurd (congrArg List.length hsame) (Nat.ne_of_gt hlog)

/-- An insertion refuses its documents before any request unless a field can have no column. -/
theorem refusesEarly_insert_iff (clock : Clock) (worksheet : WorksheetInfo) (documents : Json)
    (sheet : Spreadsheet σ) : (insert worksheet documents).RefusesEarly clock sheet ↔
      ¬(insert worksheet documents).NeedsUnusable clock sheet := by
  cases hread : readRows documents with
  | error e =>
    refine iff_of_true (refusesEarly_of_eq (e := e) ?_) ?_
    · rw [run, Spreadsheet.onClient, Client.insertDocuments, hread]
      rfl
    · rintro ⟨rows, hrows, -⟩
      rw [hread] at hrows
      cases hrows
  | ok rows =>
    have hrun : ((insert worksheet documents).run clock : StoreM (Spreadsheet σ) (List Row)) =
        Spreadsheet.onClient (Client.insert clock worksheet rows) := by
      rw [run, Client.insertDocuments_of_ok clock worksheet hread]
    by_cases hneeds : sheet.client.NeedsUnusable clock worksheet rows
    · refine iff_of_false ?_ fun h => h ⟨rows, hread, hneeds⟩
      obtain ⟨name, c', hinsert, hreceived⟩ := Client.insert_of_needsUnusable hneeds
      have hrefused : (insert worksheet documents).run clock sheet =
          (.error (.precondition (.invalidColumnName name)), { sheet with client := c' }) := by
        rw [hrun, Spreadsheet.onClient, hinsert]
      refine not_refusesEarly hrefused rfl ?_
      rw [hreceived, List.length_append]
      exact Nat.lt_add_of_pos_right Nat.one_pos
    · refine iff_of_true (refusesEarly_of_ends ?_) ?_
      · rw [hrun]
        exact Spreadsheet.ends_onClient_blames (Client.ends_insert_blames hneeds)
      · rintro ⟨rows', hrows, hneeds'⟩
        rw [hread] at hrows
        cases hrows
        exact hneeds hneeds'

/-- An update refuses its documents before any request unless a field can have no column. -/
theorem refusesEarly_update_iff (clock : Clock) (worksheet : WorksheetInfo) (selector change : Json)
    (options : UpdateOptions) (sheet : Spreadsheet σ) :
    (update worksheet selector change options).RefusesEarly clock sheet ↔
      ¬(update worksheet selector change options).NeedsUnusable clock sheet := by
  cases hselector : readFilter selector with
  | error e =>
    refine iff_of_true (refusesEarly_of_eq (e := e) ?_) ?_
    · rw [run, Spreadsheet.onClient, Client.updateDocument, hselector]
      rfl
    · rintro ⟨filter, u, matched, c', hfilter, -⟩
      rw [hselector] at hfilter
      cases hfilter
  | ok filter =>
    cases hchange : Update.read change with
    | error e =>
      refine iff_of_true (refusesEarly_of_eq (e := e) ?_) ?_
      · rw [run, Spreadsheet.onClient, Client.updateDocument, hselector, hchange]
        rfl
      · rintro ⟨filter, u, matched, c', -, hu, -⟩
        rw [hchange] at hu
        cases hu
    | ok u =>
      have hrun : ((update worksheet selector change options).run clock :
          StoreM (Spreadsheet σ) (List Row)) =
            Spreadsheet.onClient (Client.update clock worksheet filter u options) := by
        rw [run, Client.updateDocument_of_ok clock worksheet hselector hchange]
      by_cases hneeds : (update worksheet selector change options).NeedsUnusable clock sheet
      · refine iff_of_false ?_ (fun h => h hneeds)
        obtain ⟨filter', u', matched, c', hfilter, hu, hfind, hneeds⟩ := hneeds
        rw [hselector] at hfilter
        cases hfilter
        rw [hchange] at hu
        cases hu
        obtain ⟨name, c'', hupdate, hreceived⟩ := Client.update_of_needsUnusable hfind hneeds
        have hbefore := ((Client.ends_find_identified clock worksheet filter _ _).of_ok hfind).2
        have hrefused : (update worksheet selector change options).run clock sheet =
            (.error (.precondition (.invalidColumnName name)), { sheet with client := c'' }) := by
          rw [hrun, Spreadsheet.onClient, hupdate]
        refine not_refusesEarly hrefused rfl ?_
        rw [hreceived, List.length_append]
        exact Nat.lt_of_le_of_lt hbefore.length_le (Nat.lt_add_of_pos_right Nat.one_pos)
      · refine iff_of_true (refusesEarly_of_ends ?_) hneeds
        rw [hrun]
        exact Spreadsheet.ends_onClient_blames (Client.ends_update_blames fun matched c' hfind h =>
          hneeds ⟨filter, u, matched, c', hselector, hchange, hfind, h⟩)

/-- A call refuses its input before any request exactly if it makes no column for a field with a
blank or reserved name. -/
theorem refusesEarly_iff (clock : Clock) (call : FacadeCall) (sheet : Spreadsheet σ) :
    call.RefusesEarly clock sheet ↔ ¬call.NeedsUnusable clock sheet := by
  cases call with
  | find worksheet document options =>
    refine iff_of_true ?_ (fun h => h)
    cases hread : readFilter document with
    | error e =>
      refine refusesEarly_of_eq (e := e) ?_
      rw [run, Spreadsheet.onClient, Client.findDocument, hread]
      rfl
    | ok filter =>
      refine refusesEarly_of_ends ?_
      rw [run, Client.findDocument_of_ok clock worksheet hread]
      exact Spreadsheet.ends_onClient_blames
        ((Client.blamesNoInput_find clock worksheet filter options).ends _)
  | insert worksheet documents => exact refusesEarly_insert_iff clock worksheet documents sheet
  | update worksheet selector change options =>
    exact refusesEarly_update_iff clock worksheet selector change options sheet
  | remove worksheet document options =>
    refine iff_of_true ?_ (fun h => h)
    cases hread : readFilter document with
    | error e =>
      refine refusesEarly_of_eq (e := e) ?_
      rw [run, Spreadsheet.onClient, Client.removeDocument, hread]
      rfl
    | ok filter =>
      refine refusesEarly_of_ends ?_
      rw [run, Client.removeDocument_of_ok clock worksheet hread]
      exact Spreadsheet.ends_onClient_blames
        ((Client.blamesNoInput_remove clock worksheet filter options).ends _)
  | createWorksheet title size =>
    refine iff_of_true ?_ (fun h => h)
    by_cases htoken : sheet.client.isAuthenticated = true
    · exact refusesEarly_of_ends (Spreadsheet.ends_createWorksheet_blames htoken title size)
    · refine refusesEarly_of_eq (e := .precondition .creatingUnauthenticated) ?_
      show Spreadsheet.createWorksheet clock title size sheet = _
      rw [Spreadsheet.createWorksheet, StoreM.bind_apply, Spreadsheet.requireToken_apply,
        if_neg htoken]
  | dropWorksheet title =>
    refine iff_of_true ?_ (fun h => h)
    by_cases htoken : sheet.client.isAuthenticated = true
    · exact refusesEarly_of_ends (Spreadsheet.ends_dropWorksheet_blames htoken title)
    · refine refusesEarly_of_eq (e := .precondition .droppingUnauthenticated) ?_
      show Spreadsheet.dropWorksheet clock title sheet = _
      rw [Spreadsheet.dropWorksheet, StoreM.bind_apply, Spreadsheet.requireToken_apply,
        if_neg htoken]
  | changeToken token =>
    refine iff_of_true (fun e _ _ => ?_) (fun h => h)
    show received (Client.setToken token sheet.client).2.service = _
    rw [Client.setToken]
    split <;> rfl

/-- A spreadsheet with a worksheet. -/
def sampleSheet : Spreadsheet MemorySheets := ⟨"s1", Client.holding [], none⟩

/-- The insertion of a document with a blank field name. -/
def insertBlank : FacadeCall := insert Client.sampleInfo (.object [(" ", .bool true)])

/-- Not every call refuses its input before any request: a document with a blank field name is
refused only after the header has been asked for. -/
theorem exists_refused_late : ¬∀ (clock : Clock) (sheet : Spreadsheet MemorySheets)
    (call : FacadeCall), call.RefusesEarly clock sheet := by
  intro h
  have hearly := h Client.sampleClock sampleSheet insertBlank
  have hblames : (match (insertBlank.run Client.sampleClock sampleSheet).1 with
      | .error e => e.blamesInput
      | .ok _ => false) = true := by decide +kernel
  have hlog : (insertBlank.run Client.sampleClock sampleSheet).2.client.service.log ≠
      sampleSheet.client.service.log := by decide +kernel
  cases hrun : (insertBlank.run Client.sampleClock sampleSheet).1 with
  | ok shown =>
    rw [hrun] at hblames
    cases hblames
  | error e =>
    rw [hrun] at hblames
    exact hlog (hearly e hrun hblames)

end FacadeCall

end GridStore
