import GridStore.Proofs.Client.Kept
import GridStore.Proofs.Client.Reached

/-!
# Sessions

A session is a run of calls on a client of a service in memory that only this client changes. The
calls succeed or fail at any of their requests, as failures may be made to happen before any call.
Along a session it is recorded which request left a kept answer.

## Main definitions

* `ClientCall`: calls on a client.
* `Session`: a client, and the request that last left an answer under each key.
* `Session.run`: the session after calls.
* `Session.Current`: whether every kept answer is what the service would answer now.

## Main results

* `Session.Current.step`: a call keeps all answers current.
* `Session.kept_answers_current`: after any calls, every kept answer is what the service would
  answer now to the request that left it, and kept rows can be read.
-/

namespace GridStore

/-! ### Calls -/

/-- A call on a client. -/
inductive ClientCall where
  | sheetInfo (sheetId : String)
  | queryRows (worksheet : WorksheetInfo) (query : RowQuery)
  | queryFields (worksheet : WorksheetInfo)
  | freshFields (worksheet : WorksheetInfo)
  | createWorksheet (sheetId title : String) (size : WorksheetSize)
  | dropWorksheet (sheetId worksheetId : String)
  | createColumns (worksheet : WorksheetInfo) (names : List String) (start : Nat)
  | insertRows (worksheet : WorksheetInfo) (rows : List Row)
  | updateRows (worksheet : WorksheetInfo) (rows : List Row)
  | deleteRows (worksheet : WorksheetInfo) (ids : List String)
  | setToken (token : String)

namespace ClientCall

/-- Whether a call succeeds, and the client after it. -/
def run {σ : Type} [Service σ] (clock : Clock) (call : ClientCall) (c : Client σ) :
    Bool × Client σ :=
  match call with
  | sheetInfo sheetId => (Client.sheetInfo clock sheetId).effect c
  | queryRows worksheet query => (Client.queryRows clock worksheet query).effect c
  | queryFields worksheet => (Client.queryFields clock worksheet).effect c
  | freshFields worksheet => (Client.freshFields clock worksheet).effect c
  | createWorksheet sheetId title size =>
    (Client.createWorksheet clock sheetId title size).effect c
  | dropWorksheet sheetId worksheetId =>
    (Client.dropWorksheet clock sheetId worksheetId).effect c
  | createColumns worksheet names start =>
    (Client.createColumns clock worksheet names start).effect c
  | insertRows worksheet rows => (Client.insertRows clock worksheet rows).effect c
  | updateRows worksheet rows => (Client.updateRows clock worksheet rows).effect c
  | deleteRows worksheet ids => (Client.deleteRows clock worksheet ids).effect c
  | setToken token => (Client.setToken token).effect c

/-- The request whose answer a call looks for, if it reads. -/
def request? : ClientCall → Option Request
  | sheetInfo sheetId => some (.sheetInfo sheetId)
  | queryRows worksheet query => some (.queryRows worksheet query)
  | queryFields worksheet => some (.queryFields worksheet)
  | freshFields worksheet => some (.queryFields worksheet)
  | _ => none

/-- The request that leaves a kept answer in a call: that of a read which has asked the service and
succeeds, unless the cache is switched off. -/
def keptRequest? (clock : Clock) (call : ClientCall) (c : Client MemorySheets) : Option Request :=
  let (succeeds, c') := call.run clock c
  if succeeds ∧ c'.service.log ≠ c.service.log ∧ c.cache.enabled then call.request? else none

end ClientCall

/-! ### Runs -/

/-- A client, and the request that last left an answer under each key. -/
structure Session where
  client : Client MemorySheets
  origin : String → Option Request := fun _ => none

namespace Session

/-- The session after a call. -/
def call (s : Session) (clock : Clock) (call : ClientCall) : Session where
  client := (call.run clock s.client).2
  origin key := ((call.keptRequest? clock s.client).filter fun request =>
    request.key? = some key).or (s.origin key)

/-- A step of a session: a call, or a failure that is going to happen. -/
inductive Step where
  | call (clock : Clock) (call : ClientCall)
  | fault (fault : Fault)

/-- The session after a step. -/
def step (s : Session) : Step → Session
  | .call clock call => s.call clock call
  | .fault fault => { s with client := { s.client with service := s.client.service.failing fault } }

/-- The session after steps. -/
def run (s : Session) (steps : List Step) : Session := steps.foldl step s

theorem run_append (s : Session) (steps others : List Step) :
    s.run (steps ++ others) = (s.run steps).run others := List.foldl_append

/-! ### Current answers -/

/-- Whether every kept answer is what the service would answer now to the request that left it, and
can be read. No key has two answers. -/
structure Current (s : Session) : Prop where
  names : (Entries.names s.client.cache.entries).Nodup
  answers : ∀ {key stored answer}, (key, (stored, answer)) ∈ s.client.cache.entries →
    ∃ request, s.origin key = some request ∧ request.key? = some key ∧
      s.client.service.WouldAnswer request answer ∧ answer.IsReadable

variable {s : Session}

theorem current_of_nil (h : s.client.cache.entries = []) : s.Current where
  names := by rw [h]; exact List.nodup_nil
  answers hmem := by rw [h] at hmem; cases hmem

/-- Answers stay current as long as the workbook stays as it is. -/
theorem Current.shrinks (h : s.Current) {c : Client MemorySheets} (hshrinks : s.client.Shrinks c) :
    Current { s with client := c } where
  names := h.names.sublist (hshrinks.entries.map Prod.fst)
  answers hmem := by
    obtain ⟨request, horigin, hkey, hcurrent, hreadable⟩ := h.answers (hshrinks.entries.subset hmem)
    exact ⟨request, horigin, hkey, hcurrent.congr (Request.isRead_of_key? hkey) hshrinks.book
      hshrinks.engine, hreadable⟩

/-- A call that leaves no kept answer of its own. -/
theorem call_of_keptRequest?_eq_none {clock : Clock} {call : ClientCall}
    (h : call.keptRequest? clock s.client = none) :
    s.call clock call = { s with client := (call.run clock s.client).2 } := by
  rw [Session.call, h]
  rfl

/-- The answer that a call has asked for is kept with its request. -/
theorem Current.put (h : s.Current) {clock : Clock} {call : ClientCall} {c : Client MemorySheets}
    {request : Request} {key : String} {answer : KeptAnswer}
    (hcall : call.keptRequest? clock s.client = some request) (hkey : request.key? = some key)
    (hshrinks : s.client.Shrinks c) (henabled : c.cache.enabled = true)
    (hcurrent : c.service.WouldAnswer request answer) (hreadable : answer.IsReadable)
    (hrun : (call.run clock s.client).2 =
      { c with cache := c.cache.put clock.elapsed key answer }) :
    (s.call clock call).Current := by
  have hold := h.shrinks hshrinks
  have horigin : ∀ other, (s.call clock call).origin other =
      if key = other then some request else s.origin other := fun other => by
    simp only [Session.call, hcall, Option.filter_some, hkey]
    by_cases heq : key = other <;> simp [heq]
  have hentries : (s.call clock call).client.cache.entries =
      Entries.set c.cache.entries key (clock.elapsed, answer) := by
    rw [Session.call, hrun, ResponseCache.put, if_pos henabled]
  have hservice : (s.call clock call).client.service = c.service := by rw [Session.call, hrun]
  refine ⟨hentries ▸ Entries.nodup_names_set hold.names key _, fun {other _ _} hmem => ?_⟩
  rw [hentries] at hmem
  rw [horigin, hservice]
  rcases Entries.mem_set_of_nodup hold.names hmem with heq | ⟨hmem, hne⟩
  · cases heq
    exact ⟨request, if_pos rfl, hkey, hcurrent, hreadable⟩
  · rw [if_neg (Ne.symm hne)]
    exact hold.answers hmem

/-- A read keeps the answers current. -/
theorem Current.read (h : s.Current) {clock : Clock} {call : ClientCall} {request : Request}
    {key : String} (hrequest : call.request? = some request) (hkey : request.key? = some key)
    (hrun : ((call.run clock s.client).1 = true ∧
        s.client.ReadsTo clock request key (call.run clock s.client).2) ∨
      ((call.run clock s.client).1 = false ∧ s.client.Shrinks (call.run clock s.client).2)) :
    (s.call clock call).Current := by
  rcases hrun with ⟨hok, hreads⟩ | ⟨hfails, hshrinks⟩
  · generalize hc : (call.run clock s.client).2 = c' at hreads
    cases hreads with
    | kept shrinks log =>
      rw [call_of_keptRequest?_eq_none (by simp [ClientCall.keptRequest?, hc, log]), hc]
      exact h.shrinks shrinks
    | asked shrinks log current readable =>
      cases henabled : s.client.cache.enabled with
      | false =>
        -- a cache that is switched off keeps nothing
        rw [call_of_keptRequest?_eq_none (by simp [ClientCall.keptRequest?, henabled]), hc,
          ResponseCache.put, shrinks.enabled, henabled]
        exact h.shrinks shrinks
      | true =>
        have hcall : call.keptRequest? clock s.client = some request := by
          rw [ClientCall.keptRequest?, hrequest]
          simp [hok, hc, log, henabled]
        exact h.put hcall hkey shrinks (shrinks.enabled.trans henabled) current readable hc
  · rw [call_of_keptRequest?_eq_none (by simp [ClientCall.keptRequest?, hfails])]
    exact h.shrinks hshrinks

/-- A write keeps the answers current. -/
theorem Current.write (h : s.Current) {clock : Clock} {call : ClientCall}
    (hrequest : call.request? = none)
    (hrun : (call.run clock s.client).2.cache.entries = [] ∨
      (call.run clock s.client).2.service = s.client.service ∧
        (call.run clock s.client).2.cache = s.client.cache) :
    (s.call clock call).Current := by
  rw [call_of_keptRequest?_eq_none (by simp [ClientCall.keptRequest?, hrequest])]
  rcases hrun with hnone | ⟨hservice, hcache⟩
  · exact current_of_nil hnone
  · exact h.shrinks ⟨by rw [hservice], by rw [hservice], by rw [hcache], hcache ▸ .refl _⟩

/-- A call keeps the answers current. -/
theorem Current.call (h : s.Current) (clock : Clock) (call : ClientCall) :
    (s.call clock call).Current := by
  cases call with
  | sheetInfo sheetId =>
    exact h.read rfl rfl ((Client.ends_reads_sheetInfo clock sheetId s.client).of_effect
      (fun _ _ => id) fun _ _ => id)
  | queryRows worksheet query =>
    exact h.read rfl rfl ((Client.ends_reads_queryRows clock worksheet query s.client).of_effect
      (fun _ _ => id) fun _ _ => id)
  | queryFields worksheet =>
    exact h.read rfl rfl ((Client.ends_reads_queryFields clock worksheet s.client).of_effect
      (fun _ _ => id) fun _ _ => id)
  | freshFields worksheet =>
    exact h.read rfl rfl ((Client.ends_reads_freshFields clock worksheet s.client).of_effect
      (fun _ _ => id) fun _ _ => id)
  | createWorksheet sheetId title size =>
    exact h.write rfl (Client.settles_createWorksheet clock sheetId title size s.client)
  | dropWorksheet sheetId worksheetId =>
    exact h.write rfl (Client.settles_dropWorksheet clock sheetId worksheetId s.client)
  | createColumns worksheet names start =>
    exact h.write rfl (Client.settles_createColumns clock worksheet names start s.client)
  | insertRows worksheet rows =>
    exact h.write rfl (Client.settles_insertRows clock worksheet rows s.client)
  | updateRows worksheet rows =>
    exact h.write rfl (Client.settles_updateRows clock worksheet rows s.client)
  | deleteRows worksheet ids =>
    exact h.write rfl (Client.settles_deleteRows clock worksheet ids s.client)
  | setToken token => exact h.write rfl (Client.settles_setToken token s.client)

/-- A step of a session keeps the answers current. -/
theorem Current.step (h : s.Current) (step : Step) : (s.step step).Current := by
  cases step with
  | call clock call => exact h.call clock call
  | fault fault => exact h.shrinks ⟨rfl, rfl, rfl, .refl _⟩

/-- Any steps of a session keep the answers current. -/
theorem Current.run (h : s.Current) (steps : List Step) : (s.run steps).Current := by
  induction steps generalizing s with
  | nil => exact h
  | cons step rest ih => exact ih (h.step step)

/-- After any steps from a client without kept answers, every kept answer is what the service would
answer now to the request that left it, and kept rows can be read. -/
theorem kept_answers_current (c : Client MemorySheets) (hcache : c.cache.entries = [])
    (steps : List Step) {key : String} {stored : Nat} {answer : KeptAnswer}
    (hmem : (key, (stored, answer)) ∈ (run { client := c } steps).client.cache.entries) :
    ∃ request, (run { client := c } steps).origin key = some request ∧ request.key? = some key ∧
      (run { client := c } steps).client.service.WouldAnswer request answer ∧
      answer.IsReadable := by
  have hstart : Current { client := c } := current_of_nil hcache
  exact (hstart.run steps).answers hmem

/-- The query of all rows of the first worksheet. -/
def allRows : ClientCall := .queryRows Client.sampleInfo ⟨"", none, false⟩

/-- A session that creates a worksheet and asks for its rows before and after an insertion. -/
def sampleSteps : List Step :=
  [.createWorksheet "s1" "rows" {}, .createColumns Client.sampleInfo ["a"] 0,
    .insertRows Client.sampleInfo [⟨none, none, [("a", .text "x")]⟩], allRows,
    .insertRows Client.sampleInfo [⟨none, none, [("a", .text "y")]⟩], allRows].map
    fun call => .call Client.sampleClock call

/-- The rows that are kept in the end are those of both insertions. -/
theorem kept_answers_current_sample :
    ∃ request,
      (run { client := Client.sampleClient } sampleSteps).origin "3f2a91c__" = some request ∧
      request.key? = some "3f2a91c__" ∧
      (run { client := Client.sampleClient } sampleSteps).client.service.WouldAnswer request
        (.rows [⟨"1", Client.sampleClock.instant.cellText, [("a", "x")]⟩,
          ⟨"2", Client.sampleClock.instant.cellText, [("a", "y")]⟩]) ∧
      KeptAnswer.IsReadable (.rows [⟨"1", Client.sampleClock.instant.cellText, [("a", "x")]⟩,
        ⟨"2", Client.sampleClock.instant.cellText, [("a", "y")]⟩]) := by
  have hcache : Client.sampleClient.cache.entries = [] := rfl
  have hmem : ("3f2a91c__", (0, KeptAnswer.rows
      [⟨"1", Client.sampleClock.instant.cellText, [("a", "x")]⟩,
        ⟨"2", Client.sampleClock.instant.cellText, [("a", "y")]⟩])) ∈
      (run { client := Client.sampleClient } sampleSteps).client.cache.entries := by decide +kernel
  exact kept_answers_current Client.sampleClient hcache sampleSteps hmem

end Session

end GridStore
