import GridStore.CommandLine.Run
import GridStore.Proofs.Client.Asks
import GridStore.Proofs.Client.Refusals
import GridStore.Proofs.Client.Sessions

/-!
# Tokens and changes of worksheets

Worksheets are created and dropped only through a client with a token, which is given when the
client is set up or later. An empty text is refused or gives no token wherever it is given, except
where a client that has been set up is given one: there it is a token like any other.

## Main definitions

* `Recorded`: a service with a record of the requests that reach it.
* `ClientSetup`: the ways to set up a client.
* `AccessStep`: the calls on a client, and on worksheets and spreadsheets through it.
* `Client.Gated`: whether worksheets are created and dropped only after a text that is not empty has
  been given as a token.

## Main results

* `Client.Locked.step`, `Client.Locked.after`: without such a text no worksheet is created or
  dropped.
* `schema_changes_gated_iff`: which clients are gated.
-/

namespace GridStore

/-- Whether a request creates or drops a worksheet. -/
def Request.isSchemaChange : Request → Bool
  | createWorksheet .. => true
  | dropWorksheet .. => true
  | _ => false

/-! ### Recorded services -/

/-- A service with a record of the requests that reach it. -/
structure Recorded (σ : Type) where
  service : σ
  log : List Request := []

instance {σ : Type} [Service σ] : Service (Recorded σ) where
  answer now request recorded :=
    let (result, service) := Service.answer now request recorded.service
    (result, ⟨service, recorded.log ++ [request]⟩)

/-- The client with a record of the requests that reach its service. -/
def Client.recorded {σ : Type} (c : Client σ) : Client (Recorded σ) where
  service := { service := c.service }
  cache := c.cache
  token := c.token
  maxInFlight := c.maxInFlight

/-! ### Set-up -/

/-- The ways to set up a client. -/
inductive ClientSetup (σ : Type) where
  | new (service : σ)
  | ofConfig (service : σ) (config : Config)
  | withToken (setup : ClientSetup σ) (token : String)
  | withMaxInFlight (setup : ClientSetup σ) (n : Nat)

namespace ClientSetup

variable {σ : Type}

/-- The client that is set up. -/
def client : ClientSetup σ → Client σ
  | new service => { service }
  | ofConfig service config => .ofConfig service config
  | withToken setup token => setup.client.withToken token
  | withMaxInFlight setup n => setup.client.withMaxInFlight n

/-- The texts that are given as tokens. -/
def texts : ClientSetup σ → List String
  | new _ => []
  | ofConfig _ config => config.accessToken.toList
  | withToken setup token => setup.texts ++ [token]
  | withMaxInFlight setup _ => setup.texts

/-- Whether a client that has been set up is given an empty text as its token. -/
def GivesEmpty : ClientSetup σ → Prop
  | new _ => False
  | ofConfig .. => False
  | withToken setup token => token = "" ∨ setup.GivesEmpty
  | withMaxInFlight setup _ => setup.GivesEmpty

end ClientSetup

/-! ### Calls -/

section

variable {σ : Type} [Service σ]

/-- A call on a client, on a worksheet through it, or on a spreadsheet that is open through it,
which may remember any worksheets. -/
inductive AccessStep where
  | client (clock : Clock) (call : ClientCall)
  | rows (clock : Clock) (worksheet : WorksheetInfo) (call : RowCall)
  | sheet (clock : Clock) (id : String) (known : Option (List WorksheetInfo)) (call : SheetCall)
  | facade (clock : Clock) (id : String) (known : Option (List WorksheetInfo)) (call : FacadeCall)

/-- The client after a step, whether the call succeeds or not. -/
def AccessStep.run (c : Client σ) : AccessStep → Client σ
  | client clock call => (call.run clock c).2
  | rows clock worksheet call => call.run clock worksheet c
  | sheet clock id known call => (call.run clock ⟨id, c, known⟩).client
  | facade clock id known call => (call.run clock ⟨id, c, known⟩).2.client

/-- The text that a step gives as a token. -/
def AccessStep.token? : AccessStep → Option String
  | client _ (.setToken token) => some token
  | sheet _ _ _ (.changeToken token) => some token
  | facade _ _ _ (.changeToken token) => some token
  | _ => none

/-- The client after steps. -/
def Client.after (c : Client σ) (steps : List AccessStep) : Client σ := steps.foldl AccessStep.run c

/-- Whether a worksheet is created or dropped, as far as requests have reached the service, only
after a text that is not empty has been given as a token: one of those given when the client was set
up, or one given in an earlier step. -/
def Client.Gated (c : Client σ) (texts : List String) : Prop :=
  ∀ (steps : List AccessStep) (step : AccessStep),
    (∃ request ∈ (step.run (c.recorded.after steps)).service.log,
      request.isSchemaChange = true) →
    ∃ text ∈ texts ++ steps.filterMap AccessStep.token?, text ≠ ""

end

/-! ### Clients without a token -/

theorem eq_empty_of_not_exists {texts : List String} (h : ¬∃ text ∈ texts, text ≠ "") :
    ∀ text ∈ texts, text = "" :=
  fun text htext => Decidable.by_contra fun hne => h ⟨text, htext, hne⟩

/-- Whether a client has no token, and no request to create or drop a worksheet has reached its
service. -/
structure Client.Locked {σ : Type} (c : Client (Recorded σ)) : Prop where
  token : c.token = none
  log : ∀ request ∈ c.service.log, request.isSchemaChange = false

namespace Client

variable {σ α : Type} {c : Client (Recorded σ)} {clock : Clock}

/-- Without a token, what needs one sends nothing. -/
theorem keeps_locked_requireToken (operation : Operation)
    (f : Unit → StoreM (Client (Recorded σ)) α) :
    StoreM.Keeps Locked (requireToken operation >>= f) := by
  intro c hc
  have hrefused : requireToken operation c =
      (.error (.precondition (.missingAccessToken operation)), c) := by
    rw [requireToken, StoreM.bind_apply, StoreM.get_apply]
    simp only [isAuthenticated, hc.token]
    rfl
  rw [StoreM.bind_apply, hrefused]
  exact hc

theorem keeps_locked_setToken {token : String} (h : token = "") :
    StoreM.Keeps Locked (setToken token : StoreM (Client (Recorded σ)) Unit) := by
  rw [setToken, if_pos h]
  exact StoreM.keeps_throw _

variable [Service σ]

theorem asksKeep_locked (clock : Clock) :
    AsksKeep (Locked : Client (Recorded σ) → Prop) clock where
  ask request hrequest c hc := by
    refine ⟨hc.token, List.forall_mem_append.2 ⟨hc.log, List.forall_mem_singleton.2 ?_⟩⟩
    rcases hrequest with hread | ⟨info, hrewrites⟩
    · cases request <;> first | rfl | cases hread
    · cases request <;> first | rfl | cases hrewrites
  cache c cache hc := ⟨hc.token, hc.log⟩

namespace Locked

variable (h : c.Locked)

include h

theorem clientCall (clock : Clock) (call : ClientCall)
    (htoken : ∀ token, call = .setToken token → token = "") : (call.run clock c).2.Locked := by
  have hasks : AsksKeep (Locked : Client (Recorded σ) → Prop) clock := asksKeep_locked clock
  cases call with
  | sheetInfo sheetId => exact hasks.sheetInfo sheetId c h
  | queryRows worksheet query => exact hasks.queryRows worksheet query c h
  | queryFields worksheet => exact hasks.queryFields worksheet c h
  | freshFields worksheet => exact hasks.freshFields worksheet c h
  | createWorksheet sheetId title size => exact keeps_locked_requireToken _ _ c h
  | dropWorksheet sheetId worksheetId => exact keeps_locked_requireToken _ _ c h
  | createColumns worksheet names start => exact hasks.createColumns worksheet names start c h
  | insertRows worksheet rows => exact hasks.insertRows worksheet rows c h
  | updateRows worksheet rows => exact hasks.updateRows worksheet rows c h
  | deleteRows worksheet ids => exact hasks.deleteRows worksheet ids c h
  | setToken token => exact keeps_locked_setToken (htoken token rfl) c h

theorem sheetCall (clock : Clock) (id : String) (known : Option (List WorksheetInfo))
    (call : SheetCall) (htoken : ∀ token, call = .changeToken token → token = "") :
    (call.run clock ⟨id, c, known⟩).client.Locked :=
  call.keeps (asksKeep_locked clock).sheetInfo
    (fun _ _ _ => keeps_locked_requireToken _ _) (fun _ _ => keeps_locked_requireToken _ _)
    (fun token hcall => keeps_locked_setToken (htoken token hcall)) h

/-- A call with documents is refused for what it is given, or it is the call with what they
describe. -/
theorem facadeCall (clock : Clock) (id : String) (known : Option (List WorksheetInfo))
    (call : FacadeCall) (htoken : ∀ token, call = .changeToken token → token = "") :
    (call.run clock ⟨id, c, known⟩).2.client.Locked := by
  have hsteps : ∀ worksheet, RowSteps (Locked : Client (Recorded σ) → Prop) clock worksheet :=
    (asksKeep_locked clock).rowSteps
  cases call with
  | find worksheet filter options =>
    exact (StoreM.keeps_liftExcept _).bind
      (fun filter => (hsteps worksheet).keeps_find filter options) c h
  | insert worksheet documents =>
    exact (StoreM.keeps_liftExcept _).bind (fun rows => (hsteps worksheet).keeps_insert rows) c h
  | update worksheet selector change options =>
    exact (StoreM.keeps_liftExcept _).bind (fun selector => (StoreM.keeps_liftExcept _).bind
      fun u => (hsteps worksheet).keeps_update selector u options) c h
  | remove worksheet selector options =>
    exact (StoreM.keeps_liftExcept _).bind
      (fun selector => (hsteps worksheet).keeps_remove selector options) c h
  | createWorksheet title size =>
    exact h.sheetCall clock id known (.createWorksheet title size) nofun
  | dropWorksheet title => exact h.sheetCall clock id known (.dropWorksheet title) nofun
  | changeToken token =>
    exact h.sheetCall clock id known (.changeToken token) fun other heq =>
      htoken other (by cases heq; rfl)

/-- A step that gives no token but an empty one leaves a client locked. -/
theorem step (step : AccessStep) (htoken : ∀ token, step.token? = some token → token = "") :
    (step.run c).Locked := by
  cases step with
  | client clock call =>
    exact h.clientCall clock call fun token hcall => htoken token (by rw [hcall]; rfl)
  | rows clock worksheet call =>
    exact call.keeps ((asksKeep_locked clock).rowSteps worksheet) h
  | sheet clock id known call =>
    exact h.sheetCall clock id known call fun token hcall => htoken token (by rw [hcall]; rfl)
  | facade clock id known call =>
    exact h.facadeCall clock id known call fun token hcall => htoken token (by rw [hcall]; rfl)

/-- Steps that give no tokens but empty ones leave a client locked. -/
theorem after {steps : List AccessStep}
    (htokens : ∀ token ∈ steps.filterMap AccessStep.token?, token = "") :
    (c.after steps).Locked := by
  induction steps generalizing c with
  | nil => exact h
  | cons step rest ih =>
    have hmem : ∀ token, step.token? = some token → token = "" := fun token hsome =>
      htokens token (List.mem_filterMap.2 ⟨step, List.mem_cons_self .., hsome⟩)
    refine ih (h.step step hmem) fun token hrest => ?_
    obtain ⟨other, hother, hsome⟩ := List.mem_filterMap.1 hrest
    exact htokens token (List.mem_filterMap.2 ⟨other, List.mem_cons_of_mem _ hother, hsome⟩)

end Locked

/-- Giving a token sends nothing. -/
theorem service_run_of_token? {step : AccessStep} {token : String}
    (h : step.token? = some token) : (step.run c).service = c.service := by
  have hset : (setToken token c).2.service = c.service := by
    rw [setToken]
    split <;> rfl
  rw [AccessStep.token?.eq_def] at h
  split at h <;> cases h <;> exact hset

/-- Up to the end of any step from a locked client, no request to create or drop a worksheet has
reached the service. -/
theorem Locked.log_run (h : c.Locked) (step : AccessStep) :
    ∀ request ∈ (step.run c).service.log, request.isSchemaChange = false := by
  -- a step that gives a token may unlock the client, but then it sends nothing itself
  cases htoken : step.token? with
  | none => exact (h.step step fun token hsome => by rw [htoken] at hsome; cases hsome).log
  | some token =>
    rw [service_run_of_token? htoken]
    exact h.log

/-- A client without a token is gated, whatever is given later. -/
theorem gated_of_token_eq_none {c : Client σ} (h : c.token = none) (texts : List String) :
    c.Gated texts := by
  rintro steps step ⟨request, hmem, hchange⟩
  refine Decidable.by_contra fun hnone => ?_
  have hempty := eq_empty_of_not_exists hnone
  have hstart : c.recorded.Locked := ⟨h, nofun⟩
  have hlocked := hstart.after fun token htoken => hempty token (List.mem_append_right _ htoken)
  rw [hlocked.log_run step request hmem] at hchange
  cases hchange

/-- A client with a token is not gated if no text was given but empty ones. -/
theorem not_gated_of_isAuthenticated {c : Client σ} (h : c.isAuthenticated = true)
    {texts : List String} (htexts : ∀ text ∈ texts, text = "") : ¬c.Gated texts := by
  intro hgated
  let create : AccessStep := .client sampleClock (.createWorksheet "s1" "rows" {})
  have hrequest : Request.createWorksheet "s1" "rows" {} ∈ (create.run c.recorded).service.log := by
    show _ ∈ (createWorksheet sampleClock "s1" "rows" {} c.recorded).2.service.log
    have hrecorded : c.recorded.isAuthenticated = true := h
    rw [createWorksheet, StoreM.bind_apply, requireToken_of_isAuthenticated hrecorded]
    exact List.mem_append_right _ (List.mem_singleton_self _)
  obtain ⟨text, htext, hne⟩ := hgated [] create ⟨_, hrequest, rfl⟩
  rw [List.filterMap_nil, List.append_nil] at htext
  exact hne (htexts text htext)

/-- A client is gated exactly if some text given as a token is not empty, or it has no token. -/
theorem gated_iff (c : Client σ) (texts : List String) :
    c.Gated texts ↔ (∃ text ∈ texts, text ≠ "") ∨ c.token = none := by
  by_cases hgiven : ∃ text ∈ texts, text ≠ ""
  · obtain ⟨text, htext, hne⟩ := hgiven
    exact iff_of_true (fun _ _ _ => ⟨text, List.mem_append_left _ htext, hne⟩)
      (.inl ⟨text, htext, hne⟩)
  · rw [or_iff_right hgiven]
    refine ⟨fun hgated => ?_, fun htoken => gated_of_token_eq_none htoken texts⟩
    cases htoken : c.token with
    | none => rfl
    | some token =>
      have hauthenticated : c.isAuthenticated = true := by rw [isAuthenticated, htoken]; rfl
      exact absurd hgated
        (not_gated_of_isAuthenticated hauthenticated (eq_empty_of_not_exists hgiven))

end Client

/-! ### Which clients are gated -/

/-- A configuration with no token but an empty one gives none. -/
theorem Config.usableToken_eq_none {config : Config}
    (h : ∀ text ∈ config.accessToken.toList, text = "") : config.usableToken = none := by
  rw [usableToken, Option.filter_eq_none_iff]
  intro token htoken
  rw [h token (Option.mem_toList.2 htoken)]
  decide

/-- If no text was given but empty ones, a client has no token exactly if none of them was given to
it after it had been set up. -/
theorem ClientSetup.token_client_eq_none_iff {σ : Type} {setup : ClientSetup σ}
    (h : ∀ text ∈ setup.texts, text = "") :
    setup.client.token = none ↔ ¬setup.GivesEmpty := by
  induction setup with
  | new service => exact iff_of_true rfl id
  | ofConfig service config => exact iff_of_true (Config.usableToken_eq_none h) id
  | withToken setup token ih =>
    have htoken : token = "" := h token (List.mem_append_right _ (List.mem_singleton_self _))
    exact iff_of_false (Option.some_ne_none _) fun hnone => hnone (.inl htoken)
  | withMaxInFlight setup n ih => exact ih h

/-- A command has no token if it is given none but empty ones. -/
theorem Settings.token_spreadsheet {settings : Settings} {config : Config}
    (h : ∀ text ∈ settings.token.toList ++ config.accessToken.toList, text = "")
    (service : FileSheets) : (settings.spreadsheet config service).client.token = none := by
  have hsettings : settings.token.filter (· != "") = none := by
    rw [Option.filter_eq_none_iff]
    intro token htoken
    rw [h token (List.mem_append_left _ (Option.mem_toList.2 htoken))]
    decide
  rw [spreadsheet, hsettings]
  exact Config.usableToken_eq_none fun text htext => h text (List.mem_append_right _ htext)

/-- A client is gated exactly if some text given as a token while it was set up is not empty, or no
empty one was given to it after it had been set up. The client of a command is always gated. -/
theorem schema_changes_gated_iff {σ : Type} [Service σ] (setup : ClientSetup σ)
    (settings : Settings) (config : Config) (service : FileSheets) :
    (setup.client.Gated setup.texts ↔ (∃ text ∈ setup.texts, text ≠ "") ∨ ¬setup.GivesEmpty) ∧
    (settings.spreadsheet config service).client.Gated
      (settings.token.toList ++ config.accessToken.toList) := by
  constructor
  · rw [Client.gated_iff]
    by_cases hgiven : ∃ text ∈ setup.texts, text ≠ ""
    · exact iff_of_true (.inl hgiven) (.inl hgiven)
    · rw [or_iff_right hgiven, or_iff_right hgiven]
      exact ClientSetup.token_client_eq_none_iff (eq_empty_of_not_exists hgiven)
  · rw [Client.gated_iff]
    by_cases hgiven : ∃ text ∈ settings.token.toList ++ config.accessToken.toList, text ≠ ""
    · exact .inl hgiven
    · exact .inr (Settings.token_spreadsheet (eq_empty_of_not_exists hgiven) service)

/-- A client of a service in memory that is given an empty text as its token creates a worksheet. -/
theorem empty_token_not_gated :
    let setup := ClientSetup.withToken (.new (MemorySheets.create { evaluates := true } .sample)) ""
    ¬setup.client.Gated setup.texts :=
  Client.not_gated_of_isAuthenticated rfl fun _ htext => List.mem_singleton.1 htext

end GridStore
