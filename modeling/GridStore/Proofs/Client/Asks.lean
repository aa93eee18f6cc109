import GridStore.Proofs.Client.Writes
import GridStore.Proofs.Workbook.Locality

/-!
# Calls and their requests

A call sends requests, and besides it only looks for kept answers, keeps some and forgets them. So
a property of a client that does not depend on kept answers is kept by a call if it is kept by the
requests of the call.

## Main definitions

* `Client.AsksKeep`: whether requests for rows and columns keep a property that does not depend on
  kept answers.

## Main results

* `Client.AsksKeep.queryRows`, `Client.AsksKeep.createColumns` and so on: calls keep such a
  property.
* `Client.AsksKeep.rowSteps`: so do all calls on worksheets.
-/

namespace GridStore

namespace Client

variable {σ : Type} [Service σ]

/-- Whether reads and requests to change rows or columns keep a property of a client, which does
not depend on kept answers. -/
structure AsksKeep (P : Client σ → Prop) (clock : Clock) : Prop where
  ask : ∀ request : Request,
    request.isRead = true ∨ (∃ info, request.rewrites? = some info) →
      StoreM.Keeps P (ask clock request)
  cache : ∀ (c : Client σ) cache, P c → P { c with cache }

namespace AsksKeep

variable {P : Client σ → Prop} {clock : Clock} (h : AsksKeep P clock)

include h

/-! ### Kept answers -/

theorem kept? (key : String) : StoreM.Keeps P (kept? clock key) := fun c hc => h.cache c _ hc

theorem keep (key : String) (answer : KeptAnswer) : StoreM.Keeps P (keep clock key answer) :=
  fun c hc => h.cache c _ hc

theorem forgetting {α : Type} {change : StoreM (Client σ) α} (hchange : StoreM.Keeps P change) :
    StoreM.Keeps P (forgetting change) := fun c hc => h.cache _ _ (hchange c hc)

/-! ### Reads -/

theorem sheetInfo (sheetId : String) : StoreM.Keeps P (sheetInfo clock sheetId) := by
  refine (h.kept? _).bind fun answer => ?_
  split
  · exact StoreM.keeps_pure _
  · exact (h.ask _ (.inl rfl)).bind fun info =>
      (h.keep _ _).bind fun _ => StoreM.keeps_pure info

theorem queryRows (worksheet : WorksheetInfo) (query : RowQuery) :
    StoreM.Keeps P (queryRows clock worksheet query) := by
  refine (h.kept? _).bind fun answer => ?_
  split
  · exact StoreM.keeps_mapM (fun _ => keeps_decodeRow _ _) _
  · refine (h.ask _ (.inl rfl)).bind fun raw => ?_
    exact (StoreM.keeps_mapM (fun _ => keeps_decodeRow _ _) raw).bind fun rows =>
      (h.keep _ _).bind fun _ => StoreM.keeps_pure rows

theorem freshFields (worksheet : WorksheetInfo) :
    StoreM.Keeps P (freshFields clock worksheet) := by
  refine (h.ask _ (.inl rfl)).bind fun cells => ?_
  split
  · exact StoreM.keeps_throw _
  · exact (h.keep _ _).bind fun _ => StoreM.keeps_pure _

theorem queryFields (worksheet : WorksheetInfo) :
    StoreM.Keeps P (queryFields clock worksheet) := by
  refine (h.kept? _).bind fun answer => ?_
  split
  · exact StoreM.keeps_pure _
  · exact h.freshFields worksheet

/-! ### Batches -/

theorem createColumns (worksheet : WorksheetInfo) (names : List String) (start : Nat) :
    StoreM.Keeps P (createColumns clock worksheet names start) := by
  rw [Client.createColumns]
  split
  · exact StoreM.keeps_throw _
  · split
    · exact StoreM.keeps_pure _
    · exact h.forgetting (StoreM.keeps_forM (fun _ => h.ask _ (.inr ⟨_, rfl⟩)) _)

theorem insertRows (worksheet : WorksheetInfo) (rows : List Row) :
    StoreM.Keeps P (insertRows clock worksheet rows) := by
  rw [Client.insertRows]
  split
  · exact StoreM.keeps_pure _
  · exact h.forgetting (StoreM.keeps_mapM
      (fun _ => (h.ask _ (.inr ⟨_, rfl⟩)).bind fun _ => keeps_decodeRow _ _) _)

theorem updateRows (worksheet : WorksheetInfo) (rows : List Row) :
    StoreM.Keeps P (updateRows clock worksheet rows) := by
  rw [Client.updateRows]
  split
  · exact StoreM.keeps_throw _
  · split
    · exact StoreM.keeps_pure _
    · exact h.forgetting (StoreM.keeps_mapM
        (fun _ => (h.ask _ (.inr ⟨_, rfl⟩)).bind fun _ => keeps_decodeRow _ _) _)

theorem deleteRows (worksheet : WorksheetInfo) (ids : List String) :
    StoreM.Keeps P (deleteRows clock worksheet ids) := by
  rw [Client.deleteRows]
  split
  · exact StoreM.keeps_pure _
  · exact (h.forgetting (StoreM.keeps_forM (fun _ => h.ask _ (.inr ⟨_, rfl⟩)) _)).bind fun _ =>
      StoreM.keeps_pure _

theorem ensureColumns (worksheet : WorksheetInfo) (rows : List Row) :
    StoreM.Keeps P (ensureColumns clock worksheet rows) := by
  refine (h.freshFields worksheet).bind fun cells => ?_
  simp only
  split
  · exact (h.createColumns worksheet _ _).bind fun _ => StoreM.keeps_pure _
  · exact StoreM.keeps_pure _

/-- Calls on worksheets keep what their requests keep. -/
theorem rowSteps (worksheet : WorksheetInfo) : RowSteps P clock worksheet where
  query _ _ := h.queryRows worksheet _
  fields := h.queryFields worksheet
  ensure := h.ensureColumns worksheet
  insert := h.insertRows worksheet
  update := h.updateRows worksheet
  delete := h.deleteRows worksheet

end AsksKeep

end Client

end GridStore
