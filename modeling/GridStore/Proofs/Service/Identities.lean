import GridStore.Service.Request

/-!
# Identities of worksheets

A new worksheet gets the beginning of a random identifier as its identity. Keys of kept answers are
made of identities, so what a client finds depends on two properties of random identifiers: their
form, and that none is drawn twice.

## Main definitions

* `IsWorksheetId`: the form of an identity.
* `IdSupply.Reliable`: whether the identities drawn so far have that form and differ.

## Main results

* `IsWorksheetId.underscore_not_mem`: an identity has no underscore.
-/

namespace GridStore

/-- The form of an identity: seven hexadecimal digits. -/
def IsWorksheetId (id : String) : Prop :=
  id.toList.length = 7 ∧ ∀ c ∈ id.toList, c ∈ "0123456789abcdef".toList

instance (id : String) : Decidable (IsWorksheetId id) :=
  decidable_of_iff
    (id.toList.length = 7 ∧ id.toList.all "0123456789abcdef".toList.contains = true)
    (by simp [IsWorksheetId])

theorem IsWorksheetId.underscore_not_mem {id : String} (h : IsWorksheetId id) :
    '_' ∉ id.toList := fun hmem => absurd (h.2 '_' hmem) (by decide)

namespace IdSupply

/-- Whether the identities drawn so far have the form of identities, and none was drawn twice. -/
structure Reliable (ids : IdSupply) : Prop where
  form : ∀ n < ids.drawn, IsWorksheetId (ids.stream n)
  distinct : ∀ m < ids.drawn, ∀ n < ids.drawn, ids.stream m = ids.stream n → m = n

theorem stream_afterAccepted (ids : IdSupply) (request : Request) :
    (ids.afterAccepted request).stream = ids.stream := by
  cases request <;> rfl

theorem drawn_le_drawn_afterAccepted (ids : IdSupply) (request : Request) :
    ids.drawn ≤ (ids.afterAccepted request).drawn := by
  cases request with
  | createWorksheet => exact Nat.le_succ _
  | _ => exact Nat.le_refl _

/-- A supply of which two identities are given. -/
def sample : IdSupply where
  stream n := ["3f2a91c", "b07d4e8"].getD n "0000000"

/-- The first identity of the sample has the form of an identity, and differs from no other one as
long as it is the only one drawn. -/
theorem reliable_of_sample {ids : IdSupply} (hfirst : ids.stream 0 = sample.stream 0)
    (hdrawn : ids.drawn ≤ 1) : ids.Reliable where
  form n hn := by
    obtain rfl : n = 0 := by omega
    rw [hfirst]
    decide +kernel
  distinct m hm n hn _ := by omega

end IdSupply

end GridStore
