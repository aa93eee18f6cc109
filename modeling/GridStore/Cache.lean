import GridStore.Entries

/-!
# Caches of answers

A cache keeps the answers to requests under keys. An answer that is older than the greatest age is
forgotten when it is asked for. A cache that is switched off keeps nothing.

## Main definitions

* `ResponseCache`: caches.
* `ResponseCache.get`, `ResponseCache.put`, `ResponseCache.clear`.
* `ResponseCache.sheetKey`, `rowsKey`, `fieldsKey`: the keys of requests.
-/

namespace GridStore

/-- Answers under keys, each with the time in milliseconds at which it was put there. Without a
greatest age answers are kept until the cache is cleared. -/
structure ResponseCache (α : Type) where
  enabled : Bool := true
  maxAge : Option Nat := none
  entries : Entries (Nat × α) := []

namespace ResponseCache

variable {α : Type}

/-! ### Keys -/

/-- The key of the description of a sheet. -/
def sheetKey (sheetId : String) : String := "sheet_info_" ++ sheetId

/-- The key of the rows that a query with the given parameters selects. -/
def rowsKey (worksheetId query params : String) : String :=
  worksheetId ++ "_" ++ query ++ "_" ++ params

/-- The key of the header of a worksheet. -/
def fieldsKey (worksheetId : String) : String := "query_fields_" ++ worksheetId

/-! ### Use -/

/-- Whether an answer put at one time is too old at another. -/
def isExpired (cache : ResponseCache α) (stored now : Nat) : Bool :=
  match cache.maxAge with
  | none => false
  | some maxAge => maxAge < now - stored

/-- The answer under a key, and the cache without it if it is too old. -/
def get (cache : ResponseCache α) (now : Nat) (key : String) : Option α × ResponseCache α :=
  if cache.enabled then
    match Entries.get? cache.entries key with
    | none => (none, cache)
    | some (stored, answer) =>
      if cache.isExpired stored now then
        (none, { cache with entries := Entries.erase cache.entries key })
      else
        (some answer, cache)
  else
    (none, cache)

/-- The cache with an answer put under a key. -/
def put (cache : ResponseCache α) (now : Nat) (key : String) (answer : α) : ResponseCache α :=
  if cache.enabled then { cache with entries := Entries.set cache.entries key (now, answer) }
  else cache

/-- The cache without answers. -/
def clear (cache : ResponseCache α) : ResponseCache α := { cache with entries := [] }

/-- The number of answers. -/
def size (cache : ResponseCache α) : Nat := cache.entries.length

end ResponseCache

end GridStore
