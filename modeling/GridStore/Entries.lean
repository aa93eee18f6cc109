/-!
# Named entries in insertion order

A list of named entries is used as a map that remembers the order in which its names were first
set. Setting a name that is present replaces its value in place.

## Main definitions

* `Entries`: lists of named values.
* `Entries.get?`, `Entries.set`, `Entries.erase`, `Entries.names`.
* `Entries.ofList`: the entries set one after another.

## Main results

* `Entries.get?_set`: setting a name changes the value of that name alone.
* `Entries.names_set`: a name is kept in place or added at the end.
-/

namespace GridStore

/-- A list of named values. -/
abbrev Entries (α : Type) := List (String × α)

namespace Entries

variable {α : Type}

/-- The value of the first entry with a name. -/
def get? : Entries α → String → Option α
  | [], _ => none
  | (key, value) :: rest, name => if key = name then some value else get? rest name

/-- The entries with the value of a name replaced in place, or added at the end. -/
def set : Entries α → String → α → Entries α
  | [], name, value => [(name, value)]
  | (key, old) :: rest, name, value =>
    if key = name then (key, value) :: rest else (key, old) :: set rest name value

/-- The entries without the first one of a name. -/
def erase : Entries α → String → Entries α
  | [], _ => []
  | (key, value) :: rest, name => if key = name then rest else (key, value) :: erase rest name

/-- The names in order. -/
def names (entries : Entries α) : List String := entries.map Prod.fst

/-- The entries of a list, set one after another: a repeated name keeps its first place and takes
its last value. -/
def ofList (entries : List (String × α)) : Entries α :=
  entries.foldl (fun done (name, value) => set done name value) []

/-! ### Laws -/

theorem get?_set (entries : Entries α) (name other : String) (value : α) :
    get? (set entries name value) other =
      if name = other then some value else get? entries other := by
  induction entries with
  | nil => simp [set, get?]
  | cons entry rest ih =>
    obtain ⟨key, old⟩ := entry
    by_cases hk : key = name
    · subst hk
      by_cases ho : key = other <;> simp [set, get?, ho]
    · by_cases ho : key = other
      · subst ho
        simp [set, get?, hk, Ne.symm hk]
      · simp [set, get?, hk, ho, ih]

theorem names_set (entries : Entries α) (name : String) (value : α) :
    names (set entries name value) =
      if name ∈ names entries then names entries else names entries ++ [name] := by
  induction entries with
  | nil => simp [set, names]
  | cons entry rest ih =>
    obtain ⟨key, old⟩ := entry
    simp only [names, List.map_cons, List.mem_cons] at ih ⊢
    by_cases hk : key = name
    · simp [set, hk]
    · have hne : ¬name = key := fun h => hk h.symm
      by_cases hm : name ∈ List.map Prod.fst rest <;> simp [set, hk, ih, hne, hm]

end Entries

end GridStore
