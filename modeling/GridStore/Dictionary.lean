/-!
# Dictionaries in the order of their keys

A dictionary is a list of entries whose keys increase, so that two dictionaries with the same
entries are the same, and the entries are always met in the order of the keys.

## Main definitions

* `Dictionary`: dictionaries.
* `Dictionary.get?`, `Dictionary.insert`, `Dictionary.ofList`.

## Main results

* `Dictionary.get?_insert`: setting a key changes the value of that key alone.
-/

namespace GridStore

variable {κ α : Type} [Ord κ]

/-- Whether the keys of entries increase. -/
def KeysIncrease (entries : List (κ × α)) : Prop :=
  entries.Pairwise fun a b => compare a.1 b.1 = .lt

/-- A list of entries with increasing keys. -/
structure Dictionary (κ α : Type) [Ord κ] where
  entries : List (κ × α)
  increasing : KeysIncrease entries

namespace Dictionary

instance [DecidableEq κ] [DecidableEq α] : DecidableEq (Dictionary κ α) := fun a b =>
  match decEq a.entries b.entries with
  | isTrue h => isTrue (by cases a; cases b; cases h; rfl)
  | isFalse h => isFalse fun e => h (congrArg entries e)

theorem ext {a b : Dictionary κ α} (h : a.entries = b.entries) : a = b := by
  cases a; cases b; cases h; rfl

/-- The dictionary without entries. -/
def empty : Dictionary κ α := ⟨[], .nil⟩

instance : Inhabited (Dictionary κ α) := ⟨empty⟩

/-- The keys in increasing order. -/
def keys (d : Dictionary κ α) : List κ := d.entries.map Prod.fst

/-- The values in the order of their keys. -/
def values (d : Dictionary κ α) : List α := d.entries.map Prod.snd

/-! ### Values of keys -/

/-- The value of a key in a list of entries with increasing keys. -/
def find? (key : κ) : List (κ × α) → Option α
  | [] => none
  | (k, v) :: rest =>
    match compare key k with
    | .lt => none
    | .eq => some v
    | .gt => find? key rest

/-- The value of a key. -/
def get? (d : Dictionary κ α) (key : κ) : Option α := find? key d.entries

/-- Whether a key has a value. -/
def contains (d : Dictionary κ α) (key : κ) : Bool := (d.get? key).isSome

/-- The entries with the value of a key set. -/
def put (key : κ) (value : α) : List (κ × α) → List (κ × α)
  | [] => [(key, value)]
  | (k, v) :: rest =>
    match compare key k with
    | .lt => (key, value) :: (k, v) :: rest
    | .eq => (key, value) :: rest
    | .gt => (k, v) :: put key value rest

theorem mem_put {key : κ} {value : α} {entries : List (κ × α)} {entry : κ × α}
    (h : entry ∈ put key value entries) : entry = (key, value) ∨ entry ∈ entries := by
  induction entries with
  | nil => simpa [put] using h
  | cons first rest ih =>
    obtain ⟨k, v⟩ := first
    simp only [put] at h
    split at h
    · simpa using h
    · rcases List.mem_cons.1 h with h | h
      · exact .inl h
      · exact .inr (List.mem_cons_of_mem _ h)
    · rcases List.mem_cons.1 h with h | h
      · exact .inr (h ▸ List.mem_cons_self ..)
      · exact (ih h).imp id (List.mem_cons_of_mem _)

variable [Std.TransOrd κ] [Std.LawfulEqOrd κ]

theorem keysIncrease_put {entries : List (κ × α)} (h : KeysIncrease entries) (key : κ)
    (value : α) : KeysIncrease (put key value entries) := by
  induction entries with
  | nil => exact List.pairwise_singleton _ _
  | cons first rest ih =>
    obtain ⟨k, v⟩ := first
    obtain ⟨hk, hr⟩ := List.pairwise_cons.1 h
    simp only [put]
    split
    · rename_i hlt
      refine List.pairwise_cons.2 ⟨fun entry he => ?_, h⟩
      rcases List.mem_cons.1 he with he | he
      · exact he ▸ hlt
      · exact Std.TransCmp.lt_trans hlt (hk entry he)
    · rename_i heq
      have hkey := Std.LawfulEqOrd.eq_of_compare heq
      subst hkey
      exact List.pairwise_cons.2 ⟨hk, hr⟩
    · rename_i hgt
      refine List.pairwise_cons.2 ⟨fun entry he => ?_, ih hr⟩
      rcases mem_put he with he | he
      · exact he ▸ Std.OrientedCmp.gt_iff_lt.1 hgt
      · exact hk entry he

/-- The dictionary with the value of a key set. -/
def insert (d : Dictionary κ α) (key : κ) (value : α) : Dictionary κ α :=
  ⟨put key value d.entries, keysIncrease_put d.increasing key value⟩

/-- The dictionary of a list of entries, in which the last value of a key counts. -/
def ofList (entries : List (κ × α)) : Dictionary κ α :=
  entries.foldl (fun d (key, value) => d.insert key value) empty

/-! ### Laws -/

theorem find?_put (entries : List (κ × α)) (key other : κ) (value : α) :
    find? other (put key value entries) =
      if compare other key = .eq then some value else find? other entries := by
  induction entries with
  | nil =>
    simp only [put, find?]
    split <;> simp_all
  | cons first rest ih =>
    obtain ⟨k, v⟩ := first
    simp only [put]
    cases hk : compare key k with
    | lt =>
      simp only [find?]
      cases ho : compare other key with
      | lt => simp [Std.TransCmp.lt_trans ho hk]
      | eq => simp
      | gt => simp
    | eq =>
      have hkey := Std.LawfulEqOrd.eq_of_compare hk
      subst hkey
      simp only [find?]
      cases ho : compare other key <;> simp
    | gt =>
      simp only [find?]
      cases ho : compare other k with
      | lt =>
        have h : compare other key ≠ .eq := fun he => by
          have := Std.LawfulEqOrd.eq_of_compare he
          subst this
          simp [hk] at ho
        simp [h]
      | eq =>
        have h : compare other key ≠ .eq := fun he => by
          have := Std.LawfulEqOrd.eq_of_compare he
          subst this
          simp [hk] at ho
        simp [h]
      | gt => simpa using ih

theorem get?_insert (d : Dictionary κ α) (key other : κ) (value : α) :
    (d.insert key value).get? other =
      if compare other key = .eq then some value else d.get? other :=
  find?_put d.entries key other value

end Dictionary

end GridStore
