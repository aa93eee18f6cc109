import GridStore.Dictionary

/-!
# Keys and entries of dictionaries

## Main results

* `Dictionary.mem_keys_of_get?`: what has a value is a key.
* `Dictionary.mem_keys_ofList`: the keys of a dictionary made of entries.
* `Dictionary.get?_of_mem`: every entry is found under its key.
* `Dictionary.mem_values_insert_of_mem`: setting a new key leaves the values.
* `Dictionary.entries_insert_of_lt`: a key after all others is set at the end.
* `Dictionary.ofList_entries`: a dictionary is made of its entries.
-/

namespace GridStore

namespace Dictionary

variable {κ α : Type} [Ord κ]

theorem mem_put_self (key : κ) (value : α) (entries : List (κ × α)) :
    (key, value) ∈ put key value entries := by
  induction entries with
  | nil => exact List.mem_singleton_self _
  | cons first rest ih =>
    rw [put]
    split
    · exact List.mem_cons_self ..
    · exact List.mem_cons_self ..
    · exact List.mem_cons_of_mem _ ih

variable [Std.LawfulEqOrd κ]

theorem mem_put_of_ne {key : κ} {value : α} {entries : List (κ × α)} {entry : κ × α}
    (h : entry ∈ entries) (hne : entry.1 ≠ key) : entry ∈ put key value entries := by
  induction entries with
  | nil => cases h
  | cons first rest ih =>
    rw [put]
    split
    · exact List.mem_cons_of_mem _ h
    · rename_i heq
      rcases List.mem_cons.1 h with rfl | hrest
      · exact absurd (Std.LawfulEqOrd.eq_of_compare heq).symm hne
      · exact List.mem_cons_of_mem _ hrest
    · rcases List.mem_cons.1 h with rfl | hrest
      · exact List.mem_cons_self ..
      · exact List.mem_cons_of_mem _ (ih hrest)

theorem mem_of_find? {key : κ} {value : α} {entries : List (κ × α)}
    (h : find? key entries = some value) : (key, value) ∈ entries := by
  induction entries with
  | nil => cases h
  | cons first rest ih =>
    obtain ⟨k, v⟩ := first
    rw [find?] at h
    split at h
    · cases h
    case h_2 heq =>
      cases h
      rw [Std.LawfulEqOrd.eq_of_compare heq]
      exact List.mem_cons_self ..
    · exact List.mem_cons_of_mem _ (ih h)

/-- What has a value is a key. -/
theorem mem_keys_of_get? {d : Dictionary κ α} {key : κ} {value : α} (h : d.get? key = some value) :
    key ∈ d.keys := List.mem_map_of_mem (mem_of_find? h)

variable [Std.TransOrd κ]

theorem mem_keys_insert {d : Dictionary κ α} {key other : κ} {value : α}
    (h : other ∈ (d.insert key value).keys) : other = key ∨ other ∈ d.keys := by
  obtain ⟨entry, hentry, rfl⟩ := List.mem_map.1 h
  exact (mem_put hentry).imp (congrArg Prod.fst) (List.mem_map_of_mem ·)

/-- The keys of a dictionary made of entries are keys of the entries. -/
theorem mem_keys_ofList {entries : List (κ × α)} {key : κ} (h : key ∈ (ofList entries).keys) :
    key ∈ entries.map Prod.fst := by
  have hfold : ∀ (entries : List (κ × α)) (d : Dictionary κ α),
      key ∈ (entries.foldl (fun d entry => d.insert entry.1 entry.2) d).keys →
      key ∈ entries.map Prod.fst ∨ key ∈ d.keys := by
    intro entries
    induction entries with
    | nil => exact fun d hd => .inr hd
    | cons entry rest ih =>
      intro d hd
      rcases ih _ hd with hrest | hinsert
      · exact .inl (List.mem_cons_of_mem _ hrest)
      · rcases mem_keys_insert hinsert with rfl | hold
        · exact .inl (List.mem_cons_self ..)
        · exact .inr hold
  rcases hfold entries empty h with hmem | hempty
  · exact hmem
  · cases hempty

/-! ### Values -/

theorem get?_insert_self (d : Dictionary κ α) (key : κ) (value : α) :
    (d.insert key value).get? key = some value := by
  rw [get?_insert, if_pos Std.ReflCmp.compare_self]

theorem get?_insert_of_ne (d : Dictionary κ α) {key other : κ} (h : other ≠ key) (value : α) :
    (d.insert key value).get? other = d.get? other := by
  rw [get?_insert, if_neg fun heq => h (Std.LawfulEqOrd.eq_of_compare heq)]

/-- Every entry is found under its key, since the keys increase. -/
theorem get?_of_mem {d : Dictionary κ α} {entry : κ × α} (h : entry ∈ d.entries) :
    d.get? entry.1 = some entry.2 := by
  have hfind : ∀ entries : List (κ × α), KeysIncrease entries → entry ∈ entries →
      find? entry.1 entries = some entry.2 := by
    intro entries
    induction entries with
    | nil => exact fun _ hmem => nomatch hmem
    | cons first rest ih =>
      intro hsorted hmem
      obtain ⟨hfirst, hrest⟩ := List.pairwise_cons.1 hsorted
      rw [find?]
      rcases List.mem_cons.1 hmem with rfl | hmem
      · have hself : compare entry.1 entry.1 = .eq := Std.ReflCmp.compare_self
        rw [hself]
      · rw [Std.OrientedCmp.gt_iff_lt.2 (hfirst entry hmem)]
        exact ih hrest hmem
  exact hfind d.entries d.increasing h

theorem mem_values_insert_self (d : Dictionary κ α) (key : κ) (value : α) :
    value ∈ (d.insert key value).values :=
  List.mem_map.2 ⟨(key, value), mem_put_self key value d.entries, rfl⟩

/-- The values stay when a new key is set. -/
theorem mem_values_insert_of_mem {d : Dictionary κ α} {key : κ} {value other : α}
    (hkey : d.get? key = none) (h : other ∈ d.values) : other ∈ (d.insert key value).values := by
  obtain ⟨entry, hentry, rfl⟩ := List.mem_map.1 h
  have hne : entry.1 ≠ key := by
    rintro rfl
    rw [get?_of_mem hentry] at hkey
    cases hkey
  exact List.mem_map_of_mem (mem_put_of_ne hentry hne)

/-- Every key has a value. -/
theorem isSome_get?_of_mem_keys {d : Dictionary κ α} {key : κ} (h : key ∈ d.keys) :
    (d.get? key).isSome := by
  obtain ⟨entry, hentry, rfl⟩ := List.mem_map.1 h
  rw [get?_of_mem hentry]
  rfl

/-! ### Keys after all others -/

omit [Std.LawfulEqOrd κ] in
theorem put_of_lt {key : κ} (value : α) {entries : List (κ × α)}
    (h : ∀ entry ∈ entries, compare entry.1 key = .lt) :
    put key value entries = entries ++ [(key, value)] := by
  induction entries with
  | nil => rfl
  | cons first rest ih =>
    obtain ⟨hfirst, hrest⟩ := List.forall_mem_cons.1 h
    rw [put, Std.OrientedCmp.gt_iff_lt.2 hfirst, List.cons_append, ih hrest]

/-- A key after all others is set at the end. -/
theorem entries_insert_of_lt {d : Dictionary κ α} {key : κ} (value : α)
    (h : ∀ entry ∈ d.entries, compare entry.1 key = .lt) :
    (d.insert key value).entries = d.entries ++ [(key, value)] :=
  put_of_lt value h

/-- The dictionary made of the entries of a dictionary is that dictionary. -/
theorem ofList_entries (d : Dictionary κ α) : ofList d.entries = d := by
  have hfold : ∀ (rest : List (κ × α)) (done : Dictionary κ α),
      KeysIncrease (done.entries ++ rest) →
      (rest.foldl (fun d entry => d.insert entry.1 entry.2) done).entries =
        done.entries ++ rest := by
    intro rest
    induction rest with
    | nil => exact fun done _ => (List.append_nil _).symm
    | cons entry rest ih =>
      intro done hincreasing
      have hlast : (done.insert entry.1 entry.2).entries = done.entries ++ [entry] :=
        entries_insert_of_lt entry.2 fun other hother =>
          (List.pairwise_append.1 hincreasing).2.2 other hother entry (List.mem_cons_self ..)
      have hsplit : (done.insert entry.1 entry.2).entries ++ rest =
          done.entries ++ entry :: rest := by
        rw [hlast, List.append_assoc, List.singleton_append]
      rw [List.foldl_cons, ih _ (hsplit ▸ hincreasing), hsplit]
  exact ext (hfold d.entries empty d.increasing)

end Dictionary

end GridStore
