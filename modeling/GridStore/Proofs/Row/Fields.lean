import GridStore.Proofs.Entries
import GridStore.Row.Cells

/-!
# Fields of rows

What the changes of a row make of the names of its fields and of the value of each name.

## Main results

* `Row.names_set`, `Row.field?_set`: a field that is set.
* `Row.field?_setAll_of_mem`, `Row.mem_names_setAll`: fields set one after another.
* `Row.names_modify`, `Row.field?_modify`: a field that is changed in place.
* `Row.field?_remove`: a field that is removed.
* `Row.get?_cells`: the cells that are written for a row.
-/

namespace GridStore

namespace Row

theorem mem_names_iff {row : Row} {name : String} :
    name ∈ row.names ↔ (row.field? name).isSome = true :=
  Entries.isSome_get?_iff.symm

/-- The names under which metadata are found are reserved. -/
theorem lookup_of_not_meta {name : String} (h : isMetaField name = false) (row : Row) :
    row.lookup name = row.field? name := by
  have hid : name ≠ idField := by
    rintro rfl
    exact absurd h (by decide)
  have hupdated : name ≠ updatedField := by
    rintro rfl
    exact absurd h (by decide)
  rw [lookup, if_neg hid, if_neg hupdated]

/-! ### Setting fields -/

theorem names_set (row : Row) (name : String) (value : Value) :
    (row.set name value).names = if name ∈ row.names then row.names else row.names ++ [name] :=
  Entries.names_set ..

theorem field?_set (row : Row) (name other : String) (value : Value) :
    (row.set name value).field? other = if name = other then some value else row.field? other :=
  Entries.get?_set ..

/-! ### Setting fields one after another -/

theorem setAll_cons (row : Row) (name : String) (value : Value) (rest : List (String × Value)) :
    row.setAll ((name, value) :: rest) = (row.set name value).setAll rest := rfl

theorem nodup_names_setAll {row : Row} (h : row.names.Nodup) (fields : List (String × Value)) :
    (row.setAll fields).names.Nodup := by
  induction fields generalizing row with
  | nil => exact h
  | cons field rest ih => exact ih (Entries.nodup_names_set h field.1 field.2)

/-- The names of a row depend only on the names that are set. -/
theorem names_setAll_congr {row other : Row} {fields more : List (String × Value)}
    (hrow : row.names = other.names) (h : fields.map Prod.fst = more.map Prod.fst) :
    (row.setAll fields).names = (other.setAll more).names := by
  induction fields generalizing row other more with
  | nil =>
    cases more with
    | nil => exact hrow
    | cons => cases h
  | cons field rest ih =>
    cases more with
    | nil => cases h
    | cons field' rest' =>
      obtain ⟨hname, hrest⟩ := List.cons.inj h
      rw [setAll_cons, setAll_cons]
      refine ih ?_ hrest
      rw [names_set, names_set, hrow, hname]

theorem setAll_append (row : Row) (fields more : List (String × Value)) :
    row.setAll (fields ++ more) = (row.setAll fields).setAll more := List.foldl_append

theorem field?_setAll_of_not_mem {name : String} {fields : List (String × Value)}
    (h : name ∉ fields.map Prod.fst) (row : Row) :
    (row.setAll fields).field? name = row.field? name := by
  induction fields generalizing row with
  | nil => rfl
  | cons field rest ih =>
    rw [List.map_cons, List.mem_cons, not_or] at h
    rw [setAll_cons, ih h.2, field?_set, if_neg (Ne.symm h.1)]

/-- Among fields with distinct names, the value of each is set. -/
theorem field?_setAll_of_mem {name : String} {value : Value} {fields : List (String × Value)}
    (hnodup : (fields.map Prod.fst).Nodup) (h : (name, value) ∈ fields) (row : Row) :
    (row.setAll fields).field? name = some value := by
  induction fields generalizing row with
  | nil => cases h
  | cons field rest ih =>
    obtain ⟨hfirst, hrest⟩ := List.nodup_cons.1 hnodup
    rw [setAll_cons]
    rcases List.mem_cons.1 h with rfl | h
    · rw [field?_setAll_of_not_mem hfirst, field?_set, if_pos rfl]
    · exact ih hrest h _

theorem mem_names_setAll {row : Row} {fields : List (String × Value)} {name : String}
    (h : name ∈ (row.setAll fields).names) : name ∈ row.names ∨ name ∈ fields.map Prod.fst := by
  induction fields generalizing row with
  | nil => exact .inl h
  | cons field rest ih =>
    rw [setAll_cons] at h
    rw [List.map_cons, List.mem_cons]
    rcases ih h with hset | hrest
    · rw [names_set] at hset
      split at hset
      · exact .inl hset
      · rcases List.mem_append.1 hset with hold | hnew
        · exact .inl hold
        · exact .inr (.inl (List.mem_singleton.1 hnew))
    · exact .inr (.inr hrest)

/-! ### Changing fields -/

theorem field?_modify (row : Row) (name other : String) (change : Value → Value) :
    (row.modify name change).field? other =
      if name = other then (row.field? other).map change else row.field? other := by
  rw [modify]
  by_cases hname : name = other
  · subst hname
    rw [if_pos rfl]
    cases hfield : row.field? name with
    | none => exact hfield
    | some value => rw [field?_set, if_pos rfl, Option.map_some]
  · rw [if_neg hname]
    cases row.field? name with
    | none => rfl
    | some value => rw [field?_set, if_neg hname]

theorem names_modify (row : Row) (name : String) (change : Value → Value) :
    (row.modify name change).names = row.names := by
  rw [modify]
  cases hfield : row.field? name with
  | none => rfl
  | some value =>
    have hname : name ∈ row.names := Entries.mem_names_of_get? hfield
    rw [names_set, if_pos hname]

theorem id_modify (row : Row) (name : String) (change : Value → Value) :
    (row.modify name change).id = row.id := by
  rw [modify]
  cases row.field? name <;> rfl

/-! ### Removing fields -/

/-- If names are distinct, a field that is removed has no value, and the others keep theirs. -/
theorem field?_remove {row : Row} (h : row.names.Nodup) (name other : String) :
    (row.remove name).field? other = if name = other then none else row.field? other :=
  Entries.get?_erase h name other

theorem names_remove_sublist (row : Row) (name : String) :
    (row.remove name).names.Sublist row.names :=
  (Entries.erase_sublist row.fields name).map Prod.fst

/-! ### Cells -/

/-- The cells that are written for a row with distinct names are the texts of its fields. -/
theorem get?_cells {row : Row} (h : row.names.Nodup) (name : String) :
    (Dictionary.ofList row.cells).get? name = (row.field? name).map Value.cellText := by
  have hnames : (Entries.names row.cells).Nodup := by
    rw [Entries.names, cells, List.map_map]
    exact h
  rw [Dictionary.get?_ofList hnames, cells, Entries.get?_map, field?]

end Row

end GridStore
