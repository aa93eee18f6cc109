import GridStore.Proofs.Row.Fields
import GridStore.Update.Basic

/-!
# Fields of updated rows

Operators change the values of the fields that they name and nothing else: an updated row has the
same fields in the same order, and the same metadata.

## Main definitions

* `UpdateOps.names`: the fields that some operator names.

## Main results

* `UpdateOps.names_applyTo`, `UpdateOps.field?_applyTo_of_not_mem`: what operators leave as it is.
* `UpdateOps.field?_upsertRow_of_not_mem`: the fields of an inserted row that no operator names.
-/

namespace GridStore

namespace UpdateOps

variable {α : Type} {change : α → Value → Value}

/-! ### One operator -/

theorem modifyAll_cons (change : α → Value → Value) (operand : String × α)
    (rest : List (String × α)) (row : Row) :
    modifyAll change (operand :: rest) row =
      modifyAll change rest (row.modify operand.1 (change operand.2)) := rfl

theorem names_modifyAll (operands : List (String × α)) (row : Row) :
    (modifyAll change operands row).names = row.names := by
  induction operands generalizing row with
  | nil => rfl
  | cons operand rest ih => rw [modifyAll_cons, ih, Row.names_modify]

theorem id_modifyAll (operands : List (String × α)) (row : Row) :
    (modifyAll change operands row).id = row.id := by
  induction operands generalizing row with
  | nil => rfl
  | cons operand rest ih => rw [modifyAll_cons, ih, Row.id_modify]

theorem field?_modifyAll_of_not_mem {operands : List (String × α)} {name : String}
    (h : name ∉ operands.map Prod.fst) (row : Row) :
    (modifyAll change operands row).field? name = row.field? name := by
  induction operands generalizing row with
  | nil => rfl
  | cons operand rest ih =>
    rw [List.map_cons, List.mem_cons, not_or] at h
    rw [modifyAll_cons, ih h.2, Row.field?_modify, if_neg (Ne.symm h.1)]

/-! ### All operators -/

/-- The fields that some operator names. -/
def names (ops : UpdateOps) : List String :=
  ops.set.map Prod.fst ++ ops.inc.map Prod.fst ++ ops.mul.map Prod.fst ++ ops.min.map Prod.fst ++
    ops.max.map Prod.fst ++ ops.currentDate.map Prod.fst

theorem names_applyTo (ops : UpdateOps) (now : Instant) (row : Row) :
    (ops.applyTo now row).names = row.names := by
  simp only [applyTo, names_modifyAll]

theorem id_applyTo (ops : UpdateOps) (now : Instant) (row : Row) :
    (ops.applyTo now row).id = row.id := by
  simp only [applyTo, id_modifyAll]

/-- Operators leave the fields that none of them names. -/
theorem field?_applyTo_of_not_mem {ops : UpdateOps} {name : String} (h : name ∉ ops.names)
    (now : Instant) (row : Row) : (ops.applyTo now row).field? name = row.field? name := by
  simp only [names, List.mem_append, not_or] at h
  obtain ⟨⟨⟨⟨⟨hset, hinc⟩, hmul⟩, hmin⟩, hmax⟩, hdate⟩ := h
  rw [applyTo, field?_modifyAll_of_not_mem hdate, field?_modifyAll_of_not_mem hmax,
    field?_modifyAll_of_not_mem hmin, field?_modifyAll_of_not_mem hmul,
    field?_modifyAll_of_not_mem hinc, field?_modifyAll_of_not_mem hset]

/-! ### Inserted rows -/

/-- An inserted row has the given fields, apart from those that an operator names. -/
theorem field?_upsertRow_of_not_mem {ops : UpdateOps} {name : String} (h : name ∉ ops.names)
    (fields : List (String × Value)) (now : Instant) :
    (ops.upsertRow fields now).field? name = (Row.empty.setAll fields).field? name := by
  simp only [names, List.mem_append, not_or] at h
  obtain ⟨⟨⟨⟨⟨hset, hinc⟩, hmul⟩, hmin⟩, hmax⟩, hdate⟩ := h
  have hstamps : name ∉ (ops.currentDate.filter Prod.snd).map Prod.fst := fun hmem =>
    hdate ((List.filter_sublist.map Prod.fst).subset hmem)
  simp only [upsertRow, Row.setAll_append]
  rw [Row.field?_setAll_of_not_mem (by rwa [List.map_map]),
    Row.field?_setAll_of_not_mem (by rwa [List.map_map]),
    Row.field?_setAll_of_not_mem (by rwa [List.map_map]),
    Row.field?_setAll_of_not_mem (by rwa [List.map_map]),
    Row.field?_setAll_of_not_mem (by rwa [List.map_map]), Row.field?_setAll_of_not_mem hset]

theorem nodup_names_upsertRow (ops : UpdateOps) (fields : List (String × Value)) (now : Instant) :
    (ops.upsertRow fields now).names.Nodup :=
  @Row.nodup_names_setAll .empty List.nodup_nil _

/-- The names of an inserted row do not depend on the time. -/
theorem names_upsertRow_eq (ops : UpdateOps) (fields : List (String × Value))
    (now later : Instant) :
    (ops.upsertRow fields now).names = (ops.upsertRow fields later).names := by
  refine Row.names_setAll_congr rfl ?_
  simp only [List.map_append, List.map_map]
  rfl

end UpdateOps

namespace Update

/-- An updated row keeps its identity. -/
theorem id_applyTo (u : Update) (now : Instant) (row : Row) : (u.applyTo now row).id = row.id := by
  cases u with
  | replacement document => rfl
  | operators ops => exact ops.id_applyTo now row

end Update

end GridStore
