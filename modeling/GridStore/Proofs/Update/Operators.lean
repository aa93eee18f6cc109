import GridStore.Proofs.Json.Reordering
import GridStore.Proofs.Update.Fields
import GridStore.Update.Reader

/-!
# What operators make of a field

An update document names fields under its operators. Whatever the order in which it does so, each
value of a row becomes what the operators that name its field make of it one after another, in the
fixed order of operators, and nothing else of the row changes.

## Main definitions

* `Update.operand?`: the operand of an operator for a field.
* `UpdateOp.revise`: what an operator makes of a value.
* `Update.revised`: what all operators of a document make of the value of a field.
* `Row.IsRevision`: whether a row has other values and is the same besides.

## Main results

* `Update.changes_of_read`: the changes that a document describes.
* `Update.apply_eq_map_revise`: applied operators revise each value on its own.
* `Update.apply_operators`: what operators do, and that the order of keys does not matter.
-/

namespace GridStore

/-! ### Revised rows -/

namespace Row

/-- The row with the value of each field changed. -/
def revise (f : String → Value → Value) (row : Row) : Row :=
  { row with fields := Entries.revise f row.fields }

/-- Whether a row differs from another one only by its values, each of which is made from the value
of the same field alone. -/
structure IsRevision (f : String → Value → Value) (row changed : Row) : Prop where
  id : changed.id = row.id
  updated : changed.updated = row.updated
  names : changed.names = row.names
  field? (name : String) : changed.field? name = (row.field? name).map (f name)
  fields (h : row.names.Nodup) :
    changed.fields = row.fields.map fun (name, value) => (name, f name value)

theorem isRevision_revise (f : String → Value → Value) (row : Row) :
    row.IsRevision f (row.revise f) where
  id := rfl
  updated := rfl
  names := Entries.names_revise f row.fields
  field? := Entries.get?_revise f row.fields
  fields h := Entries.revise_eq_map h f

theorem revise_revise (f g : String → Value → Value) (row : Row) :
    (row.revise g).revise f = row.revise fun name => f name ∘ g name := by
  rw [revise, revise, revise, Entries.revise_revise]

end Row

/-! ### Bounded numbers -/

namespace Number

/-- A number is above another one if that is below it. -/
theorem compare?_eq_gt_iff {m n : Number} :
    m.compare? n = some .gt ↔ n.compare? m = some .lt := by
  rw [compare?, compare?]
  cases m.place? with
  | none => cases n.place? <;> exact iff_of_false nofun nofun
  | some x =>
    cases n.place? with
    | none => exact iff_of_false nofun nofun
    | some y => simp only [Option.some.injEq, Int.compare_eq_gt, Int.compare_eq_lt]

/-- A number is lowered to a bound exactly if it is above the bound. -/
theorem lowerTo_eq (bound n : Number) :
    lowerTo bound n = if n.compare? bound = some .gt then bound else n := by
  simp only [lowerTo, below, beq_iff_eq, compare?_eq_gt_iff]

/-- A number is raised to a bound exactly if it is below the bound. -/
theorem raiseTo_eq (bound n : Number) :
    raiseTo bound n = if n.compare? bound = some .lt then bound else n := by
  simp only [raiseTo, below, beq_iff_eq]

end Number

/-! ### Changes of fields -/

namespace UpdateOps

theorem revise_id (row : Row) : row.revise (fun _ => id) = row := by
  rw [Row.revise, Entries.revise_id]

theorem modify_eq_revise (row : Row) (name : String) (change : Value → Value) :
    row.modify name change = row.revise fun other => if name = other then change else id := by
  rw [Row.modify]
  cases hfield : row.field? name with
  | some value => rw [Row.revise, ← Entries.set_eq_revise hfield change]; rfl
  | none =>
    -- a row without the field is left alone, and none of its names is that of the field
    refine (revise_id row).symm.trans ?_
    rw [Row.revise, Row.revise, Entries.revise_congr fun other hmem => ?_]
    rw [if_neg]
    rintro rfl
    exact Entries.get?_eq_none_iff.1 hfield hmem

/-- A row with the changes of fields made one after another. -/
def modifyEach (changes : List (String × (Value → Value))) (row : Row) : Row :=
  changes.foldl (fun row (name, change) => row.modify name change) row

theorem modifyAll_eq_modifyEach {α : Type} (change : α → Value → Value)
    (operands : List (String × α)) (row : Row) :
    modifyAll change operands row =
      modifyEach (operands.map fun (name, operand) => (name, change operand)) row := by
  rw [modifyAll, modifyEach, List.foldl_map]

/-- Changes of fields with distinct names change each field on its own. -/
theorem modifyEach_eq_revise {changes : List (String × (Value → Value))}
    (hnodup : (Entries.names changes).Nodup) (row : Row) :
    modifyEach changes row =
      row.revise fun name => (Entries.get? changes name).getD id := by
  induction changes generalizing row with
  | nil => exact (revise_id row).symm
  | cons first rest ih =>
    obtain ⟨hname, hrest⟩ := List.nodup_cons.1 hnodup
    obtain ⟨name, change⟩ := first
    show modifyEach rest (row.modify name change) = _
    rw [ih hrest, modify_eq_revise, Row.revise_revise]
    refine congrArg (row.revise ·) (funext fun other => ?_)
    rw [Entries.get?]
    by_cases heq : name = other
    · subst heq
      rw [if_pos rfl, if_pos rfl, Entries.get?_eq_none_iff.2 hname]
      rfl
    · rw [if_neg heq, if_neg heq]
      rfl

/-- The changes that an operator makes to the fields it names. -/
def changes (ops : UpdateOps) (now : Instant) : UpdateOp → List (String × (Value → Value))
  | .set => ops.set.map fun (name, value) => (name, fun _ => value)
  | .inc => ops.inc.map fun (name, term) => (name, onNumber fun n => n.add term)
  | .mul => ops.mul.map fun (name, factor) => (name, onNumber fun n => n.mul factor)
  | .min => ops.min.map fun (name, bound) => (name, onNumber (Number.lowerTo bound))
  | .max => ops.max.map fun (name, bound) => (name, onNumber (Number.raiseTo bound))
  | .currentDate => ops.currentDate.map fun (name, stamp) =>
      (name, fun value => if stamp then .date now else value)

/-- Operators act in their order, each on all the fields it names. -/
theorem applyTo_eq_foldl (ops : UpdateOps) (now : Instant) (row : Row) :
    ops.applyTo now row =
      UpdateOp.all.foldl (fun row op => modifyEach (ops.changes now op) row) row := by
  simp only [applyTo, modifyAll_eq_modifyEach]
  rfl

/-- What is done to rows by one operator after another is done to each value. -/
theorem foldl_revise (revision : UpdateOp → String → Value → Value) (operators : List UpdateOp)
    (row : Row) :
    operators.foldl (fun row op => row.revise (revision op)) row =
      row.revise fun name value =>
        operators.foldl (fun value op => revision op name value) value := by
  induction operators generalizing row with
  | nil => exact (revise_id row).symm
  | cons op rest ih =>
    rw [List.foldl_cons, ih, Row.revise_revise]
    rfl

end UpdateOps

/-! ### Documents of operators -/

namespace UpdateOp

/-- What an operator makes of a value. Numeric operators change numbers only: a number above the
bound of one operator, or below that of another, becomes the bound. The time is stamped if the
operand is set. -/
def revise (op : UpdateOp) (now : Instant) (operand : Json) (value : Value) : Value :=
  match op, Value.ofJson? operand, value with
  | set, some operand, _ => operand
  | inc, some (.number term), .number n => .number (n.add term)
  | mul, some (.number factor), .number n => .number (n.mul factor)
  | min, some (.number bound), .number n =>
    if n.compare? bound = some .gt then .number bound else .number n
  | max, some (.number bound), .number n =>
    if n.compare? bound = some .lt then .number bound else .number n
  | currentDate, _, value => if operand.isTruthy then .date now else value
  | _, _, value => value

theorem revise_min (now : Instant) (bound : JsonNumber) (value : Value) :
    min.revise now (.number bound) value =
      UpdateOps.onNumber (Number.lowerTo bound.toNumber) value := by
  cases value with
  | number n =>
    rw [UpdateOps.onNumber, Number.lowerTo_eq, apply_ite Value.number]
    rfl
  | _ => rfl

theorem revise_max (now : Instant) (bound : JsonNumber) (value : Value) :
    max.revise now (.number bound) value =
      UpdateOps.onNumber (Number.raiseTo bound.toNumber) value := by
  cases value with
  | number n =>
    rw [UpdateOps.onNumber, Number.raiseTo_eq, apply_ite Value.number]
    rfl
  | _ => rfl

/-- Whether an operator takes an operand: fields are set to scalars, and changed by numbers. -/
def Takes (op : UpdateOp) (operand : Json) : Prop :=
  match op with
  | set => (Value.ofJson? operand).isSome = true
  | currentDate => True
  | _ => ∃ n, Value.ofJson? operand = some (.number n)

theorem takes_congr (op : UpdateOp) {operand other : Json}
    (h : Value.ofJson? operand = Value.ofJson? other) : op.Takes operand ↔ op.Takes other := by
  cases op <;> simp only [Takes, h]

/-- Whether a value names fields with operands of an operator. -/
def Accepts (op : UpdateOp) (value : Json) : Prop :=
  ∃ operands, value = .object operands ∧ ∀ entry ∈ operands, op.Takes entry.2

/-- The changes that a value describes under an operator. -/
def described (op : UpdateOp) (now : Instant) (value : Json) : List (String × (Value → Value)) :=
  match value with
  | .object operands => operands.map fun (name, operand) => (name, op.revise now operand)
  | _ => []

theorem ofKey?_key (op : UpdateOp) : ofKey? op.key = some op := by
  cases op <;> rfl

theorem key_of_ofKey? {key : String} {op : UpdateOp} (h : ofKey? key = some op) :
    op.key = key := by
  have hfound := List.find?_some h
  exact beq_iff_eq.1 hfound

end UpdateOp

namespace Update

variable {key : String} {value : Json} {ops next : UpdateOps}

/-! ### Reading one operator -/

theorem succeeds_scalarFields_iff {fields : Entries Json} :
    Succeeds (scalarFields key fields) ↔ ∀ entry ∈ fields, UpdateOp.set.Takes entry.2 := by
  refine succeeds_mapM_iff.trans (forall₂_congr fun entry _ => ?_)
  dsimp only [UpdateOp.Takes]
  cases Value.ofJson? entry.2 with
  | some v => exact iff_of_true (succeeds_ok _) rfl
  | none => exact iff_of_false (not_succeeds_error _) Bool.false_ne_true

theorem succeeds_numberFields_iff {fields : Entries Json} :
    Succeeds (numberFields key fields) ↔
      ∀ entry ∈ fields, ∃ n, Value.ofJson? entry.2 = some (.number n) := by
  refine succeeds_mapM_iff.trans (forall₂_congr fun entry _ => ?_)
  obtain ⟨name, operand⟩ := entry
  cases operand with
  | number n =>
    have hread : Value.ofJson? (.number n) = some (.number n.toNumber) := rfl
    exact iff_of_true ⟨(name, n.toNumber), rfl⟩ ⟨n.toNumber, hread⟩
  | _ => exact iff_of_false (not_succeeds_error _) (by simp [Value.ofJson?])

/-- The operands of an operator are read if it takes all of them. -/
theorem succeeds_addOperator_iff :
    Succeeds (addOperator ops key value) ↔
      ∀ op, UpdateOp.ofKey? key = some op → op.Accepts value := by
  rw [addOperator]
  cases hop : UpdateOp.ofKey? key with
  | none => exact iff_of_true (succeeds_ok ops) fun op hkey => by cases hkey
  | some op =>
    simp only [Option.some.injEq, forall_eq']
    cases value with
    | object operands =>
      simp only [UpdateOp.Accepts, Json.object.injEq, exists_eq_left']
      cases op with
      | set => exact (succeeds_bind_pure_iff _).trans succeeds_scalarFields_iff
      | currentDate => exact iff_of_true (succeeds_pure _) fun _ _ => trivial
      | _ => exact (succeeds_bind_pure_iff _).trans succeeds_numberFields_iff
    | _ =>
      refine iff_of_false (not_succeeds_error _) ?_
      rintro ⟨_, hobject, _⟩
      cases hobject

/-- Read numbers are changed as the operator changes them by its operands. -/
theorem map_numberFields {fields : Entries Json} {operands : List (String × Number)}
    (h : numberFields key fields = .ok operands) (op : UpdateOp) (now : Instant)
    (change : Number → Number → Number)
    (hrevise : ∀ (n : JsonNumber) (value : Value),
      op.revise now (.number n) value = UpdateOps.onNumber (change n.toNumber) value) :
    operands.map (fun (name, n) => (name, UpdateOps.onNumber (change n))) =
      fields.map fun (name, operand) => (name, op.revise now operand) := by
  refine map_eq_of_mapM (fun entry read hread => ?_) h
  obtain ⟨name, operand⟩ := entry
  cases operand with
  | number n =>
    cases hread
    exact congrArg (name, ·) (funext (hrevise n)).symm
  | _ => cases hread

theorem map_scalarFields {fields : Entries Json} {operands : List (String × Value)}
    (h : scalarFields key fields = .ok operands) (now : Instant) :
    operands.map (fun (name, v) => (name, fun _ : Value => v)) =
      fields.map fun (name, operand) => (name, UpdateOp.set.revise now operand) := by
  refine map_eq_of_mapM (fun entry read hread => ?_) h
  obtain ⟨name, operand⟩ := entry
  dsimp only at hread ⊢
  unfold UpdateOp.revise
  split at hread
  case h_1 v hv =>
    cases hread
    rw [hv]
  case h_2 => cases hread

/-- An operator that is read makes the changes that its operands describe. -/
theorem changes_of_addOperator_key {op : UpdateOp} (h : addOperator ops op.key value = .ok next)
    (now : Instant) : next.changes now op = op.described now value := by
  rw [addOperator, UpdateOp.ofKey?_key] at h
  cases value with
  | object operands =>
    cases op with
    | set =>
      obtain ⟨read, hread, rfl⟩ := exists_of_bind_pure h
      exact map_scalarFields hread now
    | currentDate =>
      cases h
      exact List.map_map ..
    | inc =>
      obtain ⟨read, hread, rfl⟩ := exists_of_bind_pure h
      exact map_numberFields hread .inc now (fun term n => n.add term) fun n value => by
        cases value <;> rfl
    | mul =>
      obtain ⟨read, hread, rfl⟩ := exists_of_bind_pure h
      exact map_numberFields hread .mul now (fun factor n => n.mul factor) fun n value => by
        cases value <;> rfl
    | min =>
      obtain ⟨read, hread, rfl⟩ := exists_of_bind_pure h
      exact map_numberFields hread .min now Number.lowerTo fun n => UpdateOp.revise_min now n
    | max =>
      obtain ⟨read, hread, rfl⟩ := exists_of_bind_pure h
      exact map_numberFields hread .max now Number.raiseTo fun n => UpdateOp.revise_max now n
  | _ => cases h

/-- An operator that is read leaves the changes of the other operators. -/
theorem changes_of_addOperator_of_ne {op : UpdateOp} (hne : op.key ≠ key)
    (h : addOperator ops key value = .ok next) (now : Instant) :
    next.changes now op = ops.changes now op := by
  rw [addOperator] at h
  cases hread : UpdateOp.ofKey? key with
  | none =>
    rw [hread] at h
    cases h
    rfl
  | some read =>
    obtain rfl := UpdateOp.key_of_ofKey? hread
    rw [hread] at h
    cases value with
    | object operands =>
      cases read with
      | currentDate =>
        cases h
        cases op <;> first | rfl | exact absurd rfl hne
      | set | inc | mul | min | max =>
        obtain ⟨_, -, rfl⟩ := exists_of_bind_pure h
        cases op <;> first | rfl | exact absurd rfl hne
    | _ => cases h

/-! ### Reading documents -/

/-- Operators are read if each takes all of its operands. -/
theorem succeeds_foldlM_addOperator_iff {fields : Entries Json} :
    Succeeds (fields.foldlM (fun ops (key, value) => addOperator ops key value) ops) ↔
      ∀ entry ∈ fields, ∀ op, UpdateOp.ofKey? entry.1 = some op → op.Accepts entry.2 := by
  induction fields generalizing ops with
  | nil => exact iff_of_true (succeeds_ok ops) nofun
  | cons entry rest ih =>
    rw [List.foldlM_cons, List.forall_mem_cons, ← succeeds_addOperator_iff]
    exact succeeds_bind_iff fun next => ih

/-- If no key is repeated, each operator makes the changes described under its key. -/
theorem changes_of_foldlM {fields : Entries Json} (hnodup : (Entries.names fields).Nodup)
    (h : fields.foldlM (fun ops (key, value) => addOperator ops key value) ops = .ok next)
    (now : Instant) (op : UpdateOp) :
    next.changes now op =
      ((Entries.get? fields op.key).map (op.described now)).getD (ops.changes now op) := by
  induction fields generalizing ops with
  | nil =>
    cases h
    rfl
  | cons entry rest ih =>
    obtain ⟨key, value⟩ := entry
    obtain ⟨hkey, hrest⟩ := List.nodup_cons.1 hnodup
    rw [List.foldlM_cons] at h
    cases hadd : addOperator ops key value with
    | error e =>
      simp only [hadd] at h
      cases h
    | ok middle =>
      simp only [hadd] at h
      rw [ih hrest h, Entries.get?]
      -- a key that is read does not come again, so its changes are the last ones
      by_cases hop : op.key = key
      · subst hop
        rw [if_pos rfl, Entries.get?_eq_none_iff.2 hkey]
        exact changes_of_addOperator_key hadd now
      · rw [if_neg (Ne.symm hop), changes_of_addOperator_of_ne hop hadd]

/-- The operand of an operator for a field, if the document names the field under the operator. -/
def operand? (document : Json) (op : UpdateOp) (name : String) : Option Json :=
  (document.field? op.key).bind (·.field? name)

/-- What one operator of a document makes of the value of a field. -/
def revisedBy (document : Json) (now : Instant) (op : UpdateOp) (name : String) (value : Value) :
    Value :=
  match operand? document op name with
  | some operand => op.revise now operand value
  | none => value

/-- What the operators of a document make of the value of a field, one after another: they set it,
add to it, multiply it, lower it to a bound, raise it to a bound, and stamp it with the time. -/
def revised (document : Json) (now : Instant) (name : String) (value : Value) : Value :=
  [.set, .inc, .mul, .min, .max, .currentDate].foldl
    (fun value op => revisedBy document now op name value) value

variable {document other : Json}

/-- An object has an operator among its keys if there is a value under the key of one. -/
theorem isDescriptor_iff {fields : Entries Json} :
    isDescriptor (.object fields) = true ↔
      ∃ op : UpdateOp, (Entries.get? fields op.key).isSome = true := by
  rw [isDescriptor, List.any_eq_true]
  constructor
  · rintro ⟨entry, hmem, hentry⟩
    obtain ⟨op, hop⟩ := Option.isSome_iff_exists.1 hentry
    have hname : op.key ∈ Entries.names fields :=
      List.mem_map.2 ⟨entry, hmem, (UpdateOp.key_of_ofKey? hop).symm⟩
    exact ⟨op, Entries.isSome_get?_iff.2 hname⟩
  · rintro ⟨op, hop⟩
    obtain ⟨entry, hmem, hname⟩ := List.mem_map.1 (Entries.isSome_get?_iff.1 hop)
    refine ⟨entry, hmem, ?_⟩
    show (UpdateOp.ofKey? entry.1).isSome = true
    rw [hname, UpdateOp.ofKey?_key]
    rfl

theorem read_object_eq_operators_iff {fields : Entries Json} :
    read (.object fields) = .ok (.operators ops) ↔ isDescriptor (.object fields) = true ∧
      fields.foldlM (fun ops (key, value) => addOperator ops key value) {} = .ok ops := by
  rw [read]
  by_cases hdescriptor : isDescriptor (.object fields) = true
  · rw [if_pos hdescriptor, and_iff_right hdescriptor]
    cases fields.foldlM (fun ops (key, value) => addOperator ops key value) ({} : UpdateOps) with
    | ok ops => simp only [Except.ok.injEq, Update.operators.injEq]
    | error e => simp only [reduceCtorEq]
  · rw [if_neg hdescriptor]
    refine iff_of_false ?_ fun h => hdescriptor h.1
    cases Row.ofJson (.object fields) <;> rintro ⟨⟩

/-- A document is read as operators if it has one, and each of its operators takes its operands. -/
theorem exists_read_operators_iff (hkeys : document.DistinctKeys) :
    (∃ ops, read document = .ok (.operators ops)) ↔
      (∃ op : UpdateOp, (document.field? op.key).isSome = true) ∧
        ∀ (op : UpdateOp) (value : Json), document.field? op.key = some value →
          op.Accepts value := by
  cases hkeys with
  | @object fields hnodup _ =>
    have haccepted : Succeeds (fields.foldlM (fun ops (key, value) => addOperator ops key value)
          ({} : UpdateOps)) ↔
        ∀ (op : UpdateOp) (value : Json), Entries.get? fields op.key = some value →
          op.Accepts value := by
      rw [succeeds_foldlM_addOperator_iff]
      constructor
      · exact fun h op value hvalue =>
          h _ (Entries.mem_of_get? hvalue) op (UpdateOp.ofKey?_key op)
      · rintro h entry hmem op hop
        refine h op entry.2 ?_
        rw [UpdateOp.key_of_ofKey? hop]
        exact Entries.get?_of_mem hnodup hmem
    simp only [read_object_eq_operators_iff, exists_and_left]
    exact and_congr isDescriptor_iff haccepted
  | _ => exact iff_of_false nofun fun ⟨⟨_, hop⟩, _⟩ => Bool.false_ne_true hop

/-- An operator takes the operands of a reordered value as well. -/
theorem accepts_of_reordered {op : UpdateOp} (h : value.Reordered other)
    (hkeys : value.DistinctKeys) (haccepts : op.Accepts value) : op.Accepts other := by
  obtain ⟨operands, rfl, htakes⟩ := haccepts
  obtain ⟨others, rfl⟩ := h.exists_object
  refine ⟨others, rfl, fun entry hmem => ?_⟩
  have hnodup := (Json.distinctKeys_object_iff.1 (h.distinctKeys hkeys)).1
  have hfield := h.field? hkeys entry.1
  simp only [Json.field?] at hfield
  rw [Entries.get?_of_mem hnodup hmem] at hfield
  generalize hfound : Entries.get? operands entry.1 = found at hfield
  cases hfield with
  | @some operand _ hoperand =>
    exact (UpdateOp.takes_congr op hoperand.ofJson?_eq).1 (htakes _ (Entries.mem_of_get? hfound))

/-- Reordered documents have reordered operands. -/
theorem operand?_of_reordered (h : document.Reordered other) (hkeys : document.DistinctKeys)
    (op : UpdateOp) (name : String) :
    Option.Rel Json.Reordered (operand? document op name) (operand? other op name) := by
  have hfield := h.field? hkeys op.key
  rw [operand?, operand?]
  cases hvalue : document.field? op.key <;> cases hother : other.field? op.key <;>
    rw [hvalue, hother] at hfield <;> cases hfield
  case none.none => exact .none
  case some.some hvalues => exact hvalues.field? (hkeys.of_field? hvalue) name

/-- Reordered documents make the same of each value. -/
theorem revised_of_reordered (h : document.Reordered other) (hkeys : document.DistinctKeys)
    (now : Instant) : revised document now = revised other now := by
  have hrevise : ∀ (op : UpdateOp) {operand operand' : Json}, operand.Reordered operand' →
      op.revise now operand = op.revise now operand' := by
    intro op operand operand' h
    funext value
    cases op <;> simp only [UpdateOp.revise, h.ofJson?_eq, h.isTruthy_eq]
  have hrevisedBy : revisedBy document now = revisedBy other now := by
    funext op name value
    have hoperand := operand?_of_reordered h hkeys op name
    rw [revisedBy, revisedBy]
    generalize operand? document op name = operand at hoperand
    generalize operand? other op name = operand' at hoperand
    cases hoperand with
    | none => rfl
    | some h => exact congrFun (hrevise op h) value
  funext name value
  rw [revised, revised, hrevisedBy]

/-! ### Applying documents -/

/-- The changes of read operators are those that the document describes. -/
theorem changes_of_read (hkeys : document.DistinctKeys)
    (hread : read document = .ok (.operators ops)) (now : Instant) (op : UpdateOp) :
    ops.changes now op = ((document.field? op.key).map (op.described now)).getD [] := by
  cases hkeys with
  | object hnodup _ =>
    have hempty : ({} : UpdateOps).changes now op = [] := by
      cases op <;> rfl
    rw [changes_of_foldlM hnodup (read_object_eq_operators_iff.1 hread).2, hempty]
    rfl
  | _ => cases hread

/-- Each operator revises each value on its own. -/
theorem modifyEach_changes (hkeys : document.DistinctKeys)
    (hread : read document = .ok (.operators ops)) (now : Instant) (op : UpdateOp) (row : Row) :
    UpdateOps.modifyEach (ops.changes now op) row = row.revise (revisedBy document now op) := by
  have hdescribed : ∀ value : Json, value.DistinctKeys →
      (Entries.names (op.described now value)).Nodup ∧ ∀ name,
        Entries.get? (op.described now value) name = (value.field? name).map (op.revise now) := by
    intro value hvalue
    cases hvalue with
    | object hnodup _ =>
      refine ⟨?_, Entries.get?_map (op.revise now) _⟩
      rw [Entries.names, UpdateOp.described, List.map_map]
      exact hnodup
    | _ => exact ⟨List.nodup_nil, fun _ => rfl⟩
  have hchanges : (Entries.names (ops.changes now op)).Nodup ∧ ∀ name,
      Entries.get? (ops.changes now op) name = (operand? document op name).map (op.revise now) := by
    rw [changes_of_read hkeys hread]
    simp only [operand?]
    cases hvalue : document.field? op.key with
    | none => exact ⟨List.nodup_nil, fun _ => rfl⟩
    | some value => exact hdescribed value (hkeys.of_field? hvalue)
  rw [UpdateOps.modifyEach_eq_revise hchanges.1]
  refine congrArg (row.revise ·) (funext fun name => funext fun value => ?_)
  rw [hchanges.2, revisedBy]
  cases operand? document op name <;> rfl

/-- Applied operators revise each value of each row on its own. -/
theorem apply_eq_map_revise (hkeys : document.DistinctKeys)
    (hread : read document = .ok (.operators ops)) (now : Instant) (rows : List Row) :
    apply (.operators ops) now rows = rows.map (Row.revise (revised document now)) := by
  refine List.map_congr_left fun row _ => ?_
  show ops.applyTo now row = _
  rw [UpdateOps.applyTo_eq_foldl]
  simp only [modifyEach_changes hkeys hread]
  exact UpdateOps.foldl_revise (revisedBy document now) UpdateOp.all row

/-- A value stays as it is if no operator names its field. -/
theorem revised_of_operand?_eq_none {name : String} (h : ∀ op, operand? document op name = none)
    (now : Instant) : revised document now name = id := by
  have hstays : ∀ (operators : List UpdateOp) (value : Value),
      operators.foldl (fun value op => revisedBy document now op name value) value = value := by
    intro operators
    induction operators with
    | nil => exact fun _ => rfl
    | cons op rest ih =>
      intro value
      rw [List.foldl_cons, revisedBy, h op]
      exact ih value
  exact funext (hstays UpdateOp.all)

/-- A reordered document of operators is read as operators. -/
theorem exists_read_of_reordered (h : document.Reordered other) (hkeys : document.DistinctKeys)
    (hread : read document = .ok (.operators ops)) :
    ∃ ops', read other = .ok (.operators ops') := by
  have hother := h.distinctKeys hkeys
  obtain ⟨⟨op, hop⟩, haccepts⟩ := (exists_read_operators_iff hkeys).1 ⟨ops, hread⟩
  refine (exists_read_operators_iff hother).2 ⟨⟨op, ?_⟩, fun op value hvalue => ?_⟩
  · have hfield := h.field? hkeys op.key
    generalize document.field? op.key = found at hfield hop
    generalize other.field? op.key = found' at hfield
    cases hfield with
    | none => exact hop
    | some _ => rfl
  · have hfield := h.field? hkeys op.key
    rw [hvalue] at hfield
    generalize hfound : document.field? op.key = found at hfield
    cases hfield with
    | some hvalues =>
      exact accepts_of_reordered hvalues (hkeys.of_field? hfound) (haccepts op _ hfound)

/-- A document that adds to a field and sets it to a number, bounds two fields from both sides,
stamps a field with the time, and names a field that rows may lack. -/
def sampleUpdate : Json :=
  .object [("$max", .object [("c", .number (.integer 2)), ("e", .number (.integer 6))]),
    ("$inc", .object [("a", .number (.integer 1))]),
    ("$set", .object [("a", .number (.integer 2)), ("b", .text "x")]),
    ("$min", .object [("c", .number (.integer 4)), ("e", .number (.integer 4))]),
    ("$currentDate", .object [("d", .bool true)]), ("note", .null)]

/-- The sample with its keys in the opposite order. -/
def reversedUpdate : Json :=
  .object [("note", .null), ("$currentDate", .object [("d", .bool true)]),
    ("$min", .object [("c", .number (.integer 4)), ("e", .number (.integer 4))]),
    ("$set", .object [("b", .text "x"), ("a", .number (.integer 2))]),
    ("$inc", .object [("a", .number (.integer 1))]),
    ("$max", .object [("c", .number (.integer 2)), ("e", .number (.integer 6))])]

/-- The operators of the sample. -/
def sampleOps : UpdateOps where
  set := [("a", .number (.ofInt 2)), ("b", .text "x")]
  inc := [("a", .ofInt 1)]
  min := [("c", .ofInt 4), ("e", .ofInt 4)]
  max := [("c", .ofInt 2), ("e", .ofInt 6)]
  currentDate := [("d", true)]

/-- The time at which the sample is applied. -/
def sampleTime : Instant := .startOf ⟨2024, 3, 1, by decide, by decide⟩

/-- A row with fields that the sample names, one with a number above its bounds and one with a
number below one of them, and without another field that it names. -/
def sampleRow : Row where
  id := some "1"
  fields := [("d", .null), ("a", .text "t"), ("c", .number (.ofInt 9)), ("e", .number (.ofInt 3)),
    ("f", .bool true)]

/-- The row with the sample applied. -/
def sampleChanged : Row where
  id := some "1"
  fields := [("d", .date sampleTime), ("a", .number (.ofInt 3)), ("c", .number (.ofInt 4)),
    ("e", .number (.ofInt 6)), ("f", .bool true)]

theorem distinctKeys_sampleUpdate : sampleUpdate.DistinctKeys := by
  simp [sampleUpdate, Json.distinctKeys_object_iff, Json.DistinctKeys.text,
    Json.DistinctKeys.number, Json.DistinctKeys.bool, Json.DistinctKeys.null, Entries.names]

theorem sampleUpdate_reordered : sampleUpdate.Reordered reversedUpdate :=
  .trans (.inField [_, _] [_, _, _] "$set" (.fields (.swap ..)))
    (.fields (List.reverse_perm _).symm)

/-- Operators revise each row on its own and each of its values from that value alone, and keep
everything else of the row. The order of keys in their document does not matter. -/
theorem apply_operators (hkeys : document.DistinctKeys)
    (hread : read document = .ok (.operators ops)) (now : Instant) (rows : List Row) :
    (∃ revise : Row → Row, apply (.operators ops) now rows = rows.map revise ∧
      ∀ row : Row, row.IsRevision (revised document now) (revise row)) ∧
    (∀ name, (∀ op, operand? document op name = none) → revised document now name = id) ∧
    ∀ other, document.Reordered other → ∃ ops', read other = .ok (.operators ops') ∧
      apply (.operators ops') now rows = apply (.operators ops) now rows := by
  refine ⟨⟨Row.revise (revised document now), apply_eq_map_revise hkeys hread now rows,
    Row.isRevision_revise _⟩, fun _ hname => revised_of_operand?_eq_none hname now,
    fun other h => ?_⟩
  obtain ⟨ops', hread'⟩ := exists_read_of_reordered h hkeys hread
  refine ⟨ops', hread', ?_⟩
  rw [apply_eq_map_revise hkeys hread, apply_eq_map_revise (h.distinctKeys hkeys) hread',
    revised_of_reordered h hkeys]

/-- The sample lowers a number to one of its bounds and raises another one, in either order of its
keys. -/
theorem apply_operators_reversed :
    sampleUpdate.DistinctKeys ∧ read sampleUpdate = .ok (.operators sampleOps) ∧
      sampleUpdate.Reordered reversedUpdate ∧
      revised sampleUpdate sampleTime "c" (.number (.ofInt 9)) = .number (.ofInt 4) ∧
      revised sampleUpdate sampleTime "e" (.number (.ofInt 3)) = .number (.ofInt 6) ∧
      ∃ ops, read reversedUpdate = .ok (.operators ops) ∧ ops ≠ sampleOps ∧
        apply (.operators ops) sampleTime [sampleRow] = [sampleChanged] := by
  have hread : read sampleUpdate = .ok (.operators sampleOps) := rfl
  have happlied : apply (.operators sampleOps) sampleTime [sampleRow] = [sampleChanged] := by
    decide +kernel
  obtain ⟨-, -, hreordered⟩ :=
    apply_operators distinctKeys_sampleUpdate hread sampleTime [sampleRow]
  obtain ⟨ops, hread', hsame⟩ := hreordered reversedUpdate sampleUpdate_reordered
  have hops : ops = { sampleOps with
      set := [("b", .text "x"), ("a", .number (.ofInt 2))] } := by
    cases hread'
    rfl
  have hne : ops ≠ sampleOps := by
    rw [hops]
    exact fun heq => absurd (congrArg (fun ops => ops.set.map Prod.fst) heq) (by decide)
  exact ⟨distinctKeys_sampleUpdate, hread, sampleUpdate_reordered, by decide +kernel,
    by decide +kernel, ops, hread', hne, hsame.trans happlied⟩

end Update

end GridStore
