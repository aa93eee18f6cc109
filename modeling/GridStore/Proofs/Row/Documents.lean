import GridStore.Proofs.Entries
import GridStore.Proofs.Number.Rounding
import GridStore.Proofs.Results
import GridStore.Proofs.Time.Stored
import GridStore.Row.Basic

/-!
# Documents of rows read back

A row is written as a document with the metadata first, and is read again by the names of its
fields. Whole numbers of fewer than 54 binary digits are written as integers, which have no negative
zero, numbers that are not finite as `null`, and instants as texts in milliseconds, which are read
as texts everywhere but in the metadata.

## Main definitions

* `Value.reread`: what a value is when it has been written to a document and read again.

## Main results

* `Number.ofInt_of_toInt?`: the integer equal to a number is read as this number.
* `Value.ofJson?_toJson`: the value of a field that is read again.
* `Row.ofJson_toJson`: the row that is read again.
-/

namespace GridStore

/-! ### Numbers -/

namespace Number

/-- A number, with the positive zero for the negative one. -/
def unsignedZero (n : Number) : Number := if n = zero true then zero false else n

theorem unsignedZero_finite (negative : Bool) {units : Nat} (hr : Representable units) :
    (finite negative units hr).unsignedZero = finite (negative && units != 0) units hr := by
  by_cases hzero : units = 0
  · subst hzero
    cases negative <;> rfl
  · have hne : finite negative units hr ≠ zero true := fun heq => hzero (Number.finite.inj heq).2
    rw [unsignedZero, if_neg hne, bne_iff_ne.2 hzero, Bool.and_true]

/-- A representable magnitude is rounded to itself. -/
theorem ofQuotient_of_representable (negative : Bool) {units : Nat} (hr : Representable units) :
    ofQuotient negative units 1 = finite negative units hr := by
  have hround := roundUnits_of_representable hr
  rw [ofQuotient, dif_pos (hround.symm ▸ hr.2)]
  simp only [hround]

/-- The integer equal to a number is read as this number, but for the sign of zero. -/
theorem ofInt_of_toInt? {n : Number} {i : Int} (h : n.toInt? = some i) :
    ofInt i = n.unsignedZero := by
  cases n with
  | nan => cases h
  | infinite => cases h
  | finite negative units hr =>
    rw [toInt?] at h
    split at h
    case isFalse => cases h
    case isTrue hwhole =>
      cases h
      have hunits : units / unitsPerOne * unitsPerOne = units :=
        Nat.div_mul_cancel (Nat.dvd_of_mod_eq_zero hwhole.1)
      have hmagnitude : (signed negative (units / unitsPerOne)).natAbs * unitsPerOne = units := by
        cases negative with
        | false => exact hunits
        | true => rw [signed, if_pos rfl, Int.natAbs_neg, Int.natAbs_natCast, hunits]
      have hsign : decide (signed negative (units / unitsPerOne) < 0) =
          (negative && units != 0) := by
        cases negative with
        | false => exact decide_eq_false (Int.not_lt.2 (Int.natCast_nonneg _))
        | true =>
          rw [signed, if_pos rfl, Bool.true_and]
          by_cases hzero : units = 0
          · rw [hzero, Nat.zero_div]
            rfl
          · have hne : units / unitsPerOne ≠ 0 := fun hquotient => hzero (by
              rw [← hunits, hquotient, Nat.zero_mul])
            rw [bne_iff_ne.2 hzero]
            exact decide_eq_true
              (Int.neg_neg_of_pos (Int.natCast_pos.2 (Nat.pos_of_ne_zero hne)))
      rw [ofInt, hmagnitude, hsign, ofQuotient_of_representable _ hr, unsignedZero_finite]

theorem isFinite_of_toInt? {n : Number} {i : Int} (h : n.toInt? = some i) :
    n.isFinite = true := by
  cases n with
  | finite => rfl
  | _ => cases h

theorem unitsPerOne_pos : 0 < unitsPerOne := by
  unfold unitsPerOne
  generalize 1074 = n
  exact Nat.two_pow_pos n

/-- A number that is no integer is not zero. -/
theorem unsignedZero_of_toInt?_eq_none {n : Number} (h : n.toInt? = none) :
    n.unsignedZero = n := by
  refine if_neg fun hzero => ?_
  have hwhole : 0 % unitsPerOne = 0 ∧ 0 < 2 ^ (53 : Nat) * unitsPerOne :=
    ⟨Nat.zero_mod _, Nat.mul_pos (Nat.two_pow_pos 53) unitsPerOne_pos⟩
  rw [hzero] at h
  simp only [toInt?, zero, if_pos hwhole] at h
  cases h

end Number

/-! ### Values -/

namespace Value

/-- What a value is when it has been written to a document and read again. -/
def reread : Value → Value
  | number n => if n.isFinite then number n.unsignedZero else null
  | date t => text t.cellText
  | value => value

theorem ofJson?_toJson (value : Value) : ofJson? value.toJson = some value.reread := by
  cases value with
  | number n =>
    rw [toJson, Json.ofNumber, reread]
    cases hint : n.toInt? with
    | some i =>
      simp only
      rw [ofJson?, JsonNumber.toNumber, Number.ofInt_of_toInt? hint,
        if_pos (Number.isFinite_of_toInt? hint)]
    | none =>
      simp only
      split
      · rw [ofJson?, JsonNumber.toNumber, Number.unsignedZero_of_toInt?_eq_none hint]
      · rfl
  | _ => rfl

end Value

/-! ### Rows -/

namespace Row

variable {row : Row}

theorem ne_of_not_meta {name reserved : String} (h : isMetaField name = false)
    (hreserved : isMetaField reserved = true) : name ≠ reserved := by
  rintro rfl
  exact Bool.false_ne_true (h.symm.trans hreserved)

/-- A field of a document is set to what is read again. -/
theorem setJson_toJson {name : String} (h : isMetaField name = false) (row : Row) (value : Value) :
    row.setJson name value.toJson = .ok (row.set name value.reread) := by
  rw [setJson, if_neg (ne_of_not_meta h (by decide)), if_neg (ne_of_not_meta h (by decide)),
    if_neg (ne_true_of_eq_false h), Value.ofJson?_toJson]
  rfl

/-- New fields of a document are set one after another, at the end. -/
theorem foldlM_setJson {fields : Entries Value}
    (hmeta : ∀ name ∈ Entries.names fields, isMetaField name = false) (row : Row)
    (hnodup : (Entries.names (row.fields ++ fields)).Nodup) :
    (fields.map fun (name, value) => (name, value.toJson)).foldlM
        (fun row (key, value) => row.setJson key value) row =
      .ok { row with
        fields := row.fields ++ fields.map fun (name, value) => (name, value.reread) } := by
  induction fields generalizing row with
  | nil =>
    rw [List.map_nil, List.map_nil, List.append_nil]
    rfl
  | cons field rest ih =>
    obtain ⟨name, value⟩ := field
    obtain ⟨hname, hmeta⟩ := List.forall_mem_cons.1 hmeta
    have hnew : name ∉ Entries.names row.fields := fun hold => by
      rw [Entries.names, List.map_append, List.map_cons] at hnodup
      exact (List.nodup_append.1 hnodup).2.2 _ hold _ (List.mem_cons_self ..) rfl
    have hset : row.set name value.reread =
        { row with fields := row.fields ++ [(name, value.reread)] } := by
      rw [set, Entries.set_of_not_mem hnew]
    have hrest : (Entries.names ((row.fields ++ [(name, value.reread)]) ++ rest)).Nodup := by
      simpa [Entries.names] using hnodup
    rw [List.map_cons, foldlM_cons_ok ((setJson_toJson hname row value).trans (congrArg _ hset)),
      ih hmeta _ hrest]
    simp only [List.map_cons, List.append_assoc, List.cons_append, List.nil_append]

/-- The document of a row has the metadata, and then the fields. -/
theorem toJson_eq (hnodup : row.names.Nodup)
    (hmeta : ∀ name ∈ row.names, isMetaField name = false) :
    row.toJson = .object ((row.id.map fun id => (idField, Json.text id)).toList ++
      (row.updated.map fun t => (updatedField, Json.text t.cellText)).toList ++
      row.fields.map fun (name, value) => (name, value.toJson)) := by
  rw [toJson, Entries.ofList_of_nodup]
  have hfields : Entries.names (row.fields.map fun (name, value) => (name, value.toJson)) =
      row.names := by
    rw [names, Entries.names, Entries.names, List.map_map]
    rfl
  have hid : idField ∉ row.names := fun h => ne_of_not_meta (hmeta _ h) (by decide) rfl
  have hupdated : updatedField ∉ row.names := fun h => ne_of_not_meta (hmeta _ h) (by decide) rfl
  have hne : idField ≠ updatedField := by decide
  rw [Entries.names] at hfields
  rw [Entries.names, List.map_append, List.map_append, hfields]
  cases row.id <;> cases row.updated <;> simp [hnodup, hid, hupdated, hne]

/-- The last change is read again from its text. -/
theorem exists_updatedOfJson {t : Instant} (h : t.HasPlainYear) :
    ∃ t', updatedOfJson (.text t.cellText) = .ok (some t') ∧
      (t' = t.inMilliseconds ↔ t.Storable) := by
  obtain ⟨t', hread⟩ := Option.isSome_iff_exists.1 (Rfc3339.isSome_read?_cellText h)
  refine ⟨t', ?_, ?_⟩
  · rw [updatedOfJson, hread]
  · rw [← Rfc3339.read?_cellText_iff h, hread, Option.some.injEq]

theorem setJson_updatedField {value : Json} {updated : Option Instant}
    (h : updatedOfJson value = .ok updated) (row : Row) :
    row.setJson updatedField value = .ok { row with updated } := by
  rw [setJson, if_neg (by decide), if_pos rfl, h]
  rfl

/-- The metadata are read again. -/
theorem exists_foldlM_metadata (row : Row) (hyear : ∀ t ∈ row.updated, t.HasPlainYear) :
    ∃ updated, ((row.id.map fun id => (idField, Json.text id)).toList ++
        (row.updated.map fun t => (updatedField, Json.text t.cellText)).toList).foldlM
          (fun (row : Row) (key, value) => row.setJson key value) empty =
        .ok ⟨row.id, updated, []⟩ ∧
      updated.isSome = row.updated.isSome ∧
      (updated = row.updated.map Instant.inMilliseconds ↔ ∀ t ∈ row.updated, t.Storable) := by
  have hid : (row.id.map fun id => (idField, Json.text id)).toList.foldlM
      (fun (row : Row) (key, value) => row.setJson key value) empty =
        .ok ⟨row.id, none, []⟩ := by
    cases row.id <;> rfl
  rw [foldlM_append_ok hid]
  cases hupdated : row.updated with
  | none => exact ⟨none, rfl, rfl, iff_of_true rfl nofun⟩
  | some t =>
    obtain ⟨t', hread, hexact⟩ := exists_updatedOfJson (hyear t hupdated)
    have hset : (⟨row.id, none, []⟩ : Row).setJson updatedField (.text t.cellText) =
        .ok ⟨row.id, some t', []⟩ := setJson_updatedField hread _
    refine ⟨some t', ?_, rfl, ?_⟩
    · exact foldlM_cons_ok hset
    · rw [Option.map_some, Option.some.injEq, hexact]
      exact ⟨fun h _ heq => Option.some.inj heq ▸ h, fun h => h t rfl⟩

/-- A row is read again from its document, if its fields have distinct names that are not reserved
and its last change was in a year of four digits: with its identity, and with what its values are
when they are read again. The last change is the one in milliseconds exactly if its text names it,
and else, in a leap second within a minute, another one. -/
theorem ofJson_toJson (hnodup : row.names.Nodup)
    (hmeta : ∀ name ∈ row.names, isMetaField name = false)
    (hyear : ∀ t ∈ row.updated, t.HasPlainYear) :
    ∃ updated, ofJson row.toJson =
        .ok ⟨row.id, updated, row.fields.map fun (name, value) => (name, value.reread)⟩ ∧
      updated.isSome = row.updated.isSome ∧
      (updated = row.updated.map Instant.inMilliseconds ↔ ∀ t ∈ row.updated, t.Storable) := by
  obtain ⟨updated, hmetadata, hsome, hexact⟩ := exists_foldlM_metadata row hyear
  refine ⟨updated, ?_, hsome, hexact⟩
  rw [toJson_eq hnodup hmeta, ofJson, foldlM_append_ok hmetadata]
  exact foldlM_setJson hmeta ⟨row.id, updated, []⟩ hnodup

/-- A row with an identity, a last change in a leap second, and fields of all kinds. -/
def leapRow : Row where
  id := some "7"
  updated := some ⟨⟨2016, 12, 31, by decide, by decide⟩, 86399, 1987654321, by decide, by decide⟩
  fields := [("a", .number (.zero true)), ("b", .number .nan), ("c", .number (.ofInt 5)),
    ("d", .date (.startOf ⟨2024, 2, 29, by decide, by decide⟩)), ("e", .text "1"),
    ("f", .bool true)]

/-- A row is read again with its last change in milliseconds, without the sign of a zero, without
not-a-number and with the text of a date. -/
theorem ofJson_toJson_leap :
    (leapRow.names.Nodup ∧ (∀ name ∈ leapRow.names, isMetaField name = false) ∧
      ∀ t ∈ leapRow.updated, t.HasPlainYear) ∧
    ofJson leapRow.toJson = .ok
      { id := some "7"
        updated := some
          ⟨⟨2016, 12, 31, by decide, by decide⟩, 86399, 1987000000, by decide, by decide⟩
        fields := [("a", .number (.zero false)), ("b", .null), ("c", .number (.ofInt 5)),
          ("d", .text "2024-02-29T00:00:00.000Z"), ("e", .text "1"), ("f", .bool true)] } := by
  have hnodup : leapRow.names.Nodup := by decide
  have hmeta : ∀ name ∈ leapRow.names, isMetaField name = false := by decide
  have hyear : ∀ t ∈ leapRow.updated, t.HasPlainYear := by
    rintro _ ⟨⟩
    exact ⟨by decide, by decide⟩
  have hstorable : ∀ t ∈ leapRow.updated, t.Storable := by
    rintro _ ⟨⟩
    exact ⟨by decide, fun _ => by decide⟩
  have hfields : (leapRow.fields.map fun (name, value) => (name, value.reread)) =
      [("a", .number (.zero false)), ("b", .null), ("c", .number (.ofInt 5)),
        ("d", .text "2024-02-29T00:00:00.000Z"), ("e", .text "1"), ("f", .bool true)] := by
    decide +kernel
  obtain ⟨updated, hread, -, hexact⟩ := ofJson_toJson hnodup hmeta hyear
  rw [hfields, hexact.2 hstorable] at hread
  exact ⟨⟨hnodup, hmeta, hyear⟩, hread⟩

end Row

end GridStore
