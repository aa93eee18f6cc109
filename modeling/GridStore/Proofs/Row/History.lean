import GridStore.Proofs.Results
import GridStore.Proofs.Row.Fields

/-!
# Rows as maps in insertion order

A row is changed field by field. Whatever the changes, each of its names stands for the value that
was last written there, and the names stand in the order in which they were first set. A name that
is removed and set again starts anew, at the end.

## Main definitions

* `RowChange`: the changes of a row.
* `RowChange.LastWritten`: the value that was last written for a name since its last removal.
* `RowChange.FirstSet`: when a name was first set since its last removal.
* `Row.after`: a row after a history of changes.
* `Row.Records`: what a row has to do with the history of its changes.

## Main results

* `Row.Records.run`, `Row.Records.after`: a row goes on to record its history.
* `Row.Records.fields_unique`: rows that record one history have the same fields.
* `Row.records_after_empty`: rows built from the empty one, and rows of answers, record their
  histories.
-/

namespace GridStore

/-- A change of a row. What is written to a field in place may depend on the value that it had. -/
inductive RowChange where
  | set (name : String) (value : Value)
  | remove (name : String)
  | modify (name : String) (change : Value → Value)
  | withId (id : String)
  | withMetaOf (source : Row)

namespace RowChange

/-- The row after a change. -/
def run (row : Row) : RowChange → Row
  | set name value => row.set name value
  | remove name => row.remove name
  | modify name change => row.modify name change
  | withId id => row.withId id
  | withMetaOf source => row.withMetaOf source

/-- The changes by which a row gets the typed values of cells. -/
def ofCells (cells : Cells) : List RowChange :=
  cells.map fun (name, text) => .set name (Cell.value text)

/-! ### Histories -/

/-- Whether a change neither writes nor removes the field with a name. -/
def Spares (name : String) : RowChange → Prop
  | set other _ => other ≠ name
  | remove other => other ≠ name
  | modify other _ => other ≠ name
  | withId _ => True
  | withMetaOf _ => True

/-- Whether a value is the last one written for a name since the name was last removed: the last
change that does not spare the name set it to this value, or made this value in place from the one
that was last written before. -/
inductive LastWritten (name : String) : List RowChange → Value → Prop
  | set (earlier : List RowChange) (value : Value) {later : List RowChange}
      (hlater : ∀ change ∈ later, change.Spares name) :
      LastWritten name (earlier ++ .set name value :: later) value
  | modify {earlier : List RowChange} {old : Value} (hold : LastWritten name earlier old)
      (change : Value → Value) {later : List RowChange}
      (hlater : ∀ change ∈ later, change.Spares name) :
      LastWritten name (earlier ++ .modify name change :: later) (change old)

/-- Whether a name was removed each time after it was set. -/
def Unset (name : String) (history : List RowChange) : Prop :=
  ∀ earlier value later, history = earlier ++ .set name value :: later → .remove name ∈ later

/-- Whether a name was first set, since it was last removed, after a number of changes. -/
def FirstSet (name : String) (history : List RowChange) (time : Nat) : Prop :=
  ∃ earlier value later, history = earlier ++ .set name value :: later ∧ earlier.length = time ∧
    Unset name earlier ∧ .remove name ∉ later

/-- Whether a name was first set before another one, each since it was last removed. -/
def SetBefore (history : List RowChange) (name other : String) : Prop :=
  ∃ time later, FirstSet name history time ∧ FirstSet other history later ∧ time < later

variable {name other : String} {history : List RowChange} {last : RowChange} {value : Value}
  {time : Nat}

/-- A change in a history with one more change is the last one, or stands in the history. -/
theorem cases_concat {earlier later : List RowChange} {change : RowChange}
    (h : history ++ [last] = earlier ++ change :: later) :
    (history = earlier ∧ last = change ∧ later = []) ∨
      ∃ rest, later = rest ++ [last] ∧ history = earlier ++ change :: rest := by
  rcases List.eq_nil_or_concat later with rfl | ⟨rest, final, rfl⟩
  · obtain ⟨hhistory, hlast⟩ := List.append_inj' h rfl
    exact .inl ⟨hhistory, List.singleton_inj.1 hlast, rfl⟩
  · rw [List.concat_eq_append, ← List.cons_append, ← List.append_assoc] at h
    obtain ⟨hhistory, hlast⟩ := List.append_inj' h rfl
    exact .inr ⟨rest, by rw [List.concat_eq_append, List.singleton_inj.1 hlast], hhistory⟩

/-! ### Values -/

theorem not_lastWritten_nil : ¬LastWritten name [] value := by
  intro h
  generalize hnil : ([] : List RowChange) = whole at h
  cases h <;> exact List.append_ne_nil_of_right_ne_nil _ (List.cons_ne_nil _ _) hnil.symm

theorem forall_spares_concat {later : List RowChange}
    (h : ∀ change ∈ later, change.Spares name) (hlast : last.Spares name) :
    ∀ change ∈ later ++ [last], change.Spares name := by
  rw [List.forall_mem_append, List.forall_mem_singleton]
  exact ⟨h, hlast⟩

/-- The last change writes the value, or it spares the name and the value was written before. -/
theorem lastWritten_concat_iff : LastWritten name (history ++ [last]) value ↔
    last = .set name value ∨
      (∃ change old, last = .modify name change ∧ LastWritten name history old ∧
        change old = value) ∨
      last.Spares name ∧ LastWritten name history value := by
  constructor
  · intro h
    generalize hwhole : history ++ [last] = whole at h
    cases h with
    | set earlier value hlater =>
      obtain ⟨-, hlast, -⟩ | ⟨rest, rfl, rfl⟩ := cases_concat hwhole
      · exact .inl hlast
      · obtain ⟨hrest, hlast⟩ := List.forall_mem_append.1 hlater
        exact .inr (.inr ⟨hlast _ (List.mem_singleton_self _), .set earlier value hrest⟩)
    | @modify earlier old hold change later hlater =>
      obtain ⟨rfl, hlast, -⟩ | ⟨rest, rfl, rfl⟩ := cases_concat hwhole
      · exact .inr (.inl ⟨change, old, hlast, hold, rfl⟩)
      · obtain ⟨hrest, hlast⟩ := List.forall_mem_append.1 hlater
        exact .inr (.inr ⟨hlast _ (List.mem_singleton_self _), .modify hold change hrest⟩)
  · rintro (rfl | ⟨change, old, rfl, hold, rfl⟩ | ⟨hlast, hold⟩)
    · exact .set history value (List.forall_mem_nil _)
    · exact .modify hold change (List.forall_mem_nil _)
    · cases hold with
      | set earlier value hlater =>
        rw [List.append_assoc, List.cons_append]
        exact .set earlier value (forall_spares_concat hlater hlast)
      | modify hold change hlater =>
        rw [List.append_assoc, List.cons_append]
        exact .modify hold change (forall_spares_concat hlater hlast)

/-! ### Order -/

theorem unset_nil : Unset name [] := fun _ _ _ h =>
  (List.append_ne_nil_of_right_ne_nil _ (List.cons_ne_nil _ _) h.symm).elim

theorem unset_concat_remove : Unset name (history ++ [.remove name]) := by
  intro earlier value later h
  obtain ⟨-, hlast, -⟩ | ⟨rest, rfl, -⟩ := cases_concat h
  · cases hlast
  · exact List.mem_append_right _ (List.mem_singleton_self _)

theorem Unset.concat (h : Unset name history) (hlast : ∀ value, last ≠ .set name value) :
    Unset name (history ++ [last]) := by
  intro earlier value later hwhole
  obtain ⟨-, hset, -⟩ | ⟨rest, rfl, hhistory⟩ := cases_concat hwhole
  · exact (hlast value hset).elim
  · exact List.mem_append_left _ (h earlier value rest hhistory)

theorem FirstSet.not_unset (h : FirstSet name history time) : ¬Unset name history := by
  obtain ⟨earlier, value, later, hhistory, -, -, hlater⟩ := h
  exact fun hunset => hlater (hunset earlier value later hhistory)

theorem FirstSet.lt_length (h : FirstSet name history time) : time < history.length := by
  obtain ⟨earlier, value, later, rfl, rfl, -, -⟩ := h
  rw [List.length_append, List.length_cons]
  omega

theorem Unset.firstSet (h : Unset name history) (value : Value) :
    FirstSet name (history ++ [.set name value]) history.length :=
  ⟨history, value, [], rfl, rfl, h, List.not_mem_nil⟩

theorem FirstSet.concat (h : FirstSet name history time) (hlast : last ≠ .remove name) :
    FirstSet name (history ++ [last]) time := by
  obtain ⟨earlier, value, later, rfl, htime, hunset, hlater⟩ := h
  refine ⟨earlier, value, later ++ [last], by rw [List.append_assoc, List.cons_append], htime,
    hunset, fun hmem => ?_⟩
  rcases List.mem_append.1 hmem with hold | hnew
  · exact hlater hold
  · exact hlast (List.mem_singleton.1 hnew).symm

/-- A name that was set for the first time at one time was not set for the first time later. -/
theorem FirstSet.le {later : Nat} (h : FirstSet name history time)
    (hlater : FirstSet name history later) : later ≤ time := by
  obtain ⟨earlier, value, rest, rfl, rfl, -, hkept⟩ := h
  obtain ⟨earlier', value', rest', hhistory, rfl, hunset, -⟩ := hlater
  obtain ⟨between, rfl, hrest⟩ | ⟨between, rfl, -⟩ := List.append_eq_append_iff.1 hhistory
  · -- what was set in between would have been removed, and so would the name at the first time
    obtain ⟨rfl, -⟩ | ⟨between, rfl, rfl⟩ := List.cons_eq_append_iff.1 hrest
    · exact Nat.le_of_eq (congrArg List.length (List.append_nil earlier))
    · exact (hkept (List.mem_append_left _ (hunset earlier value between rfl))).elim
  · rw [List.length_append]
    exact Nat.le_add_right ..

theorem FirstSet.unique {later : Nat} (h : FirstSet name history time)
    (hlater : FirstSet name history later) : time = later :=
  Nat.le_antisymm (hlater.le h) (h.le hlater)

theorem SetBefore.concat (h : SetBefore history name other) (hname : last ≠ .remove name)
    (hother : last ≠ .remove other) : SetBefore (history ++ [last]) name other := by
  obtain ⟨time, later, hfirst, hlater, hlt⟩ := h
  exact ⟨time, later, hfirst.concat hname, hlater.concat hother, hlt⟩

theorem SetBefore.asymm (h : SetBefore history name other) : ¬SetBefore history other name := by
  rintro ⟨time', later', hother', hname', hlt'⟩
  obtain ⟨time, later, hname, hother, hlt⟩ := h
  rw [hname.unique hname', hother.unique hother'] at hlt
  exact Nat.lt_asymm hlt hlt'

end RowChange

/-! ### Rows -/

namespace Row

open RowChange

variable {row changed other : Row} {history : List RowChange} {last : RowChange} {name : String}
  {value : Value}

/-- The row after changes one after another. -/
def after (row : Row) (history : List RowChange) : Row := history.foldl RowChange.run row

/-- What a row has to do with the history of its changes: no two of its fields have one name, the
value of a field is the one that was last written, a name that it has was set at some time and is
still there, one that it has not was removed whenever it was set, and the names stand in the order
in which they were first set. -/
structure Records (row : Row) (history : List RowChange) : Prop where
  distinct : row.names.Nodup
  field?_eq_some_iff : ∀ {name value},
    row.field? name = some value ↔ LastWritten name history value
  exists_firstSet : ∀ {name}, name ∈ row.names → ∃ time, FirstSet name history time
  unset : ∀ {name}, name ∉ row.names → Unset name history
  ordered : row.names.Pairwise (SetBefore history)

namespace Records

theorem of_empty : empty.Records [] where
  distinct := List.nodup_nil
  field?_eq_some_iff := iff_of_false nofun not_lastWritten_nil
  exists_firstSet := nofun
  unset _ := unset_nil
  ordered := .nil

/-- The value of a field after a change is the one that is written last. -/
theorem field?_run_eq_some_iff (h : row.Records history) (last : RowChange) :
    (last.run row).field? name = some value ↔ LastWritten name (history ++ [last]) value := by
  rw [lastWritten_concat_iff, ← h.field?_eq_some_iff]
  cases last with
  | set other new =>
    rw [run, field?_set]
    by_cases hname : other = name <;> simp [hname, Spares]
  | remove other =>
    rw [run, field?_remove h.distinct]
    by_cases hname : other = name <;> simp [hname, Spares]
  | modify other change =>
    rw [run, field?_modify]
    by_cases hname : other = name <;> simp [hname, Spares, ← h.field?_eq_some_iff]
  | withId => simp [run, withId, field?, Spares]
  | withMetaOf => simp [run, withMetaOf, field?, Spares]

/-- A change that removes no name, and sets none that the row does not have, keeps the names. -/
theorem run_of_names_eq (h : row.Records history) (hnames : (last.run row).names = row.names)
    (hremove : ∀ name, last ≠ .remove name)
    (hset : ∀ name value, last = .set name value → name ∈ row.names) :
    (last.run row).Records (history ++ [last]) where
  distinct := hnames ▸ h.distinct
  field?_eq_some_iff := h.field?_run_eq_some_iff last
  exists_firstSet {name} hmem := by
    obtain ⟨time, hfirst⟩ := h.exists_firstSet (hnames ▸ hmem)
    exact ⟨time, hfirst.concat (hremove name)⟩
  unset {name} hmem := by
    rw [hnames] at hmem
    exact (h.unset hmem).concat fun value hlast => hmem (hset name value hlast)
  ordered := by
    rw [hnames]
    exact h.ordered.imp fun hbefore => hbefore.concat (hremove _) (hremove _)

/-- A new name is set after all others. -/
theorem set_new (h : row.Records history) (hnew : name ∉ row.names) (value : Value) :
    (row.set name value).Records (history ++ [.set name value]) := by
  have hfirst : FirstSet name (history ++ [.set name value]) history.length :=
    (h.unset hnew).firstSet value
  have hkept : ∀ {old time}, FirstSet old history time →
      FirstSet old (history ++ [.set name value]) time := fun hold => hold.concat nofun
  have hnames : (row.set name value).names = row.names ++ [name] := by
    rw [names_set, if_neg hnew]
  refine
    { distinct := Entries.nodup_names_set h.distinct name value
      field?_eq_some_iff := h.field?_run_eq_some_iff (.set name value)
      exists_firstSet := fun {old} hmem => ?firstSet
      unset := fun {old} hmem => ?unset
      ordered := ?ordered }
  case firstSet =>
    rw [hnames] at hmem
    rcases List.mem_append.1 hmem with hold | hlast
    · obtain ⟨time, htime⟩ := h.exists_firstSet hold
      exact ⟨time, hkept htime⟩
    · exact ⟨history.length, List.mem_singleton.1 hlast ▸ hfirst⟩
  case unset =>
    rw [hnames, List.mem_append, List.mem_singleton, not_or] at hmem
    refine (h.unset hmem.1).concat fun _ heq => ?_
    cases heq
    exact hmem.2 rfl
  case ordered =>
    -- the names that were there were set within the history, the new one right after it
    rw [hnames, List.pairwise_append]
    refine ⟨h.ordered.imp fun hbefore => hbefore.concat nofun nofun,
      List.pairwise_singleton .., fun old hold last hlast => ?_⟩
    obtain ⟨time, htime⟩ := h.exists_firstSet hold
    exact ⟨time, history.length, hkept htime, List.mem_singleton.1 hlast ▸ hfirst,
      htime.lt_length⟩

/-- A name that is removed can be set again, and the others keep their order. -/
theorem remove (h : row.Records history) (name : String) :
    (row.remove name).Records (history ++ [.remove name]) := by
  have hfield := field?_remove h.distinct name
  have hmem_iff : ∀ {other},
      other ∈ (row.remove name).names ↔ name ≠ other ∧ other ∈ row.names := by
    intro other
    rw [Row.mem_names_iff, Row.mem_names_iff, hfield]
    by_cases heq : name = other <;> simp [heq]
  have hne : ∀ {other}, other ∈ (row.remove name).names →
      RowChange.remove name ≠ .remove other := by
    rintro other hmem ⟨⟩
    exact (hmem_iff.1 hmem).1 rfl
  refine
    { distinct := Entries.nodup_names_erase h.distinct name
      field?_eq_some_iff := h.field?_run_eq_some_iff (.remove name)
      exists_firstSet := fun hmem => ?firstSet
      unset := fun {other} hmem => ?unset
      ordered := ?ordered }
  case firstSet =>
    obtain ⟨time, hfirst⟩ := h.exists_firstSet (hmem_iff.1 hmem).2
    exact ⟨time, hfirst.concat (hne hmem)⟩
  case unset =>
    by_cases heq : name = other
    · exact heq ▸ unset_concat_remove
    · exact (h.unset fun hold => hmem (hmem_iff.2 ⟨heq, hold⟩)).concat (by simp)
  case ordered =>
    exact (h.ordered.sublist (names_remove_sublist row name)).imp_of_mem
      fun hmem hother hbefore => hbefore.concat (hne hmem) (hne hother)

/-- A row that records a history records it with one more change. -/
theorem run (h : row.Records history) (change : RowChange) :
    (change.run row).Records (history ++ [change]) := by
  cases change with
  | set name value =>
    by_cases hmem : name ∈ row.names
    · refine h.run_of_names_eq ((names_set ..).trans (if_pos hmem)) nofun ?_
      rintro _ _ ⟨⟩
      exact hmem
    · exact h.set_new hmem value
  | remove name => exact h.remove name
  | modify name change =>
    exact h.run_of_names_eq (names_modify row name change) (by simp) (by simp)
  | withId => exact h.run_of_names_eq rfl (by simp) (by simp)
  | withMetaOf => exact h.run_of_names_eq rfl (by simp) (by simp)

/-- A row that records a history records it with any changes that follow. -/
theorem after (h : row.Records history) (later : List RowChange) :
    (row.after later).Records (history ++ later) := by
  induction later generalizing row history with
  | nil => exact (List.append_nil history).symm ▸ h
  | cons change rest ih => exact List.append_cons history change rest ▸ ih (h.run change)

/-- What a row records is a matter of its fields alone. -/
theorem of_fields_eq (h : row.Records history) (hfields : changed.fields = row.fields) :
    changed.Records history := by
  have hnames : changed.names = row.names := congrArg Entries.names hfields
  have hfield : changed.field? = row.field? := congrArg Entries.get? hfields
  exact ⟨hnames ▸ h.distinct, hfield ▸ h.field?_eq_some_iff, hnames ▸ h.exists_firstSet,
    hnames ▸ h.unset, hnames ▸ h.ordered⟩

theorem mem_names_iff (h : row.Records history) :
    name ∈ row.names ↔ ∃ time, FirstSet name history time := by
  refine ⟨h.exists_firstSet, fun ⟨_, hfirst⟩ => Decidable.byContradiction fun hmem => ?_⟩
  exact hfirst.not_unset (h.unset hmem)

/-- A history determines the names and the values of a row that records it, and their order. -/
theorem fields_unique (h : row.Records history) (hother : other.Records history) :
    row.fields = other.fields := by
  have hperm : row.names.Perm other.names :=
    (List.perm_ext_iff_of_nodup h.distinct hother.distinct).2 fun name =>
      h.mem_names_iff.trans hother.mem_names_iff.symm
  have hnames : row.names = other.names :=
    hperm.eq_of_pairwise (fun _ _ _ _ hbefore hafter => (hbefore.asymm hafter).elim)
      h.ordered hother.ordered
  refine Entries.ext_of_nodup h.distinct hnames fun name => Option.ext fun value => ?_
  exact h.field?_eq_some_iff.trans hother.field?_eq_some_iff.symm

end Records

/-! ### Rows of answers -/

theorem ofCells_eq_after (cells : Cells) :
    ofCells cells = empty.after (RowChange.ofCells cells) := by
  rw [ofCells, setAll, after, RowChange.ofCells, List.foldl_map, List.foldl_map]
  rfl

/-- A row of an answer has been set cell by cell. -/
theorem records_of_ofRaw {operation : Operation} {raw : RawRow}
    (h : ofRaw operation raw = .ok row) : row.Records (RowChange.ofCells raw.cells) := by
  have hcells : (ofCells raw.cells).Records (RowChange.ofCells raw.cells) :=
    ofCells_eq_after raw.cells ▸ Records.of_empty.after (RowChange.ofCells raw.cells)
  rw [ofRaw] at h
  split at h
  · cases h
  · split at h
    · cases h
    · cases h
      exact hcells.of_fields_eq rfl

theorem succeeds_ofRaw_iff {operation : Operation} {raw : RawRow} :
    Succeeds (ofRaw operation raw) ↔ raw.id ≠ "" ∧ (Rfc3339.read? raw.updated).isSome = true := by
  rw [ofRaw]
  split
  case isTrue hid => exact iff_of_false (not_succeeds_error _) fun h => h.1 hid
  case isFalse hid =>
    rw [and_iff_right hid]
    split
    case h_1 hread => exact iff_of_false (not_succeeds_error _) (by simp [hread])
    case h_2 t hread => exact iff_of_true (succeeds_ok _) (by simp [hread])

/-- A row is a map in insertion order. A row that is built from the empty one, by setting and
removing fields, by writing to fields in place and by taking over metadata, has each name once; the
value of a name is the one that was last written since its last removal; and the names stand in the
order in which they were first set since their last removals. The same holds of a row of an answer
and of whatever is built from it, also if the answer names a cell several times; such an answer is
not refused. Metadata are apart from the fields. -/
theorem records_after_empty :
    (∀ history, (empty.after history).Records history) ∧
    (∀ (operation : Operation) (raw : RawRow),
      (Succeeds (ofRaw operation raw) ↔
        raw.id ≠ "" ∧ (Rfc3339.read? raw.updated).isSome = true) ∧
      ∀ row, ofRaw operation raw = .ok row → ∀ history,
        (row.after history).Records (RowChange.ofCells raw.cells ++ history)) ∧
    ∀ (row source : Row) (id : String),
      (row.withMetaOf source).fields = row.fields ∧ (row.withId id).fields = row.fields :=
  ⟨Records.of_empty.after,
    fun _ _ => ⟨succeeds_ofRaw_iff, fun _ hread => (records_of_ofRaw hread).after⟩,
    fun _ _ _ => ⟨rfl, rfl⟩⟩

/-- An answer that names a cell twice. -/
def repeatedCells : RawRow := ⟨"7", "2019-08-05T00:00:00Z", [("a", "x"), ("b", "y"), ("a", "z")]⟩

/-- The row in an answer that names a cell twice. -/
def repeatedRow : Row where
  id := some "7"
  updated := some (.startOf ⟨2019, 8, 5, by decide, by decide⟩)
  fields := [("a", .text "z"), ("b", .text "y")]

/-- A cell that is named twice keeps its first place and its last value, and a field that is removed
and set again goes to the end. -/
theorem records_after_empty_repeated :
    let changes : List RowChange :=
      [.remove "a", .set "c" .null, .modify "b" fun _ => .bool true, .set "a" (.text "x")]
    ofRaw .queryRows repeatedCells = .ok repeatedRow ∧
      (repeatedRow.after changes).Records (RowChange.ofCells repeatedCells.cells ++ changes) ∧
      (repeatedRow.after changes).fields =
        [("b", .bool true), ("c", .null), ("a", .text "x")] := by
  intro changes
  have hread : ofRaw .queryRows repeatedCells = .ok repeatedRow := by rfl
  exact ⟨hread, (records_after_empty.2.1 .queryRows repeatedCells).2 repeatedRow hread changes,
    rfl⟩

end Row

end GridStore
