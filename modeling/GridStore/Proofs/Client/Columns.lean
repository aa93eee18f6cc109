import GridStore.Proofs.Client.Writes

/-!
# Columns that rows need

Before rows are inserted, the columns that they need and that are missing are named after the last
one. Naming columns leaves the rows as they are, and fails only because of a failure that is due or
because the worksheet has no place for the columns.

## Main definitions

* `StoredWorksheet.Widens`: whether a worksheet has only got more columns.
* `StoredWorksheet.Accommodates`: whether the columns that rows need can be named.

## Main results

* `Client.ends_ensureColumns`: what naming the missing columns leads to.
-/

namespace GridStore

/-! ### Names of fields -/

/-- The names of the fields of rows are those of any of the rows. -/
theorem mem_fieldNames {rows : List Row} {name : String} :
    name ∈ fieldNames rows ↔ ∃ row ∈ rows, name ∈ row.names := by
  have hfold : ∀ (names seen : List String),
      name ∈ names.foldl (fun seen name => if name ∈ seen then seen else seen ++ [name]) seen ↔
        name ∈ names ∨ name ∈ seen := by
    intro names
    induction names with
    | nil => simp
    | cons first rest ih =>
      intro seen
      rw [List.foldl_cons, ih]
      split <;> grind
  rw [fieldNames, hfold, List.mem_flatMap]
  simp

theorem Row.names_cells (row : Row) : row.cells.map Prod.fst = row.names := List.map_map

namespace StoredWorksheet

variable {ws ws' ws'' : StoredWorksheet} {now : Instant}

/-! ### Worksheets with more columns -/

/-- Whether a worksheet has the rows of another one and at least its columns. -/
structure Widens (ws ws' : StoredWorksheet) : Prop where
  rows : ws'.rows = ws.rows
  columns : ∀ name ∈ ws.columnNames, name ∈ ws'.columnNames

theorem Widens.refl (ws : StoredWorksheet) : Widens ws ws := ⟨rfl, fun _ h => h⟩

theorem Widens.trans (h : Widens ws ws') (h' : Widens ws' ws'') : Widens ws ws'' :=
  ⟨h'.rows.trans h.rows, fun name hname => h'.columns name (h.columns name hname)⟩

theorem widens_named {name : String} {col : Nat} (hcol : ws.header.get? col = none) :
    Widens ws (ws.named name col now) := ⟨rfl, fun _ h => columnNames_named hcol (.inr h)⟩

/-! ### Places for columns -/

/-- Whether names can be given to the columns after the first `start` ones. -/
structure HasRoom (ws : StoredWorksheet) (names : List String) (start : Nat) : Prop where
  named : ∀ name ∈ names, name ≠ ""
  within : start + names.length ≤ ws.colCount
  counted : ws.colCount < wordBound
  free : ∀ col ∈ ws.header.keys, col ≤ start

/-- Where there is room, the first of the names is accepted. -/
theorem HasRoom.createField_eq_ok {name : String} {rest : List String} {start : Nat}
    (h : ws.HasRoom (name :: rest) start) (now : Instant) :
    ws.createField name ((start + 1) % wordBound) now =
      .ok ((), ws.named name (start + 1) now) := by
  have hwithin := h.within
  rw [List.length_cons] at hwithin
  have hmod : (start + 1) % wordBound = start + 1 := by
    have hcounted := h.counted
    exact Nat.mod_eq_of_lt (by omega)
  have hfree : ws.header.get? (start + 1) = none := by
    cases hget : ws.header.get? (start + 1) with
    | none => rfl
    | some cell => exact absurd (h.free _ (Dictionary.mem_keys_of_get? hget)) (by omega)
  rw [hmod]
  exact createField_eq_ok_iff.2
    ⟨⟨h.named name (List.mem_cons_self ..), by omega, by omega⟩, hfree, rfl⟩

/-- Where there is room, there is room for the other names after the first. -/
theorem HasRoom.rest {name : String} {rest : List String} {start : Nat}
    (h : ws.HasRoom (name :: rest) start) (now : Instant) :
    (ws.named name (start + 1) now).HasRoom rest (start + 1) where
  named other hother := h.named other (List.mem_cons_of_mem _ hother)
  within := by
    have hwithin := h.within
    rw [List.length_cons] at hwithin
    show start + 1 + rest.length ≤ ws.colCount
    omega
  counted := h.counted
  free col hcol := by
    rcases Dictionary.mem_keys_insert hcol with rfl | hold
    · exact Nat.le_refl _
    · exact Nat.le_succ_of_le (h.free col hold)

/-- Whether the columns that rows need and that are missing can be named after the last one. -/
def Accommodates (ws : StoredWorksheet) (rows : List Row) : Prop :=
  let missing := Client.missingColumns ws.fieldCells rows
  missing = [] ∨ (∀ name ∈ missing, isColumnName name = true) ∧
    Client.lastColumn ws.fieldCells + missing.length ≤ ws.colCount ∧ ws.colCount < wordBound

theorem map_cell_fieldCells (ws : StoredWorksheet) :
    ws.fieldCells.map FieldCell.cell = ws.columnNames := by
  rw [fieldCells, columnNames, Dictionary.values, List.map_map, List.map_map]
  rfl

theorem map_col_fieldCells (ws : StoredWorksheet) :
    ws.fieldCells.map FieldCell.col = ws.header.keys := List.map_map

end StoredWorksheet

theorem ne_empty_of_isColumnName {name : String} (h : isColumnName name = true) : name ≠ "" := by
  rintro rfl
  exact absurd h (by decide)

theorem isColumnName_eq_false_iff {name : String} :
    isColumnName name = false ↔ trimBlanks name = "" ∨ isMetaField name = true := by
  rw [isColumnName, Bool.and_eq_false_iff, Bool.not_eq_false', bne_eq_false_iff_eq]

namespace Client

/-! ### Names that no column can have -/

/-- Columns are not named if one of the names is blank or reserved. -/
theorem createColumns_of_exists (σ : Type) [Service σ] {names : List String}
    (h : ∃ name ∈ names, isColumnName name = false) (clock : Clock) (worksheet : WorksheetInfo)
    (start : Nat) : ∃ name ∈ names, isColumnName name = false ∧
      (createColumns clock worksheet names start : StoreM (Client σ) Unit) =
        throw (.precondition (.invalidColumnName name)) := by
  obtain ⟨name, hmem, hbad⟩ := h
  have hfound : (names.find? fun name => !isColumnName name).isSome = true :=
    List.find?_isSome.2 ⟨name, hmem, by rw [hbad]; rfl⟩
  obtain ⟨first, hfirst⟩ := Option.isSome_iff_exists.1 hfound
  have hbad := List.find?_some (p := fun name => !isColumnName name) hfirst
  refine ⟨first, List.mem_of_find?_eq_some hfirst, Bool.not_eq_true' _ ▸ hbad, ?_⟩
  rw [createColumns, hfirst]

theorem find?_isColumnName_eq_none {names : List String}
    (h : ∀ name ∈ names, isColumnName name = true) :
    (names.find? fun name => !isColumnName name) = none :=
  List.find?_eq_none.2 fun name hname => by rw [h name hname]; exact Bool.false_ne_true

/-! ### Missing columns -/

theorem mem_missingColumns {cells : List FieldCell} {rows : List Row} {name : String} :
    name ∈ missingColumns cells rows ↔
      name ∈ fieldNames rows ∧ name ∉ cells.map FieldCell.cell := by
  simp [missingColumns]

/-- The order of the header cells does not matter for the missing columns. -/
theorem missingColumns_perm {cells cells' : List FieldCell} (h : cells.Perm cells')
    (rows : List Row) : missingColumns cells rows = missingColumns cells' rows := by
  refine List.filter_congr fun name _ => ?_
  rw [Bool.eq_iff_iff]
  simp [h.mem_iff]

theorem lastColumn_perm {cells cells' : List FieldCell} (h : cells.Perm cells') :
    lastColumn cells = lastColumn cells' :=
  (h.map FieldCell.col).foldl_eq' (fun _ _ _ _ _ => by omega) 0

/-- No column stands after the last one. -/
theorem le_lastColumn {cells : List FieldCell} {col : Nat} (h : col ∈ cells.map FieldCell.col) :
    col ≤ lastColumn cells := by
  have hfold : ∀ (cols : List Nat) (last : Nat),
      (col ∈ cols ∨ col ≤ last) → col ≤ cols.foldl max last := by
    intro cols
    induction cols with
    | nil => simp
    | cons first rest ih =>
      rintro last (hmem | hle)
      · rcases List.mem_cons.1 hmem with rfl | hrest
        · exact ih _ (.inr (Nat.le_max_right ..))
        · exact ih _ (.inl hrest)
      · exact ih _ (.inr (Nat.le_trans hle (Nat.le_max_left ..)))
  exact hfold _ 0 (.inl h)

variable {worksheet : WorksheetInfo} {c : Client MemorySheets} {ws : StoredWorksheet}

/-! ### The header -/

/-- The header cells are those of the worksheet, unless a failure is due. -/
theorem ends_freshFields (hc : c.Sound) (hws : c.service.book.worksheet? worksheet = some ws)
    (clock : Clock) :
    StoreM.Ends (freshFields clock worksheet) c
      (fun cells c' => Agrees c c' ∧ cells.Perm ws.fieldCells)
      (fun _ c' => Agrees c c' ∧ c.service.faults ≠ []) := by
  obtain ⟨hstored, -⟩ := Workbook.stores_of_worksheet? hws
  have hheader := (hc.service.worksheets hstored).header
  have hanswer : ∀ (newId : String), (c.service.book.answer clock.instant newId c.service.engine
      (.queryFields worksheet)).1 = .ok ws.fieldCells := fun newId => by
    rw [Workbook.answer, Workbook.readWorksheet, hws]
  refine (@ends_ask_read c hc clock (.queryFields worksheet) rfl).andThen ?_ ?_
  · rintro e c' ⟨-, hagrees, hfaults | ⟨refusal, hrefused⟩⟩
    · exact ⟨hagrees, hfaults⟩
    · rw [hanswer] at hrefused
      cases hrefused
  · rintro cells c₁ ⟨hsound, hagrees, -, hcells⟩
    rw [hanswer] at hcells
    cases hcells
    have hnone : ws.fieldCells.find? (fun field => field.col == 0 || field.cell == "") = none := by
      refine List.find?_eq_none.2 fun field hfield => ?_
      obtain ⟨column, hcolumn, rfl⟩ := List.mem_map.1 hfield
      obtain ⟨hcol, hname⟩ := hheader column hcolumn
      simp [hcol, hname]
    rw [hnone]
    have hkeep := ends_keep hsound clock (ResponseCache.fieldsKey worksheet.worksheetId)
      (.fields (sortedBy (fun a b => a.col < b.col) ws.fieldCells)) (fun _ h => by cases h)
    refine hkeep.andThen (fun _ _ => False.elim) ?_
    rintro - c₂ ⟨-, hagrees₂⟩
    exact StoreM.ends_pure ⟨hagrees.trans hagrees₂, sortedBy_perm ..⟩

/-! ### Naming columns -/

/-- Naming columns one after another leads to all of them named, or to more columns if a failure is
due or there is no room. -/
theorem ends_nameColumns (clock : Clock) (names : List String) (start : Nat)
    (hws : c.service.book.worksheet? worksheet = some ws) :
    StoreM.Ends ((names.zipIdx (start + 1)).forM fun (name, col) =>
        ask clock (.createField worksheet name (col % wordBound))) c
      (fun _ c' => ∃ wide, ws.Widens wide ∧ Moves worksheet c wide c' ∧
        ∀ name ∈ names, name ∈ wide.columnNames)
      (fun _ c' => ∃ wide, ws.Widens wide ∧ Moves worksheet c wide c' ∧
        (c.service.faults ≠ [] ∨ ¬ws.HasRoom names start)) := by
  induction names generalizing c ws start with
  | nil => exact StoreM.ends_pure ⟨ws, .refl ws, (Agrees.refl c).moves hws, nofun⟩
  | cons name rest ih =>
    have hask := ends_ask_change hws clock (.createField worksheet name ((start + 1) % wordBound))
      (fun ws => ws.createField name ((start + 1) % wordBound) clock.instant) (fun _ _ _ => rfl) rfl
      fun u ws' h => by
        obtain ⟨-, -, rfl⟩ := StoredWorksheet.createField_eq_ok_iff.1 h
        rfl
    rw [List.zipIdx_cons]
    refine StoreM.Ends.andThen hask ?_ ?_
    · rintro e c' ⟨hmoves, hfaults | ⟨refusal, hrefused⟩⟩
      · exact ⟨ws, .refl ws, hmoves, .inl hfaults⟩
      · refine ⟨ws, .refl ws, hmoves, .inr fun hroom => ?_⟩
        rw [hroom.createField_eq_ok] at hrefused
        cases hrefused
    · rintro u c₁ ⟨ws₁, hchange, hmoves⟩
      obtain ⟨-, hfree, hws₁⟩ := StoredWorksheet.createField_eq_ok_iff.1 hchange
      have hwidens : ws.Widens ws₁ := hws₁ ▸ StoredWorksheet.widens_named hfree
      have hname : name ∈ ws₁.columnNames :=
        hws₁ ▸ StoredWorksheet.columnNames_named hfree (.inl rfl)
      refine (ih (start + 1) hmoves.found).mono ?_ ?_
      · rintro - c₂ ⟨wide, hwide, hmoves₂, hnames⟩
        exact ⟨wide, hwidens.trans hwide, hmoves.trans hmoves₂,
          List.forall_mem_cons.2 ⟨hwide.columns name hname, hnames⟩⟩
      · rintro e c₂ ⟨wide, hwide, hmoves₂, hreason⟩
        refine ⟨wide, hwidens.trans hwide, hmoves.trans hmoves₂, ?_⟩
        refine hreason.imp hmoves.faults_ne fun hfull hroom => hfull ?_
        rw [hroom.createField_eq_ok] at hchange
        cases hchange
        exact hroom.rest clock.instant

/-- If the missing columns cannot be created, there is no place for them. -/
theorem not_accommodates {rows : List Row} (hne : missingColumns ws.fieldCells rows ≠ [])
    (h : ¬((∀ name ∈ missingColumns ws.fieldCells rows, isColumnName name = true) ∧
      ws.HasRoom (missingColumns ws.fieldCells rows) (lastColumn ws.fieldCells))) :
    ¬ws.Accommodates rows := by
  rintro (hnil | ⟨hnames, hwithin, hcounted⟩)
  · exact hne hnil
  · refine h ⟨hnames, fun name hname => ne_empty_of_isColumnName (hnames name hname),
      hwithin, hcounted, fun col hcol => ?_⟩
    rw [← ws.map_col_fieldCells] at hcol
    exact le_lastColumn hcol

/-- Creating the missing columns leads to all of them named, or to more columns if a failure is due
or the worksheet has no place for them. -/
theorem ends_createColumns (hws : c.service.book.worksheet? worksheet = some ws) (clock : Clock)
    {rows : List Row} (hne : missingColumns ws.fieldCells rows ≠ []) :
    StoreM.Ends (createColumns clock worksheet (missingColumns ws.fieldCells rows)
        (lastColumn ws.fieldCells)) c
      (fun _ c' => ∃ wide, ws.Widens wide ∧ Moves worksheet c wide c' ∧
        ∀ name ∈ missingColumns ws.fieldCells rows, name ∈ wide.columnNames)
      (fun _ c' => ∃ wide, ws.Widens wide ∧ Moves worksheet c wide c' ∧
        (c.service.faults ≠ [] ∨ ¬ws.Accommodates rows)) := by
  rw [createColumns]
  split
  case h_1 name hfind =>
    have hname := List.find?_some hfind
    have hmem := List.mem_of_find?_eq_some hfind
    have hfull : ¬ws.Accommodates rows := not_accommodates hne fun h => by
      simp [h.1 name hmem] at hname
    exact StoreM.ends_throw ⟨ws, .refl ws, (Agrees.refl c).moves hws, .inr hfull⟩
  case h_2 =>
    rw [if_neg (by simpa using hne)]
    refine ends_forgetting ((ends_nameColumns clock _ _ hws).mono ?_ ?_)
    · rintro - c' ⟨wide, hwide, hmoves, hnamed⟩
      exact ⟨wide, hwide, hmoves.forget, hnamed⟩
    · rintro e c' ⟨wide, hwide, hmoves, hreason⟩
      exact ⟨wide, hwide, hmoves.forget,
        hreason.imp_right fun hroom => not_accommodates hne fun h => hroom h.2⟩

/-- A worksheet knows all fields of rows once their missing columns are named. -/
theorem knows_of_named {wide : StoredWorksheet} (hwide : ws.Widens wide) {rows : List Row}
    (hnamed : ∀ name ∈ missingColumns ws.fieldCells rows, name ∈ wide.columnNames) :
    ∀ row ∈ rows, wide.Knows row.cells := by
  intro row hrow name hname
  rw [Row.names_cells] at hname
  by_cases hold : name ∈ ws.columnNames
  · exact hwide.columns name hold
  · rw [← ws.map_cell_fieldCells] at hold
    exact hnamed name (mem_missingColumns.2 ⟨mem_fieldNames.2 ⟨row, hrow, hname⟩, hold⟩)

/-- Naming the missing columns leads to a worksheet that knows all fields of the rows, or to more
columns if a failure is due or the worksheet has no place for them. -/
theorem ends_ensureColumns (hc : c.Sound) (hws : c.service.book.worksheet? worksheet = some ws)
    (clock : Clock) (rows : List Row) :
    StoreM.Ends (ensureColumns clock worksheet rows) c
      (fun _ c' => ∃ wide, ws.Widens wide ∧ Moves worksheet c wide c' ∧
        ∀ row ∈ rows, wide.Knows row.cells)
      (fun _ c' => ∃ wide, ws.Widens wide ∧ Moves worksheet c wide c' ∧
        (c.service.faults ≠ [] ∨ ¬ws.Accommodates rows)) := by
  refine StoreM.Ends.andThen (ends_freshFields hc hws clock) ?_ ?_
  · rintro e c' ⟨hagrees, hfaults⟩
    exact ⟨ws, .refl ws, hagrees.moves hws, .inl hfaults⟩
  rintro cells c₁ ⟨hagrees, hcells⟩
  have hbook : c₁.service.book.worksheet? worksheet = some ws := hagrees.book ▸ hws
  have hmoves := hagrees.moves hws
  simp only [missingColumns_perm hcells rows, lastColumn_perm hcells]
  split
  case isFalse hempty =>
    have hnil : missingColumns ws.fieldCells rows = [] := by simpa using hempty
    refine StoreM.ends_pure ⟨ws, .refl ws, hmoves, knows_of_named (.refl ws) ?_⟩
    rw [hnil]
    nofun
  case isTrue hne =>
    refine (ends_createColumns hbook clock (by simpa using hne)).andThen ?_ ?_
    · rintro e c₂ ⟨wide, hwide, hmoves₂, hreason⟩
      exact ⟨wide, hwide, hmoves.trans hmoves₂, hreason.imp_left hagrees.faults_ne⟩
    · rintro - c₂ ⟨wide, hwide, hmoves₂, hnamed⟩
      exact StoreM.ends_pure ⟨wide, hwide, hmoves.trans hmoves₂, knows_of_named hwide hnamed⟩

end Client

end GridStore
