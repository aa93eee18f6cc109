import GridStore.Proofs.Filter.Mistaken

/-!
# Rows that the query of a filter hides

A row that a filter means is hidden by the query of the filter only if the filter demands that some
field differs from an operand, and the service takes the cell of that field for the operand. Every
other row that is meant is among the rows that the service returns.

## Main definitions

* `Condition.Overlooks`, `Filter.Overlooks`: the rows that are meant, but hidden by the query.
* `Condition.unlike`, `Filter.unlike`: the operands from which fields have to differ.

## Main results

* `Filter.rejects_iff_overlooks`: the query of a filter hides exactly the overlooked rows.
* `Filter.mistaken_of_overlooks`: an overlooked row has a mistaken cell.
-/

namespace GridStore

/-! ### Conditions -/

namespace Condition

mutual

/-- Whether the query of a condition hides a cell that satisfies the condition: one that is mistaken
for an operand from which it has to differ. A conjunction is hidden by one of its parts, and a
disjunction by all of them together. -/
def Overlooks (column : String) (cell : String → String) : Condition → Prop
  | compare op operand => op = .ne ∧ operand.MistakenFor (cell column)
  | isIn _ => False
  | notIn operands => ∃ operand ∈ operands, operand.MistakenFor (cell column)
  | all conditions => OverlooksOne column cell conditions
  | any conditions => ∀ part ∈ pushDownAll column conditions, Query.Rejects part cell
  | present _ => False
  | pattern _ => False
  | not _ => False

/-- Whether the query of one of several conditions hides a cell that satisfies all of them. -/
def OverlooksOne (column : String) (cell : String → String) : List Condition → Prop
  | [] => False
  | condition :: rest => Overlooks column cell condition ∨ OverlooksOne column cell rest

end

mutual

/-- The operands from which a condition demands a field to differ. -/
def unlike : Condition → List Value
  | compare op operand => if op = .ne then [operand] else []
  | isIn _ => []
  | notIn operands => operands
  | all conditions => unlikeAll conditions
  | any conditions => unlikeAll conditions
  | present _ => []
  | pattern _ => []
  | not _ => []

/-- The operands from which several conditions demand a field to differ. -/
def unlikeAll : List Condition → List Value
  | [] => []
  | condition :: rest => unlike condition ++ unlikeAll rest

end

section

variable {column : String} {cell : String → String} {text : Option String}

theorem rejects_comparison?_iff {op : Comparison} {operand : Value}
    (hcell : cell column = text.getD "") (h : compares op (text.map Cell.value) operand = true) :
    Query.Rejects (comparison? column op operand) cell ↔
      op = .ne ∧ operand.MistakenFor (cell column) := by
  cases hl : literal? operand with
  | none =>
    rw [comparison?, hl, Option.map_none]
    refine iff_of_false (Query.not_rejects_none cell) fun ⟨_, hmistaken⟩ => ?_
    obtain ⟨l, hsome⟩ := exists_literal?_of_mistakenFor hmistaken
    rw [hl] at hsome
    cases hsome
  | some l =>
    rw [comparison?, hl, Option.map_some, Query.rejects_some, Query.accepts, hcell]
    by_cases hop : op = .ne
    · subst hop
      rw [and_iff_right rfl]
      exact compareCell_ne_iff hl h
    · simp [compareCell_of_compares hl hop h, hop]

mutual

/-- The query of a condition hides a cell that satisfies it exactly if it overlooks the cell. -/
theorem rejects_iff_overlooks (hcell : cell column = text.getD "") : (condition : Condition) →
    condition.holds (text.map Cell.value) = true →
    (Query.Rejects (condition.pushDown? column) cell ↔ condition.Overlooks column cell)
  | compare op operand, h => rejects_comparison?_iff hcell h
  | isIn operands, h => by
    obtain ⟨operand, hmem, hequals⟩ := List.any_eq_true.1 (by exact h)
    rw [pushDown?, Query.rejects_disjunction?_iff (by simpa using List.ne_nil_of_mem hmem)]
    refine iff_of_false (fun hall => ?_) id
    have hreject := hall _ (List.mem_map_of_mem hmem)
    have hcompares : compares .eq (text.map Cell.value) operand = true := hequals
    exact nomatch ((rejects_comparison?_iff hcell hcompares).1 hreject).1
  | notIn operands, h => by
    have hne : ∀ operand ∈ operands, compares .ne (text.map Cell.value) operand = true := by
      simpa [holds, compares] using h
    have hreject : ∀ operand ∈ operands,
        (Query.Rejects (comparison? column .ne operand) cell ↔
          operand.MistakenFor (cell column)) := fun operand hmem =>
      (rejects_comparison?_iff hcell (hne operand hmem)).trans (and_iff_right rfl)
    have hqueries : operands.filterMap (comparison? column .ne) =
        (operands.map (comparison? column .ne)).filterMap id := by
      rw [List.filterMap_map]
      rfl
    rw [pushDown?, hqueries, Query.rejects_conjunction?_iff]
    constructor
    · rintro ⟨_, hpart, hrejects⟩
      obtain ⟨operand, hmem, rfl⟩ := List.mem_map.1 hpart
      exact ⟨operand, hmem, (hreject operand hmem).1 hrejects⟩
    · rintro ⟨operand, hmem, hmistaken⟩
      exact ⟨_, List.mem_map_of_mem hmem, (hreject operand hmem).2 hmistaken⟩
  | all conditions, h => Query.rejects_conjunction?_iff.trans (rejectsAll_iff hcell conditions h)
  | any conditions, h => by
    refine Query.rejects_disjunction?_iff ?_
    cases conditions with
    | nil => cases h
    | cons condition rest => exact List.cons_ne_nil _ _
  | present _, _ => iff_of_false (Query.not_rejects_none cell) id
  | pattern _, _ => iff_of_false (Query.not_rejects_none cell) id
  | not _, _ => iff_of_false (Query.not_rejects_none cell) id

theorem rejectsAll_iff (hcell : cell column = text.getD "") : (conditions : List Condition) →
    holdsAll (text.map Cell.value) conditions = true →
    ((∃ part ∈ pushDownAll column conditions, Query.Rejects part cell) ↔
      OverlooksOne column cell conditions)
  | [], _ => by simp [pushDownAll, OverlooksOne]
  | condition :: rest, h => by
    obtain ⟨hfirst, hrest⟩ := Bool.and_eq_true_iff.1 h
    simp only [pushDownAll, OverlooksOne, List.mem_cons, exists_eq_or_imp,
      rejects_iff_overlooks hcell condition hfirst, rejectsAll_iff hcell rest hrest]

end

mutual

/-- A cell that satisfies a condition and is overlooked is mistaken for an operand from which it has
to differ. -/
theorem mistaken_of_overlooks (hcell : cell column = text.getD "") : (condition : Condition) →
    condition.holds (text.map Cell.value) = true → condition.Overlooks column cell →
    ∃ operand ∈ condition.unlike, operand.MistakenFor (cell column)
  | compare op operand, _, hover => by
    obtain ⟨rfl, hmistaken⟩ := hover
    exact ⟨operand, List.mem_singleton_self operand, hmistaken⟩
  | isIn _, _, hover => hover.elim
  | notIn _, _, hover => hover
  | all conditions, h, hover => mistaken_of_overlooksOne hcell conditions h hover
  | any conditions, h, hover => mistaken_of_rejectsAll hcell conditions h hover
  | present _, _, hover => hover.elim
  | pattern _, _, hover => hover.elim
  | not _, _, hover => hover.elim

theorem mistaken_of_overlooksOne (hcell : cell column = text.getD "") :
    (conditions : List Condition) → holdsAll (text.map Cell.value) conditions = true →
    OverlooksOne column cell conditions →
    ∃ operand ∈ unlikeAll conditions, operand.MistakenFor (cell column)
  | [], _, hover => hover.elim
  | condition :: rest, h, hover => by
    obtain ⟨hfirst, hrest⟩ := Bool.and_eq_true_iff.1 h
    rcases hover with hover | hover
    · obtain ⟨operand, hmem, hmistaken⟩ := mistaken_of_overlooks hcell condition hfirst hover
      exact ⟨operand, List.mem_append_left _ hmem, hmistaken⟩
    · obtain ⟨operand, hmem, hmistaken⟩ := mistaken_of_overlooksOne hcell rest hrest hover
      exact ⟨operand, List.mem_append_right _ hmem, hmistaken⟩

/-- One of the parts of a disjunction is satisfied, and its query hides the cell. -/
theorem mistaken_of_rejectsAll (hcell : cell column = text.getD "") :
    (conditions : List Condition) → holdsAny (text.map Cell.value) conditions = true →
    (∀ part ∈ pushDownAll column conditions, Query.Rejects part cell) →
    ∃ operand ∈ unlikeAll conditions, operand.MistakenFor (cell column)
  | [], h, _ => nomatch h
  | condition :: rest, h, hall => by
    obtain ⟨hreject, hothers⟩ := List.forall_mem_cons.1 hall
    rcases Bool.or_eq_true_iff.1 h with hfirst | hrest
    · have hover := (rejects_iff_overlooks hcell condition hfirst).1 hreject
      obtain ⟨operand, hmem, hmistaken⟩ := mistaken_of_overlooks hcell condition hfirst hover
      exact ⟨operand, List.mem_append_left _ hmem, hmistaken⟩
    · obtain ⟨operand, hmem, hmistaken⟩ := mistaken_of_rejectsAll hcell rest hrest hothers
      exact ⟨operand, List.mem_append_right _ hmem, hmistaken⟩

end

end

end Condition

/-! ### Filters -/

namespace Filter

mutual

/-- Whether the query of a filter hides a row that the filter means. -/
def Overlooks (cell : String → String) : Filter → Prop
  | and parts => OverlooksOne cell parts
  | or parts => ∀ part ∈ pushDownAll parts, Query.Rejects part cell
  | nor _ => False
  | field name condition => isColumnWord name = true ∧ condition.Overlooks name cell

/-- Whether the query of one of several filters hides a row that all of them mean. -/
def OverlooksOne (cell : String → String) : List Filter → Prop
  | [] => False
  | part :: rest => Overlooks cell part ∨ OverlooksOne cell rest

end

mutual

/-- The columns and operands from which a filter demands the columns to differ. -/
def unlike : Filter → List (String × Value)
  | and parts => unlikeAll parts
  | or parts => unlikeAll parts
  | nor _ => []
  | field name condition => condition.unlike.map (name, ·)

/-- The columns and operands from which several filters demand the columns to differ. -/
def unlikeAll : List Filter → List (String × Value)
  | [] => []
  | part :: rest => unlike part ++ unlikeAll rest

end

/-- Whether a filter demands that a column of a row differs from an operand for which the service
takes the cell of the column. -/
def HasMistaken (cell : String → String) (unlike : List (String × Value)) : Prop :=
  ∃ demand ∈ unlike, isColumnWord demand.1 = true ∧ demand.2.MistakenFor (cell demand.1)

theorem HasMistaken.mono {cell : String → String} {some all : List (String × Value)}
    (h : HasMistaken cell some) (hsub : ∀ demand ∈ some, demand ∈ all) : HasMistaken cell all := by
  obtain ⟨demand, hmem, hmistaken⟩ := h
  exact ⟨demand, hsub demand hmem, hmistaken⟩

theorem isMetaField_of_isColumnWord {name : String} (h : isColumnWord name = true) :
    isMetaField name = false := by
  simp only [isColumnWord, Bool.and_eq_true, Bool.not_eq_true'] at h
  exact h.1.1.1.1

theorem lookup_of_shownAs {row : StoredRow} {shown : Row} (hshown : row.ShownAs shown)
    {name : String} (hname : isColumnWord name = true) :
    shown.lookup name = (row.cells.get? name).map Cell.value := by
  rw [Row.lookup_of_not_meta (isMetaField_of_isColumnWord hname), hshown]

theorem cell_eq (row : StoredRow) (name : String) :
    row.cell name = (row.cells.get? name).getD "" := rfl

section

variable {row : StoredRow} {shown : Row}

mutual

/-- The query of a filter hides a row that the filter means exactly if it overlooks the row. -/
theorem rejects_iff_overlooks (hshown : row.ShownAs shown) : (filter : Filter) →
    filter.holds shown = true →
    (Query.Rejects filter.pushDown? row.cell ↔ filter.Overlooks row.cell)
  | and parts, h => Query.rejects_conjunction?_iff.trans (rejectsAll_iff hshown parts h)
  | or parts, h => by
    refine Query.rejects_disjunction?_iff ?_
    cases parts with
    | nil => cases h
    | cons part rest => exact List.cons_ne_nil _ _
  | nor _, _ => iff_of_false (Query.not_rejects_none row.cell) id
  | field name condition, h => by
    rw [pushDown?, Overlooks]
    split
    case isTrue hname =>
      rw [holds, lookup_of_shownAs hshown hname] at h
      rw [and_iff_right hname]
      exact condition.rejects_iff_overlooks (cell_eq row name) h
    case isFalse hname =>
      exact iff_of_false (Query.not_rejects_none row.cell) fun hover => hname hover.1

theorem rejectsAll_iff (hshown : row.ShownAs shown) : (parts : List Filter) →
    holdsAll shown parts = true →
    ((∃ part ∈ pushDownAll parts, Query.Rejects part row.cell) ↔ OverlooksOne row.cell parts)
  | [], _ => by simp [pushDownAll, OverlooksOne]
  | part :: rest, h => by
    obtain ⟨hfirst, hrest⟩ := Bool.and_eq_true_iff.1 h
    simp only [pushDownAll, OverlooksOne, List.mem_cons, exists_eq_or_imp,
      rejects_iff_overlooks hshown part hfirst, rejectsAll_iff hshown rest hrest]

end

mutual

/-- A row that is meant and overlooked has a mistaken cell. -/
theorem mistaken_of_overlooks (hshown : row.ShownAs shown) : (filter : Filter) →
    filter.holds shown = true → filter.Overlooks row.cell → HasMistaken row.cell filter.unlike
  | and parts, h, hover => mistaken_of_overlooksOne hshown parts h hover
  | or parts, h, hover => mistaken_of_rejectsAll hshown parts h hover
  | nor _, _, hover => hover.elim
  | field name condition, h, hover => by
    obtain ⟨hname, hover⟩ := hover
    rw [holds, lookup_of_shownAs hshown hname] at h
    obtain ⟨operand, hmem, hmistaken⟩ := condition.mistaken_of_overlooks (cell_eq row name) h hover
    exact ⟨(name, operand), List.mem_map_of_mem hmem, hname, hmistaken⟩

theorem mistaken_of_overlooksOne (hshown : row.ShownAs shown) : (parts : List Filter) →
    holdsAll shown parts = true → OverlooksOne row.cell parts →
    HasMistaken row.cell (unlikeAll parts)
  | [], _, hover => hover.elim
  | part :: rest, h, hover => by
    obtain ⟨hfirst, hrest⟩ := Bool.and_eq_true_iff.1 h
    rcases hover with hover | hover
    · exact (mistaken_of_overlooks hshown part hfirst hover).mono fun _ =>
        List.mem_append_left _
    · exact (mistaken_of_overlooksOne hshown rest hrest hover).mono fun _ =>
        List.mem_append_right _

theorem mistaken_of_rejectsAll (hshown : row.ShownAs shown) : (parts : List Filter) →
    holdsAny shown parts = true →
    (∀ part ∈ pushDownAll parts, Query.Rejects part row.cell) →
    HasMistaken row.cell (unlikeAll parts)
  | [], h, _ => nomatch h
  | part :: rest, h, hall => by
    obtain ⟨hreject, hothers⟩ := List.forall_mem_cons.1 hall
    rcases Bool.or_eq_true_iff.1 h with hfirst | hrest
    · have hover := (rejects_iff_overlooks hshown part hfirst).1 hreject
      exact (mistaken_of_overlooks hshown part hfirst hover).mono fun _ =>
        List.mem_append_left _
    · exact (mistaken_of_rejectsAll hshown rest hrest hothers).mono fun _ =>
        List.mem_append_right _

end

end

/-! ### The service and the client -/

/-- Whether the service narrows the rows by no query, or by one that it reads and that accepts the
cells of a row. -/
def Admits (filter : Filter) (cell : String → String) : Prop :=
  filter.queryText = "" ∨
    ∃ q, Query.read filter.queryText = .ok (some q) ∧ q.accepts cell = true

/-- The service admits the rows that the query of the filter does not reject. -/
theorem admits_iff {filter : Filter} {cell : String → String} :
    filter.Admits cell ↔ ¬Query.Rejects filter.pushDown? cell := by
  rw [Admits, queryText_eq_empty_iff, read_queryText]
  cases filter.pushDown? with
  | none => exact iff_of_true (.inl rfl) (Query.not_rejects_none cell)
  | some q => simp [Query.rejects_some, Query.accepts_canonical]

/-- A row of a worksheet that a filter means is returned by the service, unless the filter overlooks
it; and a filter overlooks only rows with a cell that the service takes for an operand from which
the filter demands it to differ. -/
theorem admits_iff_not_overlooks (filter : Filter) {ws : StoredWorksheet} {position : Nat}
    {row : StoredRow} (hcells : row.LiesIn ws) {operation : Operation} {shown : Row}
    (hshown : Row.ofRaw operation (ws.rawRow position row) = .ok shown)
    (hmeant : filter.holds shown = true) :
    (filter.Admits row.cell ↔ ¬filter.Overlooks row.cell) ∧
      (filter.Overlooks row.cell → HasMistaken row.cell filter.unlike) := by
  have hrow := StoredRow.shownAs_of_ofRaw hcells hshown
  exact ⟨admits_iff.trans (not_congr (rejects_iff_overlooks hrow filter hmeant)),
    mistaken_of_overlooks hrow filter hmeant⟩

/-- A day on which rows are stored. -/
def sampleDay : Instant := .startOf ⟨2031, 5, 6, by decide, by decide⟩

/-- A stored flag with letters of both cases. -/
def flagRow : StoredRow := ⟨sampleDay, .ofList [("flag", "True")]⟩

/-- A worksheet with one row. -/
def flagSheet : StoredWorksheet where
  id := "W1"
  title := "rows"
  updated := sampleDay
  rowCount := 10
  colCount := 10
  header := .ofList [(1, ⟨"flag", sampleDay⟩), (2, ⟨"note", sampleDay⟩)]
  rows := [flagRow]

/-- The row as a client sees it. -/
def flagShown : Row := ⟨some "1", some sampleDay, [("flag", .text "True")]⟩

theorem liesIn_flagRow : flagRow.LiesIn flagSheet := by decide

theorem ofRaw_flagRow : Row.ofRaw .queryRows (flagSheet.rawRow 1 flagRow) = .ok flagShown := by
  rfl

/-- An absent cell is overlooked when it has to differ from the empty text. -/
theorem admits_iff_not_overlooks_absent :
    flagRow.LiesIn flagSheet ∧
      Row.ofRaw .queryRows (flagSheet.rawRow 1 flagRow) = .ok flagShown ∧
      (field "note" (.compare .ne (.text ""))).holds flagShown = true ∧
      ¬(field "note" (.compare .ne (.text ""))).Admits flagRow.cell := by
  have hmeant : (field "note" (.compare .ne (.text ""))).holds flagShown = true := by decide
  have hover : (field "note" (.compare .ne (.text ""))).Overlooks flagRow.cell :=
    ⟨by decide +kernel, rfl, rfl, by decide, by decide⟩
  exact ⟨liesIn_flagRow, ofRaw_flagRow, hmeant, fun hadmits =>
    (admits_iff_not_overlooks _ liesIn_flagRow ofRaw_flagRow hmeant).1.1 hadmits hover⟩

/-- Not every row that a filter means is returned by the service: a text that spells a flag with
letters of both cases is no flag for the client, but it is one for the service. -/
theorem exists_meant_not_admitted :
    ¬∀ (filter : Filter) (ws : StoredWorksheet) (position : Nat) (row : StoredRow)
      (operation : Operation) (shown : Row), row.LiesIn ws →
      Row.ofRaw operation (ws.rawRow position row) = .ok shown →
      filter.holds shown = true → filter.Admits row.cell := by
  intro h
  have hmeant : (field "flag" (.compare .ne (.bool true))).holds flagShown = true := by decide
  have hover : (field "flag" (.compare .ne (.bool true))).Overlooks flagRow.cell :=
    ⟨by decide +kernel, rfl, by decide +kernel, by decide⟩
  have hadmits := h _ flagSheet 1 flagRow .queryRows flagShown liesIn_flagRow ofRaw_flagRow hmeant
  have hrow := StoredRow.shownAs_of_ofRaw liesIn_flagRow ofRaw_flagRow
  exact admits_iff.1 hadmits ((rejects_iff_overlooks hrow _ hmeant).2 hover)

end Filter

end GridStore
