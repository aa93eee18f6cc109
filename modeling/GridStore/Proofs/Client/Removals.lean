import GridStore.Client.Documents
import GridStore.Proofs.Client.Mutations
import GridStore.Proofs.Client.Reached

/-!
# Removed rows

A removal deletes the rows that a find with the same selector returns, and no others. The one
exception is a selector that names an identity and nothing else: it is not looked for, but its text
is handed to the service, which reads it as a count. So a text that is not the identity of a row but
writes its position in another way removes a row that no find returns.

## Main definitions

* `StoredWorksheet.Loses`: whether a worksheet has lost rows and nothing else.
* `StoredWorksheet.Respells`: whether a text writes the position of a row in another way than the
  identity of that row.
* `Client.RemovesFound`: whether the removal by an identity deletes what a find returns.

## Main results

* `Client.remove_loses_found`: a removal by a selector other than an identity deletes what a find
  returns.
* `Client.removesFound_iff`: when the removal by an identity deletes what a find returns.
-/

namespace GridStore

namespace StoredWorksheet

variable {ws : StoredWorksheet}

/-! ### Lost rows -/

/-- The rows, with their positions, whose identities no row of a list has. -/
def unnamed (ws : StoredWorksheet) (rows : List Row) : List (Nat × StoredRow) :=
  ws.numberedRows.filter fun numbered => some (countText numbered.1) ∉ rows.map Row.id

/-- Whether a worksheet is what is left of another one when it has lost the rows with the identities
of a list: the others keep their order, cells and last changes, and have got the identities of their
new positions. -/
structure Loses (ws : StoredWorksheet) (lost : List Row) (ws' : StoredWorksheet) : Prop where
  header : ws'.header = ws.header
  rows : ws'.rows = (ws.unnamed lost).map Prod.snd
  shown : (ws'.numberedRows.map fun row => ws'.shown row.1 row.2) =
    ((ws.unnamed lost).zipIdx 1).map fun (row, position) =>
      { ws.shown row.1 row.2 with id := some (countText position) }
  length : ws'.rows.length + lost.length = ws.rows.length

theorem unnamed_shown (numbered : List (Nat × StoredRow)) :
    ws.unnamed (numbered.map fun found => ws.shown found.1 found.2) =
      ws.remaining (numbered.map Prod.fst) := by
  have hids : (numbered.map fun found => ws.shown found.1 found.2).map Row.id =
      (numbered.map Prod.fst).map fun position => some (countText position) := by
    rw [List.map_map, List.map_map]
    rfl
  rw [unnamed, remaining, hids]
  refine List.filter_congr fun found _ => decide_eq_decide.2 (not_congr ⟨fun h => ?_, fun h => ?_⟩)
  · obtain ⟨position, hposition, heq⟩ := List.mem_map.1 h
    rwa [countText_injective (Option.some.inj heq)] at hposition
  · exact List.mem_map_of_mem h

/-- Rows that are deleted from the bottom up are lost. -/
theorem loses_withoutAll (now : Instant) {numbered : List (Nat × StoredRow)}
    (h : numbered.Sublist ws.numberedRows) :
    ws.Loses (numbered.map fun found => ws.shown found.1 found.2)
      (ws.withoutAll now (numbered.map Prod.fst).reverse) := by
  have hincreasing := pairwise_positions h
  have hpositions : ∀ position ∈ (numbered.map Prod.fst).reverse,
      1 ≤ position ∧ position ≤ ws.rows.length := by
    intro position hposition
    obtain ⟨found, hfound, rfl⟩ := List.mem_map.1 (List.mem_reverse.1 hposition)
    exact position_of_mem_numberedRows (h.subset hfound)
  have hunnamed : ws.unnamed (numbered.map fun found => ws.shown found.1 found.2) =
      ws.remaining (numbered.map Prod.fst).reverse := by
    rw [unnamed_shown, remaining, remaining]
    simp only [List.mem_reverse]
  have hrows := rows_withoutAll now (List.pairwise_reverse.2 hincreasing) hpositions
  rw [← hunnamed] at hrows
  refine ⟨header_withoutAll _, hrows, shown_renumbered (header_withoutAll _) hrows, ?_⟩
  have hlength := length_withoutAll now (List.pairwise_reverse.2 hincreasing) hpositions
  rw [List.length_reverse, List.length_map] at hlength
  rw [List.length_map, hlength]

/-! ### Identities -/

/-- The rows, with their positions, that have an identity. -/
def identified (ws : StoredWorksheet) (id : String) : List (Nat × StoredRow) :=
  ws.numberedRows.filter fun numbered => countText numbered.1 = id

/-- Whether a text writes the position of a row in another way than the identity of that row. -/
def Respells (ws : StoredWorksheet) (id : String) : Prop :=
  ∃ position, 1 ≤ position ∧ position ≤ ws.rows.length ∧ count? id = some position ∧
    id ≠ countText position

/-- At most one row has an identity: the one at the position that it writes. -/
theorem identified_countText {position : Nat}
    (h : 1 ≤ position ∧ position ≤ ws.rows.length) :
    (ws.identified (countText position)).map Prod.fst = [position] := by
  have hfilter : (ws.identified (countText position)).map Prod.fst =
      (List.range' 1 ws.rows.length).filter (· == position) := by
    rw [← map_fst_numberedRows, List.filter_map, identified]
    congr 1
    refine List.filter_congr fun numbered _ => ?_
    exact decide_eq_decide.2 ⟨countText_injective, congrArg countText⟩
  have hmem : position ∈ List.range' 1 ws.rows.length := by
    rw [List.mem_range'_1]
    omega
  rw [hfilter, List.filter_beq, List.Nodup.count List.nodup_range', if_pos hmem, List.replicate_one]

theorem identified_eq_nil {id : String}
    (h : ∀ position, 1 ≤ position → position ≤ ws.rows.length → id ≠ countText position) :
    ws.identified id = [] := by
  refine List.filter_eq_nil_iff.2 fun numbered hmem heq => ?_
  have hposition := position_of_mem_numberedRows hmem
  exact h numbered.1 hposition.1 hposition.2 (of_decide_eq_true heq).symm

/-- A find by an identity returns the rows that have it. -/
theorem found_identity (ws : StoredWorksheet) (evaluates : Bool) (id : String) :
    ws.found evaluates (.field idField (.compare .eq (.text id))) true = ws.identified id := by
  rw [found_all, returned, List.filter_filter, identified]
  refine List.filter_congr fun numbered _ => ?_
  have haccepts :
      accepts evaluates (.field idField (.compare .eq (.text id))) numbered.2 = true := by
    cases evaluates <;> rfl
  have hmeans : ws.means (.field idField (.compare .eq (.text id))) numbered =
      (some (compare (countText numbered.1) id) == some .eq) := rfl
  rw [haccepts, hmeans, Bool.and_true]
  by_cases heq : countText numbered.1 = id
  · rw [heq, Std.ReflOrd.compare_self]
    simp
  · have hne : compare (countText numbered.1) id ≠ .eq := fun h =>
      heq (Std.LawfulEqOrd.eq_of_compare h)
    simp [heq, hne]

/-- A text that writes a position in another way is not the identity of a row. -/
theorem Respells.identified_eq_nil {id : String} (h : ws.Respells id)
    (hbound : ws.rows.length < wordBound) : ws.identified id = [] := by
  obtain ⟨position, -, -, hcount, hne⟩ := h
  refine ws.identified_eq_nil fun other _ hother heq => ?_
  rw [heq, count?_countText (Nat.lt_of_le_of_lt hother hbound)] at hcount
  exact hne (Option.some.inj hcount ▸ heq)

/-- The service finds a row for a text that writes its position. -/
theorem Respells.exists_rowIndex? {id : String} (h : ws.Respells id) :
    ∃ index, ws.rowIndex? id = some index := by
  obtain ⟨position, hpositive, hle, hcount, -⟩ := h
  refine ⟨position - 1, rowIndex?_eq_some_iff.2 ?_⟩
  rw [Nat.sub_add_cancel hpositive]
  exact ⟨hcount, hle⟩

/-- If the service finds no row for a text, the text is not the identity of a row. -/
theorem identified_eq_nil_of_rowIndex? {id : String} (hbound : ws.rows.length < wordBound)
    (h : ws.rowIndex? id = none) : ws.identified id = [] := by
  refine identified_eq_nil fun position hpositive hle heq => ?_
  rw [heq, rowIndex?_countText hbound ⟨hpositive, hle⟩] at h
  cases h

/-- If the service finds a row for a text that does not write its position in another way, the text
is the identity of that row. -/
theorem identified_of_rowIndex? {id : String} {index : Nat} (hspelling : ¬ws.Respells id)
    (h : ws.rowIndex? id = some index) : (ws.identified id).map Prod.fst = [index + 1] := by
  obtain ⟨hcount, hle⟩ := rowIndex?_eq_some_iff.1 h
  have hid : id = countText (index + 1) := Decidable.byContradiction fun hne =>
    hspelling ⟨index + 1, Nat.le_add_left 1 index, hle, hcount, hne⟩
  rw [hid]
  exact identified_countText ⟨Nat.le_add_left 1 index, hle⟩

/-- The rows that have an identity are one row, which is lost when the service deletes the row that
it finds for that identity. -/
theorem loses_identified {id : String} {index : Nat} (now : Instant) (hspelling : ¬ws.Respells id)
    (h : ws.rowIndex? id = some index) :
    (ws.identified id).length = 1 ∧
      ws.Loses ((ws.identified id).map fun found => ws.shown found.1 found.2)
        (ws.without index now) := by
  have hpositions := identified_of_rowIndex? hspelling h
  refine ⟨?_, ?_⟩
  · rw [← List.length_map Prod.fst, hpositions, List.length_singleton]
  · have hsublist : (ws.identified id).Sublist ws.numberedRows := List.filter_sublist
    have hloses := loses_withoutAll now hsublist
    rw [hpositions] at hloses
    exact hloses

end StoredWorksheet

namespace Client

variable {worksheet : WorksheetInfo} {c : Client MemorySheets} {ws : StoredWorksheet}

/-- A removal by a selector other than an identity deletes the rows that a find of all rows, or of
the first one, returns in the same state. It returns their number, and no other worksheet
changes. -/
theorem remove_loses_found (hc : c.Reached) (hids : c.service.ids.Reliable)
    (hcalm : c.service.faults = []) (hws : c.service.book.worksheet? worksheet = some ws)
    (hbound : ws.rows.length < wordBound) (clock : Clock) {selector : Filter}
    (hselector : selector.identity? = none) (justOne : Bool) :
    ∃ found c₁ ws' c₂,
      find clock worksheet selector { limit := if justOne then some 1 else none } c =
        (.ok found, c₁) ∧
      remove clock worksheet selector ⟨justOne⟩ c = (.ok found.length, c₂) ∧
      ws.Loses found ws' ∧ Moves worksheet c ws' c₂ := by
  have hoptions : ({ limit := if justOne then some 1 else none } : FindOptions) =
      allOrFirst !justOne := by cases justOne <;> rfl
  have hfind := ends_find hc.sound hids hws clock selector !justOne
  have hremove := ends_remove hc.sound hids hws hbound clock hselector justOne
  rcases hfound : find clock worksheet selector (allOrFirst !justOne) c with ⟨e | found, c₁⟩
  · exact absurd hcalm ((StoreM.ends_error hfound).1 hfind).2.2
  rcases hremoved : remove clock worksheet selector ⟨justOne⟩ c with ⟨e | n, c₂⟩
  · exact absurd hcalm ((StoreM.ends_error hremoved).1 hremove).1
  obtain ⟨-, -, rfl⟩ := hfind.of_ok hfound
  obtain ⟨rfl, hmoves⟩ := hremove.of_ok hremoved
  refine ⟨_, c₁, _, c₂, hoptions ▸ hfound, ?_, StoredWorksheet.loses_withoutAll clock.instant
    (ws.found_sublist c.service.engine.evaluates selector !justOne), hmoves⟩
  rw [List.length_map, List.length_map]

/-- The row with one text is removed, and the row with the other text has its position then. -/
theorem remove_loses_found_two : ∃ found c₁ ws' c₂,
    find sampleClock sampleInfo (.field "a" (.compare .eq (.text "x"))) {} holdingTwo =
      (.ok found, c₁) ∧
    remove sampleClock sampleInfo (.field "a" (.compare .eq (.text "x"))) {} holdingTwo =
      (.ok found.length, c₂) ∧
    sheetOfTwo.Loses found ws' ∧ Moves sampleInfo holdingTwo ws' c₂ := by
  have hreached : holdingTwo.Reached := reached_holding _
  have hcalm : holdingTwo.service.faults = [] := by decide +kernel
  have hbound : sheetOfTwo.rows.length < wordBound := by decide
  exact remove_loses_found hreached reliable_holdingTwo hcalm worksheet?_holdingTwo hbound
    sampleClock rfl false

/-! ### Removing by an identity -/

/-- The document that demands an identity and nothing else. -/
def identityDocument (id : String) : Json := .object [(idField, .text id)]

/-- Whether the removal by an identity deletes the rows that a find by it returns in the same state,
and returns their number. It may fail if there are none, and then nothing changes. -/
def RemovesFound (c : Client MemorySheets) (clock : Clock) (worksheet : WorksheetInfo)
    (ws : StoredWorksheet) (id : String) (options : RemoveOptions) : Prop :=
  ∃ found c₁, findDocument clock worksheet (identityDocument id) {} c = (.ok found, c₁) ∧
    StoreM.Ends (removeDocument clock worksheet (identityDocument id) options) c
      (fun n c' => n = found.length ∧ ∃ ws', ws.Loses found ws' ∧ Moves worksheet c ws' c')
      (fun _ c' => found = [] ∧ Moves worksheet c ws c')

/-- A find by an identity returns the row that has it. -/
theorem findDocument_identity (hc : c.Reached) (hids : c.service.ids.Reliable)
    (hcalm : c.service.faults = [])
    (hws : c.service.book.worksheet? worksheet = some ws) (clock : Clock) (id : String) :
    ∃ c₁, findDocument clock worksheet (identityDocument id) {} c =
      (.ok ((ws.identified id).map fun found => ws.shown found.1 found.2), c₁) := by
  have hfind : StoreM.Ends (findDocument clock worksheet (identityDocument id) {}) c _ _ :=
    ends_find hc.sound hids hws clock (.field idField (.compare .eq (.text id))) true
  rcases hfound : findDocument clock worksheet (identityDocument id) {} c with ⟨e | found, c₁⟩
  · exact absurd hcalm ((StoreM.ends_error hfound).1 hfind).2.2
  · obtain ⟨-, -, rfl⟩ := hfind.of_ok hfound
    rw [ws.found_identity]
    exact ⟨c₁, rfl⟩

/-- A removal by an identity deletes the row that the service finds for its text. -/
theorem ends_removeDocument_identity (hws : c.service.book.worksheet? worksheet = some ws)
    (clock : Clock) (id : String) (options : RemoveOptions) :
    StoreM.Ends (removeDocument clock worksheet (identityDocument id) options) c
      (fun n c' => n = 1 ∧ ∃ index, ws.rowIndex? id = some index ∧
        Moves worksheet c (ws.without index clock.instant) c')
      (fun _ c' => Moves worksheet c ws c' ∧
        (c.service.faults ≠ [] ∨ ws.rowIndex? id = none)) :=
  ends_deleteRows_singleton hws clock id

/-- A find by a text that writes a position in another way returns no row, but the removal by it
deletes one. -/
theorem not_removesFound_of_respells (hc : c.Reached) (hids : c.service.ids.Reliable)
    (hcalm : c.service.faults = [])
    (hws : c.service.book.worksheet? worksheet = some ws) (hbound : ws.rows.length < wordBound)
    {id : String} (hspelling : ws.Respells id) (clock : Clock) (options : RemoveOptions) :
    ¬RemovesFound c clock worksheet ws id options := by
  rintro ⟨found, c₁, hfound, hends⟩
  obtain ⟨c₂, hfind⟩ := findDocument_identity hc hids hcalm hws clock id
  rw [hfound, hspelling.identified_eq_nil hbound] at hfind
  cases hfind
  have hremove := ends_removeDocument_identity hws clock id options
  rcases hremoved : removeDocument clock worksheet (identityDocument id) options c with ⟨e | n, c₂⟩
  · obtain ⟨-, hfaults | hnone⟩ := (StoreM.ends_error hremoved).1 hremove
    · exact hfaults hcalm
    · obtain ⟨index, hindex⟩ := hspelling.exists_rowIndex?
      rw [hindex] at hnone
      cases hnone
  · obtain ⟨rfl, -⟩ := hremove.of_ok hremoved
    obtain ⟨hlength, -⟩ := hends.of_ok hremoved
    cases hlength

/-- Every other removal by an identity deletes what the find returns. -/
theorem removesFound_of_not_respells (hc : c.Reached) (hids : c.service.ids.Reliable)
    (hcalm : c.service.faults = [])
    (hws : c.service.book.worksheet? worksheet = some ws) (hbound : ws.rows.length < wordBound)
    {id : String} (hspelling : ¬ws.Respells id) (clock : Clock) (options : RemoveOptions) :
    RemovesFound c clock worksheet ws id options := by
  obtain ⟨c₁, hfind⟩ := findDocument_identity hc hids hcalm hws clock id
  refine ⟨_, c₁, hfind, (ends_removeDocument_identity hws clock id options).mono ?_ ?_⟩
  · rintro n c' ⟨rfl, index, hindex, hmoves⟩
    obtain ⟨hlength, hloses⟩ := StoredWorksheet.loses_identified clock.instant hspelling hindex
    refine ⟨?_, _, hloses, hmoves⟩
    rw [List.length_map, hlength]
  · rintro e c' ⟨hmoves, hfaults | hindex⟩
    · exact absurd hcalm hfaults
    · refine ⟨?_, hmoves⟩
      rw [StoredWorksheet.identified_eq_nil_of_rowIndex? hbound hindex, List.map_nil]

/-- A find by an identity returns the row that has it. The removal by the identity deletes what the
find returns exactly if the text does not write the position of a row in another way. -/
theorem removesFound_iff (hc : c.Reached) (hids : c.service.ids.Reliable)
    (hcalm : c.service.faults = [])
    (hws : c.service.book.worksheet? worksheet = some ws) (hbound : ws.rows.length < wordBound)
    (clock : Clock) (id : String) (options : RemoveOptions) :
    (∃ c₁, findDocument clock worksheet (identityDocument id) {} c =
      (.ok ((ws.identified id).map fun found => ws.shown found.1 found.2), c₁)) ∧
      (RemovesFound c clock worksheet ws id options ↔ ¬ws.Respells id) := by
  refine ⟨findDocument_identity hc hids hcalm hws clock id, fun hremoves hspelling => ?_,
    fun hspelling => removesFound_of_not_respells hc hids hcalm hws hbound hspelling clock options⟩
  exact not_removesFound_of_respells hc hids hcalm hws hbound hspelling clock options hremoves

/-- The second row is found and removed by its identity, and removed but not found by a text with a
leading zero. -/
theorem removesFound_two :
    RemovesFound holdingTwo sampleClock sampleInfo sheetOfTwo "2" {} ∧
      ¬RemovesFound holdingTwo sampleClock sampleInfo sheetOfTwo "02" {} := by
  have hreached : holdingTwo.Reached := reached_holding _
  have hcalm : holdingTwo.service.faults = [] := by decide +kernel
  have hbound : sheetOfTwo.rows.length < wordBound := by decide
  have hcanonical : ¬sheetOfTwo.Respells "2" := by
    rintro ⟨position, -, -, hcount, hne⟩
    have htwo : count? "2" = some 2 := by decide
    rw [htwo] at hcount
    exact hne (Option.some.inj hcount ▸ by decide)
  have hother : sheetOfTwo.Respells "02" := ⟨2, by decide, by decide, by decide, by decide⟩
  exact ⟨(removesFound_iff hreached reliable_holdingTwo hcalm worksheet?_holdingTwo hbound
      sampleClock "2" {}).2.2 hcanonical,
    fun h => (removesFound_iff hreached reliable_holdingTwo hcalm worksheet?_holdingTwo hbound
      sampleClock "02" {}).2.1 h hother⟩

/-- Not every removal by an identity deletes what a find by it returns: the find returns no row, and
the removal deletes the first one. -/
theorem exists_removed_not_found :
    ∃ (c : Client MemorySheets) (ws ws' : StoredWorksheet) (id : String),
      c.Reached ∧ c.service.ids.Reliable ∧ c.service.faults = [] ∧
      c.service.book.worksheet? sampleInfo = some ws ∧
      (findDocument sampleClock sampleInfo (identityDocument id) {} c).1.toOption = some [] ∧
      (removeDocument sampleClock sampleInfo (identityDocument id) {} c).1.toOption = some 1 ∧
      (removeDocument sampleClock sampleInfo (identityDocument id) {} c).2.service.book.worksheet?
        sampleInfo = some ws' ∧
      ws.rows.length = 2 ∧ ws'.rows = ws.rows.drop 1 := by
  have hcalm : holdingTwo.service.faults = [] := by decide +kernel
  have hfind : (findDocument sampleClock sampleInfo (identityDocument "01") {}
      holdingTwo).1.toOption = some [] := by decide +kernel
  have hremove : (removeDocument sampleClock sampleInfo (identityDocument "01") {}
      holdingTwo).1.toOption = some 1 := by decide +kernel
  have hws : (removeDocument sampleClock sampleInfo (identityDocument "01") {}
      holdingTwo).2.service.book.worksheet? sampleInfo =
        some (sheetOfTwo.without 0 sampleClock.instant) := by decide +kernel
  exact ⟨holdingTwo, sheetOfTwo, _, "01", reached_holding _, reliable_holdingTwo, hcalm,
    worksheet?_holdingTwo, hfind, hremove, hws, rfl, rfl⟩

end Client

end GridStore
