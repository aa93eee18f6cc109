import GridStore.Proofs.Workbook.Changes
import GridStore.Proofs.Workbook.Found

/-!
# Deleted rows

Every row below a deleted one gets a new position. Rows that are deleted from the bottom up leave
the positions of those still to be deleted as they are, so that the rows at all other positions
remain. If a position is repeated, the next row below has moved there and is deleted as well.

## Main definitions

* `eraseAll`: a list without the elements at positions.
* `RepeatsAfter`: whether the first position that is repeated comes after some others.
* `StoredWorksheet.withoutAll`: the worksheet with rows deleted one after another.
* `StoredWorksheet.left`: the rows that are left, with the positions that they had.
* `StoredWorksheet.remaining`: the rows that do not stand at given positions.

## Main results

* `StoredWorksheet.left_eq_remaining`: what is left if rows are deleted from the bottom up.
* `StoredWorksheet.rows_withoutAll`: these rows are those of the worksheet.
* `StoredWorksheet.not_mem_left`: no row at one of the positions is left.
* `StoredWorksheet.deleted_named_iff`: a row at none of the positions is deleted exactly if one is
  repeated.
* `StoredWorksheet.shown_renumbered`: how remaining rows are shown at their new positions.
-/

namespace GridStore

/-! ### Lists without an element -/

/-- A list without the elements at positions, which are counted from 1 on, erased one after
another. -/
def eraseAll {α : Type} (xs : List α) : List Nat → List α
  | [] => xs
  | position :: rest => eraseAll (xs.eraseIdx (position - 1)) rest

/-- Whether a list of a length has an element at each position when its turn comes. -/
def Erasable : Nat → List Nat → Prop
  | _, [] => True
  | length, position :: rest => position ≤ length ∧ Erasable (length - 1) rest

section

variable {α β : Type} {xs : List α} {positions later : List Nat}

theorem eraseAll_append (xs : List α) (positions later : List Nat) :
    eraseAll xs (positions ++ later) = eraseAll (eraseAll xs positions) later := by
  induction positions generalizing xs with
  | nil => rfl
  | cons position rest ih => exact ih _

theorem eraseAll_sublist (xs : List α) (positions : List Nat) :
    (eraseAll xs positions).Sublist xs := by
  induction positions generalizing xs with
  | nil => exact .refl _
  | cons position rest ih => exact (ih _).trans (List.eraseIdx_sublist ..)

theorem map_eraseAll (f : α → β) (xs : List α) (positions : List Nat) :
    (eraseAll xs positions).map f = eraseAll (xs.map f) positions := by
  induction positions generalizing xs with
  | nil => rfl
  | cons position rest ih =>
    have hmap : (xs.eraseIdx (position - 1)).map f = (xs.map f).eraseIdx (position - 1) := by
      rw [List.eraseIdx_eq_take_drop_succ, List.eraseIdx_eq_take_drop_succ, List.map_append,
        List.map_take, List.map_drop]
    rw [eraseAll, eraseAll, ih, hmap]

/-- Above all positions elements keep their places. -/
theorem getElem?_eraseAll {index : Nat} (habove : ∀ position ∈ positions, index + 1 < position) :
    (eraseAll xs positions)[index]? = xs[index]? := by
  induction positions generalizing xs with
  | nil => rfl
  | cons position rest ih =>
    obtain ⟨hposition, hrest⟩ := List.forall_mem_cons.1 habove
    rw [eraseAll, ih hrest, List.getElem?_eraseIdx_of_lt (Nat.lt_sub_of_add_lt hposition)]

theorem erasable_append {length : Nat} : Erasable length (positions ++ later) ↔
    Erasable length positions ∧ Erasable (length - positions.length) later := by
  induction positions generalizing length with
  | nil => exact (and_iff_right trivial).symm
  | cons position rest ih =>
    rw [List.cons_append, Erasable, Erasable, ih, List.length_cons, Nat.sub_sub, Nat.add_comm 1,
      and_assoc]

/-- From the bottom up all elements can be erased. -/
theorem erasable_of_descending {length : Nat} (hdescending : positions.Pairwise (· > ·))
    (hpositions : ∀ position ∈ positions, position ≤ length) : Erasable length positions := by
  induction positions generalizing length with
  | nil => trivial
  | cons position rest ih =>
    obtain ⟨hbelow, hrest⟩ := List.pairwise_cons.1 hdescending
    have hposition := hpositions position (List.mem_cons_self ..)
    refine ⟨hposition, ih hrest fun other hother => ?_⟩
    have := hbelow other hother
    omega

theorem length_eraseAll (herasable : Erasable xs.length positions)
    (hpositive : ∀ position ∈ positions, 1 ≤ position) :
    (eraseAll xs positions).length + positions.length = xs.length := by
  induction positions generalizing xs with
  | nil => rfl
  | cons position rest ih =>
    obtain ⟨hposition, hrest⟩ := herasable
    obtain ⟨hpositive, hothers⟩ := List.forall_mem_cons.1 hpositive
    have hlength : (xs.eraseIdx (position - 1)).length = xs.length - 1 :=
      List.length_eraseIdx_of_lt (Nat.sub_one_lt_of_le hpositive hposition)
    have hleft := ih (hlength.symm ▸ hrest) hothers
    rw [eraseAll, List.length_cons]
    omega

/-- An element of a list without repetitions is gone when it is erased. -/
theorem not_mem_eraseIdx {x : α} {index : Nat} (hnodup : xs.Nodup) (h : xs[index]? = some x) :
    x ∉ xs.eraseIdx index := by
  intro hmem
  obtain ⟨other, hne, hother⟩ := List.mem_eraseIdx_iff_getElem?.1 hmem
  have hindex : index < xs.length := (List.getElem?_eq_some_iff.1 h).1
  exact hne ((List.getElem?_inj hindex hnodup).1 (h.trans hother.symm)).symm

/-- The elements of an increasing list of numbers grow at least as fast as their indices. -/
theorem add_le_of_getElem? {numbers : List Nat} (hincreasing : numbers.Pairwise (· < ·))
    {start : Nat} (hstart : ∀ n ∈ numbers, start ≤ n) {index n : Nat}
    (h : numbers[index]? = some n) : start + index ≤ n := by
  induction numbers generalizing start index with
  | nil => cases h
  | cons first rest ih =>
    obtain ⟨hfirst, hrest⟩ := List.pairwise_cons.1 hincreasing
    have hle := hstart first (List.mem_cons_self ..)
    cases index with
    | zero =>
      cases h
      exact hle
    | succ index =>
      have hnext : first + 1 + index ≤ n := ih hrest hfirst h
      omega

/-- Without the element at an index, the elements at indices other than some smaller ones are those
at indices other than these and that index. -/
theorem map_filter_zipIdx_eraseIdx (xs : List α) (start index : Nat) (others : List Nat)
    (hindex : index < xs.length) (hothers : ∀ other ∈ others, other < start + index) :
    (((xs.eraseIdx index).zipIdx start).filter fun x => x.2 ∉ others).map Prod.fst =
      ((xs.zipIdx start).filter fun x => x.2 ∉ (start + index) :: others).map Prod.fst := by
  induction xs generalizing start index with
  | nil => cases hindex
  | cons x rest ih =>
    cases index with
    | zero =>
      have hkept : ∀ (later : Nat) (removed : List Nat), (∀ other ∈ removed, other < later) →
          ((rest.zipIdx later).filter fun y => y.2 ∉ removed) = rest.zipIdx later := by
        intro later removed hremoved
        refine List.filter_eq_self.2 fun y hy => decide_eq_true fun hmem => ?_
        exact Nat.lt_irrefl _ (Nat.lt_of_lt_of_le (hremoved _ hmem) (List.le_snd_of_mem_zipIdx hy))
      have hlater : ∀ other ∈ start :: others, other < start + 1 := List.forall_mem_cons.2
        ⟨Nat.lt_succ_self start, fun other hother => Nat.lt_succ_of_lt (hothers other hother)⟩
      rw [List.eraseIdx_cons_zero, hkept start others hothers, List.zipIdx_map_fst, Nat.add_zero,
        List.zipIdx_cons, List.filter_cons_of_neg (by simp), hkept (start + 1) _ hlater,
        List.zipIdx_map_fst]
    | succ index =>
      have hnext := ih (start + 1) index (Nat.lt_of_succ_lt_succ hindex) fun other hother => by
        have := hothers other hother
        omega
      rw [Nat.add_right_comm, Nat.add_assoc] at hnext
      have hfirst : start ∉ (start + (index + 1)) :: others ↔ start ∉ others := by
        simp
      rw [List.eraseIdx_cons_succ, List.zipIdx_cons, List.zipIdx_cons, List.filter_cons,
        List.filter_cons]
      simp only [hfirst]
      split
      · rw [List.map_cons, List.map_cons, hnext]
      · exact hnext

/-- Erasing elements from the bottom up leaves the elements at all other positions. -/
theorem eraseAll_of_descending (hdescending : positions.Pairwise (· > ·))
    (hpositions : ∀ position ∈ positions, 1 ≤ position ∧ position ≤ xs.length) :
    eraseAll xs positions =
      ((xs.zipIdx 1).filter fun x => x.2 ∉ positions).map Prod.fst := by
  induction positions generalizing xs with
  | nil =>
    have hall : (xs.zipIdx 1).filter (fun x => x.2 ∉ []) = xs.zipIdx 1 :=
      List.filter_eq_self.2 fun _ _ => decide_eq_true List.not_mem_nil
    rw [hall, List.zipIdx_map_fst, eraseAll]
  | cons position rest ih =>
    obtain ⟨hbelow, hrest⟩ := List.pairwise_cons.1 hdescending
    obtain ⟨hposition, hothers⟩ := List.forall_mem_cons.1 hpositions
    have hindex : position - 1 < xs.length := Nat.sub_one_lt_of_le hposition.1 hposition.2
    have hsplit : 1 + (position - 1) = position := Nat.add_sub_cancel' hposition.1
    have herase := map_filter_zipIdx_eraseIdx xs 1 (position - 1) rest hindex (by rwa [hsplit])
    rw [hsplit] at herase
    rw [eraseAll, ih hrest fun other hother => ?_, herase]
    have := hbelow other hother
    have := hothers other hother
    rw [List.length_eraseIdx_of_lt hindex]
    omega

end

/-! ### Repeated positions -/

/-- Whether descending positions start with distinct ones down to one that is repeated. -/
def RepeatsAfter (positions distinct : List Nat) (position : Nat) : Prop :=
  (distinct ++ [position]).Pairwise (· > ·) ∧ distinct ++ [position, position] <+: positions

section

variable {positions distinct : List Nat} {position : Nat}

theorem RepeatsAfter.not_descending (h : RepeatsAfter positions distinct position) :
    ¬positions.Pairwise (· > ·) := fun hdescending => by
  have hpair := (hdescending.sublist h.2.sublist).sublist (List.sublist_append_right ..)
  exact Nat.lt_irrefl _ (List.rel_of_pairwise_cons hpair (List.mem_singleton_self _))

theorem RepeatsAfter.above (h : RepeatsAfter positions distinct position) :
    ∀ other ∈ distinct, position < other := fun other hother =>
  (List.pairwise_append.1 h.1).2.2 other hother position (List.mem_singleton_self _)

/-- What comes after the distinct positions does not stand below the repeated one. -/
theorem RepeatsAfter.exists_append (h : RepeatsAfter positions distinct position)
    (hsorted : positions.Pairwise (· ≥ ·)) :
    ∃ others, positions = distinct ++ others ∧ ∀ other ∈ others, other ≤ position := by
  obtain ⟨rest, hrest⟩ := h.2
  rw [List.append_assoc] at hrest
  rw [← hrest] at hsorted
  refine ⟨position :: position :: rest, hrest.symm, List.forall_mem_cons.2 ⟨Nat.le_refl _, ?_⟩⟩
  exact fun other => List.rel_of_pairwise_cons (List.pairwise_append.1 hsorted).2.1

theorem RepeatsAfter.subset (h : RepeatsAfter positions distinct position) :
    distinct ++ [position] ⊆ positions := fun other hother => by
  refine h.2.subset ?_
  rw [List.append_cons]
  exact List.mem_append_left _ hother

theorem RepeatsAfter.two_le_count (h : RepeatsAfter positions distinct position) :
    2 ≤ positions.count position := by
  refine Nat.le_trans ?_ (h.2.sublist.count_le position)
  rw [List.count_append, List.count_cons_self, List.count_cons_self]
  exact Nat.le_add_left ..

/-- Below the first repeated position there are only the distinct ones before it. -/
theorem RepeatsAfter.count_of_lt (h : RepeatsAfter positions distinct position)
    (hsorted : positions.Pairwise (· ≥ ·)) {later : Nat} (hlater : position < later) :
    positions.count later = distinct.count later := by
  obtain ⟨others, rfl, hothers⟩ := h.exists_append hsorted
  have hnone : later ∉ others := fun hmem => Nat.not_le.2 hlater (hothers later hmem)
  rw [List.count_append, List.count_eq_zero.2 hnone, Nat.add_zero]

theorem RepeatsAfter.countP_lt (h : RepeatsAfter positions distinct position)
    (hsorted : positions.Pairwise (· ≥ ·)) :
    positions.countP (fun later => position < later) = distinct.length := by
  obtain ⟨others, rfl, hothers⟩ := h.exists_append hsorted
  have hall : distinct.countP (fun later => position < later) = distinct.length :=
    List.countP_eq_length.2 fun other hother => decide_eq_true (h.above other hother)
  have hnone : others.countP (fun later => position < later) = 0 :=
    List.countP_eq_zero.2 fun other hother hlater =>
      Nat.not_le.2 (of_decide_eq_true hlater) (hothers other hother)
  rw [List.countP_append, hall, hnone, Nat.add_zero]

/-- Descending positions are distinct, or one of them is the first to be repeated. -/
theorem descending_or_repeatsAfter (hsorted : positions.Pairwise (· ≥ ·)) :
    positions.Pairwise (· > ·) ∨ ∃ distinct position, RepeatsAfter positions distinct position := by
  induction positions with
  | nil => exact .inl .nil
  | cons first rest ih =>
    obtain ⟨hfirst, hrest⟩ := List.pairwise_cons.1 hsorted
    cases rest with
    | nil => exact .inl (List.pairwise_singleton ..)
    | cons second rest =>
      by_cases heq : first = second
      · subst heq
        exact .inr ⟨[], first, List.pairwise_singleton .., rest, rfl⟩
      · have habove : ∀ other ∈ second :: rest, first > other := fun other hother => by
          have hsecond := hfirst second (List.mem_cons_self ..)
          obtain rfl | hother := List.mem_cons.1 hother
          · omega
          · have := List.rel_of_pairwise_cons hrest hother
            omega
        refine (ih hrest).imp (List.pairwise_cons.2 ⟨habove, ·⟩) ?_
        rintro ⟨distinct, position, hdistinct, hstart⟩
        refine ⟨first :: distinct, position, List.pairwise_cons.2 ⟨fun other hother => ?_,
          hdistinct⟩, (List.prefix_cons_inj first).2 hstart⟩
        refine habove other (hstart.subset ?_)
        rw [List.append_cons]
        exact List.mem_append_left _ hother

theorem descending_iff_not_repeatsAfter (hsorted : positions.Pairwise (· ≥ ·)) :
    positions.Pairwise (· > ·) ↔ ¬∃ distinct position, RepeatsAfter positions distinct position :=
  ⟨fun hdescending ⟨_, _, h⟩ => h.not_descending hdescending,
    (descending_or_repeatsAfter hsorted).resolve_right⟩

/-- The first position to be repeated is the last one that is there more than once. -/
theorem exists_repeatsAfter_iff (hsorted : positions.Pairwise (· ≥ ·)) :
    (∃ distinct, RepeatsAfter positions distinct position) ↔
      2 ≤ positions.count position ∧ ∀ later, position < later → positions.count later ≤ 1 := by
  have hcount : ∀ {xs : List Nat} {x : Nat}, xs.Pairwise (· > ·) → xs.count x ≤ 1 :=
    fun h => List.nodup_iff_count.1 (h.imp Nat.ne_of_gt) _
  constructor
  · rintro ⟨distinct, hrepeats⟩
    refine ⟨hrepeats.two_le_count, fun later hlater => ?_⟩
    rw [hrepeats.count_of_lt hsorted hlater]
    exact hcount (List.pairwise_append.1 hrepeats.1).1
  · rintro ⟨htwice, honce⟩
    obtain hdescending | ⟨distinct, first, hrepeats⟩ := descending_or_repeatsAfter hsorted
    · exact absurd (hcount hdescending) (Nat.not_le.2 htwice)
    · have hle : first ≤ position := Nat.not_lt.1 fun hlt =>
        absurd (honce first hlt) (Nat.not_le.2 hrepeats.two_le_count)
      obtain rfl | hlt := Nat.eq_or_lt_of_le hle
      · exact ⟨distinct, hrepeats⟩
      · rw [hrepeats.count_of_lt hsorted hlt] at htwice
        exact absurd (hcount (List.pairwise_append.1 hrepeats.1).1) (Nat.not_le.2 htwice)

end

namespace StoredWorksheet

variable {ws ws' : StoredWorksheet} {now : Instant}

/-- The worksheet with the rows at positions deleted, one after another. -/
def withoutAll (ws : StoredWorksheet) (now : Instant) : List Nat → StoredWorksheet
  | [] => ws
  | position :: rest => (ws.without (position - 1) now).withoutAll now rest

/-- The rows that are left when the rows at positions are deleted, one after another, with the
positions that they had before. -/
def left (ws : StoredWorksheet) (positions : List Nat) : List (Nat × StoredRow) :=
  eraseAll ws.numberedRows positions

/-- The rows, with their positions, that do not stand at given positions. -/
def remaining (ws : StoredWorksheet) (positions : List Nat) : List (Nat × StoredRow) :=
  ws.numberedRows.filter fun numbered => numbered.1 ∉ positions

theorem length_without {position : Nat} (now : Instant)
    (hposition : 1 ≤ position ∧ position ≤ ws.rows.length) :
    (ws.without (position - 1) now).rows.length = ws.rows.length - 1 :=
  List.length_eraseIdx_of_lt (Nat.sub_one_lt_of_le hposition.1 hposition.2)

theorem map_snd_numberedRows (ws : StoredWorksheet) : ws.numberedRows.map Prod.snd = ws.rows := by
  rw [numberedRows_eq, List.map_map]
  exact List.zipIdx_map_fst 1 ws.rows

theorem getElem?_numberedRows (ws : StoredWorksheet) (index : Nat) :
    ws.numberedRows[index]? = ws.rows[index]?.map fun row => (index + 1, row) := by
  rw [numberedRows_eq, List.getElem?_map, List.getElem?_zipIdx, Option.map_map, Nat.add_comm 1]
  rfl

theorem getElem?_of_mem_numberedRows {row : Nat × StoredRow} (h : row ∈ ws.numberedRows) :
    ws.numberedRows[row.1 - 1]? = some row := by
  obtain ⟨hposition, hrow⟩ := mem_numberedRows.1 h
  rw [getElem?_numberedRows, hrow, Option.map_some, Nat.sub_add_cancel hposition]

theorem nodup_numberedRows (ws : StoredWorksheet) : ws.numberedRows.Nodup :=
  List.Pairwise.of_map Prod.fst (fun _ _ hne heq => hne (congrArg Prod.fst heq))
    (map_fst_numberedRows ws ▸ List.nodup_range')

theorem length_numberedRows (ws : StoredWorksheet) : ws.numberedRows.length = ws.rows.length := by
  rw [← map_snd_numberedRows, List.length_map]

/-! ### Rows that are left -/

theorem left_sublist (ws : StoredWorksheet) (positions : List Nat) :
    (ws.left positions).Sublist ws.numberedRows := eraseAll_sublist ..

theorem nodup_left (ws : StoredWorksheet) (positions : List Nat) : (ws.left positions).Nodup :=
  ws.nodup_numberedRows.sublist (ws.left_sublist positions)

/-- More deletions leave fewer rows. -/
theorem left_append_sublist (ws : StoredWorksheet) (positions later : List Nat) :
    (ws.left (positions ++ later)).Sublist (ws.left positions) := by
  rw [left, eraseAll_append]
  exact eraseAll_sublist ..

theorem length_left {positions : List Nat} (herasable : Erasable ws.rows.length positions)
    (hpositive : ∀ position ∈ positions, 1 ≤ position) :
    (ws.left positions).length + positions.length = ws.rows.length := by
  rw [← length_numberedRows] at herasable ⊢
  exact length_eraseAll herasable hpositive

/-- A row that is left stands at most as far down as it did. -/
theorem lt_of_getElem?_left {positions : List Nat} {index : Nat} {row : Nat × StoredRow}
    (h : (ws.left positions)[index]? = some row) : index < row.1 := by
  have hpositive : ∀ position ∈ (ws.left positions).map Prod.fst, 1 ≤ position := by
    intro position hposition
    obtain ⟨numbered, hmem, rfl⟩ := List.mem_map.1 hposition
    exact (mem_numberedRows.1 ((ws.left_sublist positions).subset hmem)).1
  have hbound := add_le_of_getElem? (pairwise_positions (ws.left_sublist positions)) hpositive
    (by rw [List.getElem?_map, h, Option.map_some])
  omega

/-- If rows are deleted from the bottom up, no row at one of the positions is left. -/
theorem not_mem_left {positions : List Nat} (hsorted : positions.Pairwise (· ≥ ·))
    (hpositive : ∀ position ∈ positions, 1 ≤ position) {row : Nat × StoredRow}
    (hrow : row ∈ ws.left positions) : row.1 ∉ positions := by
  intro hmem
  -- Before the first deletion at the position of the row only rows below it are deleted.
  obtain ⟨before, later, rfl, hnew⟩ := List.eq_append_cons_of_mem hmem
  have habove : ∀ position ∈ before, row.1 - 1 + 1 < position := fun position hposition => by
    have hpositive := hpositive row.1 hmem
    have hle := (List.pairwise_append.1 hsorted).2.2 position hposition row.1
      (List.mem_cons_self ..)
    have hne : position ≠ row.1 := fun heq => hnew (heq ▸ hposition)
    omega
  have hthere : (ws.left before)[row.1 - 1]? = some row :=
    (getElem?_eraseAll habove).trans (getElem?_of_mem_numberedRows ((left_sublist ..).subset hrow))
  rw [List.append_cons] at hrow
  have hleft := (ws.left_append_sublist _ later).subset hrow
  rw [left, eraseAll_append] at hleft
  exact not_mem_eraseIdx (ws.nodup_left before) hthere hleft

theorem rows_withoutAll_eq_eraseAll (now : Instant) (positions : List Nat) :
    (ws.withoutAll now positions).rows = eraseAll ws.rows positions := by
  induction positions generalizing ws with
  | nil => rfl
  | cons position rest ih => exact ih

/-- The rows that are left are those of the worksheet without the others. -/
theorem map_snd_left (now : Instant) (positions : List Nat) :
    (ws.left positions).map Prod.snd = (ws.withoutAll now positions).rows := by
  rw [left, map_eraseAll, map_snd_numberedRows, rows_withoutAll_eq_eraseAll]

/-- Rows that are deleted from the bottom up leave the rows at all other positions, where they
were. -/
theorem left_eq_remaining {positions : List Nat} (hdescending : positions.Pairwise (· > ·))
    (hpositions : ∀ position ∈ positions, 1 ≤ position ∧ position ≤ ws.rows.length) :
    ws.left positions = ws.remaining positions := by
  have hnumbers : ∀ (rows : List StoredRow) (start : Nat),
      ((rows.zipIdx start).map Prod.swap).zipIdx start =
        ((rows.zipIdx start).map Prod.swap).map fun numbered => (numbered, numbered.1) := by
    intro rows
    induction rows with
    | nil => exact fun _ => rfl
    | cons row rest ih =>
      intro start
      simp only [List.zipIdx_cons, List.map_cons, ih]
      rfl
  rw [left, eraseAll_of_descending hdescending (by rwa [length_numberedRows]), numberedRows_eq,
    hnumbers, List.filter_map, List.map_map, remaining, numberedRows_eq]
  exact List.map_id _

/-- Rows that are deleted from the bottom up leave the rows at all other positions. -/
theorem rows_withoutAll (now : Instant) {positions : List Nat}
    (hdescending : positions.Pairwise (· > ·))
    (hpositions : ∀ position ∈ positions, 1 ≤ position ∧ position ≤ ws.rows.length) :
    (ws.withoutAll now positions).rows = (ws.remaining positions).map Prod.snd := by
  rw [← map_snd_left, left_eq_remaining hdescending hpositions]

/-- Rows that are deleted from the bottom up are all deleted. -/
theorem length_withoutAll (now : Instant) {positions : List Nat}
    (hdescending : positions.Pairwise (· > ·))
    (hpositions : ∀ position ∈ positions, 1 ≤ position ∧ position ≤ ws.rows.length) :
    (ws.withoutAll now positions).rows.length + positions.length = ws.rows.length := by
  rw [← map_snd_left, List.length_map]
  exact length_left (erasable_of_descending hdescending fun position hmem =>
    (hpositions position hmem).2) fun position hmem => (hpositions position hmem).1

/-! ### Rows at repeated positions -/

section

variable {positions distinct : List Nat} {position : Nat}

/-- When a row is to be deleted at the first repeated position, the next row below that stands at
none of the positions has moved there. -/
theorem exists_getElem?_left (hdescending : (distinct ++ [position]).Pairwise (· > ·))
    (hpositions : ∀ other ∈ distinct ++ [position], 1 ≤ other ∧ other ≤ ws.rows.length)
    (herasable : Erasable ws.rows.length (distinct ++ [position, position])) :
    ∃ row, (ws.left (distinct ++ [position]))[position - 1]? = some row ∧ position < row.1 ∧
      row.1 ∉ distinct := by
  rw [List.append_cons, erasable_append] at herasable
  have hpositive := (hpositions position (List.mem_append_right _ (List.mem_singleton_self _))).1
  have hlength := length_left herasable.1 fun other hother => (hpositions other hother).1
  have hthere : position - 1 < (ws.left (distinct ++ [position])).length :=
    Nat.sub_one_lt_of_le hpositive (Nat.le_trans herasable.2.1 (Nat.sub_le_of_le_add
      (Nat.le_of_eq hlength.symm)))
  refine ⟨_, List.getElem?_eq_getElem hthere, ?_⟩
  have hmem := List.getElem_mem hthere
  have hbound := lt_of_getElem?_left (List.getElem?_eq_getElem hthere)
  have hnew := not_mem_left (hdescending.imp Nat.le_of_lt) (fun other hother =>
    (hpositions other hother).1) hmem
  simp only [List.mem_append, List.mem_singleton, not_or] at hnew
  refine ⟨?_, hnew.1⟩
  have := hnew.2
  omega

/-- There is a row to be deleted at the first repeated position exactly if a row below stands at
none of the positions. -/
theorem erasable_repeated_iff (hdescending : (distinct ++ [position]).Pairwise (· > ·))
    (hpositions : ∀ other ∈ distinct ++ [position], 1 ≤ other ∧ other ≤ ws.rows.length) :
    Erasable ws.rows.length (distinct ++ [position, position]) ↔
      ∃ row ∈ ws.numberedRows, position < row.1 ∧ row.1 ∉ distinct := by
  constructor
  · intro herasable
    obtain ⟨row, hrow, hbelow⟩ := exists_getElem?_left hdescending hpositions herasable
    exact ⟨row, (left_sublist ..).subset (List.mem_of_getElem? hrow), hbelow⟩
  · rintro ⟨row, hrow, hbelow, hnew⟩
    have herasable := erasable_of_descending hdescending fun other hother =>
      (hpositions other hother).2
    have hleft : row ∈ ws.left (distinct ++ [position]) := by
      rw [left_eq_remaining hdescending hpositions]
      refine List.mem_filter.2 ⟨hrow, decide_eq_true fun hmem => ?_⟩
      obtain hold | heq := List.mem_append.1 hmem
      · exact hnew hold
      · exact Nat.ne_of_gt hbelow (List.mem_singleton.1 heq)
    obtain ⟨index, hindex⟩ := List.getElem?_of_mem hleft
    -- The rows above the repeated position stand where they did, so this one is not among them.
    have hlast : ∀ other ∈ distinct ++ [position], position ≤ other := by
      have hdistinct := (List.pairwise_append.1 hdescending).2.2
      refine List.forall_mem_append.2 ⟨fun other hother => ?_, by simp⟩
      exact Nat.le_of_lt (hdistinct other hother position (List.mem_singleton_self _))
    have hplace : position ≤ index + 1 := Nat.not_lt.1 fun habove => by
      have hsame : (ws.left (distinct ++ [position]))[index]? = ws.numberedRows[index]? :=
        getElem?_eraseAll fun other hother => Nat.lt_of_lt_of_le habove (hlast other hother)
      rw [hsame, getElem?_numberedRows, Option.map_eq_some_iff] at hindex
      obtain ⟨_, -, rfl⟩ := hindex
      exact Nat.lt_asymm habove hbelow
    have hthere := (List.getElem?_eq_some_iff.1 hindex).1
    have hlength := length_left herasable fun other hother => (hpositions other hother).1
    rw [List.append_cons, erasable_append, ← hlength, Nat.add_sub_cancel]
    exact ⟨hlength ▸ herasable, Nat.le_trans hplace hthere, trivial⟩

/-- Of rows that are deleted one after another, in descending order, all have been named exactly if
no position was repeated. -/
theorem deleted_named_iff {named : List Nat} (hsorted : named.Pairwise (· ≥ ·))
    (hnamed : ∀ other ∈ named, 1 ≤ other ∧ other ≤ ws.rows.length) (hstart : positions <+: named)
    (herasable : Erasable ws.rows.length positions) :
    (∀ row ∈ ws.numberedRows, row ∉ ws.left positions → row.1 ∈ named) ↔
      positions.Pairwise (· > ·) := by
  constructor
  · intro honly
    refine (descending_or_repeatsAfter (hsorted.sublist hstart.sublist)).resolve_right ?_
    rintro ⟨distinct, position, hrepeats⟩
    have hfirst : RepeatsAfter named distinct position := ⟨hrepeats.1, hrepeats.2.trans hstart⟩
    obtain ⟨later, rfl⟩ := hrepeats.2
    have hpositions : ∀ other ∈ distinct ++ [position],
        1 ≤ other ∧ other ≤ ws.rows.length := fun other hother =>
      hnamed other (hfirst.subset hother)
    obtain ⟨row, hrow, hbelow, hnew⟩ :=
      exists_getElem?_left hrepeats.1 hpositions (erasable_append.1 herasable).1
    have hgone : row ∉ ws.left (distinct ++ [position, position] ++ later) := by
      intro hleft
      have hmem := (ws.left_append_sublist _ later).subset hleft
      rw [List.append_cons, left, eraseAll_append] at hmem
      exact not_mem_eraseIdx (ws.nodup_left _) hrow hmem
    have hcount := hfirst.count_of_lt hsorted hbelow
    rw [List.count_eq_zero.2 hnew] at hcount
    exact List.count_eq_zero.1 hcount
      (honly row ((left_sublist ..).subset (List.mem_of_getElem? hrow)) hgone)
  · intro hdescending row hrow hgone
    rw [left_eq_remaining hdescending fun other hother => hnamed other (hstart.subset hother),
      remaining, List.mem_filter] at hgone
    exact hstart.subset (Decidable.not_not.1 fun hnew => hgone ⟨hrow, decide_eq_true hnew⟩)

end

/-! ### Rows as they are shown -/

theorem header_withoutAll (positions : List Nat) :
    (ws.withoutAll now positions).header = ws.header := by
  induction positions generalizing ws with
  | nil => rfl
  | cons position rest ih => rw [withoutAll, ih, without]

/-- A row is shown at any position of a worksheet with the same header as before, but for its
identity. -/
theorem shown_of_header_eq (h : ws'.header = ws.header) (position old : Nat) (row : StoredRow) :
    ws'.shown position row = { ws.shown old row with id := some (countText position) } := by
  have hnames : ws'.columnNames = ws.columnNames := by rw [columnNames, h, columnNames]
  simp only [shown, rawRow, hnames]

/-- Rows that remain are shown as before, but for their identities, which are their new
positions. -/
theorem shown_renumbered (hheader : ws'.header = ws.header) {numbered : List (Nat × StoredRow)}
    (hrows : ws'.rows = numbered.map Prod.snd) :
    (ws'.numberedRows.map fun row => ws'.shown row.1 row.2) =
      (numbered.zipIdx 1).map fun (row, position) =>
        { ws.shown row.1 row.2 with id := some (countText position) } := by
  rw [numberedRows_eq, hrows, List.zipIdx_map, List.map_map, List.map_map]
  exact List.map_congr_left fun row _ => shown_of_header_eq hheader row.2 row.1.1 row.1.2

end StoredWorksheet

end GridStore
