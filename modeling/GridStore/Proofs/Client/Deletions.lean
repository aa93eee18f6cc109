import GridStore.Proofs.Client.Prefixes

/-!
# Deletions of named rows

Rows are deleted one after another, from the last position up, and every deletion moves the rows
below it. Whatever identities are given, and however they spell positions, no row that is named is
left when all deletions succeed. A row that is not named is deleted exactly if a position is named
again and a row has moved there.

## Main definitions

* `Client.Overruns`: whether the deletion of named rows goes on to a row that is not named.

## Main results

* `Client.exists_deleted`: the deletions that are made are those that are possible.
* `Client.deletes_only_named_iff`: which rows are deleted.
-/

namespace GridStore

/-! ### Named positions -/

/-- Whether identities name rows of a worksheet. -/
def StoredWorksheet.NamesRows (ws : StoredWorksheet) (ids : List String) : Prop :=
  ∀ id ∈ ids, ∃ position, count? id = some position ∧ 1 ≤ position ∧ position ≤ ws.rows.length

section

variable {ws : StoredWorksheet} {ids : List String}

theorem StoredWorksheet.NamesRows.positions (h : ws.NamesRows ids) :
    ∀ position ∈ namedPositions ids, 1 ≤ position ∧ position ≤ ws.rows.length := by
  intro position hposition
  obtain ⟨id, hid, rfl⟩ := List.mem_map.1 hposition
  obtain ⟨position, hcount, hrange⟩ := h id hid
  rw [hcount]
  exact hrange

theorem StoredWorksheet.NamesRows.isSome_count? (h : ws.NamesRows ids) :
    ∀ id ∈ ids, (count? id).isSome = true := fun id hid => by
  obtain ⟨position, hcount, -⟩ := h id hid
  rw [hcount]
  rfl

/-- Rows are deleted at the positions that are named, as often as they are named, in descending
order. -/
theorem namedPositions_deletionOrder (h : ws.NamesRows ids) :
    (namedPositions (deletionOrder ids)).Perm (namedPositions ids) ∧
      (namedPositions (deletionOrder ids)).Pairwise (· ≥ ·) :=
  ⟨(perm_deletionOrder h.isSome_count?).map _,
    List.pairwise_map.2 (descending_deletionOrder h.isSome_count?)⟩

end

namespace Client

variable {worksheet : WorksheetInfo} {clock : Clock} {c c' : Client MemorySheets}
  {ws : StoredWorksheet} {ids : List String}

/-! ### Deletions up to the first one that is not possible -/

theorem Deletable.of_shorter {positions longer : List Nat} (h : Deletable c ws longer)
    (hstart : positions <+: longer) : Deletable c ws positions := by
  have hfewer := hstart.length_le
  obtain ⟨rest, rfl⟩ := hstart
  exact ⟨h.1.mono hfewer, (erasable_append.1 h.2).1⟩

/-- The deletion of rows makes the deletions in their order, up to the first one that is not
possible. -/
theorem ends_deleteRows_named (hws : c.service.book.worksheet? worksheet = some ws)
    (hnames : ws.NamesRows ids) (clock : Clock) :
    StoreM.Ends (deleteRows clock worksheet ids) c
      (fun n c' => n = ids.length ∧ Deletable c ws (namedPositions (deletionOrder ids)) ∧
        Moves worksheet c (ws.withoutAll clock.instant (namedPositions (deletionOrder ids))) c')
      (fun _ c' => ∃ done next, done ++ [next] <+: namedPositions (deletionOrder ids) ∧
        Deletable c ws done ∧ ¬Deletable c ws (done ++ [next]) ∧
        Moves worksheet c (ws.withoutAll clock.instant done) c') := by
  have hids : ∀ id ∈ deletionOrder ids, ∃ position, count? id = some position ∧ 1 ≤ position := by
    intro id hid
    have hmem := (perm_deletionOrder hnames.isSome_count?).mem_iff.1 hid
    obtain ⟨position, hcount, hpositive, -⟩ := hnames id hmem
    exact ⟨position, hcount, hpositive⟩
  have hloop := ends_deleteLoop clock (deletionOrder ids) hws hids
  rw [deleteRows]
  split
  case isTrue hempty =>
    cases List.isEmpty_iff.1 hempty
    exact StoreM.ends_pure ⟨rfl, deletable_nil c ws, (Agrees.refl c).moves hws⟩
  case isFalse =>
    refine (ends_forgetting (hloop.mono ?_ ?_)).bind fun _ _ h => StoreM.ends_pure ⟨rfl, h⟩
    · rintro - c' ⟨hdeletable, hmoves⟩
      exact ⟨hdeletable, hmoves.forget⟩
    · rintro e c' ⟨done, next, hstart, hdeletable, hnot, hmoves⟩
      exact ⟨done, next, hstart, hdeletable, hnot, hmoves.forget⟩

/-- The deletions that are made are those that are possible. -/
theorem exists_deleted (hws : c.service.book.worksheet? worksheet = some ws)
    (hnames : ws.NamesRows ids) (clock : Clock) :
    ∃ done, (∀ positions, positions <+: namedPositions (deletionOrder ids) →
        (Deletable c ws positions ↔ positions <+: done)) ∧
      done <+: namedPositions (deletionOrder ids) ∧
      StoreM.Ends (deleteRows clock worksheet ids) c
        (fun n c' => n = ids.length ∧ done = namedPositions (deletionOrder ids) ∧
          Moves worksheet c (ws.withoutAll clock.instant done) c')
        (fun _ c' => Moves worksheet c (ws.withoutAll clock.instant done) c') := by
  have hends := ends_deleteRows_named hws hnames clock
  rcases hrun : deleteRows clock worksheet ids c with ⟨e | n, c'⟩
  · obtain ⟨done, next, hstart, hdeletable, hnot, hmoves⟩ := (StoreM.ends_error hrun).1 hends
    refine ⟨done, fun positions hpositions => ⟨fun h => ?_, hdeletable.of_shorter⟩,
      (List.prefix_append ..).trans hstart, (StoreM.ends_error hrun).2 hmoves⟩
    obtain hlt | hle := Nat.lt_or_ge done.length positions.length
    · have hlonger : done ++ [next] <+: positions :=
        List.prefix_of_prefix_length_le hstart hpositions (by rwa [List.length_append])
      exact absurd (h.of_shorter hlonger) hnot
    · exact List.prefix_of_prefix_length_le hpositions ((List.prefix_append ..).trans hstart) hle
  · obtain ⟨hn, hdeletable, hmoves⟩ := (StoreM.ends_ok hrun).1 hends
    exact ⟨_, fun positions hpositions => iff_of_true (hdeletable.of_shorter hpositions) hpositions,
      List.prefix_refl _, (StoreM.ends_ok hrun).2 ⟨hn, rfl, hmoves⟩⟩

/-! ### Deletions too many -/

/-- Whether the deletion of named rows goes on to a row that is not named: a position is named more
than once, below the last such position there is a row that is not named, and no failure is going to
happen to the deletions up to the second one at that position. -/
def Overruns (c : Client MemorySheets) (ws : StoredWorksheet) (ids : List String) : Prop :=
  ∃ position, (2 ≤ (namedPositions ids).count position ∧
      ∀ later, position < later → (namedPositions ids).count later ≤ 1) ∧
    (∃ row ∈ ws.numberedRows, position < row.1 ∧ row.1 ∉ namedPositions ids) ∧
    Fault.Spares .deleteRow c.service.faults
      ((namedPositions ids).countP (fun later => position < later) + 2)

/-- The deletion goes on to a row that is not named if it can be made up to the first position that
is repeated. -/
theorem overruns_iff (hnames : ws.NamesRows ids) : Overruns c ws ids ↔ ∃ distinct position,
    RepeatsAfter (namedPositions (deletionOrder ids)) distinct position ∧
      Deletable c ws (distinct ++ [position, position]) := by
  obtain ⟨hperm, hsorted⟩ := namedPositions_deletionOrder hnames
  have hpositions : ∀ position ∈ namedPositions (deletionOrder ids),
      1 ≤ position ∧ position ≤ ws.rows.length := fun position hposition =>
    hnames.positions position (hperm.mem_iff.1 hposition)
  rw [exists_comm]
  refine exists_congr fun position => ?_
  simp only [← hperm.count_eq, ← hperm.countP_eq, ← hperm.mem_iff]
  rw [← exists_repeatsAfter_iff hsorted, exists_and_right.symm]
  refine exists_congr fun distinct => and_congr_right fun hrepeats => ?_
  rw [hrepeats.countP_lt hsorted, Deletable, List.length_append, and_comm]
  refine and_congr_right fun _ => ?_
  rw [StoredWorksheet.erasable_repeated_iff hrepeats.1 fun other hother =>
    hpositions other (hrepeats.subset hother)]
  refine exists_congr fun row => and_congr_right fun _ => and_congr_right fun hbelow => ?_
  rw [← List.count_eq_zero, hrepeats.count_of_lt hsorted hbelow, List.count_eq_zero]

/-- Of the rows that are named, in any order and any number of times, none is left if the deletion
succeeds. Whether it succeeds or fails, the rows that are deleted have all been named, except
exactly if it goes on to a row that is not named. -/
theorem deletes_only_named_iff (hws : c.service.book.worksheet? worksheet = some ws)
    (hnames : ws.NamesRows ids) (clock : Clock) :
    ∃ done, done <+: namedPositions (deletionOrder ids) ∧
      (ws.withoutAll clock.instant done).rows = (ws.left done).map Prod.snd ∧
      StoreM.Ends (deleteRows clock worksheet ids) c
        (fun n c' => n = ids.length ∧
          Moves worksheet c (ws.withoutAll clock.instant done) c' ∧
          ∀ row ∈ ws.left done, row.1 ∉ namedPositions ids)
        (fun _ c' => Moves worksheet c (ws.withoutAll clock.instant done) c') ∧
      ((∀ row ∈ ws.numberedRows, row ∉ ws.left done → row.1 ∈ namedPositions ids) ↔
        ¬Overruns c ws ids) := by
  obtain ⟨hperm, hsorted⟩ := namedPositions_deletionOrder hnames
  have hpositions : ∀ position ∈ namedPositions (deletionOrder ids),
      1 ≤ position ∧ position ≤ ws.rows.length := fun position hposition =>
    hnames.positions position (hperm.mem_iff.1 hposition)
  obtain ⟨done, hlongest, hstart, hends⟩ := exists_deleted hws hnames clock
  refine ⟨done, hstart, (StoredWorksheet.map_snd_left ..).symm, hends.mono ?_ fun _ _ h => h, ?_⟩
  · rintro n c' ⟨hn, rfl, hmoves⟩
    refine ⟨hn, hmoves, fun row hrow hnamed => ?_⟩
    exact StoredWorksheet.not_mem_left hsorted (fun position hposition =>
      (hpositions position hposition).1) hrow (hperm.mem_iff.2 hnamed)
  · have hdeletable : Deletable c ws done := (hlongest done hstart).2 (List.prefix_refl _)
    simp only [← hperm.mem_iff]
    rw [StoredWorksheet.deleted_named_iff hsorted hpositions hstart hdeletable.2,
      descending_iff_not_repeatsAfter (hsorted.sublist hstart.sublist), overruns_iff hnames]
    refine not_congr (exists_congr fun distinct => exists_congr fun position => ?_)
    rw [RepeatsAfter, RepeatsAfter, and_assoc]
    refine and_congr_right fun _ => ⟨fun h => ?_, fun ⟨h, hpossible⟩ => (hlongest _ h).1 hpossible⟩
    exact ⟨h.trans hstart, hdeletable.of_shorter h⟩

/-- If the last row is named twice, the second deletion fails and no other row is deleted. -/
theorem deletes_only_named_last : holdingTwo.service.book.worksheet? sampleInfo = some sheetOfTwo ∧
    sheetOfTwo.NamesRows ["2", "02"] ∧ ¬Overruns holdingTwo sheetOfTwo ["2", "02"] ∧
    ∃ done, done <+: namedPositions (deletionOrder ["2", "02"]) ∧
      ∀ row ∈ sheetOfTwo.numberedRows, row ∉ sheetOfTwo.left done →
        row.1 ∈ namedPositions ["2", "02"] := by
  have hnames : sheetOfTwo.NamesRows ["2", "02"] := by
    simp only [StoredWorksheet.NamesRows, List.forall_mem_cons]
    exact ⟨⟨2, by decide, by decide, by decide⟩, ⟨2, by decide, by decide, by decide⟩, nofun⟩
  have hnot : ¬Overruns holdingTwo sheetOfTwo ["2", "02"] := by
    rintro ⟨position, ⟨htwice, -⟩, ⟨row, hrow, hbelow, -⟩, -⟩
    have hnamed : namedPositions ["2", "02"] = [2, 2] := by decide
    have hposition : position ∈ namedPositions ["2", "02"] :=
      List.count_pos_iff.1 (Nat.lt_of_lt_of_le Nat.zero_lt_two htwice)
    have hlast : row.1 ≤ 2 := (StoredWorksheet.position_of_mem_numberedRows hrow).2
    rw [hnamed, List.mem_cons, List.mem_singleton, or_self] at hposition
    omega
  obtain ⟨done, hstart, -, -, honly⟩ :=
    deletes_only_named_iff worksheet?_holdingTwo hnames sampleClock
  exact ⟨worksheet?_holdingTwo, hnames, hnot, done, hstart, honly.2 hnot⟩

/-- Not every row that is deleted has been named: if the first one of two rows is named twice, both
of them are deleted. -/
theorem exists_unnamed_deleted :
    ∃ (c : Client MemorySheets) (ws ws' : StoredWorksheet) (ids : List String),
      c.Reached ∧ c.service.faults = [] ∧ c.service.book.worksheet? sampleInfo = some ws ∧
      ws.NamesRows ids ∧ (∃ row ∈ ws.numberedRows, row.1 ∉ namedPositions ids) ∧
      (deleteRows sampleClock sampleInfo ids c).1.toOption = some ids.length ∧
      (deleteRows sampleClock sampleInfo ids c).2.service.book.worksheet? sampleInfo = some ws' ∧
      ws'.rows = [] := by
  have hcalm : holdingTwo.service.faults = [] := by decide +kernel
  have hnames : sheetOfTwo.NamesRows ["1", "1"] := by
    simp only [StoredWorksheet.NamesRows, List.forall_mem_cons]
    exact ⟨⟨1, by decide, by decide, by decide⟩, ⟨1, by decide, by decide, by decide⟩, nofun⟩
  have hresult : (deleteRows sampleClock sampleInfo ["1", "1"] holdingTwo).1.toOption = some 2 := by
    decide +kernel
  have hws : (deleteRows sampleClock sampleInfo ["1", "1"] holdingTwo).2.service.book.worksheet?
      sampleInfo = some (sheetOfTwo.withoutAll sampleClock.instant [1, 1]) := by decide +kernel
  exact ⟨holdingTwo, sheetOfTwo, _, ["1", "1"], reached_holding _, hcalm, worksheet?_holdingTwo,
    hnames, by decide, hresult, hws, by decide⟩

end Client

end GridStore
