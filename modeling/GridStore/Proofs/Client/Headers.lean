import GridStore.Proofs.Client.Columns
import GridStore.Proofs.Client.Kept
import GridStore.Proofs.Client.Reached
import GridStore.Proofs.Workbook.Headers

/-!
# Columns that calls name

New columns are named one after another from the position after the last one on, with names that are
different from each other and from those of the header as it is now. So in every workbook that calls
lead to, the headers are in order, and a call leaves the columns that were there as the first ones,
even if it stops halfway.

## Main definitions

* `Client.BookHas`: whether the workbook of a client has a property.
* `Client.GrownFrom`: whether the workbook of a client has got columns only, at the ends of headers
  in order.

## Main results

* `Client.ends_nameColumns_grown`: naming columns one after another keeps headers in order.
* `Client.keeps_ensureColumns_grown`: so does naming the columns that rows need.
* `Client.headers_grow`: the headers of a workbook that calls lead to are in order, and every call
  on a worksheet only adds columns at the end.
-/

namespace GridStore

/-! ### Missing columns -/

/-- The names of the fields of rows are listed once each. -/
theorem nodup_fieldNames (rows : List Row) : (fieldNames rows).Nodup := by
  have hfold : ∀ names seen : List String, seen.Nodup →
      (names.foldl (fun seen name => if name ∈ seen then seen else seen ++ [name]) seen).Nodup := by
    intro names
    induction names with
    | nil => exact fun seen h => h
    | cons name rest ih =>
      intro seen hseen
      rw [List.foldl_cons]
      split
      case isTrue => exact ih seen hseen
      case isFalse hnew =>
        refine ih _ (List.nodup_append.2 ⟨hseen, List.pairwise_singleton .., ?_⟩)
        intro old hold new hmem heq
        exact hnew (List.mem_singleton.1 hmem ▸ heq ▸ hold)
  exact hfold _ [] List.nodup_nil

namespace Client

variable {book : Workbook} {worksheet : WorksheetInfo} {ws : StoredWorksheet}
  {c : Client MemorySheets} {clock : Clock}

theorem nodup_missingColumns (cells : List FieldCell) (rows : List Row) :
    (missingColumns cells rows).Nodup := (nodup_fieldNames rows).filter _

theorem foldl_max_range' (n : Nat) : (List.range' 1 n).foldl max 0 = n := by
  induction n with
  | zero => rfl
  | succ n ih =>
    rw [List.range'_1_concat, List.foldl_append, ih, List.foldl_cons, List.foldl_nil]
    omega

/-- The last column of a header in order stands at the position of its number. -/
theorem lastColumn_fieldCells (h : ws.HeaderInOrder) :
    lastColumn ws.fieldCells = ws.columnNames.length := by
  rw [lastColumn, ws.map_col_fieldCells, h.positions, foldl_max_range']

/-! ### Workbooks of clients -/

section

variable {P : Workbook → Prop} {α : Type}

/-- Whether the workbook of a client has a property. -/
def BookHas (P : Workbook → Prop) (c : Client MemorySheets) : Prop := P c.service.book

theorem BookHas.of_book_eq {c' : Client MemorySheets} (h : BookHas P c)
    (hbook : c'.service.book = c.service.book) : BookHas P c' := by
  rw [BookHas, hbook]
  exact h

theorem ReadsTo.book_eq {request : Request} {key : String} {c' : Client MemorySheets}
    (h : ReadsTo clock request key c c') : c'.service.book = c.service.book := by
  cases h with
  | kept shrinks log => exact shrinks.book
  | asked shrinks log current readable => exact shrinks.book

/-- Reads leave the workbook as it is. -/
theorem keeps_book_of_reads {x : StoreM (Client MemorySheets) α} {request : Request} {key : String}
    (h : ∀ c, StoreM.Ends x c (fun _ c' => ReadsTo clock request key c c')
      fun _ c' => Shrinks c c') : StoreM.Keeps (BookHas P) x :=
  StoreM.keeps_of_ends fun c hc =>
    (h c).mono (fun _ _ hreads => hc.of_book_eq hreads.book_eq)
      fun _ _ hshrinks => hc.of_book_eq hshrinks.book

/-- A request keeps what the answer of the workbook keeps. -/
theorem keeps_book_ask {request : Request}
    (h : ∀ (book : Workbook) newId engine, P book →
      P (book.answer clock.instant newId engine request).2) :
    StoreM.Keeps (BookHas P) (ask clock request) := by
  have hanswer : ∀ {c : Client MemorySheets} {s' : MemorySheets} {result}, BookHas P c →
      MemorySheets.Answered clock.instant request c.service result s' → P s'.book := by
    intro c s' result hc hanswered
    rcases hanswered.book_eq with hbook | hbook <;> rw [hbook]
    · exact hc
    · exact h _ _ _ hc
  refine StoreM.keeps_of_ends fun c hc => (ends_ask clock request c).mono ?_ ?_
  · rintro a c' ⟨s', rfl, hanswered⟩
    exact hanswer hc hanswered
  · rintro e c' ⟨s', rfl, hanswered⟩
    exact hanswer hc hanswered

theorem keeps_book_forgetting {change : StoreM (Client MemorySheets) α}
    (h : StoreM.Keeps (BookHas P) change) : StoreM.Keeps (BookHas P) (forgetting change) :=
  fun c hc => h c hc

/-- Calls on a worksheet keep what reads, changes of rows and the naming of the columns that rows
need keep. -/
theorem rowSteps_book
    (hanswer : ∀ (request : Request) (book : Workbook) newId engine,
      request.leavesHeaders = true → P book →
      P (book.answer clock.instant newId engine request).2)
    (hensure : ∀ rows, StoreM.Keeps (BookHas P) (ensureColumns clock worksheet rows)) :
    RowSteps (BookHas P) clock worksheet where
  query _ _ := keeps_book_of_reads (ends_reads_queryRows clock worksheet _)
  fields := keeps_book_of_reads (ends_reads_queryFields clock worksheet)
  ensure := hensure
  insert rows := by
    rw [insertRows]
    split
    · exact StoreM.keeps_pure _
    · refine keeps_book_forgetting (StoreM.keeps_mapM (fun row => ?_) _)
      exact (keeps_book_ask fun _ _ _ => hanswer _ _ _ _ rfl).bind fun _ => keeps_decodeRow _ _
  update rows := by
    rw [updateRows]
    split
    · exact StoreM.keeps_throw _
    · split
      · exact StoreM.keeps_pure _
      · refine keeps_book_forgetting (StoreM.keeps_mapM (fun write => ?_) _)
        exact (keeps_book_ask fun _ _ _ => hanswer _ _ _ _ rfl).bind fun _ => keeps_decodeRow _ _
  delete ids := by
    rw [deleteRows]
    split
    · exact StoreM.keeps_pure _
    · refine (keeps_book_forgetting (StoreM.keeps_forM (fun id => ?_) _)).bind fun _ =>
        StoreM.keeps_pure _
      exact keeps_book_ask fun _ _ _ => hanswer _ _ _ _ rfl

/-- Calls on a spreadsheet keep what reads, new worksheets and dropped worksheets keep. -/
theorem sheetCall_book
    (hcreate : ∀ (book : Workbook) sheetId title size newId, P book →
      P (book.createWorksheet sheetId title size clock.instant newId).2)
    (hdrop : ∀ (book : Workbook) sheetId worksheetId, P book →
      P (book.dropWorksheet sheetId worksheetId).2) (call : SheetCall)
    {sheet : Spreadsheet MemorySheets} (h : BookHas P sheet.client) :
    BookHas P (call.run clock sheet).client := by
  refine call.keeps (fun id => ?_) (fun id title size => ?_) (fun id worksheetId => ?_)
    (fun token _ => ?_) h
  · exact keeps_book_of_reads (ends_reads_sheetInfo clock id)
  · exact (keeps_requireToken _).bind fun _ => keeps_book_forgetting
      (keeps_book_ask fun book newId _ => hcreate book id title size newId)
  · exact (keeps_requireToken _).bind fun _ => keeps_book_forgetting
      (keeps_book_ask fun book _ _ => hdrop book id worksheetId)
  · rw [setToken]
    split
    · exact fun c hc => hc
    · exact fun c hc => hc

end

/-- Whether the headers of the workbook of a client are in order and come from those of another
workbook by adding columns at the ends. -/
abbrev GrownFrom (book : Workbook) : Client MemorySheets → Prop := BookHas book.HeadersGrow

/-! ### Naming columns -/

/-- Naming columns one after another from the position after the last one on, with usable and new
names, keeps the headers in order wherever it stops. -/
theorem ends_nameColumns_grown (clock : Clock) (names : List String) (hc : GrownFrom book c)
    (hws : c.service.book.worksheet? worksheet = some ws) (hdistinct : names.Nodup)
    (husable : ∀ name ∈ names, isColumnName name = true)
    (hnew : ∀ name ∈ names, name ∉ ws.columnNames) :
    StoreM.Ends ((names.zipIdx (ws.columnNames.length + 1)).forM fun (name, col) =>
        ask clock (.createField worksheet name (col % wordBound))) c
      (fun _ => GrownFrom book) (fun _ => GrownFrom book) := by
  induction names generalizing c ws with
  | nil => exact StoreM.ends_pure hc
  | cons name rest ih =>
    obtain ⟨hfirst, hdistinct⟩ := List.nodup_cons.1 hdistinct
    obtain ⟨husable₁, husable⟩ := List.forall_mem_cons.1 husable
    obtain ⟨hnew₁, hnew⟩ := List.forall_mem_cons.1 hnew
    have horder := hc.inOrder _ ws (Workbook.stores_of_worksheet? hws).1
    have hask := ends_ask_set hws clock
      (.createField worksheet name ((ws.columnNames.length + 1) % wordBound))
      (fun ws' => ws'.createField name ((ws.columnNames.length + 1) % wordBound) clock.instant)
      (fun _ _ _ => rfl) rfl
    rw [List.zipIdx_cons]
    refine StoreM.Ends.andThen hask ?_ ?_
    · rintro e c' ⟨hagrees, -⟩
      exact hc.of_book_eq hagrees.book
    · rintro u c₁ ⟨ws₁, hchange, hbook, -⟩
      obtain ⟨hwithin, rfl⟩ := StoredWorksheet.createField_next_eq_ok horder hchange
      have hnames := horder.columnNames_named name clock.instant
      have horder₁ : (ws.named name (ws.columnNames.length + 1) clock.instant).HeaderInOrder :=
        StoredWorksheet.headerInOrder_named horder husable₁ hnew₁ hwithin
      have hgrown : GrownFrom book c₁ := by
        refine hc.trans ?_
        rw [hbook]
        exact ⟨Workbook.headersInOrder_setWorksheet hc.inOrder horder₁,
          Workbook.columnsGrow_setWorksheet hws rfl (hnames ▸ List.prefix_append ..)⟩
      have hws₁ : c₁.service.book.worksheet? worksheet =
          some (ws.named name (ws.columnNames.length + 1) clock.instant) := by
        rw [hbook]
        exact Workbook.worksheet?_setWorksheet hws rfl
      have hrest := ih hgrown hws₁ hdistinct husable fun other hother => by
        rw [hnames, List.mem_append, List.mem_singleton]
        rintro (hold | rfl)
        · exact hnew other hother hold
        · exact hfirst hother
      rwa [hnames, List.length_append, List.length_singleton] at hrest

/-- Fresh header cells are those of the worksheet. -/
theorem ends_freshFields_current (clock : Clock) (worksheet : WorksheetInfo)
    (c : Client MemorySheets) :
    StoreM.Ends (freshFields clock worksheet) c
      (fun cells c' => c'.service.book = c.service.book ∧ ∃ ws,
        c.service.book.worksheet? worksheet = some ws ∧ cells = ws.fieldCells)
      (fun _ c' => c'.service.book = c.service.book) := by
  refine (@ends_ask_isRead clock (.queryFields worksheet) rfl c).andThen ?_ ?_
  · rintro e c' ⟨hunchanged, -⟩
    exact hunchanged.book
  · rintro cells c₁ ⟨hunchanged, hanswer⟩
    have hcells := hanswer clock.instant c.service.ids.next
    rw [Workbook.answer, Workbook.readWorksheet] at hcells
    split at hcells
    case h_1 => cases hcells
    case h_2 ws hws =>
      cases hcells
      split
      · exact StoreM.ends_throw hunchanged.book
      · exact ⟨hunchanged.book, ws, hws, ws.sortedBy_fieldCells⟩

/-- Naming the columns that rows need keeps the headers in order. -/
theorem keeps_ensureColumns_grown (clock : Clock) (worksheet : WorksheetInfo) (rows : List Row) :
    StoreM.Keeps (GrownFrom book) (ensureColumns clock worksheet rows) := by
  refine StoreM.keeps_of_ends fun c hc =>
    (ends_freshFields_current clock worksheet c).andThen (fun _ _ => hc.of_book_eq) ?_
  rintro cells c₁ ⟨hbook, ws, hws, rfl⟩
  have hc₁ := hc.of_book_eq hbook
  have hws₁ : c₁.service.book.worksheet? worksheet = some ws := hbook ▸ hws
  have horder := hc.inOrder _ ws (Workbook.stores_of_worksheet? hws).1
  simp only [lastColumn_fieldCells horder]
  split
  case isFalse => exact StoreM.ends_pure hc₁
  case isTrue =>
    refine StoreM.Ends.bind ?_ fun _ _ => StoreM.ends_pure
    rw [createColumns]
    split
    case h_1 => exact StoreM.ends_throw hc₁
    case h_2 husable =>
      split
      · exact StoreM.ends_pure hc₁
      · refine ends_forgetting ?_
        refine ends_nameColumns_grown clock _ hc₁ hws₁ (nodup_missingColumns ..)
          (fun name hname => ?_) fun name hname => ?_
        · simpa using List.find?_eq_none.1 husable name hname
        · rw [← ws.map_cell_fieldCells]
          exact (mem_missingColumns.1 hname).2

/-! ### Calls -/

/-- A call on a worksheet adds columns at the ends of headers in order, and leaves the headers as
they are otherwise. -/
theorem grownFrom_rowCall (hc : c.service.book.HeadersInOrder) (clock : Clock)
    (worksheet : WorksheetInfo) (call : RowCall) :
    GrownFrom c.service.book (call.run clock worksheet c) := by
  have hsteps : RowSteps (GrownFrom c.service.book) clock worksheet :=
    rowSteps_book (fun request book newId engine hrequest hgrown => hgrown.trans
        (Workbook.headersGrow_answer hgrown.inOrder clock.instant newId engine hrequest))
      (keeps_ensureColumns_grown clock worksheet)
  have hstart : GrownFrom c.service.book c := ⟨hc, .refl _⟩
  exact call.keeps hsteps hstart

/-- The headers of the workbook are in order after any calls. -/
theorem Reached.headersInOrder (hc : c.Reached) : c.service.book.HeadersInOrder := by
  induction hc with
  | start engine ids hservice hcache =>
    rw [hservice]
    exact Workbook.headersInOrder_empty
  | register _ sheetId title now ih => exact Workbook.headersInOrder_addSheet ih sheetId title now
  | fault _ fault ih => exact ih
  | rowCall _ clock hclock worksheet call ih =>
    exact (grownFrom_rowCall ih clock worksheet call).inOrder
  | sheetCall _ clock hclock id known call ih =>
    exact sheetCall_book (P := Workbook.HeadersInOrder)
      (fun _ sheetId title size newId hbook =>
        Workbook.headersInOrder_createWorksheet hbook sheetId title size clock.instant newId)
      (fun _ sheetId worksheetId hbook =>
        Workbook.headersInOrder_dropWorksheet hbook sheetId worksheetId) call ih

/-- In a workbook that any calls lead to, the columns of every worksheet stand at the positions from
1 on, within the width of the worksheet, with usable and different names. Every further call on a
worksheet, whether it succeeds or fails, leaves the columns of all worksheets as the first ones of
those that they have afterwards. -/
theorem headers_grow (hc : c.Reached) :
    c.service.book.HeadersInOrder ∧
      ∀ (clock : Clock) (worksheet : WorksheetInfo) (call : RowCall),
        (call.run clock worksheet c).service.book.HeadersInOrder ∧
          c.service.book.ColumnsGrow (call.run clock worksheet c).service.book := by
  refine ⟨hc.headersInOrder, fun clock worksheet call => ?_⟩
  have hgrown := grownFrom_rowCall hc.headersInOrder clock worksheet call
  exact ⟨hgrown.inOrder, hgrown.grow⟩

/-- A row with another field gives the worksheet with two rows a second column. -/
theorem headers_grow_two : ∃ ws',
    (RowCall.run sampleClock sampleInfo (.insert [⟨none, none, [("b", .text "z")]⟩])
      holdingTwo).service.book.worksheet? sampleInfo = some ws' ∧
    ws'.HeaderInOrder ∧ sheetOfTwo.columnNames <+: ws'.columnNames ∧
    ws'.columnNames = ["a", "b"] := by
  have hreached : holdingTwo.Reached := reached_holding _
  obtain ⟨-, hcalls⟩ := headers_grow hreached
  obtain ⟨horder, hgrow⟩ :=
    hcalls sampleClock sampleInfo (.insert [⟨none, none, [("b", .text "z")]⟩])
  obtain ⟨ws', hws', hstarts⟩ := hgrow sampleInfo sheetOfTwo worksheet?_holdingTwo
  refine ⟨ws', hws', horder _ ws' (Workbook.stores_of_worksheet? hws').1, hstarts, ?_⟩
  have hnames : ((RowCall.run sampleClock sampleInfo (.insert [⟨none, none, [("b", .text "z")]⟩])
      holdingTwo).service.book.worksheet? sampleInfo).map StoredWorksheet.columnNames =
      some ["a", "b"] := by decide +kernel
  rw [hws'] at hnames
  exact Option.some.inj hnames

end Client

end GridStore
