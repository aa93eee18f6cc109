import GridStore.Proofs.Files.Access
import GridStore.Proofs.Service.Identities
import GridStore.Proofs.Service.Memory
import GridStore.Proofs.Workbook.Document
import GridStore.Service.File

/-!
# A workbook in a file and one in memory

The service on a file reads its workbook for every request and saves it after every accepted change.
Its answers are those of the service in memory: what has been saved is read again, a refused request
changes neither workbook, and a read leaves both alone. This needs that no file fails on the way,
which is so if a text can be saved at the path at the start.

## Main definitions

* `FileSheets.Holds`: whether the file has a workbook.
* `FileSheets.Mirrors`: whether the services are in corresponding states.
* `FileSheets.Undisturbed`: whether no file fails while requests are answered.
* `FileSheets.AnswersAlike`: whether requests are answered as in memory, and the file has the
  workbook in memory all the time.

## Main results

* `FileSheets.Mirrors.answered`: an answer keeps the services in corresponding states.
* `FileSheets.answersAlike_memory`: the service on a file answers as the one in memory.
* `FileSheets.undisturbed_of_usable`: no file fails if a text can be saved at the start.
-/

namespace GridStore

namespace FileSheets

variable {file : FileSheets} {memory memory' : MemorySheets} {book : Workbook}
  {now : Instant} {request : Request}

/-! ### The workbook of a file -/

/-- Whether a file has a workbook: it is absent and the workbook is empty, or its text is read as
the workbook. -/
def Holds (file : FileSheets) (book : Workbook) : Prop :=
  (file.files.read file.path = .ok none ∧ book = .empty) ∨
    ∃ content, file.files.read file.path = .ok (some content) ∧ Workbook.read? content = some book

theorem ofFile_of_absent {files : FileTree} {path : String} (h : files.read path = .ok none) :
    Workbook.ofFile files path = .ok .empty := by
  rw [Workbook.ofFile, h]
  rfl

theorem ofFile_of_read {files : FileTree} {path content : String}
    (h : files.read path = .ok (some content)) :
    Workbook.ofFile files path = match Workbook.read? content with
      | some book => .ok book
      | none => .error .unreadableDocument := by
  rw [Workbook.ofFile, h]
  rfl

theorem ofFile_of_holds (h : file.Holds book) :
    Workbook.ofFile file.files file.path = .ok book := by
  rcases h with ⟨hread, rfl⟩ | ⟨content, hread, hbook⟩
  · exact ofFile_of_absent hread
  · rw [ofFile_of_read hread, hbook]

/-- What has been saved is read again. -/
theorem holds_of_save (hbook : book.Storable) {saved : FileTree}
    (h : FileTree.save file.path book.text file.files = (.ok (), saved)) (ids : IdSupply) :
    Holds { file with files := saved, ids } book :=
  .inr ⟨book.text, FileTree.read_of_save h, Workbook.read?_text hbook⟩

/-! ### Answers of a file -/

theorem answer_refused (h : file.Holds book) {book' : Workbook} {refusal : Refusal}
    (hbook : book.answer now file.ids.next file.engine request = (.error refusal, book')) :
    file.answer now request = (.error (refusal.toError request), file) := by
  rw [answer, ofFile_of_holds h]
  simp only [hbook]

theorem answer_accepted (h : file.Holds book) {book' : Workbook} {a : request.Answer}
    (hbook : book.answer now file.ids.next file.engine request = (.ok a, book')) :
    file.answer now request =
      if request.isRead then (.ok a, file) else file.answerSaved request a book' := by
  rw [answer, ofFile_of_holds h]
  simp only [hbook]

/-- An accepted change is saved, unless a file fails. -/
theorem answerSaved_cases (request : Request) (a : request.Answer) (book : Workbook)
    (file : FileSheets) :
    (file.answerSaved request a book).1 = .error .unusableFile ∨
      ∃ saved, FileTree.save file.path book.text file.files = (.ok (), saved) ∧
        file.answerSaved request a book =
          (.ok a, { file with files := saved, ids := file.ids.afterAccepted request }) := by
  rw [answerSaved]
  rcases hsave : FileTree.save file.path book.text file.files with ⟨e | u, saved⟩
  · rw [FileTree.error_of_save hsave]
    exact .inl rfl
  · exact .inr ⟨saved, rfl, rfl⟩

/-! ### Corresponding states -/

/-- Whether a service on a file corresponds to one in memory: the file has the workbook in memory,
new worksheets get the same identities from both, queries are answered in the same way, and no
failures are due in memory. -/
structure Mirrors (file : FileSheets) (memory : MemorySheets) : Prop where
  holds : file.Holds memory.book
  storable : memory.book.Storable
  ids : file.ids = memory.ids
  engine : memory.engine = file.engine
  calm : memory.faults = []

/-- An answer is that of the service in memory and keeps the services in corresponding states,
unless a file fails. -/
theorem Mirrors.answered (h : file.Mirrors memory) (hnow : now.Storable)
    (hrequest : request.FitsWords) {result : Except StoreError request.Answer}
    (hanswered : memory.Answered now request result memory')
    (hfile : (file.answer now request).1 ≠ .error .unusableFile) :
    (file.answer now request).1 = result ∧ (file.answer now request).2.Mirrors memory' := by
  have hstorable :=
    Workbook.storable_answer h.storable hnow memory.ids.next memory.engine hrequest
  cases hanswered with
  | struck due book engine ids => exact absurd h.calm due
  | refused book engine ids calm =>
    have hsame := Workbook.answer_of_refused book
    rw [h.engine, ← h.ids] at book
    rw [answer_refused h.holds book]
    exact ⟨rfl, hsame ▸ h.holds, hsame ▸ h.storable, h.ids.trans ids.symm,
      engine.trans h.engine, calm h.calm⟩
  | @accepted a _ book engine ids calm =>
    have hleft : request.isRead = true → memory'.book = memory.book := fun hread => by
      rw [← Workbook.answer_of_isRead memory.book now memory.ids.next memory.engine hread, book]
    rw [book] at hstorable
    rw [h.engine, ← h.ids] at book
    rw [answer_accepted h.holds book] at hfile ⊢
    split at hfile
    case isTrue hread =>
      rw [if_pos hread]
      rw [IdSupply.afterAccepted_of_isRead _ hread] at ids
      exact ⟨rfl, hleft hread ▸ h.holds, hstorable, h.ids.trans ids.symm,
        engine.trans h.engine, calm h.calm⟩
    case isFalse hread =>
      rw [if_neg hread]
      rcases answerSaved_cases request a memory'.book file with hfail | ⟨saved, hsave, heq⟩
      · exact absurd hfail hfile
      · rw [heq]
        exact ⟨rfl, holds_of_save hstorable hsave _, hstorable, by rw [h.ids, ids],
          engine.trans h.engine, calm h.calm⟩

/-! ### Runs -/

/-- Whether no file fails while requests are answered one after another. -/
def Undisturbed : List (Instant × Request) → FileSheets → Prop
  | [], _ => True
  | (now, request) :: rest, file =>
    (file.answer now request).1 ≠ .error .unusableFile ∧
      Undisturbed rest (file.answer now request).2

/-- Whether requests are answered one after another as in memory, and the file has the workbook in
memory at the start and after each of them. -/
def AnswersAlike : List (Instant × Request) → FileSheets → MemorySheets → Prop
  | [], file, memory => file.Holds memory.book
  | (now, request) :: rest, file, memory =>
    file.Holds memory.book ∧ (file.answer now request).1 = (memory.answer now request).1 ∧
      AnswersAlike rest (file.answer now request).2 (memory.answer now request).2

theorem Mirrors.answersAlike (h : file.Mirrors memory) {calls : List (Instant × Request)}
    (hcalls : ∀ call ∈ calls, call.1.Storable ∧ call.2.FitsWords)
    (hfiles : Undisturbed calls file) : AnswersAlike calls file memory := by
  induction calls generalizing file memory with
  | nil => exact h.holds
  | cons call rest ih =>
    obtain ⟨⟨hnow, hrequest⟩, hrest⟩ := List.forall_mem_cons.1 hcalls
    obtain ⟨hfile, hlater⟩ := hfiles
    obtain ⟨hanswer, hmirrors⟩ := h.answered hnow hrequest (memory.answered ..) hfile
    exact ⟨h.holds, hanswer, ih hmirrors hrest hlater⟩

/-! ### Files that do not fail -/

/-- Whether a file can be used: there is no file or one with a text, and every text can be saved
there. -/
structure Usable (file : FileSheets) : Prop where
  read : ∃ found, file.files.read file.path = .ok found
  accepts : file.files.Accepts file.path

theorem Usable.ofFile_ne (h : file.Usable) :
    Workbook.ofFile file.files file.path ≠ .error .unusableFile := by
  obtain ⟨found, hfound⟩ := h.read
  cases found with
  | none =>
    rw [ofFile_of_absent hfound]
    exact nofun
  | some content =>
    rw [ofFile_of_read hfound]
    split <;> exact nofun

theorem toError_ne_unusableFile (request : Request) (refusal : Refusal) :
    refusal.toError request ≠ .unusableFile := by
  rcases refusal.toError_eq request with ⟨e, heq⟩ | heq <;> rw [heq] <;> exact nofun

/-- No file fails if it can be used, and then it can be used afterwards. -/
theorem usable_answer (h : file.Usable) (now : Instant) (request : Request) :
    (file.answer now request).1 ≠ .error .unusableFile ∧ (file.answer now request).2.Usable := by
  rw [answer]
  cases hbook : Workbook.ofFile file.files file.path with
  | error e => exact ⟨fun heq => h.ofFile_ne (Except.error.inj heq ▸ hbook), h⟩
  | ok book =>
    simp only
    rcases book.answer now file.ids.next file.engine request with ⟨refusal | a, book'⟩
    · exact ⟨fun heq => toError_ne_unusableFile request refusal (Except.error.inj heq), h⟩
    · simp only
      split
      · exact ⟨nofun, h⟩
      · rcases hsave : FileTree.save file.path book'.text file.files with ⟨e | u, saved⟩
        · have haccepted := h.accepts book'.text
          rw [hsave] at haccepted
          cases haccepted
        · rw [answerSaved, hsave]
          exact ⟨nofun, ⟨_, FileTree.read_of_save hsave⟩, FileTree.accepts_of_saved hsave⟩

theorem undisturbed_of_usable (h : file.Usable) (calls : List (Instant × Request)) :
    Undisturbed calls file := by
  induction calls generalizing file with
  | nil => trivial
  | cons call rest ih =>
    obtain ⟨hfile, husable⟩ := usable_answer h call.1 call.2
    exact ⟨hfile, ih husable⟩

/-! ### All requests -/

/-- A service on a file answers all requests as the service in memory, if there is no file at the
start and no file fails. Both draw the same identities, whichever these are, and sort alike. -/
theorem answersAlike_memory {files : FileTree} {path : String} {ids : IdSupply}
    {sorter : Sorter (Nat × StoredRow)} (habsent : files.read path = .ok none)
    {calls : List (Instant × Request)}
    (hcalls : ∀ call ∈ calls, call.1.Storable ∧ call.2.FitsWords)
    (hfiles : Undisturbed calls ⟨files, path, ids, sorter⟩) :
    AnswersAlike calls ⟨files, path, ids, sorter⟩ (.create ⟨true, sorter⟩ ids) := by
  have hstart : Mirrors ⟨files, path, ids, sorter⟩ (.create ⟨true, sorter⟩ ids) :=
    ⟨.inl ⟨habsent, rfl⟩, Workbook.storable_empty, rfl, rfl, rfl⟩
  exact hstart.answersAlike hcalls hfiles

/-- A day of requests: a worksheet with one column and one row, a title given twice, and a query. -/
def sampleCalls : List (Instant × Request) :=
  let day : Instant := .startOf ((Date.of? 2024 1 2).get rfl)
  let info : WorksheetInfo := ⟨"s1", "3f2a91c", "people", some day, 50, 5000⟩
  [(day, .createWorksheet "s1" "people" {}), (day, .createField info "name" 1),
    (day, .insertRow info [("name", "ada")]), (day, .createWorksheet "s1" "people" {}),
    (day, .queryRows info {})]

theorem pathNames_singleton : pathNames "b" = ["b"] := by
  -- the scan for slashes moves by bytes, so each of its steps is unfolded by hand
  rw [pathNames, String.splitOn, if_neg (by decide), String.splitOnAux, if_neg (by decide +kernel),
    if_neg (by decide +kernel), String.splitOnAux, if_pos (by decide +kernel)]
  decide +kernel

theorem answersAlike_memory_five :
    ({} : FileTree).read "b" = .ok none ∧
      (∀ call ∈ sampleCalls, call.1.Storable ∧ call.2.FitsWords) ∧
      Undisturbed sampleCalls ⟨{}, "b", .sample, .insertion⟩ ∧
      AnswersAlike sampleCalls ⟨{}, "b", .sample, .insertion⟩
        (.create ⟨true, .insertion⟩ .sample) := by
  have hlead : ({} : FileTree).lead "b" = .free ["b"] := by
    rw [FileTree.lead, if_neg (by decide), pathNames_singleton, FileTree.locate,
      if_neg (by simp)]
    decide +kernel
  have habsent : ({} : FileTree).read "b" = .ok none := by
    rw [FileTree.read, hlead]
  have hsave : (FileTree.save "b" "" {}).1 = .ok () := by
    have hnames : parentNames "b" = [] := by
      rw [parentNames, leadingNames, pathNames_singleton]
      decide
    have hwrite : ({} : FileTree).write? "b" "" = some (FileTree.put {} ["b"] (.text "")) := by
      rw [FileTree.write?, hlead]
    rw [FileTree.save_apply, FileTree.makeParent_eq (.inl hnames)]
    simp only [hwrite]
  have hcalls : ∀ call ∈ sampleCalls, call.1.Storable ∧ call.2.FitsWords := by
    have hday : Instant.Storable (.startOf ((Date.of? 2024 1 2).get rfl)) := ⟨rfl, by decide⟩
    have hsize : WorksheetSize.rows {} < wordBound ∧ WorksheetSize.cols {} < wordBound := by decide
    intro call hcall
    simp only [sampleCalls, List.mem_cons, List.not_mem_nil, or_false] at hcall
    rcases hcall with rfl | rfl | rfl | rfl | rfl
    · exact ⟨hday, hsize⟩
    · exact ⟨hday, trivial⟩
    · exact ⟨hday, trivial⟩
    · exact ⟨hday, hsize⟩
    · exact ⟨hday, trivial⟩
  have husable : Usable ⟨{}, "b", .sample, .insertion⟩ :=
    ⟨⟨none, habsent⟩, FileTree.accepts_of_save hsave⟩
  have hfiles := undisturbed_of_usable husable sampleCalls
  exact ⟨habsent, hcalls, hfiles, answersAlike_memory habsent hcalls hfiles⟩

end FileSheets

end GridStore
