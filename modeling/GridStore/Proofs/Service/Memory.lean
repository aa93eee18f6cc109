import GridStore.Proofs.Workbook.Answers
import GridStore.Service.Memory

/-!
# Answers of the service in memory

## Main definitions

* `Fault.Spares`: whether no failure is going to happen to some requests of a kind.
* `MemorySheets.Due`: whether a request is going to fail.
* `MemorySheets.Answered`: the ways in which the service answers a request.
* `MemorySheets.after`, `MemorySheets.Accepts`: requests one after another.

## Main results

* `Fault.spares_succ_iff`: what one more request of a kind demands.
* `MemorySheets.answered`: every answer is given in one of these ways.
* `MemorySheets.isOk_answer_iff`: when a request is accepted.
* `MemorySheets.error_cases`: where a failure comes from.
-/

namespace GridStore

namespace Fault

theorem strike_nil (operation : Operation) : strike operation [] = (none, []) := rfl

/-- Whether the next requests of a kind, up to some number of them, are not going to fail: the first
failure of the kind lets that many pass. -/
def Spares (operation : Operation) (faults : List Fault) (count : Nat) : Prop :=
  ∀ fault ∈ faults.find? fun fault => fault.operation = operation, count ≤ fault.skip

theorem spares_zero (operation : Operation) (faults : List Fault) : Spares operation faults 0 :=
  fun _ _ => Nat.zero_le _

theorem spares_nil (operation : Operation) (count : Nat) : Spares operation [] count := nofun

theorem Spares.mono {operation : Operation} {faults : List Fault} {count fewer : Nat}
    (h : Spares operation faults count) (hle : fewer ≤ count) : Spares operation faults fewer :=
  fun fault hfault => Nat.le_trans hle (h fault hfault)

section

variable {operation : Operation} {fault : Fault} {rest : List Fault} {count : Nat}

theorem spares_cons_of_eq (h : fault.operation = operation) :
    Spares operation (fault :: rest) count ↔ count ≤ fault.skip := by
  have hfirst : (fault :: rest).find? (fun fault => fault.operation = operation) = some fault :=
    List.find?_cons_of_pos (decide_eq_true h)
  rw [Spares, hfirst]
  exact ⟨fun hspares => hspares fault rfl, by rintro hle _ ⟨⟩; exact hle⟩

theorem spares_cons_of_ne (h : fault.operation ≠ operation) :
    Spares operation (fault :: rest) count ↔ Spares operation rest count := by
  have hother : (fault :: rest).find? (fun fault => fault.operation = operation) =
      rest.find? fun fault => fault.operation = operation :=
    List.find?_cons_of_neg fun heq => h (of_decide_eq_true heq)
  rw [Spares, hother, Spares]

end

/-- A request more is spared if the next one does not fail and the failures that are left then spare
the others. -/
theorem spares_succ_iff {operation : Operation} {faults : List Fault} {count : Nat} :
    Spares operation faults (count + 1) ↔ (strike operation faults).1 = none ∧
      Spares operation (strike operation faults).2 count := by
  induction faults with
  | nil => exact iff_of_true nofun ⟨rfl, nofun⟩
  | cons fault rest ih =>
    by_cases hkind : fault.operation = operation
    · rw [spares_cons_of_eq hkind, strike, if_pos hkind]
      cases hskip : fault.skip with
      | zero => exact iff_of_false (Nat.not_succ_le_zero count) fun h => nomatch h.1
      | succ skip =>
        have hrest : Spares operation ({ fault with skip := skip } :: rest) count ↔ count ≤ skip :=
          spares_cons_of_eq hkind
        rw [Nat.add_le_add_iff_right]
        exact hrest.symm.trans (and_iff_right rfl).symm
    · rw [spares_cons_of_ne hkind, strike, if_neg hkind, ih]
      exact and_congr_right fun _ => (spares_cons_of_ne hkind).symm

end Fault

/-- A refusal is an answer of the service with a status, or it breaks off. -/
theorem Refusal.toError_eq (request : Request) (refusal : Refusal) :
    (∃ e, refusal.toError request = .api e) ∨ refusal.toError request = .brokenOff := by
  unfold toError
  split
  · exact .inr rfl
  · exact .inl ⟨_, rfl⟩

namespace MemorySheets

/-- Whether the next request of a kind is going to fail. -/
def Due (s : MemorySheets) (operation : Operation) : Prop :=
  (Fault.strike operation s.faults).1 ≠ none

theorem not_due_of_calm {s : MemorySheets} (h : s.faults = []) (operation : Operation) :
    ¬s.Due operation := by
  rw [Due, h, Fault.strike_nil]
  exact fun hdue => hdue rfl

/-- How the service answers a request: it fails because a failure is due, or the workbook refuses
the request, or the workbook accepts it. The log and the failures that are left play no part, except
that there are none afterwards if there were none before. -/
inductive Answered (now : Instant) (request : Request) (s : MemorySheets) :
    Except StoreError request.Answer → MemorySheets → Prop
  | struck {e : StoreError} {s' : MemorySheets} (due : s.faults ≠ []) (book : s'.book = s.book)
      (engine : s'.engine = s.engine) (ids : s'.ids = s.ids) : Answered now request s
      (.error e) s'
  | refused {refusal : Refusal} {s' : MemorySheets}
      (book : s.book.answer now s.ids.next s.engine request = (.error refusal, s'.book))
      (engine : s'.engine = s.engine) (ids : s'.ids = s.ids)
      (calm : s.faults = [] → s'.faults = []) : Answered now request s
      (.error (refusal.toError request)) s'
  | accepted {a : request.Answer} {s' : MemorySheets}
      (book : s.book.answer now s.ids.next s.engine request = (.ok a, s'.book))
      (engine : s'.engine = s.engine) (ids : s'.ids = s.ids.afterAccepted request)
      (calm : s.faults = [] → s'.faults = []) : Answered now request s (.ok a) s'

/-- Every answer is given in one of three ways. -/
theorem answered (now : Instant) (request : Request) (s : MemorySheets) :
    Answered now request s (s.answer now request).1 (s.answer now request).2 := by
  rw [answer]
  rcases hstrike : Fault.strike request.operation s.faults with ⟨_ | status, faults⟩
  · have hcalm : s.faults = [] → faults = [] := fun h => by
      rw [h, Fault.strike_nil] at hstrike
      exact (Prod.mk.inj hstrike).2.symm
    simp only [answerFromBook]
    rcases hbook : s.book.answer now s.ids.next s.engine request with ⟨refusal | a, book⟩
    · exact .refused hbook rfl rfl hcalm
    · exact .accepted hbook rfl rfl hcalm
  · refine .struck (fun h => ?_) rfl rfl rfl
    rw [h, Fault.strike_nil] at hstrike
    cases hstrike

/-- An answer leaves the workbook as it is, or as the answer of the workbook leaves it. -/
theorem Answered.book_eq {now : Instant} {request : Request} {s s' : MemorySheets}
    {result : Except StoreError request.Answer} (h : Answered now request s result s') :
    s'.book = s.book ∨ s'.book = (s.book.answer now s.ids.next s.engine request).2 := by
  cases h with
  | struck due book engine ids => exact .inl book
  | refused book engine ids calm => exact .inr (by rw [book])
  | accepted book engine ids calm => exact .inr (by rw [book])

/-- Every request is logged. -/
theorem log_answer (now : Instant) (request : Request) (s : MemorySheets) :
    (s.answer now request).2.log = s.log ++ [request] := by
  rw [answer]
  rcases Fault.strike request.operation s.faults with ⟨_ | status, faults⟩
  · simp only [answerFromBook]
    split <;> rfl
  · rfl

/-- Every request counts for the failures of its kind. -/
theorem faults_answer (now : Instant) (request : Request) (s : MemorySheets) :
    (s.answer now request).2.faults = (Fault.strike request.operation s.faults).2 := by
  rw [answer]
  rcases Fault.strike request.operation s.faults with ⟨_ | status, faults⟩
  · simp only [answerFromBook]
    split <;> rfl
  · rfl

/-- A request is accepted if it is not going to fail and the workbook accepts it. -/
theorem isOk_answer_iff {now : Instant} {request : Request} {s : MemorySheets} :
    (s.answer now request).1.isOk = true ↔ ¬s.Due request.operation ∧
      (s.book.answer now s.ids.next s.engine request).1.isOk = true := by
  rw [answer, Due, Decidable.not_not]
  rcases Fault.strike request.operation s.faults with ⟨_ | status, faults⟩
  · rw [and_iff_right rfl]
    simp only [answerFromBook]
    rcases s.book.answer now s.ids.next s.engine request with ⟨refusal | a, book⟩ <;> rfl
  · exact iff_of_false Bool.false_ne_true fun h => nomatch h.1

/-- A service without failures that are due answers as its workbook does. -/
theorem fst_answer_of_calm {s : MemorySheets} (h : s.faults = []) (now : Instant)
    (request : Request) : (s.answer now request).1 =
      (s.book.answer now s.ids.next s.engine request).1.mapError (·.toError request) := by
  rw [answer, h, Fault.strike_nil]
  simp only [answerFromBook]
  rcases s.book.answer now s.ids.next s.engine request with ⟨refusal | a, book⟩ <;> rfl

/-- A failure is one that was due, or a refusal of the workbook. -/
theorem error_cases {now : Instant} {request : Request} {s : MemorySheets} {e : StoreError}
    (h : (s.answer now request).1 = .error e) :
    (∃ status, (Fault.strike request.operation s.faults).1 = some status ∧
      e = .api ⟨status, request.operation, request.context, some "injected failure"⟩) ∨
    ∃ refusal, (s.book.answer now s.ids.next s.engine request).1 = .error refusal ∧
      e = refusal.toError request := by
  rw [answer] at h
  rcases hstrike : Fault.strike request.operation s.faults with ⟨_ | status, faults⟩
  · rw [hstrike] at h
    simp only [answerFromBook] at h
    rcases hbook : s.book.answer now s.ids.next s.engine request with ⟨refusal | a, book⟩
    · rw [hbook] at h
      cases h
      exact .inr ⟨refusal, rfl, rfl⟩
    · rw [hbook] at h
      cases h
  · rw [hstrike] at h
    cases h
    exact .inl ⟨status, rfl, rfl⟩

/-- Every failure is a refusal of the service, or the service breaks off. -/
theorem eq_api_or_eq_brokenOff {now : Instant} {request : Request} {s : MemorySheets}
    {e : StoreError} (h : (s.answer now request).1 = .error e) :
    (∃ refusal, e = .api refusal) ∨ e = .brokenOff := by
  obtain ⟨_, -, rfl⟩ | ⟨refusal, -, rfl⟩ := error_cases h
  · exact .inl ⟨_, rfl⟩
  · exact refusal.toError_eq request

/-- A request that fails leaves the workbook as it is. -/
theorem book_of_error {now : Instant} {request : Request} {s : MemorySheets} {e : StoreError}
    (h : (s.answer now request).1 = .error e) : (s.answer now request).2.book = s.book := by
  have hanswered := answered now request s
  rw [h] at hanswered
  cases hanswered with
  | struck due book engine ids => exact book
  | refused book engine ids calm => exact Workbook.answer_of_refused book

/-! ### Requests one after another -/

/-- The service after requests, whether they succeed or not. -/
def after (now : Instant) : List Request → MemorySheets → MemorySheets
  | [], s => s
  | request :: rest, s => after now rest (s.answer now request).2

/-- Whether the service accepts requests one after another. -/
def Accepts (now : Instant) : List Request → MemorySheets → Prop
  | [], _ => True
  | request :: rest, s =>
    (s.answer now request).1.isOk = true ∧ Accepts now rest (s.answer now request).2

theorem after_append (now : Instant) (done rest : List Request) (s : MemorySheets) :
    after now (done ++ rest) s = after now rest (after now done s) := by
  induction done generalizing s with
  | nil => rfl
  | cons request done ih => exact ih _

theorem log_after (now : Instant) (requests : List Request) (s : MemorySheets) :
    (after now requests s).log = s.log ++ requests := by
  induction requests generalizing s with
  | nil => exact (List.append_nil _).symm
  | cons request rest ih =>
    rw [after, ih, log_answer, List.append_assoc]
    rfl

end MemorySheets

end GridStore
