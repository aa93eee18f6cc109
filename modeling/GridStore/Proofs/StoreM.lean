import GridStore.StoreM

/-!
# What computations on a state lead to

## Main definitions

* `StoreM.Ends`: what holds of the outcome of a computation and of the state that it leaves.
* `StoreM.Keeps`: whether a computation keeps a property of the state, whether it succeeds or not.

## Main results

* `StoreM.Ends.bind`, `StoreM.Ends.andThen`, `StoreM.Keeps.bind`: computations one after another.
-/

namespace GridStore

namespace StoreM

variable {σ α β : Type}

/-! ### Outcomes -/

/-- What holds after a computation on a state: `ok` of its value and the state that it leaves if it
succeeds, and `fail` of its failure and that state if it does not. -/
structure Ends (x : StoreM σ α) (s : σ) (ok : α → σ → Prop) (fail : StoreError → σ → Prop) :
    Prop where
  outcome :
    match x s with
    | (.ok a, s') => ok a s'
    | (.error e, s') => fail e s'

section

variable {x : StoreM σ α} {f : α → StoreM σ β} {s : σ} {ok ok' : α → σ → Prop}
  {fail fail' : StoreError → σ → Prop}

theorem ends_ok {a : α} {s' : σ} (hx : x s = (.ok a, s')) : Ends x s ok fail ↔ ok a s' := by
  refine ⟨fun ⟨h⟩ => ?_, fun h => ⟨?_⟩⟩
  · rw [hx] at h
    exact h
  · rw [hx]
    exact h

theorem ends_error {e : StoreError} {s' : σ} (hx : x s = (.error e, s')) :
    Ends x s ok fail ↔ fail e s' := by
  refine ⟨fun ⟨h⟩ => ?_, fun h => ⟨?_⟩⟩
  · rw [hx] at h
    exact h
  · rw [hx]
    exact h

theorem ends_pure {a : α} (h : ok a s) : Ends (pure a) s ok fail := ⟨h⟩

theorem ends_throw {e : StoreError} (h : fail e s) : Ends (throw e) s ok fail := ⟨h⟩

theorem Ends.mono (h : Ends x s ok fail) (hok : ∀ a s', ok a s' → ok' a s')
    (hfail : ∀ e s', fail e s' → fail' e s') : Ends x s ok' fail' := by
  rcases hx : x s with ⟨_ | _, s'⟩
  · exact (ends_error hx).2 (hfail _ _ ((ends_error hx).1 h))
  · exact (ends_ok hx).2 (hok _ _ ((ends_ok hx).1 h))

/-- A second computation starts from what the first one leads to. -/
theorem Ends.bind {done : β → σ → Prop} (h : Ends x s ok fail)
    (hf : ∀ a s', ok a s' → Ends (f a) s' done fail) : Ends (x >>= f) s done fail := by
  rcases hx : x s with ⟨_ | _, s'⟩
  · refine (ends_error ?_).2 ((ends_error hx).1 h)
    rw [bind_apply, hx]
  · obtain ⟨hnext⟩ := hf _ _ ((ends_ok hx).1 h)
    refine ⟨?_⟩
    rw [bind_apply, hx]
    exact hnext

/-- A second computation starts from the state that the first one leaves. -/
theorem ends_bind_of_eq {a : α} {s' : σ} (hx : x s = (.ok a, s')) {done : β → σ → Prop}
    (h : Ends (f a) s' done fail) : Ends (x >>= f) s done fail := by
  obtain ⟨h⟩ := h
  refine ⟨?_⟩
  rw [bind_apply, hx]
  exact h

/-- A second computation starts from what the first one leads to, and a failure of the first one is
a failure of both. -/
theorem Ends.andThen {done : β → σ → Prop} (h : Ends x s ok fail)
    (hfail : ∀ e s', fail e s' → fail' e s') (hf : ∀ a s', ok a s' → Ends (f a) s' done fail') :
    Ends (x >>= f) s done fail' :=
  (h.mono (fun _ _ h => h) hfail).bind hf

/-- What else holds of the state that a computation leaves. -/
theorem Ends.and (h : Ends x s ok fail) (P : σ → Prop) (hP : P (x s).2) :
    Ends x s (fun a s' => ok a s' ∧ P s') fun e s' => fail e s' ∧ P s' := by
  rcases hx : x s with ⟨_ | _, s'⟩ <;> rw [hx] at hP
  · exact (ends_error hx).2 ⟨(ends_error hx).1 h, hP⟩
  · exact (ends_ok hx).2 ⟨(ends_ok hx).1 h, hP⟩

/-- Whether a computation succeeds, and the state that it leaves. -/
def effect (x : StoreM σ α) (s : σ) : Bool × σ := ((x s).1.isOk, (x s).2)

/-- What holds of the state that a computation leaves, whether it succeeds or not. -/
theorem Ends.of_effect (h : Ends x s ok fail) {good bad : σ → Prop}
    (hok : ∀ a s', ok a s' → good s') (hfail : ∀ e s', fail e s' → bad s') :
    ((effect x s).1 = true ∧ good (effect x s).2) ∨
      ((effect x s).1 = false ∧ bad (effect x s).2) := by
  rw [effect]
  rcases hx : x s with ⟨e | a, s'⟩
  · exact .inr ⟨rfl, hfail e s' ((ends_error hx).1 h)⟩
  · exact .inl ⟨rfl, hok a s' ((ends_ok hx).1 h)⟩

/-- The value or the failure of a computation. -/
theorem ends_iff_fst_eq {result : Except StoreError α} :
    Ends x s (fun a _ => result = .ok a) (fun e _ => result = .error e) ↔ (x s).1 = result := by
  rcases hx : x s with ⟨e | a, s'⟩
  · exact (ends_error hx).trans eq_comm
  · exact (ends_ok hx).trans eq_comm

/-- What a computation leads to, together with its outcome. -/
theorem Ends.with_eq (h : Ends x s ok fail) :
    Ends x s (fun a s' => x s = (.ok a, s') ∧ ok a s') fun e s' =>
      x s = (.error e, s') ∧ fail e s' := by
  rcases hx : x s with ⟨e | a, s'⟩
  · exact (ends_error hx).2 ⟨rfl, (ends_error hx).1 h⟩
  · exact (ends_ok hx).2 ⟨rfl, (ends_ok hx).1 h⟩

/-- What a successful computation leads to. -/
theorem Ends.of_ok (h : Ends x s ok fail) {a : α} {s' : σ} (hx : x s = (.ok a, s')) : ok a s' :=
  (ends_ok hx).1 h

end

/-! ### Kept properties -/

/-- Whether a computation keeps a property of the state, whether it succeeds or not. -/
def Keeps (P : σ → Prop) (x : StoreM σ α) : Prop := ∀ s, P s → P (x s).2

section

variable {P : σ → Prop} {x : StoreM σ α} {f : α → StoreM σ β}

theorem keeps_of_ends (h : ∀ s, P s → Ends x s (fun _ => P) fun _ => P) : Keeps P x := by
  intro s hs
  rcases hx : x s with ⟨_ | _, s'⟩
  · exact (ends_error hx).1 (h s hs)
  · exact (ends_ok hx).1 (h s hs)

theorem keeps_pure (a : α) : Keeps P (pure a : StoreM σ α) := fun _ h => h

theorem keeps_throw (e : StoreError) : Keeps P (throw e : StoreM σ α) := fun _ h => h

theorem keeps_get : Keeps P (get : StoreM σ σ) := fun _ h => h

theorem keeps_liftExcept (result : Except StoreError α) : Keeps P (liftM result : StoreM σ α) := by
  cases result with
  | error e => exact fun _ h => h
  | ok a => exact fun _ h => h

theorem Keeps.bind (hx : Keeps P x) (hf : ∀ a, Keeps P (f a)) : Keeps P (x >>= f) := by
  intro s hs
  rw [bind_apply]
  have hkept := hx s hs
  rcases hresult : x s with ⟨_ | a, s'⟩
  · rw [hresult] at hkept
    exact hkept
  · rw [hresult] at hkept
    exact hf a s' hkept

/-- A computation for each element of a list, one after another. -/
theorem keeps_mapM {f : α → StoreM σ β} (hf : ∀ a, Keeps P (f a)) (xs : List α) :
    Keeps P (xs.mapM f) := by
  induction xs with
  | nil => exact keeps_pure []
  | cons a rest ih =>
    rw [List.mapM_cons]
    exact (hf a).bind fun b => ih.bind fun bs => keeps_pure (b :: bs)

theorem keeps_forM {f : α → StoreM σ PUnit} (hf : ∀ a, Keeps P (f a)) (xs : List α) :
    Keeps P (xs.forM f) := by
  induction xs with
  | nil => exact keeps_pure _
  | cons a rest ih => exact (hf a).bind fun _ => ih

end

end StoreM

end GridStore
