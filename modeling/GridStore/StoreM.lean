import GridStore.Error

/-!
# Computations on a state

A computation on a state yields a value or a failure, and a state in both cases: what was done
before a failure stays done.

## Main definitions

* `StoreM`: computations on a state.

## Main results

* `StoreM.bind_apply`: a second computation runs on the state that the first one leaves, unless the
  first one fails.
-/

namespace GridStore

/-- A computation on a state that may fail; the state is kept when it does. -/
abbrev StoreM (σ : Type) := ExceptT StoreError (StateM σ)

namespace StoreM

variable {σ α β : Type}

@[simp] theorem pure_apply (a : α) (s : σ) : (pure a : StoreM σ α) s = (.ok a, s) := rfl

@[simp] theorem bind_apply (x : StoreM σ α) (f : α → StoreM σ β) (s : σ) :
    (x >>= f) s = match x s with
      | (.ok a, s) => f a s
      | (.error e, s) => (.error e, s) := by
  show (StateT.bind x (ExceptT.bindCont f)) s = _
  simp only [StateT.bind, bind]
  rcases x s with ⟨result, s'⟩
  cases result <;> rfl

@[simp] theorem throw_apply (e : StoreError) (s : σ) :
    (throw e : StoreM σ α) s = (.error e, s) := rfl

@[simp] theorem get_apply (s : σ) : (get : StoreM σ σ) s = (.ok s, s) := rfl

@[simp] theorem set_apply (new s : σ) : (set new : StoreM σ PUnit) s = (.ok ⟨⟩, new) := rfl

@[simp] theorem modify_apply (f : σ → σ) (s : σ) :
    (modify f : StoreM σ PUnit) s = (.ok ⟨⟩, f s) := rfl

end StoreM

end GridStore
