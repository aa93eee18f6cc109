/-!
# Computations that may fail, and values that may be missing

Whether a computation has a value, without a word on what it fails with, and what is left of the
values of a list when the list stands in another order.

## Main definitions

* `Succeeds`: whether a computation that may fail has a value.

## Main results

* `succeeds_bind_iff`, `succeeds_mapM_iff`: when computations of several steps succeed.
* `foldlM_cons_ok`, `foldlM_append_ok`: a loop after some of its steps.
* `toOption_bind`, `toOption_mapM`: values apart from failures.
* `mapM_perm`: the values of a list in another order.
* `map_eq_of_mapM`: what is made of values that were read.
-/

namespace GridStore

/-! ### Computations that may fail -/

/-- Whether a computation that may fail has a value. -/
def Succeeds {ε α : Type} (x : Except ε α) : Prop := ∃ a, x = .ok a

section

variable {ε ε' α β : Type}

theorem succeeds_ok (a : α) : Succeeds (.ok a : Except ε α) := ⟨a, rfl⟩

theorem succeeds_pure (a : α) : Succeeds (pure a : Except ε α) := ⟨a, rfl⟩

theorem not_succeeds_error (e : ε) : ¬Succeeds (.error e : Except ε α) := nofun

theorem not_succeeds_throw (e : ε) : ¬Succeeds (throw e : Except ε α) := nofun

/-- A second computation that succeeds or fails whatever the first one yields. -/
theorem succeeds_bind_iff {x : Except ε α} {f : α → Except ε β} {p : Prop}
    (h : ∀ a, Succeeds (f a) ↔ p) : Succeeds (x >>= f) ↔ Succeeds x ∧ p := by
  cases x with
  | error e => exact iff_of_false nofun fun hboth => not_succeeds_error e hboth.1
  | ok a => exact (h a).trans (iff_and_self.2 fun _ => succeeds_ok a)

theorem succeeds_bind_pure_iff {x : Except ε α} (f : α → β) :
    Succeeds (do return f (← x)) ↔ Succeeds x :=
  (succeeds_bind_iff fun a => iff_true_intro (succeeds_pure (f a))).trans (and_iff_left trivial)

theorem succeeds_mapError_iff {x : Except ε α} (f : ε → ε') :
    Succeeds (x.mapError f) ↔ Succeeds x := by
  cases x with
  | error e => exact iff_of_false (not_succeeds_error _) (not_succeeds_error e)
  | ok a => exact iff_of_true (succeeds_ok a) (succeeds_ok a)

theorem exists_of_bind_pure {x : Except ε α} {f : α → β} {b : β}
    (h : (do return f (← x)) = Except.ok b) : ∃ a, x = .ok a ∧ f a = b := by
  cases x with
  | error e => cases h
  | ok a => exact ⟨a, rfl, Except.ok.inj h⟩

theorem succeeds_mapM_iff {f : α → Except ε β} {xs : List α} :
    Succeeds (xs.mapM f) ↔ ∀ x ∈ xs, Succeeds (f x) := by
  induction xs with
  | nil => exact iff_of_true (succeeds_pure []) nofun
  | cons x rest ih =>
    rw [List.mapM_cons, List.forall_mem_cons, ← ih]
    exact succeeds_bind_iff fun b => succeeds_bind_pure_iff (b :: ·)

theorem foldlM_cons_ok {f : β → α → Except ε β} {x : α} {xs : List α} {state next : β}
    (h : f state x = .ok next) : (x :: xs).foldlM f state = xs.foldlM f next := by
  rw [List.foldlM_cons, h]
  rfl

theorem foldlM_append_ok {f : β → α → Except ε β} {first xs : List α} {state next : β}
    (h : first.foldlM f state = .ok next) : (first ++ xs).foldlM f state = xs.foldlM f next := by
  rw [List.foldlM_append, h]
  rfl

end

/-! ### Values that may be missing -/

section

variable {α : Type} {r : α → α → Prop}

theorem optionRel_refl (hrefl : ∀ a, r a a) : ∀ found : Option α, Option.Rel r found found
  | none => .none
  | some a => .some (hrefl a)

theorem optionRel_trans (htrans : ∀ {a b c : α}, r a b → r b c → r a c)
    {first second third : Option α} (h : Option.Rel r first second)
    (h' : Option.Rel r second third) : Option.Rel r first third := by
  cases h with
  | none => exact h'
  | some h =>
    cases h' with
    | some h' => exact .some (htrans h h')

/-- What is made of values, and does not tell related ones apart, is the same for them. -/
theorem map_eq_of_rel {β : Type} {f : α → β} {found other : Option α}
    (h : Option.Rel r found other) (hf : ∀ a b, r a b → f a = f b) :
    found.map f = other.map f := by
  cases h with
  | none => rfl
  | some h => exact congrArg some (hf _ _ h)

end

/-! ### The values of a list -/

section

variable {ε α β γ : Type}

theorem toOption_bind (x : Except ε α) (f : α → Except ε β) :
    (x >>= f).toOption = x.toOption.bind fun a => (f a).toOption := by
  cases x <;> rfl

theorem toOption_bind_pure (x : Except ε α) (f : α → β) :
    (x >>= fun a => pure (f a)).toOption = x.toOption.map f := by
  cases x <;> rfl

theorem toOption_mapM (f : α → Except ε β) (xs : List α) :
    (xs.mapM f).toOption = xs.mapM fun x => (f x).toOption := by
  induction xs with
  | nil => rfl
  | cons x rest ih =>
    simp only [List.mapM_cons, toOption_bind, ih]
    rfl

theorem map_mapM_option (f : α → Option β) (g : β → γ) (xs : List α) :
    (xs.mapM f).map (List.map g) = xs.mapM fun x => (f x).map g := by
  induction xs with
  | nil => rfl
  | cons x rest ih =>
    rw [List.mapM_cons, List.mapM_cons, ← ih]
    cases f x with
    | none => rfl
    | some b => cases rest.mapM f <;> rfl

/-- Values of a list in another order are the values in another order, and are there if those
are. -/
theorem mapM_perm {f : α → Option β} {xs ys : List α} (h : xs.Perm ys) :
    Option.Rel List.Perm (xs.mapM f) (ys.mapM f) := by
  induction h with
  | nil => exact .some (.refl [])
  | @cons x xs ys _ ih =>
    rw [List.mapM_cons, List.mapM_cons]
    cases f x with
    | none => exact .none
    | some b =>
      cases hxs : xs.mapM f <;> cases hys : ys.mapM f <;> rw [hxs, hys] at ih <;> cases ih
      case none.none => exact .none
      case some.some hperm => exact .some (hperm.cons b)
  | swap x y rest =>
    simp only [List.mapM_cons]
    cases f x <;> cases f y <;> cases rest.mapM f
    case some.some.some b c bs => exact .some (.swap b c bs)
    all_goals exact .none
  | trans _ _ ih ih' => exact optionRel_trans .trans ih ih'

/-- What is made of values is made of what they were read from. -/
theorem map_eq_of_mapM {f : α → Except ε β} {g : β → γ} {h : α → γ}
    (hread : ∀ a b, f a = .ok b → g b = h a) {xs : List α} {ys : List β}
    (hxs : xs.mapM f = .ok ys) : ys.map g = xs.map h := by
  induction xs generalizing ys with
  | nil =>
    cases hxs
    rfl
  | cons x rest ih =>
    rw [List.mapM_cons] at hxs
    cases hx : f x with
    | error e =>
      rw [hx] at hxs
      cases hxs
    | ok b =>
      cases hrest : rest.mapM f with
      | error e =>
        rw [hx, hrest] at hxs
        cases hxs
      | ok bs =>
        rw [hx, hrest] at hxs
        cases hxs
        rw [List.map_cons, List.map_cons, hread x b hx, ih hrest]

theorem length_of_mapM {f : α → Except ε β} {xs : List α} {ys : List β}
    (h : xs.mapM f = .ok ys) : ys.length = xs.length := by
  have hmarks : ys.map (fun _ => ()) = xs.map fun _ => () := map_eq_of_mapM (fun _ _ _ => rfl) h
  simpa only [List.length_map] using congrArg List.length hmarks

end

end GridStore
