/-!
# Sorting

What is relied on of a sort by a comparison, and a sort by insertion that satisfies it: the elements
are taken one after another, and each is moved back past those that it precedes. A sort puts
elements in the order of a comparison only if the comparison orders them; else it may leave them in
any order, or break off.

## Main definitions

* `sortedBy`: a list sorted by insertion.
* `Orders`: whether a comparison orders some elements.
* `Sorter`: a stable sort, which may break off if the comparison does not order the elements.
* `Sorter.insertion`: the sort by insertion, which never does.

## Main results

* `sortedBy_perm`: sorting reorders the elements.
* `pairwise_sortedBy_of_trans`: sorting puts elements in the order of a relation that is transitive
  on them.
* `filter_sortedBy`: elements that do not precede each other keep their order.
-/

namespace GridStore

variable {α : Type}

/-! ### Sorting by insertion -/

/-- Puts an element into a list in reverse order, behind the first elements that it precedes. -/
def insertReverse (precedes : α → α → Bool) (x : α) : List α → List α
  | [] => [x]
  | y :: rest => if precedes x y then y :: insertReverse precedes x rest else x :: y :: rest

/-- A list sorted by a relation. -/
def sortedBy (precedes : α → α → Bool) (xs : List α) : List α :=
  (xs.foldl (fun done x => insertReverse precedes x done) []).reverse

theorem insertReverse_perm (precedes : α → α → Bool) (x : α) (ys : List α) :
    (insertReverse precedes x ys).Perm (x :: ys) := by
  induction ys with
  | nil => exact .refl _
  | cons y rest ih =>
    simp only [insertReverse]
    split
    · exact (ih.cons y).trans (.swap x y rest)
    · exact .refl _

theorem foldl_insertReverse_perm (precedes : α → α → Bool) (xs done : List α) :
    (xs.foldl (fun done x => insertReverse precedes x done) done).Perm (xs ++ done) := by
  induction xs generalizing done with
  | nil => exact .refl _
  | cons x rest ih =>
    exact (ih _).trans (((insertReverse_perm precedes x done).append_left rest).trans
      List.perm_middle)

theorem sortedBy_perm (precedes : α → α → Bool) (xs : List α) :
    (sortedBy precedes xs).Perm xs := by
  have h := foldl_insertReverse_perm precedes xs []
  rw [List.append_nil] at h
  exact (List.reverse_perm _).trans h

section

variable {precedes : α → α → Bool}

/-- An element that is put back past those that it precedes stands between those before it and those
after it in every relation that is transitive up to it. -/
theorem pairwise_insertReverse {r : α → α → Prop} {x : α} {ys : List α}
    (hx : ∀ y ∈ ys, (precedes x y = true → r x y) ∧ (precedes x y = false → r y x))
    (htrans : ∀ y ∈ ys, ∀ z ∈ ys, r z y → r y x → r z x) (h : ys.Pairwise fun a b => r b a) :
    (insertReverse precedes x ys).Pairwise fun a b => r b a := by
  induction ys with
  | nil => exact List.pairwise_singleton _ x
  | cons y rest ih =>
    obtain ⟨hy, hrest⟩ := List.pairwise_cons.1 h
    obtain ⟨hxy, hxrest⟩ := List.forall_mem_cons.1 hx
    rw [insertReverse]
    by_cases hbefore : precedes x y = true
    · rw [if_pos hbefore]
      refine List.pairwise_cons.2 ⟨fun z hz => ?_, ih hxrest (fun a ha b hb => ?_) hrest⟩
      · rcases List.mem_cons.1 ((insertReverse_perm precedes x rest).mem_iff.1 hz) with rfl | hz
        · exact hxy.1 hbefore
        · exact hy z hz
      · exact htrans a (List.mem_cons_of_mem _ ha) b (List.mem_cons_of_mem _ hb)
    · rw [if_neg hbefore]
      have hyx := hxy.2 (Bool.eq_false_iff.2 hbefore)
      refine List.pairwise_cons.2 ⟨List.forall_mem_cons.2 ⟨hyx, fun z hz => ?_⟩, h⟩
      exact htrans y (List.mem_cons_self ..) z (List.mem_cons_of_mem _ hz) (hy z hz) hyx

/-- Sorting puts elements in the order of a relation that is transitive on them and says which of
two elements comes first, the later one if it precedes the earlier one and else the earlier one. -/
theorem pairwise_sortedBy_of_trans {r : α → α → Prop} {xs : List α}
    (hr : xs.Pairwise fun a b => (precedes b a = true → r b a) ∧ (precedes b a = false → r a b))
    (htrans : ∀ a ∈ xs, ∀ b ∈ xs, ∀ c ∈ xs, r a b → r b c → r a c) :
    (sortedBy precedes xs).Pairwise r := by
  rw [sortedBy, List.pairwise_reverse]
  -- `done` holds the elements taken so far, in reverse order
  suffices h : ∀ rest done : List α, (∀ x ∈ rest ++ done, x ∈ xs) →
      (rest.Pairwise fun a b => (precedes b a = true → r b a) ∧ (precedes b a = false → r a b)) →
      (∀ x ∈ rest, ∀ y ∈ done, (precedes x y = true → r x y) ∧ (precedes x y = false → r y x)) →
      (done.Pairwise fun a b => r b a) →
      (rest.foldl (fun done x => insertReverse precedes x done) done).Pairwise
        fun a b => r b a from
    h xs [] (fun x hx => (List.append_nil xs) ▸ hx) hr (fun _ _ => nofun) .nil
  intro rest
  induction rest with
  | nil => exact fun done _ _ _ hdone => hdone
  | cons x rest ih =>
    intro done hmem hrest hothers hdone
    obtain ⟨hx, hrest⟩ := List.pairwise_cons.1 hrest
    obtain ⟨hfirst, hothers⟩ := List.forall_mem_cons.1 hothers
    have hperm := insertReverse_perm precedes x done
    have hxs : x ∈ xs := hmem x (List.mem_cons_self ..)
    have hdonexs : ∀ y ∈ done, y ∈ xs := fun y hy => hmem y (List.mem_append_right _ hy)
    refine ih _ (fun y hy => hmem y ?_) hrest (fun y hy z hz => ?_)
      (pairwise_insertReverse hfirst
        (fun y hy z hz => htrans z (hdonexs z hz) y (hdonexs y hy) x hxs) hdone)
    · rcases List.mem_append.1 hy with hy | hy
      · exact List.mem_cons_of_mem _ (List.mem_append_left _ hy)
      · rcases List.mem_cons.1 (hperm.mem_iff.1 hy) with rfl | hy
        · exact List.mem_cons_self ..
        · exact List.mem_append_right _ hy
    · rcases List.mem_cons.1 (hperm.mem_iff.1 hz) with rfl | hz
      · exact hx y hy
      · exact hothers y hy z hz

/-- An element is put in front of those that it does not precede. -/
theorem filter_insertReverse {p : α → Bool} {x : α} {ys : List α}
    (hp : ∀ y ∈ ys, p x = true → p y = true → precedes x y = false) :
    (insertReverse precedes x ys).filter p = [x].filter p ++ ys.filter p := by
  induction ys with
  | nil => exact (List.append_nil _).symm
  | cons y rest ih =>
    obtain ⟨hy, hrest⟩ := List.forall_mem_cons.1 hp
    rw [insertReverse]
    split
    case isTrue hx =>
      rw [List.filter_cons, ih hrest, List.filter_cons (x := y)]
      by_cases hpy : p y = true
      · have hpx : p x ≠ true := fun hpx => by simp [hy hpx hpy] at hx
        simp [hpy, hpx]
      · simp [hpy]
    case isFalse => rw [← List.filter_append, List.singleton_append]

/-- Elements that do not precede each other keep their order. -/
theorem filter_sortedBy {p : α → Bool} {xs : List α}
    (hp : ∀ a ∈ xs, ∀ b ∈ xs, p a = true → p b = true → precedes a b = false) :
    (sortedBy precedes xs).filter p = xs.filter p := by
  suffices h : ∀ rest done : List α, (∀ x ∈ rest ++ done, x ∈ xs) →
      (rest.foldl (fun done x => insertReverse precedes x done) done).filter p =
        (rest.filter p).reverse ++ done.filter p by
    rw [sortedBy, List.filter_reverse, h xs [] (fun x hx => (List.append_nil xs) ▸ hx),
      List.filter_nil, List.append_nil, List.reverse_reverse]
  intro rest
  induction rest with
  | nil => exact fun done _ => rfl
  | cons x rest ih =>
    intro done hmem
    have hx : x ∈ xs := hmem x (List.mem_cons_self ..)
    have hdone : ∀ y ∈ done, y ∈ xs := fun y hy => hmem y (List.mem_append_right _ hy)
    have hnext : ∀ y ∈ rest ++ insertReverse precedes x done, y ∈ xs := fun y hy => by
      rcases List.mem_append.1 hy with hy | hy
      · exact hmem y (List.mem_cons_of_mem _ (List.mem_append_left _ hy))
      · rcases List.mem_cons.1 ((insertReverse_perm precedes x done).mem_iff.1 hy) with rfl | hy
        · exact hx
        · exact hdone y hy
    rw [List.foldl_cons, ih _ hnext, filter_insertReverse fun y hy => hp x hx y (hdone y hy)]
    by_cases hpx : p x = true <;> simp [hpx]

end

/-! ### Sorts -/

/-- Whether a comparison orders some elements: exchanging two of them reverses it, and it is
transitive on them. -/
structure Orders (compare : α → α → Ordering) (xs : List α) : Prop where
  swap : ∀ a ∈ xs, ∀ b ∈ xs, compare b a = (compare a b).swap
  trans : ∀ a ∈ xs, ∀ b ∈ xs, ∀ c ∈ xs, compare a b ≠ .gt → compare b c ≠ .gt →
    compare a c ≠ .gt

/-- A stable sort by a comparison. The result has the elements of the list. If the comparison orders
them, there is a result, it is in order, and equal elements keep their order. If it does not, the
sort may break off. -/
structure Sorter (α : Type) where
  sort : (α → α → Ordering) → List α → Option (List α)
  perm : ∀ {compare : α → α → Ordering} {xs ys : List α}, sort compare xs = some ys → ys.Perm xs
  sorted : ∀ {compare : α → α → Ordering} {xs : List α}, Orders compare xs →
    ∃ ys, sort compare xs = some ys ∧ ys.Pairwise (fun a b => compare a b ≠ .gt) ∧
      ∀ a ∈ xs, ys.filter (fun b => compare a b == .eq) = xs.filter fun b => compare a b == .eq

namespace Orders

variable {compare : α → α → Ordering} {xs : List α}

/-- Elements that are equal to one element are equal to each other. -/
theorem ne_lt_of_eq (h : Orders compare xs) {a b c : α} (ha : a ∈ xs) (hb : b ∈ xs) (hc : c ∈ xs)
    (hab : compare a b = .eq) (hac : compare a c = .eq) : compare b c ≠ .lt := by
  have hcb := h.trans c hc a ha b hb (by rw [h.swap a ha c hc, hac]; decide) (by rw [hab]; decide)
  intro hlt
  rw [h.swap b hb c hc, hlt] at hcb
  exact hcb rfl

end Orders

/-- The sort by insertion. -/
def Sorter.insertion : Sorter α where
  sort compare xs := some (sortedBy (fun a b => compare a b == .lt) xs)
  perm h := Option.some.inj h ▸ sortedBy_perm _ _
  sorted {compare xs} h := by
    refine ⟨_, rfl, pairwise_sortedBy_of_trans ?_ h.trans, fun a ha => filter_sortedBy ?_⟩
    · have hall : xs.Pairwise fun _ _ => True := List.pairwise_of_forall fun _ _ => trivial
      refine hall.imp_of_mem ?_
      intro a b ha hb _
      refine ⟨fun hlt => ?_, fun hnot hgt => ?_⟩
      · rw [eq_of_beq hlt]
        decide
      · rw [h.swap a ha b hb, hgt] at hnot
        cases hnot
    · intro b hb c hc hab hac
      exact beq_false_of_ne (h.ne_lt_of_eq ha hb hc (eq_of_beq hab) (eq_of_beq hac))

end GridStore
