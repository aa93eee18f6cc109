import GridStore.Sorting

/-!
# What sorting leads to

## Main results

* `sortedBy_eq_self`: elements of which none precedes an earlier one stay in their order.
* `sortedBy_eq_reverse`: elements of which each precedes all earlier ones are reversed.
* `pairwise_sortedBy`: no element precedes an earlier one after sorting.
* `not_cyclic_of_pairwise`: elements that are in order do not go round in a circle.
* `pairwise_of_filter_eq`: equal elements keep the order that they had before sorting.
-/

namespace GridStore

variable {α : Type} {precedes : α → α → Bool}

/-! ### Elements in order -/

/-- An element that precedes none of the others is put in front of the reversed list. -/
theorem insertReverse_of_forall_not {x : α} {ys : List α} (h : ∀ y ∈ ys, precedes x y = false) :
    insertReverse precedes x ys = x :: ys := by
  cases ys with
  | nil => rfl
  | cons y rest =>
    rw [insertReverse, h y (List.mem_cons_self ..)]
    rfl

/-- An element that precedes all others is put at the end of the reversed list. -/
theorem insertReverse_of_forall {x : α} {ys : List α} (h : ∀ y ∈ ys, precedes x y = true) :
    insertReverse precedes x ys = ys ++ [x] := by
  induction ys with
  | nil => rfl
  | cons y rest ih =>
    obtain ⟨hy, hrest⟩ := List.forall_mem_cons.1 h
    rw [insertReverse, if_pos hy, ih hrest]
    rfl

/-- Elements of which none precedes an earlier one are put in front one after another. -/
theorem foldl_insertReverse_of_not {xs done : List α}
    (h : xs.Pairwise fun a b => precedes b a = false)
    (hdone : ∀ x ∈ xs, ∀ y ∈ done, precedes x y = false) :
    xs.foldl (fun done x => insertReverse precedes x done) done = xs.reverse ++ done := by
  induction xs generalizing done with
  | nil => rfl
  | cons x rest ih =>
    obtain ⟨hx, hrest⟩ := List.pairwise_cons.1 h
    obtain ⟨hfirst, hothers⟩ := List.forall_mem_cons.1 hdone
    have hnext : ∀ y ∈ rest, ∀ z ∈ x :: done, precedes y z = false := fun y hy =>
      List.forall_mem_cons.2 ⟨hx y hy, hothers y hy⟩
    rw [List.foldl_cons, insertReverse_of_forall_not hfirst, ih hrest hnext, List.reverse_cons,
      List.append_assoc, List.singleton_append]

/-- Elements of which each precedes all earlier ones are put at the end one after another. -/
theorem foldl_insertReverse {xs done : List α} (h : xs.Pairwise fun a b => precedes b a = true)
    (hdone : ∀ x ∈ xs, ∀ y ∈ done, precedes x y = true) :
    xs.foldl (fun done x => insertReverse precedes x done) done = done ++ xs := by
  induction xs generalizing done with
  | nil => exact (List.append_nil done).symm
  | cons x rest ih =>
    obtain ⟨hx, hrest⟩ := List.pairwise_cons.1 h
    obtain ⟨hfirst, hothers⟩ := List.forall_mem_cons.1 hdone
    have hnext : ∀ y ∈ rest, ∀ z ∈ done ++ [x], precedes y z = true := fun y hy =>
      List.forall_mem_append.2 ⟨hothers y hy, List.forall_mem_singleton.2 (hx y hy)⟩
    rw [List.foldl_cons, insertReverse_of_forall hfirst, ih hrest hnext, List.append_assoc,
      List.singleton_append]

/-- Elements of which none precedes an earlier one stay in their order. -/
theorem sortedBy_eq_self {xs : List α} (h : xs.Pairwise fun a b => precedes b a = false) :
    sortedBy precedes xs = xs := by
  rw [sortedBy, foldl_insertReverse_of_not h fun _ _ => List.forall_mem_nil _, List.append_nil,
    List.reverse_reverse]

/-- Elements of which each precedes all earlier ones are reversed. -/
theorem sortedBy_eq_reverse {xs : List α} (h : xs.Pairwise fun a b => precedes b a = true) :
    sortedBy precedes xs = xs.reverse := by
  rw [sortedBy, foldl_insertReverse h fun _ _ => List.forall_mem_nil _, List.nil_append]

/-! ### Elements in any order -/

/-- No element precedes an earlier one after sorting. -/
theorem pairwise_sortedBy (hasymm : ∀ a b, precedes a b = true → precedes b a = false)
    (htrans : ∀ a b c, precedes a b = false → precedes b c = false → precedes a c = false)
    (xs : List α) : (sortedBy precedes xs).Pairwise fun a b => precedes b a = false :=
  pairwise_sortedBy_of_trans (List.pairwise_of_forall fun a b => ⟨hasymm b a, id⟩)
    fun a _ b _ c _ hab hbc => htrans c b a hbc hab

/-- In a list in the order of an asymmetric relation, no three elements go round in a circle. -/
theorem not_cyclic_of_pairwise {r : α → α → Prop} (hasymm : ∀ a b, r a b → ¬r b a) {xs : List α}
    (h : xs.Pairwise r) {a b c : α} (ha : a ∈ xs) (hb : b ∈ xs) (hc : c ∈ xs) (hab : r a b)
    (hbc : r b c) : ¬r c a := by
  intro hca
  induction xs with
  | nil => cases ha
  | cons x rest ih =>
    obtain ⟨hx, hrest⟩ := List.pairwise_cons.1 h
    -- the first of the three in the list comes before the one that should come before it
    have hfirst : ∀ {u v : α}, u = x → v ∈ x :: rest → ¬r v u := fun hu hv hvu => by
      subst hu
      rcases List.mem_cons.1 hv with rfl | hv
      · exact hasymm _ _ hvu hvu
      · exact hasymm _ _ hvu (hx _ hv)
    have hrests : ∀ {u v : α}, u ∈ x :: rest → v ∈ x :: rest → r v u → u ∈ rest :=
      fun hu hv hvu => (List.mem_cons.1 hu).resolve_left fun hux => hfirst hux hv hvu
    exact ih hrest (hrests ha hc hca) (hrests hb ha hab) (hrests hc hb hbc)

/-- Equal elements are in the order of a relation after sorting if they were before. -/
theorem pairwise_of_filter_eq {compare : α → α → Ordering} {r : α → α → Prop} {xs ys : List α}
    (hperm : ys.Perm xs) (hrefl : ∀ a ∈ xs, compare a a = .eq)
    (hkeeps : ∀ a ∈ xs, ys.filter (fun b => compare a b == .eq) =
      xs.filter fun b => compare a b == .eq)
    (hr : xs.Pairwise r) : ys.Pairwise fun a b => compare a b = .eq → r a b := by
  refine List.pairwise_iff_forall_sublist.2 fun {a b} hsub heq => ?_
  have ha : a ∈ xs := hperm.mem_iff.1 (hsub.subset (List.mem_cons_self ..))
  have hpair : [a, b].filter (fun b => compare a b == .eq) = [a, b] := by
    simp [hrefl a ha, heq]
  have hfiltered := hsub.filter fun b => compare a b == .eq
  rw [hpair, hkeeps a ha] at hfiltered
  exact List.pairwise_iff_forall_sublist.1 hr (hfiltered.trans List.filter_sublist)

end GridStore
