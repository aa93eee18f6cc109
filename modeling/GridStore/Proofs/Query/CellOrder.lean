import GridStore.Proofs.Cell.Typing
import GridStore.Query.Basic

/-!
# The order of cells

Two cells with numbers are compared as numbers, and all others as texts. This is an order of the
cells of a column as long as no text stands between two cells with numbers in the order of texts
while the numbers stand the other way round: `9 < 10` as numbers, but `10 < 1a < 9` as texts.

## Main definitions

* `Cell.place?`: the place of the number that a cell holds.
* `Separates`: whether a text stands between two cells with numbers that stand the other way round.

## Main results

* `compareCells_swap`: exchanging the cells reverses the order.
* `separates_of_circle`: the cells that go round in a circle.
* `compareCells_trans_iff`: on which cells the order is transitive.
-/

namespace GridStore

/-! ### Numbers and texts -/

namespace Cell

/-- The place of the number that a cell holds. -/
def place? (text : String) : Option Int := (number? text).bind Number.place?

variable {text : String}

theorem exists_number?_of_place? {x : Int} (h : place? text = some x) :
    ∃ n, number? text = some n ∧ n.place? = some x := Option.bind_eq_some_iff.1 h

theorem place?_eq_none_iff : place? text = none ↔ number? text = none := by
  refine ⟨fun h => ?_, fun h => Option.bind_eq_none_iff.2 fun n hn => ?_⟩
  · cases hnumber : number? text with
    | none => rfl
    | some n =>
      have hfinite := isFinite_of_number? hnumber
      have hplace : n.place? = none := Option.bind_eq_none_iff.1 h n hnumber
      cases n with
      | finite negative units hr => cases hplace
      | _ => cases hfinite
  · rw [h] at hn
    cases hn

end Cell

open Cell

variable {a b c : String}

/-- Cells with numbers are compared by the places of these. -/
theorem compareCells_of_numbers {x y : Int} (ha : place? a = some x) (hb : place? b = some y) :
    compareCells a b = Ord.compare x y := by
  obtain ⟨m, hm, hx⟩ := exists_number?_of_place? ha
  obtain ⟨n, hn, hy⟩ := exists_number?_of_place? hb
  have hcompare : m.compare? n = some (Ord.compare x y) := by rw [Number.compare?, hx, hy]
  unfold compareCells
  generalize number? a = m' at hm
  generalize number? b = n' at hn
  subst hm hn
  simp only [hcompare, Option.getD_some]

/-- Cells of which one has no number are compared as texts. -/
theorem compareCells_of_text (h : place? a = none ∨ place? b = none) :
    compareCells a b = Ord.compare a b := by
  rw [place?_eq_none_iff, place?_eq_none_iff] at h
  unfold compareCells
  generalize number? a = m at h
  generalize number? b = n at h
  rcases h with rfl | rfl
  · rfl
  · cases m <;> rfl

/-- Exchanging the cells reverses the order. -/
theorem compareCells_swap (a b : String) : compareCells b a = (compareCells a b).swap := by
  cases ha : place? a with
  | none =>
    rw [compareCells_of_text (.inl ha), compareCells_of_text (.inr ha)]
    exact Std.OrientedOrd.eq_swap
  | some x =>
    cases hb : place? b with
    | none =>
      rw [compareCells_of_text (.inl hb), compareCells_of_text (.inr hb)]
      exact Std.OrientedOrd.eq_swap
    | some y =>
      rw [compareCells_of_numbers ha hb, compareCells_of_numbers hb ha]
      exact Std.OrientedOrd.eq_swap

theorem compareCells_self (a : String) : compareCells a a = .eq := by
  have hswap := compareCells_swap a a
  cases hself : compareCells a a with
  | eq => rfl
  | _ =>
    rw [hself] at hswap
    cases hswap

/-! ### Circles -/

/-- Whether a text stands strictly between two cells with numbers in the order of texts, while the
number of the later cell is not greater than that of the earlier one. -/
structure Separates (x t y : String) : Prop where
  first : (number? x).isSome
  text : number? t = none
  last : (number? y).isSome
  after : Ord.compare x t = .lt
  before : Ord.compare t y = .lt
  descends : compareCells y x ≠ .gt

instance (x t y : String) : Decidable (Separates x t y) :=
  decidable_of_iff ((number? x).isSome ∧ number? t = none ∧ (number? y).isSome ∧
      Ord.compare x t = .lt ∧ Ord.compare t y = .lt ∧ compareCells y x ≠ .gt)
    ⟨fun ⟨first, text, last, after, before, descends⟩ =>
        ⟨first, text, last, after, before, descends⟩,
      fun h => ⟨h.first, h.text, h.last, h.after, h.before, h.descends⟩⟩

/-- A text that is not above a cell with a number, and this one not above it, stand apart. -/
theorem lt_of_text (h : Ord.compare a b ≠ .gt) (ha : (place? a).isSome ≠ (place? b).isSome) :
    Ord.compare a b = .lt := by
  cases hcompare : Ord.compare a b with
  | lt => rfl
  | eq => exact absurd (by rw [Std.LawfulEqOrd.eq_of_compare hcompare]) ha
  | gt => exact absurd hcompare h

/-- Two cells with numbers and a text, each not above the next one in a circle. -/
theorem separates_of_place? {x y : Int} (ha : place? a = some x) (hb : place? b = none)
    (hc : place? c = some y) (hab : compareCells a b ≠ .gt) (hbc : compareCells b c ≠ .gt)
    (hca : compareCells c a ≠ .gt) : Separates a b c := by
  rw [compareCells_of_text (.inr hb)] at hab
  rw [compareCells_of_text (.inl hb)] at hbc
  obtain ⟨m, hm, -⟩ := exists_number?_of_place? ha
  obtain ⟨n, hn, -⟩ := exists_number?_of_place? hc
  exact ⟨by rw [hm]; rfl, place?_eq_none_iff.1 hb, by rw [hn]; rfl,
    lt_of_text hab (by simp [ha, hb]), lt_of_text hbc (by simp [hb, hc]), hca⟩

/-- In an order, elements of which each is not above the next one, in a circle, are equal. -/
theorem eq_of_circle {α : Type} [Ord α] [Std.TransOrd α] {x y z : α}
    (hxy : Ord.compare x y ≠ .gt) (hyz : Ord.compare y z ≠ .gt) (hzx : Ord.compare z x ≠ .gt) :
    Ord.compare x y = .eq := by
  have hyx : (Ord.compare y x).isLE :=
    Std.TransOrd.isLE_trans (Ordering.isLE_iff_ne_gt.2 hyz) (Ordering.isLE_iff_ne_gt.2 hzx)
  exact Std.OrientedCmp.isLE_antisymm (Ordering.isLE_iff_ne_gt.2 hxy) hyx

theorem all_eq_of_circle {α : Type} [Ord α] [Std.TransOrd α] {x y z : α}
    (hxy : Ord.compare x y ≠ .gt) (hyz : Ord.compare y z ≠ .gt) (hzx : Ord.compare z x ≠ .gt) :
    Ord.compare x y = .eq ∧ Ord.compare y z = .eq ∧ Ord.compare z x = .eq :=
  ⟨eq_of_circle hxy hyz hzx, eq_of_circle hyz hzx hxy, eq_of_circle hzx hxy hyz⟩

/-- Three cells of which each is not above the next one, in a circle, are equal, or one of them
separates the other two. -/
theorem separates_of_circle (hab : compareCells a b ≠ .gt) (hbc : compareCells b c ≠ .gt)
    (hca : compareCells c a ≠ .gt) :
    (compareCells a b = .eq ∧ compareCells b c = .eq ∧ compareCells c a = .eq) ∨
      Separates a b c ∨ Separates b c a ∨ Separates c a b := by
  have htexts (hab' : compareCells a b = Ord.compare a b)
      (hbc' : compareCells b c = Ord.compare b c) (hca' : compareCells c a = Ord.compare c a) :
      compareCells a b = .eq ∧ compareCells b c = .eq ∧ compareCells c a = .eq := by
    rw [hab'] at hab ⊢
    rw [hbc'] at hbc ⊢
    rw [hca'] at hca ⊢
    exact all_eq_of_circle hab hbc hca
  -- only two numbers and a text are not compared in one and the same order
  cases ha : place? a with
  | none =>
    have hab' : compareCells a b = Ord.compare a b := compareCells_of_text (.inl ha)
    have hca' : compareCells c a = Ord.compare c a := compareCells_of_text (.inr ha)
    cases hb : place? b with
    | none => exact .inl (htexts hab' (compareCells_of_text (.inl hb)) hca')
    | some y =>
      cases hc : place? c with
      | none => exact .inl (htexts hab' (compareCells_of_text (.inr hc)) hca')
      | some z => exact .inr (.inr (.inr (separates_of_place? hc ha hb hca hab hbc)))
  | some x =>
    cases hb : place? b with
    | none =>
      have hab' : compareCells a b = Ord.compare a b := compareCells_of_text (.inr hb)
      have hbc' : compareCells b c = Ord.compare b c := compareCells_of_text (.inl hb)
      cases hc : place? c with
      | none => exact .inl (htexts hab' hbc' (compareCells_of_text (.inl hc)))
      | some z => exact .inr (.inl (separates_of_place? ha hb hc hab hbc hca))
    | some y =>
      cases hc : place? c with
      | none => exact .inr (.inr (.inl (separates_of_place? hb hc ha hbc hca hab)))
      | some z =>
        rw [compareCells_of_numbers ha hb] at hab ⊢
        rw [compareCells_of_numbers hb hc] at hbc ⊢
        rw [compareCells_of_numbers hc ha] at hca ⊢
        exact .inl (all_eq_of_circle hab hbc hca)

namespace Separates

variable {x t y : String}

theorem compareCells_after (h : Separates x t y) : compareCells x t = .lt :=
  (compareCells_of_text (.inr (place?_eq_none_iff.2 h.text))).trans h.after

theorem compareCells_before (h : Separates x t y) : compareCells t y = .lt :=
  (compareCells_of_text (.inl (place?_eq_none_iff.2 h.text))).trans h.before

end Separates

/-- The order is transitive on some cells exactly if none of them separates two others. -/
theorem compareCells_trans_iff (cells : List String) :
    (∀ a ∈ cells, ∀ b ∈ cells, ∀ c ∈ cells, compareCells a b ≠ .gt → compareCells b c ≠ .gt →
      compareCells a c ≠ .gt) ↔
    ¬∃ x ∈ cells, ∃ t ∈ cells, ∃ y ∈ cells, Separates x t y := by
  constructor
  · rintro htrans ⟨x, hx, t, ht, y, hy, h⟩
    have htx := htrans t ht y hy x hx (by rw [h.compareCells_before]; decide) h.descends
    rw [compareCells_swap, h.compareCells_after] at htx
    exact htx rfl
  · intro hnone a ha b hb c hc hab hbc hac
    have hca : compareCells c a = .lt := by rw [compareCells_swap, hac]; rfl
    rcases separates_of_circle hab hbc (by rw [hca]; decide) with ⟨-, -, heq⟩ | h | h | h
    · rw [hca] at heq
      cases heq
    · exact hnone ⟨a, ha, b, hb, c, hc, h⟩
    · exact hnone ⟨b, hb, c, hc, a, ha, h⟩
    · exact hnone ⟨c, hc, a, ha, b, hb, h⟩

end GridStore
