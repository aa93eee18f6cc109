import GridStore.Text.Range

/-!
# Sets of characters

A set of characters is kept as the list of its ranges of code points, in ascending order and with a
gap between neighbours, so that equal sets have equal lists.

Letters of ASCII can be added in the other case. This is done range by range: a range that has small
letters gets its small letters in capitals, and only a range without any gets its capitals in small
letters. So the set of a range that runs from capitals into small letters does not become closed
under change of case.

## Main definitions

* `CharSet`: sets of characters.
* `CharSet.add`, `CharSet.union`, `CharSet.complement`: operations on sets.
* `CharSet.withOtherCase`: letters in the other case added.
* `CharSet.named?`: the sets that have a name.

## Main results

* `CharSet.contains_add`, `CharSet.contains_complement`: the members of the results.
-/

namespace GridStore

/-- The largest code point. -/
def lastCode : Nat := 0x10FFFF

/-! ### Lists of ranges -/

/-- Ranges in ascending order, from a code point on and with a gap between neighbours. -/
def SpreadFrom (start : Nat) : List (Nat × Nat) → Prop
  | [] => True
  | (first, last) :: rest => start ≤ first ∧ first ≤ last ∧ SpreadFrom (last + 2) rest

theorem SpreadFrom.mono {s t : Nat} (h : s ≤ t) {ranges : List (Nat × Nat)}
    (hr : SpreadFrom t ranges) : SpreadFrom s ranges := by
  cases ranges with
  | nil => trivial
  | cons r rest => exact ⟨Nat.le_trans h hr.1, hr.2⟩

/-- Spread ranges with one more, joined with those that it meets or touches. -/
def addRange (first last : Nat) : List (Nat × Nat) → List (Nat × Nat)
  | [] => [(first, last)]
  | (a, b) :: rest =>
    if last + 1 < a then (first, last) :: (a, b) :: rest
    else if b + 1 < first then (a, b) :: addRange first last rest
    else addRange (min first a) (max last b) rest

theorem SpreadFrom.addRange {ranges : List (Nat × Nat)} {s first last : Nat}
    (hr : SpreadFrom s ranges) (hs : s ≤ first) (h : first ≤ last) :
    SpreadFrom s (addRange first last ranges) := by
  induction ranges generalizing s first last with
  | nil => exact ⟨hs, h, trivial⟩
  | cons r rest ih =>
    obtain ⟨a, b⟩ := r
    obtain ⟨hsa, hab, hrest⟩ := hr
    unfold GridStore.addRange
    split
    · exact ⟨hs, h, by omega, hab, hrest⟩
    · split
      · exact ⟨hsa, hab, ih hrest (by omega) h⟩
      · exact ih (hrest.mono (by omega)) (by omega) (by omega)

/-- A code point below spread ranges is in none of them. -/
theorem SpreadFrom.not_inRanges {ranges : List (Nat × Nat)} {s n : Nat} (hr : SpreadFrom s ranges)
    (h : n < s) : inRanges n ranges = false := by
  cases ranges with
  | nil => rfl
  | cons r rest =>
    have := hr.1
    simp only [inRanges]
    rw [if_pos (by omega)]

theorem inRanges_cons_iff {n first last : Nat} {rest : List (Nat × Nat)} :
    inRanges n ((first, last) :: rest) = true ↔
      first ≤ n ∧ (n ≤ last ∨ inRanges n rest = true) := by
  rw [inRanges]
  split
  case isTrue hlow => simp only [Bool.false_eq_true, Nat.not_le.2 hlow, false_and]
  case isFalse hle =>
    simp only [Bool.or_eq_true, decide_eq_true_eq, Nat.not_lt.1 hle, true_and]

theorem inRanges_addRange {ranges : List (Nat × Nat)} {s first last n : Nat}
    (hr : SpreadFrom s ranges) (h : first ≤ last) :
    inRanges n (addRange first last ranges) =
      (decide (first ≤ n ∧ n ≤ last) || inRanges n ranges) := by
  rw [Bool.eq_iff_iff, Bool.or_eq_true, decide_eq_true_eq]
  induction ranges generalizing s first last with
  | nil => rw [addRange, inRanges_cons_iff, inRanges, Bool.false_eq_true, or_false, or_false]
  | cons r rest ih =>
    obtain ⟨a, b⟩ := r
    obtain ⟨hsa, hab, hrest⟩ := hr
    have hlow : n < b + 2 → inRanges n rest = false := hrest.not_inRanges
    unfold addRange
    split
    · grind [inRanges_cons_iff]
    · split
      · rw [inRanges_cons_iff, inRanges_cons_iff, ih hrest h]
        grind
      · rw [ih hrest (by omega), inRanges_cons_iff]
        grind

/-- The ranges between spread ranges, from a code point on. -/
def gapsFrom (start : Nat) : List (Nat × Nat) → List (Nat × Nat)
  | [] => if start ≤ lastCode then [(start, lastCode)] else []
  | (first, last) :: rest =>
    if start < first then (start, first - 1) :: gapsFrom (last + 1) rest
    else gapsFrom (last + 1) rest

theorem SpreadFrom.gapsFrom {ranges : List (Nat × Nat)} {s start : Nat}
    (hr : SpreadFrom start ranges) (hs : s ≤ start) : SpreadFrom s (gapsFrom start ranges) := by
  induction ranges generalizing s start with
  | nil =>
    unfold GridStore.gapsFrom
    split
    · exact ⟨hs, by assumption, trivial⟩
    · trivial
  | cons r rest ih =>
    obtain ⟨first, last⟩ := r
    obtain ⟨h1, h2, hrest⟩ := hr
    unfold GridStore.gapsFrom
    split
    · exact ⟨hs, by omega, ih (hrest.mono (by omega)) (by omega)⟩
    · exact ih (hrest.mono (by omega)) (by omega)

theorem inRanges_gapsFrom {ranges : List (Nat × Nat)} {start n : Nat}
    (hr : SpreadFrom start ranges) (hn : n ≤ lastCode) :
    inRanges n (gapsFrom start ranges) = (decide (start ≤ n) && !inRanges n ranges) := by
  rw [Bool.eq_iff_iff, Bool.and_eq_true, decide_eq_true_eq, Bool.not_eq_true']
  induction ranges generalizing start with
  | nil =>
    unfold gapsFrom
    split
    · rw [inRanges_cons_iff]
      simp only [inRanges]
      grind
    · simp only [inRanges]
      grind
  | cons r rest ih =>
    obtain ⟨first, last⟩ := r
    obtain ⟨h1, h2, hrest⟩ := hr
    have hlow : n < last + 2 → inRanges n rest = false := hrest.not_inRanges
    have hgaps := ih (hrest.mono (by omega) : SpreadFrom (last + 1) rest)
    rw [← Bool.not_eq_true, inRanges_cons_iff]
    unfold gapsFrom
    split
    · rw [inRanges_cons_iff, hgaps]
      grind
    · rw [hgaps]
      grind

/-! ### Sets -/

/-- A set of characters: the ranges of their code points. -/
structure CharSet where
  ranges : List (Nat × Nat)
  spread : SpreadFrom 0 ranges
deriving DecidableEq

namespace CharSet

/-- Whether a character belongs to a set. -/
def contains (set : CharSet) (c : Char) : Bool := inRanges c.toNat set.ranges

/-- The set without members. -/
def empty : CharSet := ⟨[], trivial⟩

/-- The set with the code points between two ends, both included, if they are in order. -/
def add (set : CharSet) (first last : Nat) : CharSet :=
  if h : first ≤ last then ⟨addRange first last set.ranges, set.spread.addRange (Nat.zero_le _) h⟩
  else set

/-- The set of the code points in one of some ranges. -/
def ofRanges (ranges : List (Nat × Nat)) : CharSet :=
  ranges.foldl (fun set (first, last) => set.add first last) empty

/-- The set of the characters between two ends. -/
def range (first last : Char) : CharSet := empty.add first.toNat last.toNat

/-- The members of two sets. -/
def union (a b : CharSet) : CharSet :=
  b.ranges.foldl (fun set (first, last) => set.add first last) a

/-- All characters that do not belong to a set. -/
def complement (set : CharSet) : CharSet :=
  ⟨gapsFrom 0 set.ranges, set.spread.gapsFrom (Nat.le_refl 0)⟩

/-- The letters of a range in the other case: of its small letters if it has any, and of its
capitals otherwise. -/
def otherCase? : Nat × Nat → Option (Nat × Nat)
  | (first, last) =>
    if first ≤ 'z'.toNat ∧ 'a'.toNat ≤ last then
      some (max first 'a'.toNat - 32, min last 'z'.toNat - 32)
    else if first ≤ 'Z'.toNat ∧ 'A'.toNat ≤ last then
      some (max first 'A'.toNat + 32, min last 'Z'.toNat + 32)
    else none

/-- The set with the letters of each of its ranges in the other case. -/
def withOtherCase (set : CharSet) : CharSet :=
  (set.ranges.filterMap otherCase?).foldl (fun set (first, last) => set.add first last) set

@[simp] theorem contains_empty (c : Char) : empty.contains c = false := rfl

theorem contains_add (set : CharSet) {first last : Nat} (h : first ≤ last) (c : Char) :
    (set.add first last).contains c =
      (decide (first ≤ c.toNat ∧ c.toNat ≤ last) || set.contains c) := by
  simp only [add, dif_pos h, contains]
  exact inRanges_addRange set.spread h

theorem contains_complement (set : CharSet) (c : Char) :
    set.complement.contains c = !set.contains c := by
  have hc : c.toNat ≤ lastCode := by
    have := c.valid
    simp only [UInt32.isValidChar, Nat.isValidChar] at this
    simp only [lastCode, Char.toNat]
    omega
  simp only [complement, contains, inRanges_gapsFrom set.spread hc]
  simp

/-- The sets of characters of ASCII that have a name. -/
def named? (name : String) : Option CharSet :=
  let between (ends : List (Char × Char)) : CharSet :=
    ofRanges (ends.map fun (first, last) => (first.toNat, last.toNat))
  match name with
  | "alnum" => some (between [('0', '9'), ('A', 'Z'), ('a', 'z')])
  | "alpha" => some (between [('A', 'Z'), ('a', 'z')])
  | "ascii" => some (between [('\x00', '\x7f')])
  | "blank" => some (between [('\t', '\t'), (' ', ' ')])
  | "cntrl" => some (between [('\x00', '\x1f'), ('\x7f', '\x7f')])
  | "digit" => some (between [('0', '9')])
  | "graph" => some (between [('!', '~')])
  | "lower" => some (between [('a', 'z')])
  | "print" => some (between [(' ', '~')])
  | "punct" => some (between [('!', '/'), (':', '@'), ('[', '\x60'), ('\x7b', '~')])
  | "space" => some (between [('\t', '\r'), (' ', ' ')])
  | "upper" => some (between [('A', 'Z')])
  | "word" => some (between [('0', '9'), ('A', 'Z'), ('_', '_'), ('a', 'z')])
  | "xdigit" => some (between [('0', '9'), ('A', 'F'), ('a', 'f')])
  | _ => none

end CharSet

end GridStore
