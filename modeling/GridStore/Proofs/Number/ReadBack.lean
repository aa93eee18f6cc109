import GridStore.Number.Layout
import GridStore.Proofs.Number.Rounding
import GridStore.Proofs.Text.Digits

/-!
# The text of a number in a cell reads back

The shortest digits of a magnitude are checked to read back when they are chosen, against a value
counted in units of `10⁻¹⁰⁷⁴`. Writing them with a point and reading the numeral gives another
fraction of the same value, and rounding depends on the value alone.

## Main results

* `shortestDigits_readsBack`: the shortest digits stand for a value that rounds to the magnitude.
* `Number.read?_cellText`: the text of a number in a cell is read as that number.
* `Number.mem_cellText`: the characters of such a text.
-/

namespace GridStore

/-! ### Shortest digits -/

/-- Digits without the zeros at their end, and those zeros. -/
theorem trimZeros_append (ds : List Char) :
    (Shortest.trimZeros ds).1 ++ List.replicate (Shortest.trimZeros ds).2 '0' = ds := by
  have hsplit : ds = (ds.reverse.dropWhile (· == '0')).reverse ++
      (ds.reverse.takeWhile (· == '0')).reverse := by
    rw [← List.reverse_append, List.takeWhile_append_dropWhile, List.reverse_reverse]
  have hzeros : ∀ c ∈ ds.reverse.takeWhile (· == '0'), c = '0' := fun c hc =>
    eq_of_beq (List.all_eq_true.1 List.all_takeWhile c hc)
  simp only [Shortest.trimZeros]
  generalize ds.reverse.takeWhile (· == '0') = zeros at hsplit hzeros ⊢
  generalize (ds.reverse.dropWhile (· == '0')).reverse = front at hsplit
  subst hsplit
  have hreplicate : zeros = List.replicate zeros.length '0' := List.eq_replicate_iff.2 ⟨rfl, hzeros⟩
  have hlength : (front ++ zeros.reverse).length - zeros.length = front.length := by simp
  rw [hlength, List.take_left, hreplicate]
  simp

theorem readsBack_candidate {tie : TieRule} {units width d : Nat}
    (h : Shortest.candidate? tie units width = some d) : readsBack units (d * width) = true := by
  simp only [Shortest.candidate?] at h
  split at h
  case isTrue hboth =>
    rw [Bool.and_eq_true] at hboth
    obtain rfl := Option.some.inj h
    split
    · exact hboth.2
    · exact hboth.1
  case isFalse =>
    split at h
    case isTrue hlower => exact Option.some.inj h ▸ hlower
    case isFalse =>
      split at h
      case isTrue hupper => exact Option.some.inj h ▸ hupper
      case isFalse => cases h

theorem two_pow_mul_five_pow (n : Nat) : 2 ^ n * 5 ^ n = 10 ^ n := (Nat.mul_pow 2 5 n).symm

theorem tenthsPerUnit_pos : 0 < tenthsPerUnit := by
  unfold tenthsPerUnit
  generalize 1074 = n
  exact Nat.pow_pos (by decide)

theorem unitsPerOne_mul_tenthsPerUnit : unitsPerOne * tenthsPerUnit = 10 ^ (1074 : Nat) := by
  unfold unitsPerOne tenthsPerUnit
  exact two_pow_mul_five_pow 1074

attribute [local irreducible] tenthsPerUnit unitsPerOne unitsBound

theorem not_readsBack_zero {units : Nat} (h : units ≠ 0) : readsBack units 0 = false := by
  have hzero : roundUnits 0 tenthsPerUnit = 0 := roundUnits_eq_zero (by
    rw [Nat.mul_zero]
    exact tenthsPerUnit_pos)
  rw [readsBack, hzero, beq_eq_false_iff_ne]
  exact h.symm

/-- The chosen digits stand for a value that rounds to the magnitude. -/
theorem readsBack_choice (tie : TieRule) {units exact : Nat}
    (hexact : readsBack units exact = true) :
    readsBack units ((Shortest.choice tie units exact).1 *
      10 ^ (Shortest.choice tie units exact).2) = true := by
  simp only [Shortest.choice]
  generalize hfound : (List.range 17).findSome? _ = found
  cases found with
  | none =>
    rw [Option.getD_none, Nat.pow_zero, Nat.mul_one]
    exact hexact
  | some chosen =>
    obtain ⟨n, -, hn⟩ := List.exists_of_findSome?_eq_some hfound
    obtain ⟨d, hd, rfl⟩ := Option.map_eq_some_iff.1 hn
    exact readsBack_candidate hd

/-- The shortest digits stand for a value that rounds to the magnitude: digits `ds` and position
`p` with `p = ds.length + k - 1074` stand for `ds · 10 ^ k` units of `10⁻¹⁰⁷⁴`. -/
theorem shortestDigits_readsBack {tie : TieRule} {units : Nat} (hr : Representable units)
    (hu : units ≠ 0) {ds : List Char} {p : Int} (h : shortestDigits tie units = (ds, p)) :
    (∀ c ∈ ds, c.isDigit) ∧ ds ≠ [] ∧
      ∃ k : Nat, p = (ds.length + k : Int) - 1074 ∧
        readsBack units (natOfDigits ds * 10 ^ k) = true := by
  have hexact : readsBack units (units * tenthsPerUnit) = true := by
    rw [readsBack, roundUnits_mul_self hr tenthsPerUnit_pos]
    exact beq_self_eq_true units
  have hread := readsBack_choice tie hexact
  rw [shortestDigits] at h
  generalize Shortest.choice tie units (units * tenthsPerUnit) = chosen at h hread
  obtain ⟨d, places⟩ := chosen
  simp only [Shortest.laidOut, Prod.mk.injEq] at h hread
  obtain ⟨rfl, rfl⟩ := h
  have htrim := trimZeros_append (Nat.toDigits 10 d)
  generalize Shortest.trimZeros (Nat.toDigits 10 d) = trimmed at htrim ⊢
  obtain ⟨ds, zeros⟩ := trimmed
  have hd : natOfDigits ds * 10 ^ zeros = d := by
    rw [← natOfDigits_append_zeros, htrim, natOfDigits_toDigits]
  refine ⟨fun c hc => isDigit_of_mem_toDigits (htrim ▸ List.mem_append_left _ hc), ?_,
    zeros + places, ?_, ?_⟩
  · -- without digits the value would be zero, which does not read back
    rintro rfl
    have hzero : d * 10 ^ places = 0 := by
      rw [← hd]
      simp [natOfDigits]
    rw [hzero, not_readsBack_zero hu] at hread
    cases hread
  · have hlength := congrArg List.length htrim
    rw [List.length_append, List.length_replicate] at hlength
    omega
  · rw [Nat.pow_add, ← Nat.mul_assoc, hd]
    exact hread

/-! ### Reading what a layout writes -/

/-- Digits alone are a whole number. -/
theorem readUnsigned?_digits (negative : Bool) {ds : List Char} (h : ∀ c ∈ ds, c.isDigit)
    (hne : ds ≠ []) :
    Decimal.readUnsigned? negative ds = some ⟨negative, natOfDigits ds, 0⟩ := by
  have htake := takeWhile_isDigit_append h []
  have hdrop := dropWhile_isDigit_append h []
  rw [List.append_nil, List.takeWhile_nil, List.append_nil] at htake
  rw [List.append_nil, List.dropWhile_nil] at hdrop
  simp [Decimal.readUnsigned?, htake, hdrop, hne, Decimal.readExponent?]

/-- Digits around a point are a number with as many places as there are digits after it. -/
theorem readUnsigned?_point (negative : Bool) (whole fraction : List Char)
    (hw : ∀ c ∈ whole, c.isDigit) (hf : ∀ c ∈ fraction, c.isDigit) (hne : whole ≠ []) :
    Decimal.readUnsigned? negative (whole ++ '.' :: fraction) =
      some ⟨negative, natOfDigits (whole ++ fraction), -(fraction.length : Int)⟩ := by
  have htake : (whole ++ '.' :: fraction).takeWhile Char.isDigit = whole := by
    rw [takeWhile_isDigit_append hw, List.takeWhile_cons_of_neg (by decide), List.append_nil]
  have hdrop : (whole ++ '.' :: fraction).dropWhile Char.isDigit = '.' :: fraction := by
    rw [dropWhile_isDigit_append hw, List.dropWhile_cons_of_neg (by decide)]
  have htake' := takeWhile_isDigit_append hf []
  have hdrop' := dropWhile_isDigit_append hf []
  rw [List.append_nil, List.takeWhile_nil, List.append_nil] at htake'
  rw [List.append_nil, List.dropWhile_nil] at hdrop'
  simp [Decimal.readUnsigned?, htake, hdrop, htake', hdrop', hne, Decimal.readExponent?]

/-- The numeral that stands in a cell for digits at a position: its value is that of the digits,
in units of `10⁻¹⁰⁷⁴`. -/
theorem readUnsigned?_withPoint (negative : Bool) {ds : List Char} {p : Int} {k : Nat}
    (h : ∀ c ∈ ds, c.isDigit) (hne : ds ≠ []) (hp : p = (ds.length + k : Int) - 1074) :
    ∃ n e : Nat, Decimal.readUnsigned? negative (NumberLayout.withPoint false ds p) =
        some ⟨negative, n, -(e : Int)⟩ ∧
      n * 10 ^ (1074 : Nat) = natOfDigits ds * 10 ^ k * 10 ^ e := by
  have hlength : 0 < ds.length := List.length_pos_iff.2 hne
  by_cases hneg : p ≤ 0
  · -- the point stands before the digits
    have hdigits : ∀ c ∈ List.replicate p.natAbs '0' ++ ds, c.isDigit := fun c hc =>
      (List.mem_append.1 hc).elim (fun hz => List.eq_of_mem_replicate hz ▸ rfl) (h c)
    refine ⟨natOfDigits ds, p.natAbs + ds.length, ?_, ?_⟩
    · have hread := readUnsigned?_point negative ['0'] _ (by simp) hdigits (by simp)
      rw [← List.append_assoc, show ['0'] = List.replicate 1 '0' from rfl,
        List.replicate_append_replicate, natOfDigits_zeros_append] at hread
      simpa [NumberLayout.withPoint, hneg] using hread
    · rw [Nat.mul_assoc, ← Nat.pow_add]
      congr 2
      omega
  · have hpos : ¬p ≤ 0 := hneg
    by_cases hfraction : ds.drop p.toNat = []
    · -- the point stands after the digits and is left out
      have hle : ds.length ≤ p.toNat := List.drop_eq_nil_iff.1 hfraction
      have hdigits : ∀ c ∈ ds ++ List.replicate (p.toNat - ds.length) '0', c.isDigit :=
        fun c hc => (List.mem_append.1 hc).elim (h c) fun hz => List.eq_of_mem_replicate hz ▸ rfl
      refine ⟨natOfDigits ds * 10 ^ (p.toNat - ds.length), 0, ?_, ?_⟩
      · have hread := readUnsigned?_digits negative hdigits (by simp [hne])
        rw [natOfDigits_append_zeros] at hread
        simpa [NumberLayout.withPoint, hneg, hfraction, List.take_of_length_le hle] using hread
      · rw [Nat.pow_zero, Nat.mul_one (_ * 10 ^ k), Nat.mul_assoc,
          ← Nat.pow_add 10 (p.toNat - ds.length) 1074]
        congr 2
        omega
    · -- the point stands between digits
      have hlt : p.toNat < ds.length := by
        rw [List.drop_eq_nil_iff] at hfraction
        omega
      refine ⟨natOfDigits ds, (ds.drop p.toNat).length, ?_, ?_⟩
      · have hread := readUnsigned?_point negative (ds.take p.toNat)
          (ds.drop p.toNat) (fun c hc => h c (List.mem_of_mem_take hc))
          (fun c hc => h c (List.mem_of_mem_drop hc)) (by simp [hne]; omega)
        rw [List.take_append_drop] at hread
        have hmin : p.toNat - min p.toNat ds.length = 0 := by omega
        simpa [NumberLayout.withPoint, hneg, hfraction, hmin] using hread
      · rw [Nat.mul_assoc, ← Nat.pow_add, List.length_drop]
        congr 2
        omega

/-! ### The nearest number -/

/-- A value that is not rounded to zero is not far below the least magnitude. -/
theorem log2_bound_of_roundUnits_ne_zero {n e : Nat}
    (h : roundUnits (n * unitsPerOne) (10 ^ (e + 1)) ≠ 0) :
    ¬n.log2 + 1101 < 3 * (e + 1) := by
  intro hlt
  refine h (roundUnits_eq_zero ?_)
  have hn : n < 2 ^ (n.log2 + 1) := Nat.lt_log2_self
  have hone : unitsPerOne = 2 ^ (1074 : Nat) := unitsPerOne.eq_1
  calc 2 * (n * unitsPerOne)
      < 2 * (2 ^ (n.log2 + 1) * unitsPerOne) := by
        have hpos : 0 < unitsPerOne := by
          rw [hone]
          exact Nat.two_pow_pos 1074
        exact Nat.mul_lt_mul_of_pos_left (Nat.mul_lt_mul_of_pos_right hn hpos) (by decide)
    _ = 2 ^ (n.log2 + 1 + 1074 + 1) := by
        rw [hone, ← Nat.pow_add 2 (n.log2 + 1) 1074, Nat.pow_succ 2 (n.log2 + 1 + 1074),
          Nat.mul_comm]
    _ ≤ 2 ^ (3 * (e + 1)) := Nat.pow_le_pow_right (by decide) (by omega)
    _ = 8 ^ (e + 1) := Nat.pow_mul 2 3 (e + 1)
    _ ≤ 10 ^ (e + 1) := Nat.pow_le_pow_left (by decide) _

/-- A numeral of a value that rounds to a magnitude is read as the number with that magnitude. -/
theorem toNumber_of_readsBack {negative : Bool} {units scaled n e : Nat} (hr : Representable units)
    (hu : units ≠ 0) (hread : readsBack units scaled = true)
    (h : n * 10 ^ (1074 : Nat) = scaled * 10 ^ e) :
    (⟨negative, n, -(e : Int)⟩ : Decimal).toNumber = .finite negative units hr := by
  have hround : roundUnits (n * unitsPerOne) (10 ^ e) = units := by
    rw [← eq_of_beq hread]
    refine roundUnits_eq_of_mul_eq (Nat.pow_pos (by decide)) tenthsPerUnit_pos ?_
    rw [Nat.mul_assoc, unitsPerOne_mul_tenthsPerUnit, h]
  have hquotient (negative : Bool) :
      Number.ofQuotient negative (n * unitsPerOne) (10 ^ e) = .finite negative units hr := by
    unfold Number.ofQuotient
    have hlt : roundUnits (n * unitsPerOne) (10 ^ e) < unitsBound := hround ▸ hr.2
    rw [dif_pos hlt]
    congr
  cases e with
  | zero =>
    have hne : n ≠ 0 := by
      rintro rfl
      rw [Nat.zero_mul, roundUnits_eq_zero (by simp)] at hround
      exact hu hround.symm
    simp only [Decimal.toNumber, Int.natCast_zero, Int.neg_zero]
    rw [if_neg hne, if_neg (by decide), Nat.pow_zero, Nat.mul_one]
    exact hquotient negative
  | succ e =>
    have hnonzero : roundUnits (n * unitsPerOne) (10 ^ (e + 1)) ≠ 0 := by
      rw [hround]
      exact hu
    have hexponent : (-((e + 1 : Nat) : Int)) = Int.negSucc e := rfl
    rw [hexponent]
    simp only [Decimal.toNumber]
    rw [if_neg (log2_bound_of_roundUnits_ne_zero hnonzero)]
    exact hquotient negative

/-- The text of a finite magnitude is read as that magnitude. -/
theorem readUnsigned?_magnitude (negative : Bool) {units : Nat} (hr : Representable units) :
    (Decimal.readUnsigned? negative (NumberLayout.cell.magnitude units)).map Decimal.toNumber =
      some (.finite negative units hr) := by
  by_cases hu : units = 0
  · subst hu
    rfl
  · rcases hshort : shortestDigits NumberLayout.cell.tie units with ⟨ds, p⟩
    obtain ⟨hdigits, hne, k, hp, hread⟩ := shortestDigits_readsBack hr hu hshort
    obtain ⟨n, e, hnumeral, hvalue⟩ := readUnsigned?_withPoint negative hdigits hne hp
    have hlayout : NumberLayout.cell.magnitude units = NumberLayout.withPoint false ds p := by
      simp only [NumberLayout.magnitude, if_neg hu, hshort]
      rfl
    rw [hlayout, hnumeral, Option.map_some, toNumber_of_readsBack hr hu hread hvalue]

/-! ### The text of a number -/

theorem mem_withPoint {ds : List Char} {p : Int} {c : Char} (h : ∀ c ∈ ds, c.isDigit)
    (hc : c ∈ NumberLayout.withPoint false ds p) : c.isDigit ∨ c = '.' := by
  have hzero {n : Nat} (hz : c ∈ List.replicate n '0') : c.isDigit :=
    List.eq_of_mem_replicate hz ▸ rfl
  unfold NumberLayout.withPoint at hc
  split at hc
  · simp only [List.mem_cons, List.mem_append] at hc
    rcases hc with rfl | rfl | hz | hd
    · exact .inl rfl
    · exact .inr rfl
    · exact .inl (hzero hz)
    · exact .inl (h c hd)
  · simp only [List.mem_append] at hc
    rcases hc with (hd | hz) | hf
    · exact .inl (h c (List.mem_of_mem_take hd))
    · exact .inl (hzero hz)
    · split at hf
      · cases hf
      · rcases List.mem_cons.1 hf with rfl | hd
        · exact .inr rfl
        · exact .inl (h c (List.mem_of_mem_drop hd))

theorem withPoint_eq_cons {ds : List Char} {p : Int} (h : ∀ c ∈ ds, c.isDigit) (hne : ds ≠ []) :
    ∃ c cs, NumberLayout.withPoint false ds p = c :: cs ∧ c.isDigit := by
  unfold NumberLayout.withPoint
  split
  · exact ⟨'0', _, rfl, rfl⟩
  · obtain ⟨c, ds, rfl⟩ := List.exists_cons_of_ne_nil hne
    obtain ⟨n, hn⟩ : ∃ n, p.toNat = n + 1 := ⟨p.toNat - 1, by omega⟩
    simp only [hn, List.take_succ_cons, List.cons_append]
    exact ⟨c, _, rfl, h c (List.mem_cons_self ..)⟩

/-- The text of a magnitude consists of digits and points and starts with a digit. -/
theorem magnitude_chars {units : Nat} (hr : Representable units) :
    (∃ c cs, NumberLayout.cell.magnitude units = c :: cs ∧ c.isDigit) ∧
      ∀ c ∈ NumberLayout.cell.magnitude units, c.isDigit ∨ c = '.' := by
  by_cases hu : units = 0
  · subst hu
    exact ⟨⟨'0', [], rfl, rfl⟩, fun c hc => .inl (List.mem_singleton.1 hc ▸ rfl)⟩
  · rcases hshort : shortestDigits NumberLayout.cell.tie units with ⟨ds, p⟩
    obtain ⟨hdigits, hne, -⟩ := shortestDigits_readsBack hr hu hshort
    have hlayout : NumberLayout.cell.magnitude units = NumberLayout.withPoint false ds p := by
      simp only [NumberLayout.magnitude, if_neg hu, hshort]
      rfl
    rw [hlayout]
    exact ⟨withPoint_eq_cons hdigits hne, fun c => mem_withPoint hdigits⟩

theorem splitSign_of_isDigit {c : Char} (h : c.isDigit) (cs : List Char) :
    Decimal.splitSign (c :: cs) = (false, c :: cs) := by
  have hminus : c ≠ '-' := by rintro rfl; cases h
  have hplus : c ≠ '+' := by rintro rfl; cases h
  simp [Decimal.splitSign, hminus, hplus]

namespace Number

/-- What follows the sign of a finite number is read as a numeral and not as a name. -/
theorem read?_finite (negative : Bool) {units : Nat} (hr : Representable units) (text : String)
    (h : Decimal.splitSign text.toList = (negative, NumberLayout.cell.magnitude units)) :
    read? text = some (finite negative units hr) := by
  obtain ⟨⟨c, cs, hcons, hdigit⟩, -⟩ := magnitude_chars hr
  have hlower : c.toLower = c := toLower_of_isDigit hdigit
  have hname : ∀ d ∈ ['i', 'n'], c ≠ d := by
    intro d hd hcd
    subst hcd
    simp only [List.mem_cons, List.not_mem_nil, or_false] at hd
    rcases hd with rfl | rfl <;> cases hdigit
  have hi := hname 'i' (by simp)
  have hn := hname 'n' (by simp)
  simp only [read?, h]
  rw [if_neg (by simp [hcons, hlower, hi]), if_neg (by simp [hcons, hlower, hn])]
  exact readUnsigned?_magnitude negative hr

/-- The text of a number in a cell is read as that number. -/
theorem read?_cellText (n : Number) : read? n.cellText = some n := by
  cases n with
  | nan => rfl
  | infinite negative => cases negative <;> rfl
  | finite negative units hr =>
    refine read?_finite negative hr _ ?_
    obtain ⟨⟨c, cs, hcons, hdigit⟩, -⟩ := magnitude_chars hr
    cases negative with
    | false => simpa [cellText, NumberLayout.text, hcons] using splitSign_of_isDigit hdigit cs
    | true => simp [cellText, NumberLayout.text, Decimal.splitSign]

/-- The characters of the text of a number: digits, a point, a sign, and letters of the names of
what is not finite. -/
theorem mem_cellText {n : Number} {c : Char} (hc : c ∈ n.cellText.toList) :
    c.isDigit ∨ c ∈ ['-', '.', 'i', 'n', 'f', 'N', 'a'] := by
  cases n with
  | nan =>
    have hc : c ∈ ['N', 'a', 'N'] := hc
    exact .inr (List.Subset.trans (by decide) (List.Subset.refl _) hc)
  | infinite negative =>
    have hc : c ∈ ['-', 'i', 'n', 'f'] := by
      cases negative with
      | false => exact List.mem_cons_of_mem '-' hc
      | true => exact hc
    exact .inr (List.Subset.trans (by decide) (List.Subset.refl _) hc)
  | finite negative units hr =>
    have hmagnitude := (magnitude_chars hr).2 c
    have hc : c = '-' ∨ c ∈ NumberLayout.cell.magnitude units := by
      cases negative with
      | false => exact .inr (by simpa [cellText, NumberLayout.text] using hc)
      | true => simpa [cellText, NumberLayout.text] using hc
    rcases hc with rfl | hc
    · exact .inr (by decide)
    · refine (hmagnitude hc).imp id ?_
      rintro rfl
      decide

end Number

end GridStore
