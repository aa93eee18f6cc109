import GridStore.Filter.PushDown
import GridStore.Query.Token

/-!
# Words of a query

## Main definitions

* `Query.IsWord`: the texts that stand in a query as one word.

## Main results

* `Query.isWord_of_isColumnWord`: a name of a column that a query can contain is a word.
-/

namespace GridStore

/-! ### Tables of characters -/

/-- The code points in the ranges of a table. -/
def codesIn (ranges : List (Nat × Nat)) : List Nat :=
  ranges.flatMap fun (first, last) => List.range' first (last + 1 - first)

theorem mem_codesIn {code : Nat} {ranges : List (Nat × Nat)} (h : inRanges code ranges = true) :
    code ∈ codesIn ranges := by
  induction ranges with
  | nil => cases h
  | cons range rest ih =>
    obtain ⟨first, last⟩ := range
    rw [inRanges] at h
    split at h
    case isTrue => cases h
    case isFalse hfirst =>
      rw [codesIn, List.flatMap_cons, List.mem_append, List.mem_range'_1]
      rcases Bool.or_eq_true_iff.1 h with hlast | hrest
      · left
        have := of_decide_eq_true hlast
        omega
      · exact .inr (ih hrest)

/-- No blank character is a letter or numeral. -/
theorem isAlphanumeric_of_isBlank {c : Char} (h : isBlank c = true) : isAlphanumeric c = false := by
  have htables : ∀ code ∈ codesIn blankRanges,
      inRanges code alphabeticRanges = false ∧ inRanges code numericRanges = false := by
    decide +kernel
  exact Bool.or_eq_false_iff.2 (htables _ (mem_codesIn h))

/-- A letter or numeral ends no word. -/
theorem endsWord_of_isAlphanumeric {c : Char} (h : isAlphanumeric c = true) :
    QueryToken.endsWord c = false := by
  have hsigns : ∀ d ∈ ['(', ')', '<', '>', '=', '"'], isAlphanumeric d = false := by
    simp only [List.mem_cons, List.not_mem_nil, or_false, forall_eq_or_imp, forall_eq]
    decide +kernel
  have hne : ∀ d, isAlphanumeric d = false → c ≠ d := by
    rintro d hd rfl
    rw [hd] at h
    cases h
  cases hend : QueryToken.endsWord c with
  | false => rfl
  | true =>
    exfalso
    simp only [QueryToken.endsWord, Bool.or_eq_true, beq_iff_eq] at hend
    rcases hend with (((((hblank | hsign) | hsign) | hsign) | hsign) | hsign) | hsign
    · rw [isAlphanumeric_of_isBlank hblank] at h
      cases h
    all_goals exact hne _ (hsigns _ (by simp)) hsign

/-! ### Words -/

namespace Query

/-- Whether a text is a word of a query. -/
def IsWord (text : String) : Prop :=
  text ≠ "" ∧ ∀ c ∈ text.toList, QueryToken.endsWord c = false

theorem isWord_of_all {text : String} (hne : text ≠ "")
    (h : text.toList.all (!QueryToken.endsWord ·) = true) : IsWord text :=
  ⟨hne, fun c hc => by simpa using List.all_eq_true.1 h c hc⟩

/-- The characters of a name of a column that a query can contain. -/
theorem mem_of_isColumnWord {name : String} (h : isColumnWord name = true) {c : Char}
    (hc : c ∈ name.toList) : isAlphanumeric c = true ∨ c = '_' := by
  simp only [isColumnWord, Bool.and_eq_true, List.all_eq_true] at h
  obtain ⟨⟨⟨⟨-, -⟩, hchars⟩, -⟩, -⟩ := h
  exact (Bool.or_eq_true_iff.1 (hchars c hc)).imp_right eq_of_beq

/-- A name of a column that a query can contain is a word. -/
theorem isWord_of_isColumnWord {name : String} (h : isColumnWord name = true) : IsWord name := by
  refine ⟨?_, fun c hc => ?_⟩
  · rintro rfl
    simp [isColumnWord] at h
  · rcases mem_of_isColumnWord h hc with hletter | rfl
    · exact endsWord_of_isAlphanumeric hletter
    · decide

end Query

end GridStore
