import GridStore.Proofs.Filter.Meaning

/-!
# Filters with other texts of instants

An operand of a filter can be the text of a timestamp, and one instant has many such texts. The
service is never asked about any of them, and values that are no texts are compared with the instant
and not with the text. A filter can therefore be written with other texts of the same instants.

## Main definitions

* `Value.Respelled`, `Condition.Respelled`, `Filter.Respelled`: whether operands are replaced by
  other texts of the same instants.
* `Filter.fieldNames`: the fields that a filter names.

## Main results

* `Condition.holds_eq_of_respelled`, `Condition.pushDown?_eq_of_respelled`: what is left as it is in
  conditions.
* `Filter.holds_and_queryText_eq_of_respelled`: a respelled filter means the same rows, as long as
  the fields it names hold no texts, and has the same query.
-/

namespace GridStore

/-! ### Values -/

namespace Value

/-- Whether two operands are texts of one instant. -/
inductive Respelled : Value → Value → Prop
  | text {s s' : String} {t : Instant} (h : Cell.timestamp? s = some t)
      (h' : Cell.timestamp? s' = some t) : Respelled (.text s) (.text s')

/-- The text of an instant spells no flag. -/
theorem spelledFlag?_of_timestamp? {s : String} {t : Instant} (h : Cell.timestamp? s = some t) :
    spelledFlag? s = none := by
  have hspelled : ∀ s ∈ ["true", "TRUE", "false", "FALSE"], Cell.timestamp? s = none := by
    decide +kernel
  cases hflag : spelledFlag? s with
  | none => rfl
  | some b =>
    rw [hspelled s (Cell.mem_of_spelledFlag? hflag)] at h
    cases h

/-- A value that is no text is compared with the instant that a text names. -/
theorem compare?_text {actual : Value} (hactual : ∀ text, actual ≠ .text text) {s : String}
    {t : Instant} (h : Cell.timestamp? s = some t) :
    actual.compare? (.text s) = actual.compare? (.date t) := by
  cases actual with
  | text text => exact absurd rfl (hactual text)
  | date t' =>
    show (Cell.timestamp? s).map t'.compare = some (t'.compare t)
    rw [h]
    rfl
  | bool b =>
    show (spelledFlag? s).map (Ord.compare b ·) = none
    rw [spelledFlag?_of_timestamp? h]
    rfl
  | _ => rfl

end Value

/-! ### Conditions -/

namespace Condition

/-- Whether some operands of a condition, at any depth, are replaced by texts of the same
instants. -/
inductive Respelled : Condition → Condition → Prop
  | refl (condition : Condition) : Respelled condition condition
  | compare (op : Comparison) {operand operand' : Value} (h : operand.Respelled operand') :
      Respelled (.compare op operand) (.compare op operand')
  | isIn (before after : List Value) {operand operand' : Value} (h : operand.Respelled operand') :
      Respelled (.isIn (before ++ operand :: after)) (.isIn (before ++ operand' :: after))
  | notIn (before after : List Value) {operand operand' : Value}
      (h : operand.Respelled operand') :
      Respelled (.notIn (before ++ operand :: after)) (.notIn (before ++ operand' :: after))
  | all (before after : List Condition) {condition condition' : Condition}
      (h : Respelled condition condition') :
      Respelled (.all (before ++ condition :: after)) (.all (before ++ condition' :: after))
  | any (before after : List Condition) {condition condition' : Condition}
      (h : Respelled condition condition') :
      Respelled (.any (before ++ condition :: after)) (.any (before ++ condition' :: after))
  | not {condition condition' : Condition} (h : Respelled condition condition') :
      Respelled (.not condition) (.not condition')
  | trans {first second third : Condition} (h : Respelled first second)
      (h' : Respelled second third) : Respelled first third

variable {actual : Option Value} {condition other : Condition} {operand operand' : Value}

/-- Equality of a field with a text of an instant is equality with the instant, unless the field
holds a text. -/
theorem equals_eq_of_respelled (hactual : ∀ text, actual ≠ some (.text text))
    (h : operand.Respelled operand') : equals actual operand = equals actual operand' := by
  obtain @⟨s, s', t, h, h'⟩ := h
  cases actual with
  | none => rfl
  | some value =>
    have hvalue : ∀ text, value ≠ .text text := fun text heq => hactual text (heq ▸ rfl)
    have hequals : ∀ text, equals (some value) (.text text) =
        (value.compare? (.text text) == some .eq) := by
      intro text
      cases value <;> rfl
    rw [hequals, hequals, Value.compare?_text hvalue h, Value.compare?_text hvalue h']

theorem ordered_eq_of_respelled (hactual : ∀ text, actual ≠ some (.text text))
    (h : operand.Respelled operand') (accepted : Ordering → Bool) :
    ordered actual operand accepted = ordered actual operand' accepted := by
  obtain @⟨s, s', t, h, h'⟩ := h
  cases actual with
  | none => rfl
  | some value =>
    have hvalue : ∀ text, value ≠ .text text := fun text heq => hactual text (heq ▸ rfl)
    rw [ordered, ordered, Value.compare?_text hvalue h, Value.compare?_text hvalue h']

theorem compares_eq_of_respelled (hactual : ∀ text, actual ≠ some (.text text))
    (h : operand.Respelled operand') (op : Comparison) :
    compares op actual operand = compares op actual operand' := by
  have hequals := equals_eq_of_respelled hactual h
  have hordered := ordered_eq_of_respelled hactual h
  cases op <;> simp only [compares, hequals, hordered]

/-- A field that holds no text satisfies a condition however the instants in it are written. -/
theorem holds_eq_of_respelled (hactual : ∀ text, actual ≠ some (.text text))
    (h : condition.Respelled other) : condition.holds actual = other.holds actual := by
  induction h with
  | refl => rfl
  | compare op h => exact compares_eq_of_respelled hactual h op
  | isIn before after h =>
    simp only [holds, List.any_append, List.any_cons, equals_eq_of_respelled hactual h]
  | notIn before after h =>
    simp only [holds, List.any_append, List.any_cons, equals_eq_of_respelled hactual h]
  | all before after _ ih =>
    simp only [holds, holdsAll_eq_all, List.all_append, List.all_cons, ih]
  | any before after _ ih =>
    simp only [holds, holdsAny_eq_any, List.any_append, List.any_cons, ih]
  | not _ ih => rw [holds, holds, ih]
  | trans _ _ ih ih' => exact ih.trans ih'

/-- The service cannot be asked about the text of an instant. -/
theorem literal?_of_respelled (h : operand.Respelled operand') :
    literal? operand = none ∧ literal? operand' = none := by
  obtain ⟨h, h'⟩ := h
  rw [literal?, literal?, h, h']
  exact ⟨rfl, rfl⟩

/-- Conditions with other texts of instants have the same query. -/
theorem pushDown?_eq_of_respelled (h : condition.Respelled other) (column : String) :
    condition.pushDown? column = other.pushDown? column := by
  -- a comparison with the text of an instant is left out, whatever the text
  have hcomparison : ∀ {operand operand' : Value} (op : Comparison), operand.Respelled operand' →
      comparison? column op operand = comparison? column op operand' := by
    intro operand operand' op h
    obtain ⟨hnone, hnone'⟩ := literal?_of_respelled h
    rw [comparison?, comparison?, hnone, hnone']
  induction h with
  | refl => rfl
  | compare op h => exact hcomparison op h
  | isIn before after h =>
    simp only [pushDown?, List.map_append, List.map_cons, hcomparison .eq h]
  | notIn before after h =>
    simp only [pushDown?, List.filterMap_append, List.filterMap_cons, hcomparison .ne h]
  | all before after _ ih =>
    simp only [pushDown?, pushDownAll_eq_map, List.map_append, List.map_cons, ih]
  | any before after _ ih =>
    simp only [pushDown?, pushDownAll_eq_map, List.map_append, List.map_cons, ih]
  | not => rfl
  | trans _ _ ih ih' => exact ih.trans ih'

end Condition

/-! ### Filters -/

namespace Filter

mutual

/-- The fields that a filter names, at any depth. -/
def fieldNames : Filter → List String
  | and parts => fieldNamesAll parts
  | or parts => fieldNamesAll parts
  | nor parts => fieldNamesAll parts
  | field name _ => [name]

/-- The fields that several filters name. -/
def fieldNamesAll : List Filter → List String
  | [] => []
  | part :: rest => fieldNames part ++ fieldNamesAll rest

end

theorem fieldNamesAll_eq_flatMap (parts : List Filter) :
    fieldNamesAll parts = parts.flatMap fieldNames := by
  induction parts with
  | nil => rfl
  | cons part rest ih => rw [fieldNamesAll, ih, List.flatMap_cons]

/-- Whether some operands of a filter, at any depth, are replaced by texts of the same instants. -/
inductive Respelled : Filter → Filter → Prop
  | refl (filter : Filter) : Respelled filter filter
  | and (before after : List Filter) {part part' : Filter} (h : Respelled part part') :
      Respelled (.and (before ++ part :: after)) (.and (before ++ part' :: after))
  | or (before after : List Filter) {part part' : Filter} (h : Respelled part part') :
      Respelled (.or (before ++ part :: after)) (.or (before ++ part' :: after))
  | nor (before after : List Filter) {part part' : Filter} (h : Respelled part part') :
      Respelled (.nor (before ++ part :: after)) (.nor (before ++ part' :: after))
  | field (name : String) {condition condition' : Condition}
      (h : condition.Respelled condition') :
      Respelled (.field name condition) (.field name condition')
  | trans {first second third : Filter} (h : Respelled first second)
      (h' : Respelled second third) : Respelled first third

variable {filter other : Filter}

theorem fieldNames_eq_of_respelled (h : filter.Respelled other) :
    filter.fieldNames = other.fieldNames := by
  induction h with
  | refl => rfl
  | and before after _ ih | or before after _ ih | nor before after _ ih =>
    simp only [fieldNames, fieldNamesAll_eq_flatMap, List.flatMap_append, List.flatMap_cons, ih]
  | field => rfl
  | trans _ _ ih ih' => exact ih.trans ih'

/-- A row is meant by a filter however the instants in it are written, unless a named field holds a
text. -/
theorem holds_eq_of_respelled (h : filter.Respelled other) {row : Row}
    (hrow : ∀ name ∈ filter.fieldNames, ∀ text, row.lookup name ≠ some (.text text)) :
    filter.holds row = other.holds row := by
  induction h with
  | refl => rfl
  | and before after _ ih | or before after _ ih | nor before after _ ih =>
    simp only [fieldNames, fieldNamesAll_eq_flatMap, List.flatMap_append, List.flatMap_cons,
      List.mem_append] at hrow
    have hpart := ih fun name hmem => hrow name (.inr (.inl hmem))
    simp only [holds, holdsAll_eq_all, holdsAny_eq_any, List.all_append, List.all_cons,
      List.any_append, List.any_cons, hpart]
  | field name h => exact Condition.holds_eq_of_respelled (hrow name (List.mem_singleton_self _)) h
  | trans h _ ih ih' =>
    exact (ih hrow).trans (ih' (fieldNames_eq_of_respelled h ▸ hrow))

theorem pushDown?_eq_of_respelled (h : filter.Respelled other) :
    filter.pushDown? = other.pushDown? := by
  induction h with
  | refl => rfl
  | and before after _ ih | or before after _ ih =>
    simp only [pushDown?, pushDownAll_eq_map, List.map_append, List.map_cons, ih]
  | nor => rfl
  | field name h => rw [pushDown?, pushDown?, Condition.pushDown?_eq_of_respelled h]
  | trans _ _ ih ih' => exact ih.trans ih'

/-- The filter for a column of instants, from one on that a text names, and for rows that are not
marked as done. -/
def sampleSince (text : String) : Filter :=
  .or [.field "when" (.any [.compare .gte (.text text), .isIn [.null, .text text]]),
    .nor [.field "done" (.compare .eq (.bool true))]]

/-- A row that is marked as done, with the instant that a text names. -/
def sampleDone (text : String) : Row where
  fields := [("when", ((Cell.timestamp? text).map .date).getD .null), ("done", .bool true)]

theorem lookup_sampleDone_ne (since text : String) : ∀ name ∈ (sampleSince since).fieldNames,
    ∀ t, (sampleDone text).lookup name ≠ some (.text t) := by
  have hnames : (sampleSince since).fieldNames = ["when", "done"] := rfl
  have hwhen : (sampleDone text).lookup "when" =
      some (((Cell.timestamp? text).map .date).getD .null) := rfl
  have hdone : (sampleDone text).lookup "done" = some (.bool true) := rfl
  intro name hmem t
  rw [hnames, List.mem_cons, List.mem_singleton] at hmem
  rcases hmem with rfl | rfl
  · rw [hwhen]
    cases Cell.timestamp? text <;> exact nofun
  · rw [hdone]
    exact nofun

/-- A filter that names the same instants by other texts means the same rows, as long as the fields
that it names hold no texts, and has the same text of its query. -/
theorem holds_and_queryText_eq_of_respelled (h : filter.Respelled other) :
    (∀ row : Row, (∀ name ∈ filter.fieldNames, ∀ text, row.lookup name ≠ some (.text text)) →
      filter.holds row = other.holds row) ∧ filter.queryText = other.queryText := by
  refine ⟨fun row hrow => holds_eq_of_respelled h hrow, ?_⟩
  rw [queryText, queryText, pushDown?_eq_of_respelled h]

theorem holds_and_queryText_eq_of_respelled_offset :
    (sampleSince "2024-03-01T10:30:00Z").Respelled (sampleSince "2024-03-01T12:30:00+02:00") ∧
      (sampleSince "2024-03-01T12:30:00+02:00").holds (sampleDone "2024-03-01T10:30:00Z") = true ∧
      (sampleSince "2024-03-01T12:30:00+02:00").holds (sampleDone "2024-03-01T10:29:59Z") = false ∧
      (sampleSince "2024-03-01T10:30:00Z").queryText =
        (sampleSince "2024-03-01T12:30:00+02:00").queryText := by
  have hsame : Cell.timestamp? "2024-03-01T12:30:00+02:00" =
      Cell.timestamp? "2024-03-01T10:30:00Z" := by
    decide +kernel
  have hsome : (Cell.timestamp? "2024-03-01T10:30:00Z").isSome = true := by
    decide +kernel
  obtain ⟨t, ht⟩ := Option.isSome_iff_exists.1 hsome
  have htext : Value.Respelled (.text "2024-03-01T10:30:00Z")
      (.text "2024-03-01T12:30:00+02:00") := .text ht (hsame.trans ht)
  have hcondition : Condition.Respelled
      (.any [.compare .gte (.text "2024-03-01T10:30:00Z"),
        .isIn [.null, .text "2024-03-01T10:30:00Z"]])
      (.any [.compare .gte (.text "2024-03-01T12:30:00+02:00"),
        .isIn [.null, .text "2024-03-01T12:30:00+02:00"]]) :=
    .trans (.any [] [_] (.compare .gte htext)) (.any [_] [] (.isIn [.null] [] htext))
  have hfilter : (sampleSince "2024-03-01T10:30:00Z").Respelled
      (sampleSince "2024-03-01T12:30:00+02:00") := .or [] [_] (.field "when" hcondition)
  obtain ⟨hrows, hquery⟩ := holds_and_queryText_eq_of_respelled hfilter
  have hat := hrows (sampleDone "2024-03-01T10:30:00Z") (lookup_sampleDone_ne _ _)
  have hbefore := hrows (sampleDone "2024-03-01T10:29:59Z") (lookup_sampleDone_ne _ _)
  refine ⟨hfilter, hat.symm.trans ?_, hbefore.symm.trans ?_, hquery⟩
  · decide +kernel
  · decide +kernel

end Filter

end GridStore
