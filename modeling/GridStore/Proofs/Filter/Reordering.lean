import GridStore.Client.Documents
import GridStore.Proofs.Filter.Meaning
import GridStore.Proofs.Json.Reordering

/-!
# Filter documents in another order

The order in which a filter document writes its keys and the items of its arrays changes the filter
that is read, its parts stand in another order, and with it the text of its query. It does not
change whether the document is a filter, which rows the filter means, and which cells the service
accepts for its query.

## Main definitions

* `Filter.entryConditions`, `Filter.clause`: what a single key describes.
* `Filter.ReadsAlike`: whether documents and the arrays of documents are read with one meaning.

## Main results

* `Filter.readsAlike_of_reordered`: reordered documents are read with one meaning.
* `Filter.readFilter_reordered`: what reordering a filter document leaves as it is.
-/

namespace GridStore

namespace Filter

/-! ### Readers, piece by piece -/

/-- The conditions that a key among operators describes. -/
def entryConditions (field : String) (operators : Entries Json) (key : String) (operand : Json) :
    Except FilterError (List Condition) :=
  if key = "$not" then do return [.not (← condition field operand)]
  else match joinConditions? key with
    | some join =>
      match operand with
      | .array items => do return [join (← items.mapM (condition field))]
      | _ => throw (.operandNotArray field key)
    | none => operator field operators key operand

/-- The filter that a key of a document describes. -/
def clause (key : String) (value : Json) : Except FilterError Filter :=
  match join? key with
  | some join =>
    match value with
    | .array items => do return join (← items.mapM (branch key))
    | _ => throw (.branchesNotArray key)
  | none =>
    if isOperatorKey key then throw (.unknownTopLevelOperator key)
    else do return .field key (← condition key value)

theorem conditionList_eq_mapM (field : String) (items : List Json) :
    conditionList field items = items.mapM (condition field) := by
  induction items with
  | nil => rfl
  | cons item rest ih => rw [conditionList, ih, List.mapM_cons]

theorem conditions_cons (field : String) (operators : Entries Json) (key : String) (operand : Json)
    (rest : Entries Json) :
    conditions field operators ((key, operand) :: rest) = (do
      let found ← entryConditions field operators key operand
      return found ++ (← conditions field operators rest)) := by
  rw [conditions, entryConditions]
  split
  case isTrue => simp only [bind_assoc, pure_bind]
  case isFalse =>
    cases joinConditions? key with
    | some join =>
      cases operand with
      | array items => simp only [conditionList_eq_mapM, bind_assoc, pure_bind]
      | _ => rfl
    | none => rfl

theorem conditions_eq_mapM (field : String) (operators rest : Entries Json) :
    conditions field operators rest = (do
      return (← rest.mapM fun entry =>
        entryConditions field operators entry.1 entry.2).flatten) := by
  induction rest with
  | nil => rfl
  | cons entry rest ih =>
    rw [conditions_cons, ih, List.mapM_cons]
    simp only [bind_assoc, pure_bind, List.flatten_cons]

theorem branches_eq_mapM (key : String) (items : List Json) :
    branches key items = items.mapM (branch key) := by
  induction items with
  | nil => rfl
  | cons item rest ih => rw [branches, ih, List.mapM_cons]

theorem clauses_cons (key : String) (value : Json) (rest : Entries Json) :
    clauses ((key, value) :: rest) = (do return (← clause key value) :: (← clauses rest)) := by
  rw [clauses, clause]
  cases join? key with
  | some join =>
    cases value with
    | array items => simp only [branches_eq_mapM, bind_assoc, pure_bind]
    | _ => rfl
  | none =>
    dsimp only
    split
    case isTrue => rfl
    case isFalse => simp only [bind_assoc, pure_bind]

theorem clauses_eq_mapM (fields : Entries Json) :
    clauses fields = fields.mapM fun entry => clause entry.1 entry.2 := by
  induction fields with
  | nil => rfl
  | cons entry rest ih => rw [clauses_cons, ih, List.mapM_cons]

/-! ### The meaning of what is read -/

/-- The meaning of the condition that a value describes. -/
def conditionMeaning (field : String) (value : Json) :
    Option (Meaning (Option Value) (String × (String → String))) :=
  (condition field value).toOption.map Condition.meaning

/-- The meanings of the conditions that a key among operators describes. -/
def entryMeanings (field : String) (operators : Entries Json) (key : String) (operand : Json) :
    Option (List (Meaning (Option Value) (String × (String → String)))) :=
  (entryConditions field operators key operand).toOption.map (List.map Condition.meaning)

/-- The meaning of the filter that an item of an array describes. -/
def branchMeaning (key : String) (value : Json) : Option (Meaning Row (String → String)) :=
  (branch key value).toOption.map meaning

/-- The meaning of the filter that a key of a document describes. -/
def clauseMeaning (key : String) (value : Json) : Option (Meaning Row (String → String)) :=
  (clause key value).toOption.map meaning

/-- The operators of an object mean the conjunction of the conditions of each key. -/
theorem conditionMeaning_object (field : String) (operators : Entries Json) :
    conditionMeaning field (.object operators) =
      if isOperatorDocument operators then
        (operators.mapM fun entry => entryMeanings field operators entry.1 entry.2).map
          fun found => .all found.flatten
      else none := by
  rw [conditionMeaning, condition]
  split
  case isFalse => rfl
  case isTrue =>
    simp only [entryMeanings]
    rw [← map_mapM_option, ← toOption_mapM, conditions_eq_mapM]
    cases operators.mapM fun entry => entryConditions field operators entry.1 entry.2 with
    | error _ => rfl
    | ok found =>
      refine congrArg some ((Condition.meaning_allOf found.flatten).trans ?_)
      rw [List.map_flatten]

/-- The keys of a document mean the conjunction of the filters of each key. -/
theorem branchMeaning_object (key : String) (fields : Entries Json) :
    branchMeaning key (.object fields) =
      (fields.mapM fun entry => clauseMeaning entry.1 entry.2).map .all := by
  simp only [clauseMeaning]
  rw [← map_mapM_option, ← toOption_mapM, branchMeaning, branch, clauses_eq_mapM]
  cases fields.mapM fun entry => clause entry.1 entry.2 with
  | error _ => rfl
  | ok parts => exact congrArg some (meaning_conjunction parts)

/-! ### Documents that are read alike -/

section

variable {α : Type} {read : Json → Option α} {value other : Json}

/-- What is read from the items of an array. -/
def readItems (read : Json → Option α) : Json → Option (List α)
  | .array items => items.mapM read
  | _ => none

/-- Whether the same is read from two documents, and from their items up to the order. -/
structure Alike (read : Json → Option α) (value other : Json) : Prop where
  same : read value = read other
  items : Option.Rel List.Perm (readItems read value) (readItems read other)

namespace Alike

protected theorem refl (value : Json) : Alike read value value :=
  ⟨rfl, optionRel_refl List.Perm.refl _⟩

protected theorem trans {third : Json} (h : Alike read value other) (h' : Alike read other third) :
    Alike read value third :=
  ⟨h.same.trans h'.same, optionRel_trans .trans h.items h'.items⟩

/-- Nothing is read from arrays, whose items are in any order. -/
theorem of_perm (hread : ∀ items, read (.array items) = none) {items others : List Json}
    (h : items.Perm others) : Alike read (.array items) (.array others) :=
  ⟨(hread items).trans (hread others).symm, mapM_perm h⟩

theorem of_item (hread : ∀ items, read (.array items) = none) (before after : List Json)
    (h : Alike read value other) :
    Alike read (.array (before ++ value :: after)) (.array (before ++ other :: after)) := by
  refine ⟨(hread _).trans (hread _).symm, ?_⟩
  simp only [readItems]
  rw [List.mapM_append, List.mapM_append, List.mapM_cons, List.mapM_cons,
    h.same]
  exact optionRel_refl List.Perm.refl _

theorem of_object {fields others : Entries Json}
    (h : read (.object fields) = read (.object others)) :
    Alike read (.object fields) (.object others) :=
  ⟨h, .none⟩

end Alike

end

/-- Whether two documents are read alike wherever documents of filters have values. -/
structure ReadsAlike (value other : Json) : Prop where
  reordered : value.Reordered other
  scalar : Alike Value.ofJson? value other
  condition (field : String) : Alike (conditionMeaning field) value other
  branch (key : String) : Alike (branchMeaning key) value other

protected theorem ReadsAlike.refl (value : Json) : ReadsAlike value value :=
  ⟨.refl value, .refl value, fun _ => .refl value, fun _ => .refl value⟩

/-- Whether the options of patterns are the same in two objects of operators. -/
structure SameOptions (operators others : Entries Json) : Prop where
  options (field : String) :
    (optionsOf field operators).toOption = (optionsOf field others).toOption
  regex : (Entries.get? operators "$regex").isSome = (Entries.get? others "$regex").isSome

/-- The options of a pattern, up to the reason why they are none. -/
theorem toOption_optionsOf (field : String) (operators : Entries Json) :
    (optionsOf field operators).toOption =
      match (Entries.get? operators "$options").map Value.ofJson? with
      | some (some (.text options)) => some options
      | some _ => none
      | none => some "" := by
  rw [optionsOf]
  cases Entries.get? operators "$options" with
  | none => rfl
  | some value => cases value <;> rfl

theorem SameOptions.of_reordered {operators others : Entries Json}
    (hkeys : (Json.object operators).DistinctKeys)
    (h : (Json.object operators).Reordered (.object others)) : SameOptions operators others where
  options field := by
    rw [toOption_optionsOf, toOption_optionsOf, h.map_get?_eq hkeys]
  regex := by
    rw [← Option.isSome_map (f := Value.ofJson?), h.map_get?_eq hkeys, Option.isSome_map]

/-! ### Keys with values that are read alike -/

theorem toOption_scalar (field : String) (value : Json) :
    (scalar field value).toOption = Value.ofJson? value := by
  rw [scalar]
  cases Value.ofJson? value <;> rfl

theorem toOption_scalars (field key : String) (value : Json) :
    (scalars field key value).toOption = readItems Value.ofJson? value := by
  cases value with
  | array items =>
    show (items.mapM (scalar field)).toOption = items.mapM Value.ofJson?
    rw [toOption_mapM]
    simp only [toOption_scalar]
  | _ => rfl

/-- The pattern of an operator, up to the reason why there is none. -/
theorem toOption_patternOf (field : String) (operators : Entries Json) (value : Json) :
    (patternOf field operators value).toOption =
      match Value.ofJson? value with
      | some (.text source) => (optionsOf field operators).toOption.bind fun options =>
          (Pattern.read source options).toOption
      | _ => none := by
  cases value with
  | text source => exact toOption_bind ..
  | _ => rfl

/-- What an operator without conditions inside describes depends on the operand as a scalar, as
scalars and as a flag, and on the options of patterns. -/
theorem toOption_operator_congr {field key : String} {operators others : Entries Json}
    {value other : Json} (hoptions : SameOptions operators others) (h : ReadsAlike value other) :
    ((operator field operators key value).toOption.map (List.map Condition.meaning)) =
      (operator field others key other).toOption.map (List.map Condition.meaning) := by
  have hscalar : (scalar field value).toOption = (scalar field other).toOption := by
    rw [toOption_scalar, toOption_scalar, h.scalar.same]
  have hpattern : (patternOf field operators value).toOption =
      (patternOf field others other).toOption := by
    rw [toOption_patternOf, toOption_patternOf, h.scalar.same, hoptions.options]
  have hscalars : Option.Rel List.Perm (scalars field key value).toOption
      (scalars field key other).toOption := by
    rw [toOption_scalars, toOption_scalars]
    exact h.scalar.items
  have hisIn : ∀ {operands others : List Value}, operands.Perm others →
      [(Condition.isIn operands).meaning] = [(Condition.isIn others).meaning] := fun hperm => by
    rw [Condition.meaning_isIn, Condition.meaning_isIn, Meaning.any_perm (hperm.map _)]
  have hnotIn : ∀ {operands others : List Value}, operands.Perm others →
      [(Condition.notIn operands).meaning] = [(Condition.notIn others).meaning] := fun hperm => by
    rw [Condition.meaning_notIn, Condition.meaning_notIn, Meaning.all_perm (hperm.map _)]
  simp only [operator]
  cases Comparison.ofKey? key with
  | some op => simp only [toOption_bind, hscalar]
  | none =>
    rw [hoptions.regex]
    dsimp only
    by_cases hin : key = "$in"
    · simp only [if_pos hin, toOption_bind_pure, Option.map_map]
      exact map_eq_of_rel hscalars fun _ _ => hisIn
    by_cases hnin : key = "$nin"
    · simp only [if_neg hin, if_pos hnin, toOption_bind_pure, Option.map_map]
      exact map_eq_of_rel hscalars fun _ _ => hnotIn
    simp only [if_neg hin, if_neg hnin, h.reordered.isTruthy_eq]
    by_cases hexists : key = "$exists"
    · simp only [if_pos hexists]
    by_cases hregex : key = "$regex"
    · simp only [if_neg hexists, if_pos hregex, toOption_bind, hpattern]
    · simp only [if_neg hexists, if_neg hregex]

/-- Conditions that an operator joins mean the same in any order. -/
theorem exists_joined_of_joinConditions? {key : String} {join : List Condition → Condition}
    (h : joinConditions? key = some join) :
    ∃ joined : List (Meaning (Option Value) (String × (String → String))) → Meaning _ _,
      (∀ conditions, (join conditions).meaning = joined (conditions.map Condition.meaning)) ∧
        ∀ meanings others, meanings.Perm others → joined meanings = joined others := by
  rw [joinConditions?] at h
  split at h
  · cases h
    exact ⟨.all, Condition.meaning_all, fun _ _ => Meaning.all_perm⟩
  · split at h
    · cases h
      exact ⟨.any, Condition.meaning_any, fun _ _ => Meaning.any_perm⟩
    · cases h

/-- Filters that an operator joins mean the same in any order. -/
theorem exists_joined_of_join? {key : String} {join : List Filter → Filter}
    (h : join? key = some join) :
    ∃ joined : List (Meaning Row (String → String)) → Meaning Row (String → String),
      (∀ parts, (join parts).meaning = joined (parts.map meaning)) ∧
        ∀ meanings others, meanings.Perm others → joined meanings = joined others := by
  rw [join?] at h
  split at h
  · cases h
    exact ⟨.all, meaning_and, fun _ _ => Meaning.all_perm⟩
  · split at h
    · cases h
      exact ⟨.any, meaning_or, fun _ _ => Meaning.any_perm⟩
    · split at h
      · cases h
        exact ⟨fun meanings => (Meaning.any meanings).negated, meaning_nor, fun _ _ hperm =>
          congrArg Meaning.negated (Meaning.any_perm hperm)⟩
      · cases h

/-- The meaning of what a key among operators describes, if it joins the items of an array. -/
theorem entryMeanings_eq_map_readItems {key : String} (hne : key ≠ "$not")
    {join : List Condition → Condition} (hjoin : joinConditions? key = some join)
    {joined : List (Meaning (Option Value) (String × (String → String))) → Meaning _ _}
    (hjoined : ∀ conditions, (join conditions).meaning = joined (conditions.map Condition.meaning))
    (field : String) (operators : Entries Json) (operand : Json) :
    entryMeanings field operators key operand =
      (readItems (conditionMeaning field) operand).map fun meanings => [joined meanings] := by
  rw [entryMeanings, entryConditions, if_neg hne, hjoin]
  cases operand with
  | array items =>
    show _ = (items.mapM fun item => (condition field item).toOption.map Condition.meaning).map _
    rw [toOption_bind_pure, toOption_mapM, ← map_mapM_option, Option.map_map, Option.map_map]
    refine congrArg (Option.map · _) (funext fun conditions => ?_)
    exact congrArg (fun meaning => [meaning]) (hjoined conditions)
  | _ => rfl

/-- A key among operators describes conditions of one meaning, if operands and options are read
alike. -/
theorem entryMeanings_congr {operators others : Entries Json} {value other : Json}
    (hoptions : SameOptions operators others) (h : ReadsAlike value other) (field key : String) :
    entryMeanings field operators key value = entryMeanings field others key other := by
  by_cases hnot : key = "$not"
  · have hmeanings : ∀ (operators : Entries Json) (operand : Json),
        entryMeanings field operators key operand =
          (conditionMeaning field operand).map fun meaning => [meaning.negated] := by
      intro operators operand
      rw [entryMeanings, entryConditions, if_pos hnot, toOption_bind_pure, conditionMeaning,
        Option.map_map, Option.map_map]
      rfl
    rw [hmeanings, hmeanings, (h.condition field).same]
  cases hjoin : joinConditions? key with
  | some join =>
    obtain ⟨joined, hjoined, hperm⟩ := exists_joined_of_joinConditions? hjoin
    rw [entryMeanings_eq_map_readItems hnot hjoin hjoined,
      entryMeanings_eq_map_readItems hnot hjoin hjoined]
    refine map_eq_of_rel (h.condition field).items fun _ _ hitems => ?_
    exact congrArg (fun meaning => [meaning]) (hperm _ _ hitems)
  | none =>
    rw [entryMeanings, entryMeanings, entryConditions, entryConditions, if_neg hnot, if_neg hnot,
      hjoin]
    exact toOption_operator_congr hoptions h

/-- The meaning of what a key of a document describes, if it joins the items of an array. -/
theorem clauseMeaning_eq_map_readItems {key : String} {join : List Filter → Filter}
    (hjoin : join? key = some join)
    {joined : List (Meaning Row (String → String)) → Meaning Row (String → String)}
    (hjoined : ∀ parts, (join parts).meaning = joined (parts.map meaning)) (value : Json) :
    clauseMeaning key value = (readItems (branchMeaning key) value).map joined := by
  rw [clauseMeaning, clause, hjoin]
  cases value with
  | array items =>
    show _ = (items.mapM fun item => (branch key item).toOption.map meaning).map joined
    rw [toOption_bind_pure, toOption_mapM, ← map_mapM_option, Option.map_map, Option.map_map]
    exact congrArg (Option.map · _) (funext hjoined)
  | _ => rfl

/-- A key of a document describes a filter of one meaning, if values are read alike. -/
theorem clauseMeaning_congr {value other : Json} (h : ReadsAlike value other) (key : String) :
    clauseMeaning key value = clauseMeaning key other := by
  cases hjoin : join? key with
  | some join =>
    obtain ⟨joined, hjoined, hperm⟩ := exists_joined_of_join? hjoin
    rw [clauseMeaning_eq_map_readItems hjoin hjoined, clauseMeaning_eq_map_readItems hjoin hjoined]
    exact map_eq_of_rel (h.branch key).items hperm
  | none =>
    have hmeaning : ∀ value, clauseMeaning key value =
        if isOperatorKey key then none else (conditionMeaning key value).map (onField key) := by
      intro value
      rw [clauseMeaning, clause, hjoin]
      dsimp only
      split
      · rfl
      · rw [toOption_bind_pure, conditionMeaning, Option.map_map, Option.map_map]
        exact congrArg (Option.map · _) (funext (meaning_field key))
    rw [hmeaning, hmeaning, (h.condition key).same]

/-! ### Reordered documents -/

theorem isOperatorDocument_eq_of_names {fields others : Entries Json}
    (h : (Entries.names fields).Perm (Entries.names others)) :
    isOperatorDocument fields = isOperatorDocument others := by
  have hnames : ∀ fields : Entries Json, isOperatorDocument fields =
      (!(Entries.names fields).isEmpty && (Entries.names fields).all isOperatorKey) := by
    intro fields
    rw [isOperatorDocument, Entries.names, List.isEmpty_map, List.all_map]
    rfl
  rw [hnames, hnames, h.isEmpty_eq, h.all_eq]

variable {value other : Json}

/-- Two objects of operators are read alike if they have the same options of patterns, and the
entries describe conditions of one meaning. -/
theorem conditionMeaning_object_congr {operators others : Entries Json} (field : String)
    (hnames : (Entries.names operators).Perm (Entries.names others))
    (h : Option.Rel List.Perm
      (operators.mapM fun entry => entryMeanings field operators entry.1 entry.2)
      (others.mapM fun entry => entryMeanings field others entry.1 entry.2)) :
    conditionMeaning field (.object operators) = conditionMeaning field (.object others) := by
  rw [conditionMeaning_object, conditionMeaning_object, isOperatorDocument_eq_of_names hnames,
    map_eq_of_rel h fun _ _ hperm => Meaning.all_perm hperm.flatten]

theorem ReadsAlike.of_fields {fields others : Entries Json} (h : fields.Perm others)
    (hkeys : (Json.object fields).DistinctKeys) :
    ReadsAlike (.object fields) (.object others) where
  reordered := .fields h
  scalar := .of_object rfl
  condition field := by
    refine .of_object (conditionMeaning_object_congr field (h.map Prod.fst) ?_)
    simp only [entryMeanings_congr (.of_reordered hkeys (.fields h)) (.refl _)]
    exact mapM_perm h
  branch key := by
    refine .of_object ?_
    rw [branchMeaning_object, branchMeaning_object]
    exact map_eq_of_rel (mapM_perm h) fun _ _ => Meaning.all_perm

theorem ReadsAlike.of_field (before after : Entries Json) (key : String)
    (h : ReadsAlike value other)
    (hkeys : (Json.object (before ++ (key, value) :: after)).DistinctKeys) :
    ReadsAlike (.object (before ++ (key, value) :: after))
      (.object (before ++ (key, other) :: after)) where
  reordered := .inField before after key h.reordered
  scalar := .of_object rfl
  condition field := by
    refine .of_object (conditionMeaning_object_congr field ?_ ?_)
    · rw [Entries.names, Entries.names, List.map_append, List.map_append]
      exact .refl _
    · have hoptions := SameOptions.of_reordered hkeys (.inField before after key h.reordered)
      simp only [List.mapM_append, List.mapM_cons]
      rw [entryMeanings_congr hoptions h]
      simp only [entryMeanings_congr hoptions (.refl _)]
      exact optionRel_refl List.Perm.refl _
  branch op := by
    refine .of_object ?_
    rw [branchMeaning_object, branchMeaning_object]
    simp only [List.mapM_append, List.mapM_cons, clauseMeaning_congr h]

/-- Reordered documents are read alike. -/
theorem readsAlike_of_reordered (h : value.Reordered other) (hkeys : value.DistinctKeys) :
    ReadsAlike value other := by
  -- the keys of other objects are distinct as well, so that the induction goes through `trans`
  induction h with
  | refl value => exact .refl value
  | items h =>
    exact ⟨.items h, .of_perm (fun _ => rfl) h, fun _ => .of_perm (fun _ => rfl) h,
      fun _ => .of_perm (fun _ => rfl) h⟩
  | inItem before after h ih =>
    rw [Json.distinctKeys_array_iff, List.forall_mem_append, List.forall_mem_cons] at hkeys
    have hitem := ih hkeys.2.1
    exact ⟨.inItem before after h, .of_item (fun _ => rfl) before after hitem.scalar,
      fun field => .of_item (fun _ => rfl) before after (hitem.condition field),
      fun key => .of_item (fun _ => rfl) before after (hitem.branch key)⟩
  | fields h => exact .of_fields h hkeys
  | inField before after key h ih =>
    refine .of_field before after key (ih ?_) hkeys
    rw [Json.distinctKeys_object_iff, List.forall_mem_append, List.forall_mem_cons] at hkeys
    exact hkeys.2.2.1
  | trans h h' ih ih' =>
    have hfirst := ih hkeys
    have hsecond := ih' (h.distinctKeys hkeys)
    exact ⟨h.trans h', hfirst.scalar.trans hsecond.scalar,
      fun field => (hfirst.condition field).trans (hsecond.condition field),
      fun key => (hfirst.branch key).trans (hsecond.branch key)⟩

/-- A document describes the filter of an item, or the filter that means every row. -/
theorem toOption_readFilter_map (document : Json) :
    (readFilter document).toOption.map meaning =
      match Value.ofJson? document with
      | some .null => some everything.meaning
      | _ => branchMeaning "$and" document := by
  cases document with
  | object fields =>
    show _ = (branch "$and" (.object fields)).toOption.map meaning
    rw [branch, readFilter, Filter.read]
    cases clauses fields <;> rfl
  | _ => rfl

/-- A list of operands with a pattern and its options, and a disjunction of two fields. -/
def sampleDocument : Json :=
  .object [("a", .object [("$in", .array [.text "s", .text "t"]), ("$regex", .text "x"),
      ("$options", .text "i")]),
    ("$or", .array [.object [("b", .object [("$ne", .text "u")])], .object [("c", .text "v")]])]

/-- The sample with all its keys and items in the opposite order. -/
def reversedDocument : Json :=
  .object [
    ("$or", .array [.object [("c", .text "v")], .object [("b", .object [("$ne", .text "u")])]]),
    ("a", .object [("$options", .text "i"), ("$regex", .text "x"),
      ("$in", .array [.text "t", .text "s"])])]

theorem distinctKeys_sampleDocument : sampleDocument.DistinctKeys := by
  simp [sampleDocument, Json.distinctKeys_object_iff, Json.distinctKeys_array_iff,
    Json.DistinctKeys.text, Entries.names]

theorem sampleDocument_reordered : sampleDocument.Reordered reversedDocument := by
  have hoperators : Json.Reordered
      (.object [("$in", .array [.text "s", .text "t"]), ("$regex", .text "x"),
        ("$options", .text "i")])
      (.object [("$options", .text "i"), ("$regex", .text "x"),
        ("$in", .array [.text "t", .text "s"])]) :=
    .trans (.inField [] _ "$in" (.items (.swap ..))) (.fields (List.reverse_perm _).symm)
  exact .trans (.inField [] _ "a" hoperators)
    (.trans (.inField [_] [] "$or" (.items (.swap ..))) (.fields (.swap ..)))

/-- Another order of keys and of items changes neither whether a document is a filter, nor which
rows it means, nor which cells the service accepts for its query. -/
theorem readFilter_reordered (hkeys : value.DistinctKeys) (h : value.Reordered other) :
    ((∃ filter, readFilter value = .ok filter) ↔ ∃ filter, readFilter other = .ok filter) ∧
      ∀ filter reordered, readFilter value = .ok filter → readFilter other = .ok reordered →
        (∀ row, filter.holds row = reordered.holds row) ∧
          ((filter.queryText = "" ∧ reordered.queryText = "") ∨
            ∃ query query', Query.read filter.queryText = .ok (some query) ∧
              Query.read reordered.queryText = .ok (some query') ∧
              ∀ cell, query.accepts cell = query'.accepts cell) := by
  have hmeaning : (readFilter value).toOption.map meaning =
      (readFilter other).toOption.map meaning := by
    rw [toOption_readFilter_map, toOption_readFilter_map, h.ofJson?_eq,
      ((readsAlike_of_reordered h hkeys).branch "$and").same]
  have hread : ∀ document, (∃ filter, readFilter document = .ok filter) ↔
      ((readFilter document).toOption.map meaning).isSome = true := by
    intro document
    cases readFilter document with
    | error _ => exact iff_of_false (fun ⟨_, heq⟩ => nomatch heq) Bool.false_ne_true
    | ok filter => exact iff_of_true ⟨filter, rfl⟩ rfl
  refine ⟨by rw [hread, hread, hmeaning], fun filter reordered hfilter hreordered => ?_⟩
  rw [hfilter, hreordered] at hmeaning
  have heq : filter.meaning = reordered.meaning := Option.some.inj hmeaning
  refine ⟨fun row => congrFun (congrArg Meaning.holds heq) row, ?_⟩
  have hverdict : ∀ cell, Meaning.verdict cell filter.pushDown? =
      Meaning.verdict cell reordered.pushDown? :=
    fun cell => congrFun (congrArg Meaning.accepts heq) cell
  rw [queryText_eq_empty_iff, queryText_eq_empty_iff, read_queryText, read_queryText]
  cases hquery : filter.pushDown? <;> cases hquery' : reordered.pushDown? <;>
    simp only [hquery, hquery', Meaning.verdict, Option.map_none, Option.map_some, reduceCtorEq,
      Option.some.injEq, forall_const] at hverdict
  case none.none => exact .inl ⟨rfl, rfl⟩
  case some.some query query' =>
    refine .inr ⟨query.canonical, query'.canonical, rfl, rfl, fun cell => ?_⟩
    rw [Query.accepts_canonical, Query.accepts_canonical]
    exact hverdict cell

/-- The sample and its reversal have different queries, and mean the same. -/
theorem readFilter_reordered_reversed :
    sampleDocument.DistinctKeys ∧ sampleDocument.Reordered reversedDocument ∧
      ∃ filter reordered, readFilter sampleDocument = .ok filter ∧
        readFilter reversedDocument = .ok reordered ∧
        filter.queryText ≠ reordered.queryText ∧
        (∀ row, filter.holds row = reordered.holds row) ∧
        ∃ query query', Query.read filter.queryText = .ok (some query) ∧
          Query.read reordered.queryText = .ok (some query') ∧
          ∀ cell, query.accepts cell = query'.accepts cell := by
  obtain ⟨hboth, hsame⟩ :=
    readFilter_reordered distinctKeys_sampleDocument sampleDocument_reordered
  have htexts : (readFilter sampleDocument).toOption.map queryText =
        some "(((a = \"s\" or a = \"t\")) and (b <> \"u\" or c = \"v\"))" ∧
      (readFilter reversedDocument).toOption.map queryText =
        some "((c = \"v\" or b <> \"u\") and ((a = \"t\" or a = \"s\")))" := by
    decide +kernel
  cases hfilter : readFilter sampleDocument with
  | error _ => rw [hfilter] at htexts; cases htexts.1
  | ok filter =>
    obtain ⟨reordered, hreordered⟩ := hboth.1 ⟨filter, hfilter⟩
    rw [hfilter, hreordered] at htexts
    obtain ⟨htext, htext'⟩ := htexts
    have hne : filter.queryText ≠ reordered.queryText := by
      rw [Option.some.inj htext, Option.some.inj htext']
      decide
    obtain ⟨hholds, hqueries⟩ := hsame filter reordered hfilter hreordered
    refine ⟨distinctKeys_sampleDocument, sampleDocument_reordered, filter, reordered, rfl,
      hreordered, hne, hholds, hqueries.resolve_left fun hempty => hne ?_⟩
    rw [hempty.1, hempty.2]

end Filter

end GridStore
