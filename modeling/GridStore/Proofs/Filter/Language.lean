import GridStore.Client.Documents
import GridStore.Proofs.Entries
import GridStore.Proofs.Results

/-!
# The language of filters

The documents that describe filters, given as relations between values without any reader: what a
condition may be, what an operator of a condition may hold, and what a key of a filter document may
hold. The reader accepts exactly these documents at every depth, and refuses all others as filters.

## Main definitions

* `Json.IsScalar`, `Pattern.IsValid`: operands and patterns.
* `Condition.IsWritten`, `Condition.IsOperator`: the documents of conditions and their operators.
* `Filter.IsWritten`, `Filter.IsClause`: the documents of filters and their keys.

## Main results

* `Filter.succeeds_condition_iff`: the reader of conditions accepts their documents.
* `Filter.succeeds_branch_iff`: the reader of filters accepts their documents.
* `Filter.readFilter_language`: which documents are filters, and how others are refused.
-/

namespace GridStore

/-! ### The language -/

/-- Whether a value is a scalar. -/
inductive Json.IsScalar : Json → Prop
  | null : IsScalar .null
  | bool (b : Bool) : IsScalar (.bool b)
  | number (n : JsonNumber) : IsScalar (.number n)
  | text (s : String) : IsScalar (.text s)

/-- Whether a source is a pattern with options: these are made of the three letters for options, and
the expression that they make with the source is a regular expression. -/
structure Pattern.IsValid (source options : String) : Prop where
  letters : ∀ c ∈ options.toList, c = 'i' ∨ c = 'm' ∨ c = 's'
  readable : ∃ regex, Regex.read? (Pattern.expression source options) = some regex

namespace Condition

/-- The options that stand beside a pattern, which are none unless a text is given. -/
inductive HasOptions (operators : Entries Json) : String → Prop
  | given {options : String} (h : Entries.get? operators "$options" = some (.text options)) :
      HasOptions operators options
  | absent (h : "$options" ∉ Entries.names operators) : HasOptions operators ""

mutual

/-- Whether a value is written as a condition on a field: a scalar, or an object of operators, at
least one. -/
inductive IsWritten : Json → Prop
  | scalar {value : Json} (h : value.IsScalar) : IsWritten value
  | operators {operators : Entries Json} (hne : operators ≠ [])
      (h : ∀ entry ∈ operators, IsOperator operators entry.1 entry.2) :
      IsWritten (.object operators)

/-- Whether a key among operators is an operator with an operand. -/
inductive IsOperator : Entries Json → String → Json → Prop
  | compare {operators : Entries Json} {key : String} {operand : Json} (op : Comparison)
      (hkey : key = op.key) (h : operand.IsScalar) : IsOperator operators key operand
  | among {operators : Entries Json} {key : String} {items : List Json}
      (hkey : key ∈ ["$in", "$nin"]) (h : ∀ item ∈ items, item.IsScalar) :
      IsOperator operators key (.array items)
  | join {operators : Entries Json} {key : String} {items : List Json}
      (hkey : key ∈ ["$and", "$or"]) (h : ∀ item ∈ items, IsWritten item) :
      IsOperator operators key (.array items)
  | not {operators : Entries Json} {key : String} {operand : Json} (hkey : key = "$not")
      (h : IsWritten operand) : IsOperator operators key operand
  | present {operators : Entries Json} {key : String} {operand : Json} (hkey : key = "$exists") :
      IsOperator operators key operand
  | pattern {operators : Entries Json} {key source options : String} (hkey : key = "$regex")
      (hoptions : HasOptions operators options) (h : Pattern.IsValid source options) :
      IsOperator operators key (.text source)
  | options {operators : Entries Json} {key : String} {operand : Json} (hkey : key = "$options")
      (hpattern : "$regex" ∈ Entries.names operators) : IsOperator operators key operand

end

end Condition

namespace Filter

mutual

/-- Whether a value is written as a filter: an object of clauses. -/
inductive IsWritten : Json → Prop
  | clauses {fields : Entries Json} (h : ∀ entry ∈ fields, IsClause entry.1 entry.2) :
      IsWritten (.object fields)

/-- Whether a key is a clause with a value: a field with a condition, or an operator with
filters. -/
inductive IsClause : String → Json → Prop
  | join {key : String} {items : List Json} (hkey : key ∈ ["$and", "$or", "$nor"])
      (h : ∀ item ∈ items, IsWritten item) : IsClause key (.array items)
  | field {name : String} {value : Json} (hname : isOperatorKey name = false)
      (h : Condition.IsWritten value) : IsClause name value

end

end Filter

/-! ### Operands -/

namespace Comparison

theorem ofKey?_key (op : Comparison) : ofKey? op.key = some op := by
  cases op <;> decide

theorem key_of_ofKey? {key : String} {op : Comparison} (h : ofKey? key = some op) :
    key = op.key :=
  (eq_of_beq (List.find?_some (p := fun op : Comparison => op.key == key) h)).symm

end Comparison

theorem Pattern.succeeds_read_iff {source options : String} :
    Succeeds (Pattern.read source options) ↔ Pattern.IsValid source options := by
  have hletters : options.toList.find? (fun c => !isOption c) = none ↔
      ∀ c ∈ options.toList, c = 'i' ∨ c = 'm' ∨ c = 's' := by
    simp [isOption, ← Decidable.or_iff_not_imp_left]
  rw [Pattern.read]
  split
  case h_1 flag hflag =>
    refine iff_of_false (not_succeeds_error _) fun h => ?_
    rw [hletters.2 h.letters] at hflag
    cases hflag
  case h_2 hnone =>
    split
    case h_1 regex hregex => exact iff_of_true (succeeds_ok _) ⟨hletters.1 hnone, regex, hregex⟩
    case h_2 hregex =>
      refine iff_of_false (not_succeeds_error _) fun ⟨_, regex, h⟩ => ?_
      rw [hregex] at h
      cases h

namespace Filter

variable {field key : String} {operators : Entries Json} {operand value : Json}

theorem succeeds_scalar_iff : Succeeds (scalar field value) ↔ value.IsScalar := by
  cases value with
  | null => exact iff_of_true (succeeds_ok _) .null
  | bool b => exact iff_of_true (succeeds_ok _) (.bool b)
  | number n => exact iff_of_true (succeeds_ok _) (.number n)
  | text s => exact iff_of_true (succeeds_ok _) (.text s)
  | array items => exact iff_of_false (not_succeeds_error _) nofun
  | object fields => exact iff_of_false (not_succeeds_error _) nofun

theorem succeeds_scalars_iff : Succeeds (scalars field key operand) ↔
    ∃ items, operand = .array items ∧ ∀ item ∈ items, item.IsScalar := by
  cases operand with
  | array items =>
    simp only [scalars, succeeds_mapM_iff, succeeds_scalar_iff, Json.array.injEq,
      exists_eq_left']
  | _ => exact iff_of_false (not_succeeds_error _) nofun

theorem optionsOf_eq_ok_iff {options : String} :
    optionsOf field operators = .ok options ↔ Condition.HasOptions operators options := by
  rw [optionsOf]
  constructor
  · intro h
    split at h
    case h_1 hget => exact Except.ok.inj h ▸ .given hget
    case h_2 => cases h
    case h_3 hget => exact Except.ok.inj h ▸ .absent (Entries.get?_eq_none_iff.1 hget)
  · rintro (hget | habsent)
    · rw [hget]
    · rw [Entries.get?_eq_none_iff.2 habsent]

theorem succeeds_patternOf_iff : Succeeds (patternOf field operators operand) ↔
    ∃ source options, operand = .text source ∧ Condition.HasOptions operators options ∧
      Pattern.IsValid source options := by
  cases operand with
  | text source =>
    show Succeeds (optionsOf field operators >>= Pattern.read source) ↔ _
    cases hoptions : optionsOf field operators with
    | error e =>
      refine iff_of_false (not_succeeds_error e) fun ⟨_, options, _, h, _⟩ => ?_
      rw [optionsOf_eq_ok_iff.2 h] at hoptions
      cases hoptions
    | ok options =>
      refine Pattern.succeeds_read_iff.trans ⟨fun h =>
        ⟨source, options, rfl, optionsOf_eq_ok_iff.1 hoptions, h⟩, ?_⟩
      rintro ⟨_, other, heq, hother, h⟩
      cases heq
      rw [optionsOf_eq_ok_iff.2 hother] at hoptions
      exact Except.ok.inj hoptions ▸ h
  | _ => exact iff_of_false (not_succeeds_error _) nofun

/-! ### Operators -/

theorem joinConditions?_eq_none_iff :
    joinConditions? key = none ↔ key ∉ ["$and", "$or"] := by
  rw [joinConditions?]
  split
  · simp_all
  · split <;> simp_all

theorem mem_of_joinConditions? {join : List Condition → Condition}
    (h : joinConditions? key = some join) : key ∈ ["$and", "$or"] := by
  refine Decidable.of_not_not fun hkey => ?_
  rw [joinConditions?_eq_none_iff.2 hkey] at h
  cases h

theorem isOperator_not_iff :
    Condition.IsOperator operators "$not" operand ↔ Condition.IsWritten operand := by
  constructor
  · intro h
    cases h with
    | not _ h => exact h
    | compare op hkey => cases op <;> simp [Comparison.key] at hkey
    | _ => simp_all
  · exact .not rfl

theorem isOperator_join_iff (hkey : key ∈ ["$and", "$or"]) :
    Condition.IsOperator operators key operand ↔
      ∃ items, operand = .array items ∧ ∀ item ∈ items, Condition.IsWritten item := by
  constructor
  · intro h
    cases h with
    | join _ h => exact ⟨_, rfl, h⟩
    | compare op hop => cases op <;> simp_all [Comparison.key]
    | among hother => simp only [List.mem_cons, List.not_mem_nil, or_false] at hkey hother; grind
    | _ => simp_all
  · rintro ⟨items, rfl, h⟩
    exact .join hkey h

theorem isOperator_of_succeeds_operator (h : Succeeds (operator field operators key operand)) :
    Condition.IsOperator operators key operand := by
  rw [operator] at h
  split at h
  case h_1 op hop =>
    have hscalar : Succeeds (scalar field operand) :=
      (succeeds_bind_pure_iff fun v => [Condition.compare op v]).1 h
    exact .compare op (Comparison.key_of_ofKey? hop) (succeeds_scalar_iff.1 hscalar)
  case h_2 =>
    split at h
    case isTrue hin =>
      have hscalars : Succeeds (scalars field key operand) :=
        (succeeds_bind_pure_iff fun vs => [Condition.isIn vs]).1 h
      obtain ⟨items, rfl, hitems⟩ := succeeds_scalars_iff.1 hscalars
      exact .among (hin ▸ List.mem_cons_self ..) hitems
    split at h
    case isTrue hnin =>
      have hscalars : Succeeds (scalars field key operand) :=
        (succeeds_bind_pure_iff fun vs => [Condition.notIn vs]).1 h
      obtain ⟨items, rfl, hitems⟩ := succeeds_scalars_iff.1 hscalars
      exact .among (hnin ▸ List.mem_cons_of_mem _ (List.mem_cons_self ..)) hitems
    split at h
    case isTrue hexists => exact .present hexists
    split at h
    case isTrue hregex =>
      have hpattern : Succeeds (patternOf field operators operand) :=
        (succeeds_bind_pure_iff fun p => [Condition.pattern p]).1 h
      obtain ⟨source, options, rfl, hoptions, hvalid⟩ := succeeds_patternOf_iff.1 hpattern
      exact .pattern hregex hoptions hvalid
    split at h
    case isTrue hoptions => exact .options hoptions.1 (Entries.isSome_get?_iff.1 hoptions.2)
    case isFalse => exact absurd h (not_succeeds_throw _)

theorem succeeds_operator_of_isOperator (hnot : key ≠ "$not") (hjoin : key ∉ ["$and", "$or"])
    (h : Condition.IsOperator operators key operand) :
    Succeeds (operator field operators key operand) := by
  cases h with
  | compare op hkey h =>
    rw [operator, hkey, Comparison.ofKey?_key]
    exact (succeeds_bind_pure_iff _).2 (succeeds_scalar_iff.2 h)
  | among hkey h =>
    have hscalars : Succeeds (scalars field key (.array _)) :=
      succeeds_scalars_iff.2 ⟨_, rfl, h⟩
    rcases List.mem_cons.1 hkey with rfl | hkey
    · exact (succeeds_bind_pure_iff _).2 hscalars
    · cases List.mem_singleton.1 hkey
      exact (succeeds_bind_pure_iff _).2 hscalars
  | join hkey => exact absurd hkey hjoin
  | not hkey => exact absurd hkey hnot
  | present hkey =>
    subst hkey
    exact succeeds_pure _
  | pattern hkey hoptions h =>
    subst hkey
    exact (succeeds_bind_pure_iff _).2
      (succeeds_patternOf_iff.2 ⟨_, _, rfl, hoptions, h⟩)
  | options hkey hpattern =>
    subst hkey
    have hrun : operator field operators "$options" operand =
        if "$options" = "$options" ∧ (Entries.get? operators "$regex").isSome then pure []
        else throw (.unknownOperator field "$options") := rfl
    rw [hrun, if_pos ⟨rfl, Entries.isSome_get?_iff.2 hpattern⟩]
    exact succeeds_pure _

/-- Every operator is a key that names one. -/
theorem isOperatorKey_of_isOperator (h : Condition.IsOperator operators key operand) :
    isOperatorKey key = true := by
  cases h with
  | compare op hkey => subst hkey; cases op <;> decide
  | among hkey | join hkey =>
    rcases List.mem_cons.1 hkey with rfl | hkey
    · decide
    · cases List.mem_singleton.1 hkey
      decide
  | not hkey | present hkey | pattern hkey | options hkey => subst hkey; decide

theorem isWritten_object_iff : Condition.IsWritten (.object operators) ↔
    isOperatorDocument operators = true ∧
      ∀ entry ∈ operators, Condition.IsOperator operators entry.1 entry.2 := by
  constructor
  · intro h
    cases h with
    | scalar h => cases h
    | operators hne h =>
      refine ⟨?_, h⟩
      rw [isOperatorDocument, Bool.and_eq_true, List.all_eq_true]
      exact ⟨by simpa using hne, fun entry hmem => isOperatorKey_of_isOperator (h entry hmem)⟩
  · rintro ⟨hdocument, h⟩
    refine .operators (fun hnil => ?_) h
    rw [hnil] at hdocument
    cases hdocument

/-! ### Conditions -/

-- the cases are those of the readers, which go from a document to its entries and from these to
-- the operands and the items of an array

mutual

/-- The reader of conditions accepts the values that are written as conditions. -/
theorem succeeds_condition_iff (field : String) :
    ∀ value : Json, Succeeds (condition field value) ↔ Condition.IsWritten value
  | .object operators => by
    rw [condition, isWritten_object_iff, ← succeeds_conditions_iff field operators operators]
    split
    case isTrue hdocument =>
      exact (succeeds_bind_pure_iff _).trans
        (and_iff_right hdocument).symm
    case isFalse hdocument => exact iff_of_false (not_succeeds_throw _) fun h => hdocument h.1
  | .null | .bool _ | .number _ | .text _ | .array _ => by
    rw [condition]
    refine ((succeeds_bind_pure_iff _).trans succeeds_scalar_iff).trans
      ⟨.scalar, fun h => ?_⟩
    · cases h with
      | scalar h => exact h
    · nofun

/-- The reader of the entries among operators accepts operators. -/
theorem succeeds_conditions_iff (field : String) (operators : Entries Json) :
    ∀ rest : Entries Json, Succeeds (conditions field operators rest) ↔
      ∀ entry ∈ rest, Condition.IsOperator operators entry.1 entry.2
  | [] => iff_of_true (succeeds_pure []) nofun
  | (key, operand) :: rest => by
    rw [conditions, List.forall_mem_cons, ← succeeds_conditions_iff field operators rest]
    have hrest : ∀ found : List Condition,
        Succeeds (do return found ++ (← conditions field operators rest)) ↔
          Succeeds (conditions field operators rest) :=
      fun found => succeeds_bind_pure_iff _
    split
    case isTrue hnot =>
      rw [hnot, isOperator_not_iff, ← succeeds_condition_iff field operand]
      exact succeeds_bind_iff fun inner => hrest [.not inner]
    case isFalse hnot =>
      split
      case h_1 join hjoin =>
        rw [isOperator_join_iff (mem_of_joinConditions? hjoin)]
        cases operand with
        | array items =>
          simp only [Json.array.injEq, exists_eq_left', ← succeeds_conditionList_iff field items]
          exact succeeds_bind_iff fun inner => hrest [join inner]
        | _ => exact iff_of_false (not_succeeds_throw _) nofun
      case h_2 hjoin =>
        have hkey := joinConditions?_eq_none_iff.1 hjoin
        rw [show Condition.IsOperator operators key operand ↔
            Succeeds (operator field operators key operand) from
          ⟨succeeds_operator_of_isOperator hnot hkey, isOperator_of_succeeds_operator⟩]
        exact succeeds_bind_iff hrest

/-- The reader of an array of conditions accepts the arrays of conditions. -/
theorem succeeds_conditionList_iff (field : String) :
    ∀ items : List Json, Succeeds (conditionList field items) ↔
      ∀ item ∈ items, Condition.IsWritten item
  | [] => iff_of_true (succeeds_pure []) nofun
  | item :: rest => by
    rw [conditionList, List.forall_mem_cons, ← succeeds_condition_iff field item,
      ← succeeds_conditionList_iff field rest]
    exact succeeds_bind_iff fun _ => succeeds_bind_pure_iff _

end

/-! ### Filters -/

/-- The operators of filters are not fields. -/
theorem isOperatorKey_of_join? {join : List Filter → Filter} (h : join? key = some join) :
    key ∈ ["$and", "$or", "$nor"] ∧ isOperatorKey key = true := by
  rw [join?] at h
  split at h
  case isTrue hand => subst hand; decide
  split at h
  case isTrue hor => subst hor; decide
  split at h
  case isTrue hnor => subst hnor; decide
  case isFalse => cases h

theorem isClause_join_iff {join : List Filter → Filter} (hjoin : join? key = some join) :
    IsClause key value ↔ ∃ items, value = .array items ∧ ∀ item ∈ items, IsWritten item := by
  obtain ⟨hkey, hoperator⟩ := isOperatorKey_of_join? hjoin
  constructor
  · intro h
    cases h with
    | join _ h => exact ⟨_, rfl, h⟩
    | field hname => rw [hname] at hoperator; cases hoperator
  · rintro ⟨items, rfl, h⟩
    exact .join hkey h

theorem isClause_field_iff (hjoin : join? key = none) : IsClause key value ↔
    isOperatorKey key = false ∧ Condition.IsWritten value := by
  constructor
  · intro h
    cases h with
    | join hkey =>
      rw [join?] at hjoin
      grind
    | field hname h => exact ⟨hname, h⟩
  · exact fun h => .field h.1 h.2

theorem isWritten_iff : IsWritten value ↔
    ∃ fields, value = .object fields ∧ ∀ entry ∈ fields, IsClause entry.1 entry.2 := by
  constructor
  · rintro ⟨h⟩
    exact ⟨_, rfl, h⟩
  · rintro ⟨fields, rfl, h⟩
    exact .clauses h

mutual

/-- The reader of the fields of a document accepts clauses. -/
theorem succeeds_clauses_iff : ∀ fields : Entries Json,
    Succeeds (clauses fields) ↔ ∀ entry ∈ fields, IsClause entry.1 entry.2
  | [] => iff_of_true (succeeds_pure []) nofun
  | (key, value) :: rest => by
    rw [clauses, List.forall_mem_cons, ← succeeds_clauses_iff rest]
    have hrest : ∀ clause : Filter, Succeeds (do return clause :: (← clauses rest)) ↔
        Succeeds (clauses rest) :=
      fun clause => succeeds_bind_pure_iff _
    split
    case h_1 join hjoin =>
      rw [isClause_join_iff hjoin]
      cases value with
      | array items =>
        simp only [Json.array.injEq, exists_eq_left', ← succeeds_branches_iff key items]
        exact succeeds_bind_iff fun parts => hrest (join parts)
      | _ => exact iff_of_false (not_succeeds_throw _) nofun
    case h_2 hjoin =>
      rw [isClause_field_iff hjoin]
      split
      case isTrue hoperator =>
        exact iff_of_false (not_succeeds_throw _) fun h => by simp [hoperator] at h
      case isFalse hoperator =>
        rw [← succeeds_condition_iff key value,
          and_iff_right (Bool.eq_false_iff.2 hoperator)]
        exact succeeds_bind_iff fun inner => hrest (.field key inner)

/-- The reader of an array of filters accepts the arrays of filters. -/
theorem succeeds_branches_iff (operator : String) : ∀ items : List Json,
    Succeeds (branches operator items) ↔ ∀ item ∈ items, IsWritten item
  | [] => iff_of_true (succeeds_pure []) nofun
  | item :: rest => by
    rw [branches, List.forall_mem_cons, ← succeeds_branch_iff operator item,
      ← succeeds_branches_iff operator rest]
    exact succeeds_bind_iff fun _ => succeeds_bind_pure_iff _

/-- The reader of filters inside a document accepts the values that are written as filters. -/
theorem succeeds_branch_iff (operator : String) : ∀ item : Json,
    Succeeds (branch operator item) ↔ IsWritten item
  | .object fields => by
    rw [branch, isWritten_iff]
    simp only [Json.object.injEq, exists_eq_left', ← succeeds_clauses_iff fields]
    exact succeeds_bind_pure_iff _
  | .null | .bool _ | .number _ | .text _ | .array _ =>
    iff_of_false (not_succeeds_throw _) nofun

end

theorem succeeds_read_iff (document : Json) :
    Succeeds (read document) ↔ document = .null ∨ IsWritten document := by
  cases document with
  | null => exact iff_of_true (succeeds_ok _) (.inl rfl)
  | object fields =>
    rw [isWritten_iff, read]
    simp only [Json.object.injEq, exists_eq_left', ← succeeds_clauses_iff fields, reduceCtorEq,
      false_or]
    exact succeeds_bind_pure_iff _
  | _ => exact iff_of_false (not_succeeds_error _) (by rintro (h | h) <;> cases h)

/-- A document is a filter exactly if it is null or an object written as a filter; every other
document is refused as a filter. -/
theorem readFilter_language (document : Json) :
    ((∃ filter, readFilter document = .ok filter) ↔ document = .null ∨ IsWritten document) ∧
      (¬(document = .null ∨ IsWritten document) →
        ∃ reason, readFilter document = .error (.filter reason)) := by
  have hlanguage : Succeeds (readFilter document) ↔ document = .null ∨ IsWritten document :=
    (succeeds_mapError_iff StoreError.filter).trans (succeeds_read_iff document)
  refine ⟨hlanguage, fun hrefused => ?_⟩
  rw [← succeeds_read_iff] at hrefused
  cases hread : read document with
  | ok filter => exact absurd ⟨filter, hread⟩ hrefused
  | error reason => exact ⟨reason, by rw [readFilter, hread]; rfl⟩

end Filter

end GridStore
