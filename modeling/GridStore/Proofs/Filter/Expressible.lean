import GridStore.Proofs.Client.Reads

/-!
# What the query of a filter says

A filter is read as a tree: its comparisons with flags, numbers and texts that name no instant are
comparisons of the service, each operand of a list makes one comparison, a conjunction keeps the
parts that can be expressed, and a disjunction is expressed as a whole or not at all. The reading is
given without any query, and the text of the query of a filter is then shown to be read as it. In
particular the service never refuses the query of a filter as malformed.

## Main definitions

* `Condition.Expressible`, `Filter.Expressible`: whether something of a condition or filter can be
  expressed.
* `Condition.Reading`, `Filter.Reading`: whether cells meet what is expressed.
* `Query.Conveys`: whether a query is what is expressed.
* `StoreError.IsMalformedQuery`: whether a failure says that the service could not read a query.

## Main results

* `Filter.conveys`: the query of a filter is what is expressed of it.
* `Filter.queryText_conveys`: the text of the query is read so, and no search fails because of it.
-/

namespace GridStore

/-! ### The reading of a filter -/

/-- What an operand is for the service, which knows no instants, also not those that are named by
texts, and no missing values. -/
inductive Value.Expressed : Value → Literal → Prop
  | bool (b : Bool) : Expressed (.bool b) (.bool b)
  | number (n : Number) : Expressed (.number n) (.number n)
  | text {s : String} (h : Cell.timestamp? s = none) : Expressed (.text s) (.text s)

/-- Whether the service can compare cells with an operand. -/
def Value.Expressible (operand : Value) : Prop := ∃ l, operand.Expressed l

/-- Whether a cell compares with an operand as demanded, for the service. -/
def Value.Reading (cell : String) (op : QueryOp) (operand : Value) : Prop :=
  ∃ l, operand.Expressed l ∧ Query.compareCell cell op l = true

/-- Whether something of a condition can be expressed. -/
inductive Condition.Expressible : Condition → Prop
  | compare (op : Comparison) {operand : Value} (h : operand.Expressible) :
      Expressible (.compare op operand)
  | isIn {operands : List Value} (hne : operands ≠ [])
      (h : ∀ operand ∈ operands, operand.Expressible) : Expressible (.isIn operands)
  | notIn {operands : List Value} {operand : Value} (hmem : operand ∈ operands)
      (h : operand.Expressible) : Expressible (.notIn operands)
  | all {conditions : List Condition} {condition : Condition} (hmem : condition ∈ conditions)
      (h : condition.Expressible) : Expressible (.all conditions)
  | any {conditions : List Condition} (hne : conditions ≠ [])
      (h : ∀ condition ∈ conditions, condition.Expressible) : Expressible (.any conditions)

/-- Whether a cell meets what is expressed of a condition. -/
inductive Condition.Reading (cell : String) : Condition → Prop
  | eq {operand : Value} (h : operand.Reading cell .eq) : Reading cell (.compare .eq operand)
  | ne {operand : Value} (h : operand.Reading cell .ne) : Reading cell (.compare .ne operand)
  | gt {operand : Value} (h : operand.Reading cell .gt) : Reading cell (.compare .gt operand)
  | gte {operand : Value} (h : operand.Reading cell .gte) : Reading cell (.compare .gte operand)
  | lt {operand : Value} (h : operand.Reading cell .lt) : Reading cell (.compare .lt operand)
  | lte {operand : Value} (h : operand.Reading cell .lte) : Reading cell (.compare .lte operand)
  | isIn {operands : List Value} {operand : Value} (hmem : operand ∈ operands)
      (h : operand.Reading cell .eq) : Reading cell (.isIn operands)
  | notIn {operands : List Value}
      (h : ∀ operand ∈ operands, operand.Expressible → operand.Reading cell .ne) :
      Reading cell (.notIn operands)
  | all {conditions : List Condition}
      (h : ∀ condition ∈ conditions, condition.Expressible → Reading cell condition) :
      Reading cell (.all conditions)
  | any {conditions : List Condition} {condition : Condition} (hmem : condition ∈ conditions)
      (h : Reading cell condition) : Reading cell (.any conditions)

/-- Whether something of a filter can be expressed. -/
inductive Filter.Expressible : Filter → Prop
  | and {parts : List Filter} {part : Filter} (hmem : part ∈ parts) (h : part.Expressible) :
      Expressible (.and parts)
  | or {parts : List Filter} (hne : parts ≠ []) (h : ∀ part ∈ parts, part.Expressible) :
      Expressible (.or parts)
  | field {name : String} {condition : Condition} (hname : isColumnWord name = true)
      (h : condition.Expressible) : Expressible (.field name condition)

/-- Whether the cells of a row meet what is expressed of a filter. -/
inductive Filter.Reading (cell : String → String) : Filter → Prop
  | and {parts : List Filter} (h : ∀ part ∈ parts, part.Expressible → Reading cell part) :
      Reading cell (.and parts)
  | or {parts : List Filter} {part : Filter} (hmem : part ∈ parts) (h : Reading cell part) :
      Reading cell (.or parts)
  | field {name : String} {condition : Condition} (h : condition.Reading (cell name)) :
      Reading cell (.field name condition)

/-! ### What a query says -/

namespace Query

/-- Whether there is a query exactly if something can be expressed, and the query accepts cells
exactly if they meet what is expressed. -/
structure Conveys (query : Option Query) (cell : String → String) (expressible reading : Prop) :
    Prop where
  isSome : query.isSome = true ↔ expressible
  accepts : ∀ q, query = some q → (q.accepts cell = true ↔ reading)

variable {cell : String → String} {α : Type} {query : α → Option Query}
  {expressible reading : α → Prop} {parts : List α}

theorem Conveys.congr {q : Option Query} {e r e' r' : Prop} (h : Conveys q cell e r)
    (he : e ↔ e') (hr : r ↔ r') : Conveys q cell e' r' :=
  ⟨h.isSome.trans he, fun q hq => (h.accepts q hq).trans hr⟩

theorem conveys_none {e r : Prop} (he : ¬e) : Conveys none cell e r := ⟨⟨nofun, he.elim⟩, nofun⟩

/-- A conjunction says what its parts say, apart from those that say nothing. -/
theorem conveys_conjunction?
    (h : ∀ part ∈ parts, Conveys (query part) cell (expressible part) (reading part)) :
    Conveys (Condition.conjunction? (parts.filterMap query)) cell
      (∃ part ∈ parts, expressible part) (∀ part ∈ parts, expressible part → reading part) := by
  constructor
  · rw [Option.isSome_iff_exists]
    simp only [Condition.conjunction?_eq_some]
    constructor
    · rintro ⟨_, hne, -⟩
      obtain ⟨q, hq⟩ := List.exists_mem_of_ne_nil _ hne
      obtain ⟨part, hpart, hsome⟩ := List.mem_filterMap.1 hq
      exact ⟨part, hpart, (h part hpart).isSome.1 (by rw [hsome]; rfl)⟩
    · rintro ⟨part, hpart, hexpressible⟩
      obtain ⟨q, hsome⟩ := Option.isSome_iff_exists.1 ((h part hpart).isSome.2 hexpressible)
      exact ⟨_, List.ne_nil_of_mem (List.mem_filterMap.2 ⟨part, hpart, hsome⟩), rfl⟩
  · intro q hq
    obtain ⟨-, rfl⟩ := Condition.conjunction?_eq_some.1 hq
    rw [Query.accepts, acceptsAll_eq_all, List.all_eq_true]
    constructor
    · intro hall part hpart hexpressible
      obtain ⟨q, hsome⟩ := Option.isSome_iff_exists.1 ((h part hpart).isSome.2 hexpressible)
      exact ((h part hpart).accepts q hsome).1 (hall q (List.mem_filterMap.2 ⟨part, hpart, hsome⟩))
    · intro hall q hq
      obtain ⟨part, hpart, hsome⟩ := List.mem_filterMap.1 hq
      exact ((h part hpart).accepts q hsome).2
        (hall part hpart ((h part hpart).isSome.1 (by rw [hsome]; rfl)))

/-- A disjunction says what its parts say, if all of them say something. -/
theorem conveys_disjunction?
    (h : ∀ part ∈ parts, Conveys (query part) cell (expressible part) (reading part)) :
    Conveys (Condition.disjunction? (parts.map query)) cell
      (parts ≠ [] ∧ ∀ part ∈ parts, expressible part) (∃ part ∈ parts, reading part) := by
  constructor
  · rw [Option.isSome_iff_exists]
    simp only [Condition.disjunction?_eq_some]
    constructor
    · rintro ⟨_, queries, hqueries, hne, -⟩
      refine ⟨fun hnil => hne ?_, fun part hpart => (h part hpart).isSome.1 ?_⟩
      · rw [hnil] at hqueries
        exact List.map_eq_nil_iff.1 hqueries.symm
      · obtain ⟨q, -, hsome⟩ := List.mem_map.1 (hqueries ▸ List.mem_map_of_mem hpart)
        rw [← hsome]
        rfl
    · rintro ⟨hne, hall⟩
      have hsome : ∀ q ∈ parts.map query, ∃ written, q = some written := by
        rintro _ hq
        obtain ⟨part, hpart, rfl⟩ := List.mem_map.1 hq
        exact Option.isSome_iff_exists.1 ((h part hpart).isSome.2 (hall part hpart))
      obtain ⟨queries, hqueries⟩ := exists_eq_map_some hsome
      refine ⟨_, queries, hqueries, fun hnil => hne ?_, rfl⟩
      rw [hnil] at hqueries
      exact List.map_eq_nil_iff.1 hqueries
  · intro q hq
    obtain ⟨queries, hqueries, -, rfl⟩ := Condition.disjunction?_eq_some.1 hq
    rw [Query.accepts, acceptsAny_eq_any, List.any_eq_true]
    constructor
    · rintro ⟨q, hq, haccepts⟩
      have hmem : some q ∈ parts.map query := hqueries ▸ List.mem_map_of_mem hq
      obtain ⟨part, hpart, hsome⟩ := List.mem_map.1 hmem
      exact ⟨part, hpart, ((h part hpart).accepts q hsome).1 haccepts⟩
    · rintro ⟨part, hpart, hreading⟩
      obtain ⟨q, hq, hsome⟩ := List.mem_map.1 (hqueries ▸ List.mem_map_of_mem hpart)
      exact ⟨q, hq, ((h part hpart).accepts q hsome.symm).2 hreading⟩

end Query

namespace Condition

open Query (Conveys)

theorem literal?_eq_some_iff {operand : Value} {l : Literal} :
    literal? operand = some l ↔ operand.Expressed l := by
  constructor
  · intro h
    cases operand with
    | bool b => cases h; exact .bool b
    | number n => cases h; exact .number n
    | text s =>
      rw [literal?] at h
      split at h
      · cases h
      · cases h
        exact .text (Option.not_isSome_iff_eq_none.1 ‹_›)
    | _ => cases h
  · rintro (_ | _ | hs)
    · rfl
    · rfl
    · rw [literal?, hs]
      rfl

/-- A cell meets a comparison if it compares so for the service. -/
theorem reading_compare_iff {cell : String} {op : Comparison} {operand : Value} :
    Reading cell (.compare op operand) ↔ operand.Reading cell op.queryOp := by
  cases op with
  | eq => exact ⟨fun | .eq h => h, .eq⟩
  | ne => exact ⟨fun | .ne h => h, .ne⟩
  | gt => exact ⟨fun | .gt h => h, .gt⟩
  | gte => exact ⟨fun | .gte h => h, .gte⟩
  | lt => exact ⟨fun | .lt h => h, .lt⟩
  | lte => exact ⟨fun | .lte h => h, .lte⟩

theorem conveys_comparison? (column : String) (op : Comparison) (operand : Value)
    (cell : String → String) :
    Conveys (comparison? column op operand) cell operand.Expressible
      (operand.Reading (cell column) op.queryOp) := by
  simp only [Value.Expressible, Value.Reading, ← literal?_eq_some_iff, comparison?]
  cases literal? operand with
  | none => exact Query.conveys_none (by simp)
  | some l => exact ⟨by simp, fun q hq => by cases hq; simp [Query.accepts]⟩

theorem pushDownAll_eq_map (column : String) (conditions : List Condition) :
    pushDownAll column conditions = conditions.map (pushDown? column) := by
  induction conditions with
  | nil => rfl
  | cons condition rest ih => rw [pushDownAll, ih, List.map_cons]

mutual

/-- The query of a condition is what is expressed of it. -/
theorem conveys (column : String) (cell : String → String) : (condition : Condition) →
    Conveys (condition.pushDown? column) cell condition.Expressible
      (condition.Reading (cell column))
  | compare op operand =>
    (conveys_comparison? column op operand cell).congr
      ⟨.compare op, fun | .compare _ h => h⟩ reading_compare_iff.symm
  | isIn operands =>
    (Query.conveys_disjunction? fun operand _ => conveys_comparison? column .eq operand cell).congr
      ⟨fun ⟨hne, h⟩ => .isIn hne h, fun | .isIn hne h => ⟨hne, h⟩⟩
      ⟨fun ⟨_, hmem, h⟩ => .isIn hmem h, fun | .isIn hmem h => ⟨_, hmem, h⟩⟩
  | notIn operands =>
    (Query.conveys_conjunction? fun operand _ => conveys_comparison? column .ne operand cell).congr
      ⟨fun ⟨_, hmem, h⟩ => .notIn hmem h, fun | .notIn hmem h => ⟨_, hmem, h⟩⟩
      ⟨.notIn, fun | .notIn h => h⟩
  | all conditions => by
    rw [pushDown?, pushDownAll_eq_map, List.filterMap_map]
    exact (Query.conveys_conjunction? (conveys_of_mem column cell conditions)).congr
      ⟨fun ⟨_, hmem, h⟩ => .all hmem h, fun | .all hmem h => ⟨_, hmem, h⟩⟩
      ⟨.all, fun | .all h => h⟩
  | any conditions => by
    rw [pushDown?, pushDownAll_eq_map]
    exact (Query.conveys_disjunction? (conveys_of_mem column cell conditions)).congr
      ⟨fun ⟨hne, h⟩ => .any hne h, fun | .any hne h => ⟨hne, h⟩⟩
      ⟨fun ⟨_, hmem, h⟩ => .any hmem h, fun | .any hmem h => ⟨_, hmem, h⟩⟩
  | present _ => Query.conveys_none nofun
  | pattern _ => Query.conveys_none nofun
  | not _ => Query.conveys_none nofun

theorem conveys_of_mem (column : String) (cell : String → String) :
    (conditions : List Condition) → ∀ condition ∈ conditions,
    Conveys (condition.pushDown? column) cell condition.Expressible
      (condition.Reading (cell column))
  | [], _, hmem => nomatch hmem
  | first :: rest, condition, hmem => by
    rcases List.mem_cons.1 hmem with hfirst | hrest
    · exact hfirst ▸ conveys column cell first
    · exact conveys_of_mem column cell rest condition hrest

end

end Condition

namespace Filter

open Query (Conveys)

theorem pushDownAll_eq_map (filters : List Filter) :
    pushDownAll filters = filters.map pushDown? := by
  induction filters with
  | nil => rfl
  | cons filter rest ih => rw [pushDownAll, ih, List.map_cons]

mutual

/-- The query of a filter is what is expressed of it. -/
theorem conveys (cell : String → String) : (filter : Filter) →
    Conveys filter.pushDown? cell filter.Expressible (filter.Reading cell)
  | and parts => by
    rw [pushDown?, pushDownAll_eq_map, List.filterMap_map]
    exact (Query.conveys_conjunction? (conveys_of_mem cell parts)).congr
      ⟨fun ⟨_, hmem, h⟩ => .and hmem h, fun | .and hmem h => ⟨_, hmem, h⟩⟩
      ⟨.and, fun | .and h => h⟩
  | or parts => by
    rw [pushDown?, pushDownAll_eq_map]
    exact (Query.conveys_disjunction? (conveys_of_mem cell parts)).congr
      ⟨fun ⟨hne, h⟩ => .or hne h, fun | .or hne h => ⟨hne, h⟩⟩
      ⟨fun ⟨_, hmem, h⟩ => .or hmem h, fun | .or hmem h => ⟨_, hmem, h⟩⟩
  | nor _ => Query.conveys_none nofun
  | field name condition => by
    rw [pushDown?]
    split
    case isTrue hname =>
      exact (condition.conveys name cell).congr
        ⟨.field hname, fun | .field _ h => h⟩ ⟨.field, fun | .field h => h⟩
    case isFalse hname => exact Query.conveys_none fun | .field h _ => hname h

theorem conveys_of_mem (cell : String → String) : (filters : List Filter) → ∀ filter ∈ filters,
    Conveys filter.pushDown? cell filter.Expressible (filter.Reading cell)
  | [], _, hmem => nomatch hmem
  | first :: rest, filter, hmem => by
    rcases List.mem_cons.1 hmem with hfirst | hrest
    · exact hfirst ▸ conveys cell first
    · exact conveys_of_mem cell rest filter hrest

end

/-- Only a filter of which nothing can be expressed has no text. -/
theorem queryText_eq_empty_iff_not_expressible {filter : Filter} :
    filter.queryText = "" ↔ ¬filter.Expressible := by
  rw [queryText_eq_empty_iff, ← (conveys (fun _ => "") filter).isSome,
    Option.not_isSome_iff_eq_none]

/-- The text of a query is read as what is expressed of the filter. -/
theorem accepts_iff_reading {filter : Filter} {q : Query}
    (h : Query.read filter.queryText = .ok (some q)) (cell : String → String) :
    q.accepts cell = true ↔ filter.Reading cell := by
  rw [read_queryText] at h
  obtain ⟨written, hwritten, rfl⟩ := Option.map_eq_some_iff.1 (Except.ok.inj h)
  rw [Query.accepts_canonical]
  exact (conveys cell filter).accepts written hwritten

end Filter

/-! ### Malformed queries -/

/-- Whether a failure says that the service could not read a query. -/
def StoreError.IsMalformedQuery (e : StoreError) : Prop :=
  ∃ (error : QueryError) (request : Request),
    e = (Refusal.invalidQuery error).toError request

namespace Client

theorem not_isMalformedQuery_injected {status : Nat} {operation : Operation} {context : String} :
    ¬(StoreError.api ⟨status, operation, context, some "injected failure"⟩).IsMalformedQuery := by
  rintro ⟨error, request, h⟩
  have hdetail : some "injected failure" = some ("invalid query: " ++ error.message) :=
    congrArg ApiError.detail (StoreError.api.inj h)
  have hchars := congrArg String.toList (Option.some.inj hdetail)
  rw [String.toList_append] at hchars
  cases hchars

/-- The service does not refuse the query of a filter. -/
theorem ends_ask_queryText {filter : Filter} {q : RowQuery} (hq : q.query = filter.queryText)
    (clock : Clock) (worksheet : WorksheetInfo) (c : Client MemorySheets) :
    StoreM.Ends (ask clock (.queryRows worksheet q)) c (fun _ _ => True)
      fun e _ => ¬e.IsMalformedQuery := by
  refine (ends_ask clock (.queryRows worksheet q) c).with_eq.mono (fun _ _ _ => trivial) ?_
  rintro e c' ⟨hask, -⟩
  have hanswer : (c.service.answer clock.instant (.queryRows worksheet q)).1 = .error e :=
    congrArg Prod.fst hask
  obtain ⟨status, -, rfl⟩ | ⟨refusal, hrefused, rfl⟩ := MemorySheets.error_cases hanswer
  · exact not_isMalformedQuery_injected
  · rintro ⟨error, request, h⟩
    obtain ⟨ws, -, hrows⟩ | ⟨-, hmissing⟩ := answer_queryRows hrefused
    · rw [ws.queryRows_of_queryText c.service.engine hq] at hrows
      split at hrows
      · cases hrows
        cases h
      · cases hrows
    · cases hmissing
      have hstatus : 404 = 400 := congrArg ApiError.status (StoreError.api.inj h)
      cases hstatus

/-- No search fails because the service cannot read the query of the filter. -/
theorem ends_find_wellFormed (clock : Clock) (worksheet : WorksheetInfo) (filter : Filter)
    (options : FindOptions) (c : Client MemorySheets) :
    StoreM.Ends (find clock worksheet filter options) c (fun _ _ => True)
      fun e _ => ¬e.IsMalformedQuery := by
  have hdecode : ∀ (raw : List RawRow) (c : Client MemorySheets),
      StoreM.Ends (raw.mapM (decodeRow .queryRows)) c (fun _ _ => True)
        fun e _ => ¬e.IsMalformedQuery := fun raw c => by
    refine (ends_decodeRows .queryRows raw c).mono (fun _ _ _ => trivial) ?_
    rintro _ _ ⟨-, cause, rfl, -⟩ ⟨error, request, h⟩
    cases h
  have hkept : StoreM.Ends (kept? clock (rowsKey worksheet (options.rowQuery filter.queryText))) c
      (fun _ _ => True) fun e _ => ¬e.IsMalformedQuery := ⟨trivial⟩
  have hquery : StoreM.Ends (queryRows clock worksheet (options.rowQuery filter.queryText)) c
      (fun _ _ => True) fun e _ => ¬e.IsMalformedQuery := by
    refine hkept.bind fun answer c₁ _ => ?_
    split
    · exact hdecode _ c₁
    · refine (ends_ask_queryText rfl clock worksheet c₁).bind fun raw c₂ _ => ?_
      exact (hdecode raw c₂).bind fun rows c₃ _ => ⟨trivial⟩
  exact hquery.bind fun rows c' _ => StoreM.ends_pure trivial

end Client

namespace Filter

/-- The service reads the text of the query of a filter as what is expressed of the filter; the text
is empty exactly if nothing is. So no search fails because the service cannot read the query. -/
theorem queryText_conveys (filter : Filter) :
    (filter.queryText = "" ↔ ¬filter.Expressible) ∧
    (match Query.read filter.queryText with
      | .error _ => False
      | .ok none => ¬filter.Expressible
      | .ok (some q) => filter.Expressible ∧
          ∀ cell, q.accepts cell = true ↔ filter.Reading cell) ∧
    ∀ (clock : Clock) (worksheet : WorksheetInfo) (options : FindOptions)
      (c : Client MemorySheets),
      ¬∃ e, (Client.find clock worksheet filter options c).1 = .error e ∧
        e.IsMalformedQuery := by
  refine ⟨queryText_eq_empty_iff_not_expressible, ?_, ?_⟩
  · have hsome := (conveys (fun _ => "") filter).isSome
    have haccepts := @accepts_iff_reading filter
    rw [read_queryText] at haccepts ⊢
    cases hquery : filter.pushDown? with
    | none =>
      rw [hquery] at hsome
      exact fun h => nomatch hsome.2 h
    | some q =>
      rw [hquery] at hsome haccepts
      exact ⟨hsome.1 rfl, haccepts rfl⟩
  · rintro clock worksheet options c ⟨e, hfails, hmalformed⟩
    have hends := Client.ends_find_wellFormed clock worksheet filter options c
    rcases hresult : Client.find clock worksheet filter options c with ⟨e' | rows, c'⟩
    · rw [hresult] at hfails
      cases hfails
      exact (StoreM.ends_error hresult).1 hends hmalformed
    · rw [hresult] at hfails
      cases hfails

end Filter

end GridStore
