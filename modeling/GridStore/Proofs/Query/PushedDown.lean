import GridStore.Proofs.Query.ReadBack

/-!
# The query of a filter reads back

The columns of a query that a filter is translated into have names that a query can contain, and its
groups are not empty. So the service reads the text of such a query as a query that accepts the same
rows.

## Main definitions

* `Query.Rejects`: whether a query, if there is one, rejects the cells of a row.

## Main results

* `Filter.writable_pushDown?`: the query of a filter can be written.
* `Filter.read_queryText`: how the service reads the text of the query of a filter.
-/

namespace GridStore

/-! ### Groups -/

namespace Condition

theorem writable_comparison? {column : String} (hcolumn : isColumnWord column = true)
    {op : Comparison} {operand : Value} {q : Query}
    (h : comparison? column op operand = some q) : q.Writable := by
  obtain ⟨literal, -, rfl⟩ := Option.map_eq_some_iff.1 h
  exact hcolumn

theorem conjunction?_eq_some {parts : List Query} {q : Query} :
    conjunction? parts = some q ↔ parts ≠ [] ∧ q = .and parts := by
  cases parts <;> simp [conjunction?, eq_comm]

theorem mapM_id_eq_some {α : Type} {xs : List (Option α)} {ys : List α} :
    xs.mapM id = some ys ↔ xs = ys.map some := by
  induction xs generalizing ys with
  | nil => cases ys <;> simp
  | cons x rest ih =>
    cases x with
    | none => cases ys <;> simp
    | some a =>
      rw [List.mapM_cons]
      simp only [id, Option.bind_eq_bind, Option.bind_some, Option.bind_eq_some_iff, ih]
      cases ys with
      | nil => simp
      | cons b bs => simp [and_comm, and_assoc]

theorem disjunction?_eq_some {parts : List (Option Query)} {q : Query} :
    disjunction? parts = some q ↔
      ∃ queries, parts = queries.map some ∧ queries ≠ [] ∧ q = .or queries := by
  simp only [disjunction?, Option.bind_eq_bind, Option.bind_eq_some_iff, mapM_id_eq_some]
  refine exists_congr fun queries => and_congr_right fun _ => ?_
  cases queries <;> simp [eq_comm]

/-- The queries of several parts, those that have one. -/
theorem allWritable_filterMap {parts : List (Option Query)}
    (h : ∀ q, some q ∈ parts → q.Writable) : Query.AllWritable (parts.filterMap id) :=
  Query.allWritable_iff.2 fun q hq => by
    obtain ⟨part, hpart, rfl⟩ := List.mem_filterMap.1 hq
    exact h q hpart

theorem writable_conjunction? {parts : List (Option Query)} {q : Query}
    (hparts : ∀ part, some part ∈ parts → part.Writable)
    (h : conjunction? (parts.filterMap id) = some q) : q.Writable := by
  obtain ⟨hne, rfl⟩ := conjunction?_eq_some.1 h
  exact ⟨hne, allWritable_filterMap hparts⟩

theorem writable_disjunction? {parts : List (Option Query)} {q : Query}
    (hparts : ∀ part, some part ∈ parts → part.Writable) (h : disjunction? parts = some q) :
    q.Writable := by
  obtain ⟨queries, rfl, hne, rfl⟩ := disjunction?_eq_some.1 h
  exact ⟨hne, Query.allWritable_iff.2 fun part hpart => hparts part (List.mem_map_of_mem hpart)⟩

mutual

/-- The query of a condition on a column can be written. -/
theorem writable_pushDown? {column : String} (hcolumn : isColumnWord column = true) :
    (condition : Condition) → {q : Query} → condition.pushDown? column = some q → q.Writable
  | compare _ _, _, h => writable_comparison? hcolumn h
  | isIn operands, _, h => by
    refine writable_disjunction? (fun part hpart => ?_) h
    obtain ⟨operand, -, hoperand⟩ := List.mem_map.1 hpart
    exact writable_comparison? hcolumn hoperand
  | notIn operands, _, h => by
    obtain ⟨hne, rfl⟩ := conjunction?_eq_some.1 h
    refine ⟨hne, Query.allWritable_iff.2 fun part hpart => ?_⟩
    obtain ⟨operand, -, hoperand⟩ := List.mem_filterMap.1 hpart
    exact writable_comparison? hcolumn hoperand
  | all conditions, _, h => writable_conjunction? (writable_pushDownAll hcolumn conditions) h
  | any conditions, _, h => writable_disjunction? (writable_pushDownAll hcolumn conditions) h
  | present _, _, h => by cases h
  | pattern _, _, h => by cases h
  | not _, _, h => by cases h

theorem writable_pushDownAll {column : String} (hcolumn : isColumnWord column = true) :
    (conditions : List Condition) → (q : Query) → some q ∈ pushDownAll column conditions →
    q.Writable
  | [], _, h => by cases h
  | condition :: rest, q, h => by
    rcases List.mem_cons.1 h with hfirst | hrest
    · exact writable_pushDown? hcolumn condition hfirst.symm
    · exact writable_pushDownAll hcolumn rest q hrest

end

end Condition

namespace Filter

mutual

/-- The query of a filter can be written. -/
theorem writable_pushDown? : (filter : Filter) → {q : Query} → filter.pushDown? = some q →
    q.Writable
  | and parts, _, h => Condition.writable_conjunction? (writable_pushDownAll parts) h
  | or parts, _, h => Condition.writable_disjunction? (writable_pushDownAll parts) h
  | nor _, _, h => by cases h
  | field name condition, _, h => by
    rw [pushDown?] at h
    split at h
    case isTrue hname => exact condition.writable_pushDown? hname h
    case isFalse => cases h

theorem writable_pushDownAll : (filters : List Filter) → (q : Query) →
    some q ∈ pushDownAll filters → q.Writable
  | [], _, h => by cases h
  | filter :: rest, q, h => by
    rcases List.mem_cons.1 h with hfirst | hrest
    · exact writable_pushDown? filter hfirst.symm
    · exact writable_pushDownAll rest q hrest

end

/-! ### The text of the query -/

theorem read_empty : Query.read "" = .ok none := by
  rw [Query.read, QueryToken.ofText, String.toList_empty, QueryToken.ofChars]
  rfl

/-- The service reads the text of the query of a filter as a query that accepts the same rows. -/
theorem read_queryText (filter : Filter) :
    Query.read filter.queryText = .ok (filter.pushDown?.map Query.canonical) := by
  rw [queryText]
  cases h : filter.pushDown? with
  | none => exact read_empty
  | some q => exact Query.read_text (writable_pushDown? filter h)

/-- Only a filter without a query has an empty text of the query. -/
theorem queryText_eq_empty_iff {filter : Filter} :
    filter.queryText = "" ↔ filter.pushDown? = none := by
  refine ⟨fun h => ?_, fun h => by rw [queryText, h]; rfl⟩
  have hread := read_queryText filter
  rw [h, read_empty] at hread
  exact Option.map_eq_none_iff.1 (Except.ok.inj hread).symm

end Filter

/-! ### Rejected rows -/

namespace Query

/-- Whether there is a query that rejects the cells of a row. -/
def Rejects (query : Option Query) (cell : String → String) : Prop :=
  ∃ q, query = some q ∧ q.accepts cell = false

theorem not_rejects_none (cell : String → String) : ¬Rejects none cell := fun ⟨_, h, _⟩ => nomatch h

theorem rejects_some {q : Query} {cell : String → String} :
    Rejects (some q) cell ↔ q.accepts cell = false := by
  simp [Rejects]

theorem acceptsAll_eq_all (cell : String → String) (parts : List Query) :
    acceptsAll cell parts = parts.all (·.accepts cell) := by
  induction parts with
  | nil => rfl
  | cons part rest ih => rw [acceptsAll, ih, List.all_cons]

theorem acceptsAny_eq_any (cell : String → String) (parts : List Query) :
    acceptsAny cell parts = parts.any (·.accepts cell) := by
  induction parts with
  | nil => rfl
  | cons part rest ih => rw [acceptsAny, ih, List.any_cons]

/-- A conjunction rejects what the query of one of its parts rejects. -/
theorem rejects_conjunction?_iff {parts : List (Option Query)} {cell : String → String} :
    Rejects (Condition.conjunction? (parts.filterMap id)) cell ↔
      ∃ part ∈ parts, Rejects part cell := by
  constructor
  · rintro ⟨q, hq, hreject⟩
    obtain ⟨-, rfl⟩ := Condition.conjunction?_eq_some.1 hq
    rw [accepts, acceptsAll_eq_all, List.all_eq_false] at hreject
    obtain ⟨part, hpart, hreject⟩ := hreject
    obtain ⟨part?, hmem, hsome⟩ := List.mem_filterMap.1 hpart
    exact ⟨part?, hmem, part, hsome, by simpa using hreject⟩
  · rintro ⟨_, hpart, part, rfl, hreject⟩
    have hmem : part ∈ parts.filterMap id := List.mem_filterMap.2 ⟨some part, hpart, rfl⟩
    refine ⟨_, Condition.conjunction?_eq_some.2 ⟨List.ne_nil_of_mem hmem, rfl⟩, ?_⟩
    rw [accepts, acceptsAll_eq_all, List.all_eq_false]
    exact ⟨part, hmem, by simp [hreject]⟩

theorem exists_eq_map_some {α : Type} {xs : List (Option α)} (h : ∀ x ∈ xs, ∃ a, x = some a) :
    ∃ ys : List α, xs = ys.map some := by
  induction xs with
  | nil => exact ⟨[], rfl⟩
  | cons x rest ih =>
    obtain ⟨⟨a, rfl⟩, hrest⟩ := List.forall_mem_cons.1 h
    obtain ⟨ys, rfl⟩ := ih hrest
    exact ⟨a :: ys, rfl⟩

/-- A disjunction rejects what the queries of all its parts reject. -/
theorem rejects_disjunction?_iff {parts : List (Option Query)} {cell : String → String}
    (hne : parts ≠ []) :
    Rejects (Condition.disjunction? parts) cell ↔ ∀ part ∈ parts, Rejects part cell := by
  constructor
  · rintro ⟨q, hq, hreject⟩ _ hpart
    obtain ⟨queries, rfl, -, rfl⟩ := Condition.disjunction?_eq_some.1 hq
    obtain ⟨part, hmem, rfl⟩ := List.mem_map.1 hpart
    rw [accepts, acceptsAny_eq_any, List.any_eq_false] at hreject
    exact rejects_some.2 (by simpa using hreject part hmem)
  · intro hall
    obtain ⟨queries, rfl⟩ := exists_eq_map_some fun part hpart =>
      (hall part hpart).imp fun _ => And.left
    refine ⟨_, Condition.disjunction?_eq_some.2 ⟨queries, rfl, by simpa using hne, rfl⟩, ?_⟩
    rw [accepts, acceptsAny_eq_any, List.any_eq_false]
    intro part hmem
    simpa using rejects_some.1 (hall _ (List.mem_map_of_mem hmem))

end Query

end GridStore
