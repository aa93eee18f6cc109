import GridStore.Filter.Match
import GridStore.Filter.Reader
import GridStore.Proofs.Filter.Equalities
import GridStore.Proofs.Filter.Expressible

/-!
# The meaning of a filter

A filter is judged twice: the client says whether a typed row is meant, and the service says whether
it accepts the cells of a row, unless it cannot be asked at all. Both judgements of a conjunction or
a disjunction are made from the judgements of its parts, and do not depend on the order in which the
parts stand.

## Main definitions

* `Meaning`: what client and service say.
* `Meaning.all`, `Meaning.any`, `Meaning.negated`: how judgements are joined.
* `Condition.meaning`, `Filter.meaning`: the judgements of a condition and of a filter.

## Main results

* `Meaning.all_perm`, `Meaning.any_perm`: the order of the parts does not matter.
* `Condition.meaning_allOf`, `Filter.meaning_conjunction`: a part that stands alone means what the
  conjunction of it means.
-/

namespace GridStore

/-- What is said of something by the client, and by the service if it can be asked. -/
@[ext]
structure Meaning (α β : Type) where
  /-- What the client says. -/
  holds : α → Bool
  /-- What the service says. -/
  accepts : β → Option Bool

namespace Meaning

variable {α β : Type} {meanings others : List (Meaning α β)}

/-! ### Joining judgements -/

/-- What the service says of a conjunction: parts for which it cannot be asked are left out. -/
def conjoined (verdicts : List (Option Bool)) : Option Bool :=
  if verdicts.all (·.isNone) then none else some (verdicts.all (·.getD true))

/-- What the service says of a disjunction: it has to be asked for all parts, of which there has to
be one. -/
def disjoined (verdicts : List (Option Bool)) : Option Bool :=
  if verdicts.isEmpty || verdicts.any (·.isNone) then none
  else some (verdicts.any (·.getD false))

/-- The meaning of a conjunction. -/
def all (meanings : List (Meaning α β)) : Meaning α β where
  holds a := meanings.all (·.holds a)
  accepts b := conjoined (meanings.map (·.accepts b))

/-- The meaning of a disjunction. -/
def any (meanings : List (Meaning α β)) : Meaning α β where
  holds a := meanings.any (·.holds a)
  accepts b := disjoined (meanings.map (·.accepts b))

/-- The meaning of a denial, for which the service cannot be asked. -/
def negated (meaning : Meaning α β) : Meaning α β where
  holds a := !meaning.holds a
  accepts _ := none

@[simp]
theorem holds_all (meanings : List (Meaning α β)) (a : α) :
    (all meanings).holds a = meanings.all (·.holds a) := rfl

@[simp]
theorem accepts_all (meanings : List (Meaning α β)) (b : β) :
    (all meanings).accepts b = conjoined (meanings.map (·.accepts b)) := rfl

@[simp]
theorem holds_negated (meaning : Meaning α β) (a : α) :
    meaning.negated.holds a = !meaning.holds a := rfl

@[simp]
theorem holds_any (meanings : List (Meaning α β)) (a : α) :
    (any meanings).holds a = meanings.any (·.holds a) := rfl

@[simp]
theorem accepts_any (meanings : List (Meaning α β)) (b : β) :
    (any meanings).accepts b = disjoined (meanings.map (·.accepts b)) := rfl

/-! ### The order of the parts -/

theorem conjoined_perm {verdicts others : List (Option Bool)} (h : verdicts.Perm others) :
    conjoined verdicts = conjoined others := by
  rw [conjoined, conjoined, h.all_eq, h.all_eq]

theorem disjoined_perm {verdicts others : List (Option Bool)} (h : verdicts.Perm others) :
    disjoined verdicts = disjoined others := by
  rw [disjoined, disjoined, h.any_eq, h.any_eq, h.isEmpty_eq]

/-- The meaning of a conjunction does not depend on the order of its parts. -/
theorem all_perm (h : meanings.Perm others) : all meanings = all others := by
  refine Meaning.ext (funext fun a => h.all_eq) (funext fun b => ?_)
  exact conjoined_perm (h.map _)

/-- The meaning of a disjunction does not depend on the order of its parts. -/
theorem any_perm (h : meanings.Perm others) : any meanings = any others := by
  refine Meaning.ext (funext fun a => h.any_eq) (funext fun b => ?_)
  exact disjoined_perm (h.map _)

theorem all_singleton (meaning : Meaning α β) : all [meaning] = meaning := by
  refine Meaning.ext (funext fun a => Bool.and_true _) (funext fun b => ?_)
  show conjoined [meaning.accepts b] = meaning.accepts b
  rcases meaning.accepts b with _ | _ | _ <;> rfl

/-! ### Queries -/

/-- What a query says of cells, if there is one. -/
def verdict (cell : String → String) (query : Option Query) : Option Bool :=
  query.map (·.accepts cell)

theorem verdict_conjunction? (cell : String → String) (parts : List (Option Query)) :
    verdict cell (Condition.conjunction? (parts.filterMap id)) =
      conjoined (parts.map (verdict cell)) := by
  have hnone : (parts.filterMap id).isEmpty = (parts.map (verdict cell)).all (·.isNone) := by
    induction parts with
    | nil => rfl
    | cons part rest ih =>
      cases part with
      | none => exact ih
      | some query => rfl
  have haccepts : (Query.and (parts.filterMap id)).accepts cell =
      (parts.map (verdict cell)).all (·.getD true) := by
    rw [Query.accepts, Query.acceptsAll_eq_all]
    clear hnone
    induction parts with
    | nil => rfl
    | cons part rest ih =>
      cases part with
      | none => exact ih
      | some query => exact congrArg (query.accepts cell && ·) ih
  rw [Condition.conjunction?, conjoined, ← hnone, ← haccepts]
  split <;> rfl

theorem verdict_disjunction? (cell : String → String) (parts : List (Option Query)) :
    verdict cell (Condition.disjunction? parts) = disjoined (parts.map (verdict cell)) := by
  by_cases hnone : none ∈ parts
  · have hparts : parts.mapM id = none := by
      refine Option.eq_none_iff_forall_not_mem.2 fun queries hqueries => ?_
      rw [Condition.mapM_id_eq_some.1 hqueries] at hnone
      simp at hnone
    have hverdicts : (parts.map (verdict cell)).any (·.isNone) = true :=
      List.any_eq_true.2 ⟨none, List.mem_map.2 ⟨none, hnone, rfl⟩, rfl⟩
    rw [Condition.disjunction?, hparts, disjoined, hverdicts, Bool.or_true]
    rfl
  · have hsome : ∀ part ∈ parts, ∃ q, part = some q := fun part hmem =>
      Option.ne_none_iff_exists'.1 fun heq => hnone (heq ▸ hmem)
    obtain ⟨queries, rfl⟩ := Query.exists_eq_map_some hsome
    have hparts : (queries.map some).mapM id = some queries := Condition.mapM_id_eq_some.2 rfl
    have haccepts : (Query.or queries).accepts cell =
        ((queries.map some).map (verdict cell)).any (·.getD false) := by
      rw [Query.accepts, Query.acceptsAny_eq_any, List.map_map, List.any_map]
      rfl
    rw [disjoined, ← haccepts, Condition.disjunction?, hparts]
    cases queries <;> simp [verdict]

end Meaning

/-! ### Conditions -/

namespace Condition

theorem holdsAll_eq_all (actual : Option Value) (conditions : List Condition) :
    holdsAll actual conditions = conditions.all (·.holds actual) := by
  induction conditions with
  | nil => rfl
  | cons condition rest ih => rw [holdsAll, ih, List.all_cons]

theorem holdsAny_eq_any (actual : Option Value) (conditions : List Condition) :
    holdsAny actual conditions = conditions.any (·.holds actual) := by
  induction conditions with
  | nil => rfl
  | cons condition rest ih => rw [holdsAny, ih, List.any_cons]

/-- The meaning of a condition: of the value of a field, and of a column with the cells of a row. -/
def meaning (condition : Condition) : Meaning (Option Value) (String × (String → String)) where
  holds actual := condition.holds actual
  accepts := fun (column, cell) => Meaning.verdict cell (condition.pushDown? column)

@[simp]
theorem holds_meaning (condition : Condition) (actual : Option Value) :
    condition.meaning.holds actual = condition.holds actual := rfl

@[simp]
theorem accepts_meaning (condition : Condition) (column : String) (cell : String → String) :
    condition.meaning.accepts (column, cell) =
      Meaning.verdict cell (condition.pushDown? column) := rfl

theorem meaning_all (conditions : List Condition) :
    (all conditions).meaning = .all (conditions.map meaning) := by
  refine Meaning.ext (funext fun actual => ?_) (funext fun (column, cell) => ?_)
  · rw [Meaning.holds_all, List.all_map]
    exact holdsAll_eq_all actual conditions
  · rw [Meaning.accepts_all, accepts_meaning, pushDown?, Meaning.verdict_conjunction?,
      pushDownAll_eq_map, List.map_map, List.map_map]
    rfl

theorem meaning_any (conditions : List Condition) :
    (any conditions).meaning = .any (conditions.map meaning) := by
  refine Meaning.ext (funext fun actual => ?_) (funext fun (column, cell) => ?_)
  · rw [Meaning.holds_any, List.any_map]
    exact holdsAny_eq_any actual conditions
  · rw [Meaning.accepts_any, accepts_meaning, pushDown?, Meaning.verdict_disjunction?,
      pushDownAll_eq_map, List.map_map, List.map_map]
    rfl

/-- A list of operands means the comparisons with them, one of which has to hold. -/
theorem meaning_isIn (operands : List Value) :
    (isIn operands).meaning = .any (operands.map fun v => (compare .eq v).meaning) := by
  refine Meaning.ext (funext fun actual => ?_) (funext fun (column, cell) => ?_)
  · rw [Meaning.holds_any, List.any_map]
    rfl
  · rw [Meaning.accepts_any, accepts_meaning, pushDown?, Meaning.verdict_disjunction?, List.map_map,
      List.map_map]
    rfl

/-- A list of excluded operands means the comparisons with them for difference, all of which have to
hold. -/
theorem meaning_notIn (operands : List Value) :
    (notIn operands).meaning = .all (operands.map fun v => (compare .ne v).meaning) := by
  refine Meaning.ext (funext fun actual => ?_) (funext fun (column, cell) => ?_)
  · rw [Meaning.holds_all, List.all_map, holds_meaning, holds, List.not_any_eq_all_not]
    rfl
  · have hqueries : operands.filterMap (comparison? column .ne) =
        (operands.map (comparison? column .ne)).filterMap id := by
      rw [List.filterMap_map]
      rfl
    rw [Meaning.accepts_all, accepts_meaning, pushDown?, hqueries, Meaning.verdict_conjunction?,
      List.map_map, List.map_map]
    rfl

/-- Several conditions on one field mean their conjunction, also if there is only one. -/
theorem meaning_allOf (conditions : List Condition) :
    (Filter.allOf conditions).meaning = .all (conditions.map meaning) := by
  match conditions with
  | [] => exact meaning_all []
  | [condition] => exact (Meaning.all_singleton condition.meaning).symm
  | first :: second :: rest => exact meaning_all (first :: second :: rest)

end Condition

/-! ### Filters -/

namespace Filter

theorem holdsAll_eq_all (row : Row) (parts : List Filter) :
    holdsAll row parts = parts.all (·.holds row) := by
  induction parts with
  | nil => rfl
  | cons part rest ih => rw [holdsAll, ih, List.all_cons]

theorem holdsAny_eq_any (row : Row) (parts : List Filter) :
    holdsAny row parts = parts.any (·.holds row) := by
  induction parts with
  | nil => rfl
  | cons part rest ih => rw [holdsAny, ih, List.any_cons]

/-- The meaning of a filter: of a row, and of the cells of a row. -/
def meaning (filter : Filter) : Meaning Row (String → String) where
  holds row := filter.holds row
  accepts cell := Meaning.verdict cell filter.pushDown?

@[simp]
theorem holds_meaning (filter : Filter) (row : Row) :
    filter.meaning.holds row = filter.holds row := rfl

@[simp]
theorem accepts_meaning (filter : Filter) (cell : String → String) :
    filter.meaning.accepts cell = Meaning.verdict cell filter.pushDown? := rfl

theorem meaning_and (parts : List Filter) : (and parts).meaning = .all (parts.map meaning) := by
  refine Meaning.ext (funext fun row => ?_) (funext fun cell => ?_)
  · rw [Meaning.holds_all, List.all_map]
    exact holdsAll_eq_all row parts
  · rw [Meaning.accepts_all, accepts_meaning, pushDown?, Meaning.verdict_conjunction?,
      pushDownAll_eq_map, List.map_map, List.map_map]
    rfl

theorem meaning_or (parts : List Filter) : (or parts).meaning = .any (parts.map meaning) := by
  refine Meaning.ext (funext fun row => ?_) (funext fun cell => ?_)
  · rw [Meaning.holds_any, List.any_map]
    exact holdsAny_eq_any row parts
  · rw [Meaning.accepts_any, accepts_meaning, pushDown?, Meaning.verdict_disjunction?,
      pushDownAll_eq_map, List.map_map, List.map_map]
    rfl

/-- A joint denial denies the disjunction of its parts. -/
theorem meaning_nor (parts : List Filter) :
    (nor parts).meaning = (Meaning.any (parts.map meaning)).negated := by
  refine Meaning.ext (funext fun row => ?_) rfl
  rw [Meaning.holds_negated, Meaning.holds_any, List.any_map, holds_meaning, holds,
    holdsAny_eq_any]
  rfl

/-- The meaning of a condition on a field with a name, for which the service can only be asked if
the name is that of a column in a query. -/
def onField (name : String) (meaning : Meaning (Option Value) (String × (String → String))) :
    Meaning Row (String → String) where
  holds row := meaning.holds (row.lookup name)
  accepts cell := if isColumnWord name then meaning.accepts (name, cell) else none

theorem meaning_field (name : String) (condition : Condition) :
    (field name condition).meaning = onField name condition.meaning := by
  refine Meaning.ext rfl (funext fun cell => ?_)
  rw [accepts_meaning, pushDown?, onField]
  split <;> rfl

/-- Several filters mean their conjunction, also if there is only one. -/
theorem meaning_conjunction (parts : List Filter) :
    (conjunction parts).meaning = .all (parts.map meaning) := by
  match parts with
  | [] => exact meaning_and []
  | [part] => exact (Meaning.all_singleton part.meaning).symm
  | first :: second :: rest => exact meaning_and (first :: second :: rest)

end Filter

end GridStore
