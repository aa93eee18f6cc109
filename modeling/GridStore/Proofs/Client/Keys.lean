import GridStore.Client.Basic
import GridStore.Proofs.Query.PushedDown

/-!
# Keys of kept rows

The key of an answer to a query of rows joins the identity of the worksheet, the text of the query
and the parameters of the request by underscores. The text of a query that a filter is translated
into has quotes in pairs and no ampersand outside of them, while parameters start with an ampersand;
so a key tells the worksheet, the query and the parameters. The parameters do not always tell the
order: the name of a column may end in what stands for descending order.

## Main definitions

* `Quoting`: where a character of a query stands.
* `Balanced`: the texts that end outside of quotes and have no ampersand there.
* `RowQuery.Mimics`: whether two orders differ, but not the parameters that write them.

## Main results

* `Filter.balanced_queryText`: the text of the query of a filter is balanced.
* `Client.rowsKey_eq_iff`: when two queries of rows have the same key.
-/

namespace GridStore

/-! ### Quotes -/

/-- Where a character stands: outside of quotes, inside, or after a backslash inside. -/
inductive Quoting where
  | outside
  | inside
  | escaped
deriving DecidableEq

namespace Quoting

/-- Where the character after a character stands. -/
def next : Quoting → Char → Quoting
  | outside, c => if c = '"' then inside else outside
  | inside, c => if c = '\\' then escaped else if c = '"' then outside else inside
  | escaped, _ => inside

/-- Where the character after a text stands. -/
def after (place : Quoting) (cs : List Char) : Quoting := cs.foldl next place

/-- Whether a text has an ampersand outside of quotes. -/
def meetsAmpersand (place : Quoting) : List Char → Bool
  | [] => false
  | c :: rest => (place == outside && c == '&') || meetsAmpersand (place.next c) rest

theorem after_append (place : Quoting) (cs ds : List Char) :
    after place (cs ++ ds) = after (after place cs) ds := List.foldl_append

theorem meetsAmpersand_append (place : Quoting) (cs ds : List Char) :
    meetsAmpersand place (cs ++ ds) =
      (meetsAmpersand place cs || meetsAmpersand (after place cs) ds) := by
  induction cs generalizing place with
  | nil => rfl
  | cons c rest ih =>
    rw [List.cons_append, meetsAmpersand, meetsAmpersand, ih, Bool.or_assoc]
    rfl

end Quoting

open Quoting in
/-- Whether a text that starts outside of quotes ends there and has no ampersand there. -/
def Balanced (cs : List Char) : Prop :=
  after outside cs = outside ∧ meetsAmpersand outside cs = false

namespace Balanced

open Quoting

theorem append {cs ds : List Char} (hcs : Balanced cs) (hds : Balanced ds) :
    Balanced (cs ++ ds) := by
  refine ⟨?_, ?_⟩
  · rw [after_append, hcs.1, hds.1]
  · rw [meetsAmpersand_append, hcs.1, hcs.2, hds.2]
    rfl

/-- A text without quotes and ampersands is balanced. -/
theorem of_plain {cs : List Char} (h : ∀ c ∈ cs, c ≠ '"' ∧ c ≠ '&') : Balanced cs := by
  induction cs with
  | nil => exact ⟨rfl, rfl⟩
  | cons c rest ih =>
    obtain ⟨⟨hquote, hampersand⟩, hrest⟩ := List.forall_mem_cons.1 h
    obtain ⟨hafter, hmeets⟩ := ih hrest
    have hnext : next outside c = outside := if_neg hquote
    refine ⟨?_, ?_⟩
    · rw [after, List.foldl_cons, hnext]
      exact hafter
    · rw [meetsAmpersand, hnext, hmeets, beq_false_of_ne hampersand]
      rfl

/-- The characters between quotes, with backslashes before quotes and backslashes, stay inside. -/
theorem escaped_stays (cs rest : List Char) :
    let inner := cs.flatMap fun c => if c = '\\' ∨ c = '"' then ['\\', c] else [c]
    after inside (inner ++ rest) = after inside rest ∧
      meetsAmpersand inside (inner ++ rest) = meetsAmpersand inside rest := by
  induction cs with
  | nil => exact ⟨rfl, rfl⟩
  | cons c cs ih =>
    simp only [List.flatMap_cons, List.append_assoc] at ih ⊢
    by_cases hc : c = '\\' ∨ c = '"'
    · rw [if_pos hc]
      exact ih
    · rw [if_neg hc]
      obtain ⟨hslash, hquote⟩ := not_or.1 hc
      have hnext : next inside c = inside := by rw [next, if_neg hslash, if_neg hquote]
      rw [List.singleton_append, after, List.foldl_cons, hnext, meetsAmpersand, hnext]
      exact ih

theorem quoted (s : String) : Balanced (Query.quoted s).toList := by
  have htext : (Query.quoted s).toList = '"' :: (s.toList.flatMap
      (fun c => if c = '\\' ∨ c = '"' then ['\\', c] else [c]) ++ ['"']) := by
    simp [Query.quoted]
  obtain ⟨hafter, hmeets⟩ := escaped_stays s.toList ['"']
  rw [htext]
  exact ⟨hafter, hmeets⟩

end Balanced

/-! ### The text of a query -/

namespace Query

theorem balanced_of_isColumnWord {name : String} (h : isColumnWord name = true) :
    Balanced name.toList := by
  have hsigns : ∀ d ∈ ['"', '&'], isAlphanumeric d = false := by
    simp only [List.mem_cons, List.not_mem_nil, or_false, forall_eq_or_imp, forall_eq]
    decide +kernel
  refine Balanced.of_plain fun c hc => ?_
  rcases mem_of_isColumnWord h hc with hletter | rfl
  · refine ⟨?_, ?_⟩
    · rintro rfl
      rw [hsigns '"' (by simp)] at hletter
      cases hletter
    · rintro rfl
      rw [hsigns '&' (by simp)] at hletter
      cases hletter
  · decide

theorem balanced_literalText (l : Literal) : Balanced (literalText l).toList := by
  cases l with
  | text s => exact Balanced.quoted s
  | bool b => cases b <;> exact Balanced.of_plain (by simp [literalText, Value.flagText])
  | number n =>
    refine Balanced.of_plain fun c hc => ?_
    rcases Number.mem_cellText hc with hdigit | hmem
    · refine ⟨?_, ?_⟩ <;> rintro rfl <;> cases hdigit
    · refine ⟨?_, ?_⟩ <;> rintro rfl <;> revert hmem <;> decide

theorem balanced_sign (op : QueryOp) : Balanced (" " ++ op.sign ++ " ").toList := by
  cases op <;> exact Balanced.of_plain (by simp [QueryOp.sign])

mutual

/-- The text of a query is balanced. -/
theorem balanced_text : (q : Query) → q.Writable → Balanced q.text.toList
  | compare column op l, hq => by
    have htext : (compare column op l).text.toList =
        column.toList ++ ((" " ++ op.sign ++ " ").toList ++ (literalText l).toList) := by
      simp [text]
    rw [htext]
    exact (balanced_of_isColumnWord hq).append
      ((balanced_sign op).append (balanced_literalText l))
  | and parts, hq => balanced_group (balanced_textJoined (by simp) parts hq.2)
  | or parts, hq => balanced_group (balanced_textJoined (by simp) parts hq.2)

theorem balanced_group {inner : String} (h : Balanced inner.toList) :
    Balanced ("(" ++ inner ++ ")").toList := by
  rw [String.toList_append, String.toList_append]
  exact ((Balanced.of_plain (by simp)).append h).append (Balanced.of_plain (by simp))

theorem balanced_textJoined {separator : String}
    (hseparator : ∀ c ∈ separator.toList, c ≠ '"' ∧ c ≠ '&') :
    (parts : List Query) → AllWritable parts → Balanced (textJoined separator parts).toList
  | [], _ => ⟨rfl, rfl⟩
  | [part], hq => by
    rw [textJoined, String.append_empty]
    exact balanced_text part hq.1
  | part :: second :: rest, hq => by
    rw [textJoined, String.toList_append, String.toList_append]
    exact (balanced_text part hq.1).append
      ((Balanced.of_plain hseparator).append (balanced_textJoined hseparator (second :: rest) hq.2))

end

end Query

/-- The text of the query of a filter is balanced. -/
theorem Filter.balanced_queryText (filter : Filter) : Balanced filter.queryText.toList := by
  rw [queryText]
  cases h : filter.pushDown? with
  | none => exact ⟨rfl, rfl⟩
  | some q => exact Query.balanced_text q (writable_pushDown? filter h)

/-! ### Parameters -/

/-- Whether two queries of rows differ in their orders, but not in the parameters that write the
orders: the one is in descending order of a column, and the other one in ascending order of a
column whose name ends in what stands for descending order. -/
inductive RowQuery.Mimics : RowQuery → RowQuery → Prop
  | ascending (query column : String) :
      Mimics ⟨query, some (column ++ "&reverse=true"), false⟩ ⟨query, some column, true⟩
  | descending (query column : String) :
      Mimics ⟨query, some column, true⟩ ⟨query, some (column ++ "&reverse=true"), false⟩

namespace RowQuery

theorem Mimics.query {q other : RowQuery} (h : Mimics other q) : other.query = q.query := by
  cases h <;> rfl

theorem Mimics.descending_ne {q other : RowQuery} (h : Mimics other q) :
    other.descending ≠ q.descending := by
  cases h <;> nofun

/-- The characters of the parameters that write an order. -/
theorem toList_params (sort : Option String) (descending : Bool) :
    (params ⟨"", sort, descending⟩).toList =
      (match sort with
        | none => []
        | some column => "&orderby=column:".toList ++ column.toList) ++
      (if descending then "&reverse=true".toList else []) := by
  cases sort <;> cases descending <;> simp [params]

/-- The parameters that write an order are empty or start with an ampersand. -/
theorem params_starts (sort : Option String) (descending : Bool) :
    (params ⟨"", sort, descending⟩).toList = [] ∨
      ∃ rest, (params ⟨"", sort, descending⟩).toList = '&' :: rest := by
  rw [toList_params]
  cases sort with
  | some column => exact .inr ⟨_, rfl⟩
  | none =>
    cases descending with
    | false => exact .inl rfl
    | true => exact .inr ⟨_, rfl⟩

/-- Queries whose orders are written with the same parameters have the same order, or the one mimics
the other. -/
theorem params_eq_iff {q other : RowQuery} (hquery : other.query = q.query) :
    ({ other with query := "" } : RowQuery).params = ({ q with query := "" } : RowQuery).params ↔
      other = q ∨ Mimics other q := by
  obtain ⟨query, sort, descending⟩ := q
  obtain ⟨_, otherSort, otherDescending⟩ := other
  subst hquery
  constructor
  · intro h
    have hlist := congrArg String.toList h
    simp only [toList_params] at hlist
    cases sort with
    | none =>
      cases otherSort with
      | none =>
        cases descending <;> cases otherDescending <;> first | exact .inl rfl | cases hlist
      | some other => cases descending <;> cases hlist
    | some column =>
      cases otherSort with
      | none => cases otherDescending <;> cases hlist
      | some other =>
        rw [List.append_assoc, List.append_assoc] at hlist
        have hcolumns := List.append_cancel_left hlist
        cases descending with
        | false =>
          cases otherDescending with
          | false =>
            simp only [Bool.false_eq_true, if_false, List.append_nil] at hcolumns
            rw [String.toList_injective hcolumns]
            exact .inl rfl
          | true =>
            simp only [Bool.false_eq_true, if_false, if_true, List.append_nil,
              ← String.toList_append] at hcolumns
            rw [← String.toList_injective hcolumns]
            exact .inr (.descending _ other)
        | true =>
          cases otherDescending with
          | false =>
            simp only [Bool.false_eq_true, if_false, if_true, List.append_nil,
              ← String.toList_append] at hcolumns
            rw [String.toList_injective hcolumns]
            exact .inr (.ascending _ column)
          | true =>
            rw [String.toList_injective (List.append_cancel_right hcolumns)]
            exact .inl rfl
  · rintro (heq | hmimics)
    · rw [heq]
    · cases hmimics <;> simp [params, String.append_assoc]

end RowQuery

/-! ### Keys -/

namespace Client

/-- A balanced text is not extended by an underscore and parameters to another balanced text. -/
theorem extension_eq_nil {text extension params others : List Char} (htext : Balanced text)
    (hlonger : Balanced (text ++ extension)) (hparams : params = [] ∨ ∃ rest, params = '&' :: rest)
    (h : '_' :: params = extension ++ '_' :: others) : extension = [] := by
  cases extension with
  | nil => rfl
  | cons first rest =>
    obtain ⟨rfl, hrest⟩ := List.cons.inj h
    rcases hparams with rfl | ⟨after, rfl⟩
    · cases rest <;> cases hrest
    · cases rest with
      | nil => cases hrest
      | cons second rest =>
        -- the longer text would have an ampersand outside of quotes
        obtain ⟨rfl, -⟩ := List.cons.inj hrest
        have hmeets := hlonger.2
        rw [Quoting.meetsAmpersand_append, htext.1, htext.2] at hmeets
        cases hmeets

/-- Balanced texts followed by an underscore and parameters are the same only if both the texts and
the parameters are. -/
theorem eq_of_append_params {first second params others : List Char} (hfirst : Balanced first)
    (hsecond : Balanced second) (hparams : params = [] ∨ ∃ rest, params = '&' :: rest)
    (hothers : others = [] ∨ ∃ rest, others = '&' :: rest)
    (h : first ++ '_' :: params = second ++ '_' :: others) :
    first = second ∧ params = others := by
  have heq : first = second := by
    rcases List.append_eq_append_iff.1 h with ⟨extension, rfl, hrest⟩ | ⟨extension, rfl, hrest⟩
    · rw [extension_eq_nil hfirst hsecond hparams hrest, List.append_nil]
    · rw [extension_eq_nil hsecond hfirst hothers hrest, List.append_nil]
  subst heq
  exact ⟨rfl, (List.cons.inj (List.append_cancel_left h)).2⟩

/-- Identities without underscores end at the first underscore. -/
theorem eq_of_append_underscore {first second rest other : List Char} (hfirst : '_' ∉ first)
    (hsecond : '_' ∉ second) (h : first ++ '_' :: rest = second ++ '_' :: other) :
    first = second ∧ rest = other := by
  have hspan : ∀ {cs ds : List Char}, '_' ∉ cs →
      (cs ++ '_' :: ds).takeWhile (· != '_') = cs := by
    intro cs ds hcs
    have hpos : ∀ c ∈ cs, (c != '_') = true := fun c hc => by
      refine bne_iff_ne.2 ?_
      rintro rfl
      exact hcs hc
    rw [List.takeWhile_append_of_pos hpos, List.takeWhile_cons_of_neg (by decide), List.append_nil]
  have heq : first = second := by rw [← hspan hfirst, h, hspan hsecond]
  subst heq
  exact ⟨rfl, (List.cons.inj (List.append_cancel_left h)).2⟩

/-- Queries of filters have the same key exactly if they are queries of the same worksheet with the
same text, and in the same order unless the one order mimics the other. -/
theorem rowsKey_eq_iff {worksheet other : WorksheetInfo} {filter otherFilter : Filter}
    {q otherQuery : RowQuery} (hid : '_' ∉ worksheet.worksheetId.toList)
    (hother : '_' ∉ other.worksheetId.toList) (hq : q.query = filter.queryText)
    (hotherQuery : otherQuery.query = otherFilter.queryText) :
    rowsKey other otherQuery = rowsKey worksheet q ↔
      other.worksheetId = worksheet.worksheetId ∧ (otherQuery = q ∨ otherQuery.Mimics q) := by
  constructor
  · intro h
    have hlist := congrArg String.toList h
    simp only [rowsKey, ResponseCache.rowsKey, hq, hotherQuery, String.toList_append] at hlist
    have hparts : other.worksheetId.toList ++ '_' :: (otherFilter.queryText.toList ++
        '_' :: ({ otherQuery with query := "" } : RowQuery).params.toList) =
        worksheet.worksheetId.toList ++ '_' :: (filter.queryText.toList ++
          '_' :: ({ q with query := "" } : RowQuery).params.toList) := by
      simpa using hlist
    obtain ⟨hworksheet, hrest⟩ := eq_of_append_underscore hother hid hparts
    obtain ⟨htext, hparams⟩ := eq_of_append_params otherFilter.balanced_queryText
      filter.balanced_queryText (RowQuery.params_starts ..) (RowQuery.params_starts ..) hrest
    have hquery : otherQuery.query = q.query := by
      rw [hq, hotherQuery, String.toList_injective htext]
    exact ⟨String.toList_injective hworksheet,
      (RowQuery.params_eq_iff hquery).1 (String.toList_injective hparams)⟩
  · rintro ⟨hworksheet, hqueries⟩
    have hquery : otherQuery.query = q.query := by
      rcases hqueries with rfl | hmimics
      · rfl
      · exact hmimics.query
    rw [rowsKey, rowsKey, hworksheet, hquery, (RowQuery.params_eq_iff hquery).2 hqueries]

end Client

end GridStore
