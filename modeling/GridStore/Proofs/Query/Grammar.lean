import GridStore.Proofs.Results
import GridStore.Query.Reader

/-!
# The grammar of structured queries

The grammar is given as relations between lists of tokens and the queries that they are derived
with, one relation for each rule:

```text
expression ::= disjunct ("or" disjunct)*
disjunct   ::= term ("and" term)*
term       ::= "(" expression ")" | word op literal
```

Keywords stand in any case of letters, and a repetition of one element is that element. A reader
with a stack does not follow these rules, so two inductions relate it to them: along a derivation,
reading the tokens of a term adds that term to any state; along a run, what has been read is at
every moment the beginning of a derivation.

## Main definitions

* `Query.IsExpression`, `Query.IsDisjunct`, `Query.IsTerm`: the rules of the grammar.
* `QueryReader.Reads`: which tokens lead to a state.

## Main results

* `QueryReader.foldlM_term`: reading the tokens of a term adds that term.
* `QueryReader.Reads.step`, `QueryReader.Reads.run`: the state tells what has been read.
* `Query.ofTokens_eq_some_iff`: the reader accepts what the grammar derives, with the same query.
* `Query.read_grammar`: which texts are read, as which query, and that the grammar leaves no choice.
-/

namespace GridStore

namespace Query

/-! ### The grammar -/

/-- Whether a word is a keyword, in any case of letters. -/
def IsKeyword (keyword word : String) : Prop := word.map Char.toLower = keyword

/-- Whether a token stands for a literal. -/
inductive IsLiteral : QueryToken → Literal → Prop
  | text (s : String) : IsLiteral (.quoted s) (.text s)
  | true : IsLiteral (.word "true") (.bool Bool.true)
  | false : IsLiteral (.word "false") (.bool Bool.false)
  | number {w : String} {n : Number} (h : Number.read? w = some n) : IsLiteral (.word w) (.number n)

/-- The query that several queries are joined to; a single one stands for itself. -/
inductive Joins (join : List Query → Query) : List Query → Query → Prop
  | single (q : Query) : Joins join [q] q
  | several (first second : Query) (rest : List Query) :
      Joins join (first :: second :: rest) (join (first :: second :: rest))

mutual

/-- Whether tokens are derived as an expression, with a query as their tree. -/
inductive IsExpression : List QueryToken → Query → Prop
  | mk {tokens : List QueryToken} {parts : List Query} {q : Query}
      (hparts : IsDisjuncts tokens parts) (hjoin : Joins .or parts q) : IsExpression tokens q

/-- Whether tokens are derived as disjuncts with `or` between them. -/
inductive IsDisjuncts : List QueryToken → List Query → Prop
  | one {tokens : List QueryToken} {q : Query} (h : IsDisjunct tokens q) : IsDisjuncts tokens [q]
  | more {before tokens : List QueryToken} {w : String} {parts : List Query} {q : Query}
      (hbefore : IsDisjuncts before parts) (hw : IsKeyword "or" w) (h : IsDisjunct tokens q) :
      IsDisjuncts (before ++ .word w :: tokens) (parts ++ [q])

/-- Whether tokens are derived as a disjunct. -/
inductive IsDisjunct : List QueryToken → Query → Prop
  | mk {tokens : List QueryToken} {parts : List Query} {q : Query}
      (hparts : IsTerms tokens parts) (hjoin : Joins .and parts q) : IsDisjunct tokens q

/-- Whether tokens are derived as terms with `and` between them. -/
inductive IsTerms : List QueryToken → List Query → Prop
  | one {tokens : List QueryToken} {q : Query} (h : IsTerm tokens q) : IsTerms tokens [q]
  | more {before tokens : List QueryToken} {w : String} {parts : List Query} {q : Query}
      (hbefore : IsTerms before parts) (hw : IsKeyword "and" w) (h : IsTerm tokens q) :
      IsTerms (before ++ .word w :: tokens) (parts ++ [q])

/-- Whether tokens are derived as a term. -/
inductive IsTerm : List QueryToken → Query → Prop
  | compare (column : String) (op : QueryOp) {token : QueryToken} {l : Literal}
      (h : IsLiteral token l) : IsTerm [.word column, .op op, token] (.compare column op l)
  | group {tokens : List QueryToken} {q : Query} (h : IsExpression tokens q) :
      IsTerm (.opening :: (tokens ++ [.closing])) q

end

theorem joins_iff {join : List Query → Query} {parts : List Query} {q : Query} :
    Joins join parts q ↔ parts ≠ [] ∧ QueryReader.collapse join parts = q := by
  constructor
  · rintro (_ | _) <;> exact ⟨List.cons_ne_nil _ _, rfl⟩
  · rintro ⟨hne, rfl⟩
    match parts with
    | [] => exact absurd rfl hne
    | [q] => exact .single q
    | first :: second :: rest => exact .several first second rest

theorem IsTerms.ne_nil {tokens : List QueryToken} {parts : List Query}
    (h : IsTerms tokens parts) : parts ≠ [] := by
  cases h with
  | one => exact List.cons_ne_nil _ _
  | more => exact List.append_ne_nil_of_right_ne_nil _ (List.cons_ne_nil _ _)

theorem IsDisjuncts.ne_nil {tokens : List QueryToken} {parts : List Query}
    (h : IsDisjuncts tokens parts) : parts ≠ [] := by
  cases h with
  | one => exact List.cons_ne_nil _ _
  | more => exact List.append_ne_nil_of_right_ne_nil _ (List.cons_ne_nil _ _)

/-! A repetition also grows at its front. -/

theorem IsTerms.cons {first tokens : List QueryToken} {parts : List Query} {q : Query} {w : String}
    (h : IsTerms tokens parts) (hq : IsTerm first q) (hw : IsKeyword "and" w) :
    IsTerms (first ++ .word w :: tokens) (q :: parts) := by
  match h with
  | .one hlast => exact .more (.one hq) hw hlast
  | .more hbefore hv hlast =>
    have hlonger := IsTerms.more (hbefore.cons hq hw) hv hlast
    rwa [List.append_assoc, List.cons_append] at hlonger

theorem IsDisjuncts.cons {first tokens : List QueryToken} {parts : List Query} {q : Query}
    {w : String} (h : IsDisjuncts tokens parts) (hq : IsDisjunct first q) (hw : IsKeyword "or" w) :
    IsDisjuncts (first ++ .word w :: tokens) (q :: parts) := by
  match h with
  | .one hlast => exact .more (.one hq) hw hlast
  | .more hbefore hv hlast =>
    have hlonger := IsDisjuncts.more (hbefore.cons hq hw) hv hlast
    rwa [List.append_assoc, List.cons_append] at hlonger

theorem IsTerm.expression {tokens : List QueryToken} {q : Query} (h : IsTerm tokens q) :
    IsExpression tokens q :=
  .mk (.one (.mk (.one h) (.single q))) (.single q)

theorem isKeyword_and : IsKeyword "and" "and" := by
  rw [IsKeyword]
  decide +kernel

theorem isKeyword_or : IsKeyword "or" "or" := by
  rw [IsKeyword]
  decide +kernel

end Query

namespace QueryReader

open Query

/-! ### Keywords and literals -/

theorem sameWord_and {w : String} : sameWord w "and" = true ↔ IsKeyword "and" w := by
  rw [sameWord, beq_iff_eq, show "and".map Char.toLower = "and" from isKeyword_and]
  rfl

theorem sameWord_or {w : String} : sameWord w "or" = true ↔ IsKeyword "or" w := by
  rw [sameWord, beq_iff_eq, show "or".map Char.toLower = "or" from isKeyword_or]
  rfl

/-- The literal of a word is the one that the grammar gives it: neither name of a flag is a
number. -/
theorem literal_eq_ok_iff {w : String} {l : Literal} :
    literal w = .ok l ↔ IsLiteral (.word w) l := by
  constructor
  · intro h
    rw [literal] at h
    split at h
    case isTrue hw => cases h; exact hw ▸ .true
    split at h
    case isTrue hw => cases h; exact hw ▸ .false
    split at h
    case h_1 n hn => cases h; exact .number hn
    case h_2 => cases h
  · rintro (_ | _ | _ | hn)
    · rfl
    · rfl
    · have hne : ∀ v, Number.read? v = none → w ≠ v := by
        rintro v hv rfl
        rw [hv] at hn
        cases hn
      rw [literal, if_neg (hne "true" rfl), if_neg (hne "false" rfl), hn]

/-! ### Reading a derivation -/

theorem step_literal {state : QueryReader} {column : String} {op : QueryOp} {token : QueryToken}
    {l : Literal} (hstate : state.expected = .value column op) (h : IsLiteral token l) :
    step state token = .ok (state.addTerm (.compare column op l)) := by
  cases token with
  | quoted s => cases h; simp only [step, hstate]
  | word w =>
    simp only [step, hstate, literal_eq_ok_iff.2 h]
    rfl
  | _ => cases h

theorem step_and {state : QueryReader} {w : String} (hw : IsKeyword "and" w)
    (h : state.expected = .connective) :
    step state (.word w) = .ok { state with expected := .term } := by
  simp only [step, h, continueWith, sameWord_and.2 hw, if_true]

theorem step_or {state : QueryReader} {w : String} (hw : IsKeyword "or" w)
    (h : state.expected = .connective) :
    step state (.word w) = .ok { state with
      level := ⟨state.level.conjunction :: state.level.conjunctions, []⟩
      expected := .term } := by
  have hand : sameWord w "and" = false := by
    rw [Bool.eq_false_iff, ne_eq, sameWord_and, IsKeyword, show w.map Char.toLower = "or" from hw]
    decide
  simp only [step, h, continueWith, hand, sameWord_or.2 hw, if_true, Bool.false_eq_true, if_false]

theorem step_closing {state : QueryReader} {level : Level} {outer : List Level}
    (h : state.expected = .connective) (houter : state.outer = level :: outer) :
    step state .closing =
      .ok (addTerm { state with outer := outer, level := level } state.level.query) := by
  simp only [step, h, continueWith, houter]

mutual

/-- Reading the tokens of a term adds it to the level that is being read. -/
theorem foldlM_term {tokens : List QueryToken} {q : Query} (h : IsTerm tokens q)
    {state : QueryReader} (hstate : state.expected = .term) :
    tokens.foldlM step state = .ok (state.addTerm q) := by
  match h with
  | .compare column op hliteral =>
    have hcolumn : step state (.word column) = .ok { state with expected := .operator column } := by
      simp only [step, hstate]
    have hop : step { state with expected := .operator column } (.op op) =
        .ok { state with expected := .value column op } := rfl
    rw [foldlM_cons_ok hcolumn, foldlM_cons_ok hop, foldlM_cons_ok (step_literal rfl hliteral)]
    rfl
  | .group hgroup =>
    have hopening : step state .opening = .ok ⟨state.level :: state.outer, {}, .term⟩ := by
      simp only [step, hstate]
    obtain ⟨level, hread, hlevel⟩ := foldlM_expression hgroup (state.level :: state.outer)
    rw [foldlM_cons_ok hopening, foldlM_append_ok hread, foldlM_cons_ok (step_closing rfl rfl)]
    rw [show level.query = q from hlevel]
    rfl

/-- Reading the tokens of an expression at a new level ends with that expression. -/
theorem foldlM_expression {tokens : List QueryToken} {q : Query} (h : IsExpression tokens q)
    (outer : List Level) :
    ∃ level : Level, tokens.foldlM step ⟨outer, {}, .term⟩ = .ok ⟨outer, level, .connective⟩ ∧
      level.query = q := by
  match h with
  | .mk hparts hjoin =>
    obtain ⟨level, hread, hlevel⟩ := foldlM_disjuncts hparts outer
    refine ⟨level, hread, ?_⟩
    rw [Level.query, hlevel, (joins_iff.1 hjoin).2]

theorem foldlM_disjuncts {tokens : List QueryToken} {parts : List Query}
    (h : IsDisjuncts tokens parts) (outer : List Level) :
    ∃ level : Level, tokens.foldlM step ⟨outer, {}, .term⟩ = .ok ⟨outer, level, .connective⟩ ∧
      level.conjunctions.reverse ++ [level.conjunction] = parts := by
  match h with
  | .one hdisjunct =>
    obtain ⟨level, hread, hconjunctions, rfl⟩ := foldlM_disjunct hdisjunct outer []
    exact ⟨level, hread, by rw [hconjunctions]; rfl⟩
  | .more hbefore hw hdisjunct =>
    obtain ⟨first, hfirst, rfl⟩ := foldlM_disjuncts hbefore outer
    obtain ⟨level, hread, hconjunctions, rfl⟩ :=
      foldlM_disjunct hdisjunct outer (first.conjunction :: first.conjunctions)
    refine ⟨level, ?_, by rw [hconjunctions, List.reverse_cons]⟩
    rw [foldlM_append_ok hfirst, foldlM_cons_ok (step_or hw rfl), hread]

theorem foldlM_disjunct {tokens : List QueryToken} {q : Query} (h : IsDisjunct tokens q)
    (outer : List Level) (conjunctions : List Query) :
    ∃ level : Level, tokens.foldlM step ⟨outer, ⟨conjunctions, []⟩, .term⟩ =
        .ok ⟨outer, level, .connective⟩ ∧
      level.conjunctions = conjunctions ∧ level.conjunction = q := by
  match h with
  | .mk hparts hjoin =>
    refine ⟨_, foldlM_terms hparts outer conjunctions, rfl, ?_⟩
    rw [Level.conjunction, List.reverse_reverse, (joins_iff.1 hjoin).2]

theorem foldlM_terms {tokens : List QueryToken} {parts : List Query} (h : IsTerms tokens parts)
    (outer : List Level) (conjunctions : List Query) :
    tokens.foldlM step ⟨outer, ⟨conjunctions, []⟩, .term⟩ =
      .ok ⟨outer, ⟨conjunctions, parts.reverse⟩, .connective⟩ := by
  match h with
  | .one hterm => rw [foldlM_term hterm rfl]; rfl
  | .more hbefore hw hterm =>
    rw [foldlM_append_ok (foldlM_terms hbefore outer conjunctions),
      foldlM_cons_ok (step_and hw rfl), foldlM_term hterm rfl, List.reverse_append]
    rfl

end

/-! ### What a state has read -/

/-- What stands in front of the next element of a repetition: nothing, or elements and the
keyword. The elements are in reverse order. -/
inductive Leads (elements : List QueryToken → List Query → Prop) (keyword : String) :
    List QueryToken → List Query → Prop
  | start : Leads elements keyword [] []
  | after {tokens : List QueryToken} {parts : List Query} {w : String}
      (h : elements tokens parts) (hw : IsKeyword keyword w) :
      Leads elements keyword (tokens ++ [.word w]) parts.reverse

/-- The tokens of a level where a term is expected. -/
def Level.Opens (level : Level) (tokens : List QueryToken) : Prop :=
  ∃ disjuncts terms, tokens = disjuncts ++ terms ∧
    Leads IsDisjuncts "or" disjuncts level.conjunctions ∧ Leads IsTerms "and" terms level.terms

/-- The tokens of a level where a term has just ended. -/
def Level.Ends (level : Level) (tokens : List QueryToken) : Prop :=
  ∃ disjuncts terms, tokens = disjuncts ++ terms ∧
    Leads IsDisjuncts "or" disjuncts level.conjunctions ∧ IsTerms terms level.terms.reverse

/-- The tokens of the levels around the one that is being read, each up to the parenthesis that
opens the next one. -/
inductive Surround : List QueryToken → List Level → Prop
  | top : Surround [] []
  | opened {before tokens : List QueryToken} {level : Level} {outer : List Level}
      (h : Surround before outer) (hlevel : level.Opens tokens) :
      Surround (before ++ (tokens ++ [.opening])) (level :: outer)

/-- The tokens at the level that is being read. -/
def ReadsLevel (level : Level) (tokens : List QueryToken) : Expected → Prop
  | .term => level.Opens tokens
  | .operator column => ∃ before, tokens = before ++ [.word column] ∧ level.Opens before
  | .value column op => ∃ before, tokens = before ++ [.word column, .op op] ∧ level.Opens before
  | .connective => level.Ends tokens

/-- Whether tokens are what a state has read. -/
def Reads (state : QueryReader) (tokens : List QueryToken) : Prop :=
  ∃ before inner, tokens = before ++ inner ∧ Surround before state.outer ∧
    ReadsLevel state.level inner state.expected

theorem Level.opens_nil : Level.Opens {} [] := ⟨[], [], rfl, .start, .start⟩

theorem reads_nil : Reads {} [] := ⟨[], [], rfl, .top, Level.opens_nil⟩

theorem Leads.disjuncts {before tokens : List QueryToken} {parts : List Query} {q : Query}
    (h : Leads IsDisjuncts "or" before parts) (hq : IsDisjunct tokens q) :
    IsDisjuncts (before ++ tokens) (parts.reverse ++ [q]) := by
  cases h with
  | start => exact .one hq
  | after h hw =>
    rw [List.append_assoc, List.reverse_reverse]
    exact .more h hw hq

theorem Leads.terms {before tokens : List QueryToken} {parts : List Query} {q : Query}
    (h : Leads IsTerms "and" before parts) (hq : IsTerm tokens q) :
    IsTerms (before ++ tokens) (parts.reverse ++ [q]) := by
  cases h with
  | start => exact .one hq
  | after h hw =>
    rw [List.append_assoc, List.reverse_reverse]
    exact .more h hw hq

theorem Level.Opens.ends {level : Level} {before tokens : List QueryToken} {q : Query}
    (h : level.Opens before) (hq : IsTerm tokens q) :
    Level.Ends ⟨level.conjunctions, q :: level.terms⟩ (before ++ tokens) := by
  obtain ⟨disjuncts, terms, rfl, hdisjuncts, hterms⟩ := h
  refine ⟨disjuncts, terms ++ tokens, List.append_assoc .., hdisjuncts, ?_⟩
  rw [List.reverse_cons]
  exact hterms.terms hq

theorem Level.Ends.opens_and {level : Level} {tokens : List QueryToken} {w : String}
    (h : level.Ends tokens) (hw : IsKeyword "and" w) : level.Opens (tokens ++ [.word w]) := by
  obtain ⟨disjuncts, terms, rfl, hdisjuncts, hterms⟩ := h
  refine ⟨disjuncts, terms ++ [.word w], List.append_assoc .., hdisjuncts, ?_⟩
  have hafter := Leads.after hterms hw
  rwa [List.reverse_reverse] at hafter

theorem Level.Ends.disjuncts {level : Level} {tokens : List QueryToken} (h : level.Ends tokens) :
    IsDisjuncts tokens (level.conjunctions.reverse ++ [level.conjunction]) := by
  obtain ⟨disjuncts, terms, rfl, hdisjuncts, hterms⟩ := h
  exact hdisjuncts.disjuncts (.mk hterms (joins_iff.2 ⟨hterms.ne_nil, rfl⟩))

theorem Level.Ends.opens_or {level : Level} {tokens : List QueryToken} {w : String}
    (h : level.Ends tokens) (hw : IsKeyword "or" w) :
    Level.Opens ⟨level.conjunction :: level.conjunctions, []⟩ (tokens ++ [.word w]) := by
  refine ⟨tokens ++ [.word w], [], (List.append_nil _).symm, ?_, .start⟩
  have hafter := Leads.after h.disjuncts hw
  rwa [List.reverse_append, List.reverse_reverse] at hafter

theorem Level.Ends.expression {level : Level} {tokens : List QueryToken} (h : level.Ends tokens) :
    IsExpression tokens level.query :=
  .mk h.disjuncts (joins_iff.2 ⟨h.disjuncts.ne_nil, rfl⟩)

/-! ### Reading a token -/

theorem Reads.step_literal {state : QueryReader} {tokens : List QueryToken} {column : String}
    {op : QueryOp} {token : QueryToken} {l : Literal} (h : state.Reads tokens)
    (hstate : state.expected = .value column op) (hl : IsLiteral token l) :
    (state.addTerm (.compare column op l)).Reads (tokens ++ [token]) := by
  obtain ⟨before, inner, rfl, hbefore, hinner⟩ := h
  rw [hstate] at hinner
  obtain ⟨start, rfl, hstart⟩ := hinner
  refine ⟨before, start ++ [.word column, .op op, token], by simp, hbefore, ?_⟩
  exact hstart.ends (.compare column op hl)

theorem Reads.step_closing {state : QueryReader} {tokens : List QueryToken} {level : Level}
    {outer : List Level} (h : state.Reads tokens) (hstate : state.expected = .connective)
    (houter : state.outer = level :: outer) :
    (addTerm { state with outer := outer, level := level } state.level.query).Reads
      (tokens ++ [.closing]) := by
  obtain ⟨before, inner, rfl, hbefore, hinner⟩ := h
  rw [hstate] at hinner
  rw [houter] at hbefore
  obtain _ | ⟨hbefore, hlevel⟩ := hbefore
  refine ⟨_, _, ?_, hbefore, hlevel.ends (.group (Level.Ends.expression hinner))⟩
  simp

/-- After a complete term a keyword or a closing parenthesis follows. -/
theorem continueWith_cases {state next : QueryReader} {token : QueryToken}
    (h : state.continueWith token = .ok next) :
    (∃ w, token = .word w ∧ IsKeyword "and" w ∧ next = { state with expected := .term }) ∨
    (∃ w, token = .word w ∧ IsKeyword "or" w ∧ next = { state with
      level := ⟨state.level.conjunction :: state.level.conjunctions, []⟩
      expected := .term }) ∨
    (∃ level outer, token = .closing ∧ state.outer = level :: outer ∧
      next = addTerm { state with outer := outer, level := level } state.level.query) := by
  obtain ⟨outer, level, expected⟩ := state
  cases token with
  | word w =>
    simp only [continueWith] at h
    split at h
    case isTrue hw => cases h; exact .inl ⟨w, rfl, sameWord_and.1 hw, rfl⟩
    split at h
    case isTrue hw => cases h; exact .inr (.inl ⟨w, rfl, sameWord_or.1 hw, rfl⟩)
    cases outer <;> cases h
  | closing =>
    cases outer with
    | nil => cases h
    | cons level outer => cases h; exact .inr (.inr ⟨level, outer, rfl, rfl, rfl⟩)
  | _ => cases outer <;> cases h

/-- A state tells what has been read, after every token. -/
theorem Reads.step {state next : QueryReader} {tokens : List QueryToken} {token : QueryToken}
    (h : state.Reads tokens) (hstep : QueryReader.step state token = .ok next) :
    next.Reads (tokens ++ [token]) := by
  obtain ⟨outer, level, expected⟩ := state
  cases expected with
  | term =>
    obtain ⟨before, inner, rfl, hbefore, hinner⟩ := h
    cases token with
    | opening =>
      cases hstep
      exact ⟨_, [], by simp, .opened hbefore hinner, Level.opens_nil⟩
    | word column =>
      cases hstep
      exact ⟨before, inner ++ [.word column], List.append_assoc .., hbefore, inner, rfl, hinner⟩
    | _ => cases hstep
  | operator column =>
    obtain ⟨before, _, rfl, hbefore, inner, rfl, hinner⟩ := h
    cases token with
    | op op =>
      cases hstep
      exact ⟨before, inner ++ [.word column, .op op], by simp, hbefore, inner, rfl, hinner⟩
    | _ => cases hstep
  | value column op =>
    cases token with
    | quoted s =>
      cases hstep
      exact h.step_literal rfl (.text s)
    | word w =>
      cases hl : literal w with
      | error e => simp only [QueryReader.step, hl] at hstep; cases hstep
      | ok l =>
        simp only [QueryReader.step, hl] at hstep
        cases hstep
        exact h.step_literal rfl (literal_eq_ok_iff.1 hl)
    | _ => cases hstep
  | connective =>
    obtain ⟨w, rfl, hw, rfl⟩ | ⟨w, rfl, hw, rfl⟩ | ⟨level, outer, rfl, houter, rfl⟩ :=
      continueWith_cases hstep
    · obtain ⟨before, inner, rfl, hbefore, hinner⟩ := h
      exact ⟨before, _, List.append_assoc .., hbefore, Level.Ends.opens_and hinner hw⟩
    · obtain ⟨before, inner, rfl, hbefore, hinner⟩ := h
      exact ⟨before, _, List.append_assoc .., hbefore, Level.Ends.opens_or hinner hw⟩
    · exact h.step_closing rfl houter

/-- A state tells what has been read, after any number of tokens. -/
theorem Reads.run {state next : QueryReader} {before tokens : List QueryToken}
    (h : state.Reads before) (hrun : tokens.foldlM QueryReader.step state = .ok next) :
    next.Reads (before ++ tokens) := by
  induction tokens generalizing state before with
  | nil =>
    cases hrun
    rwa [List.append_nil]
  | cons token tokens ih =>
    cases hstep : QueryReader.step state token with
    | error e =>
      rw [List.foldlM_cons, hstep] at hrun
      cases hrun
    | ok middle =>
      rw [foldlM_cons_ok hstep] at hrun
      rw [List.append_cons]
      exact ih (h.step hstep) hrun

/-- At the end, all that has been read is an expression. -/
theorem Reads.finish {state : QueryReader} {tokens : List QueryToken} {q : Query}
    (h : state.Reads tokens) (hfinish : state.finish = .ok q) : IsExpression tokens q := by
  obtain ⟨outer, level, expected⟩ := state
  cases expected with
  | connective =>
    cases outer with
    | nil =>
      obtain ⟨_, inner, rfl, ⟨⟩, hinner⟩ := h
      cases hfinish
      exact Level.Ends.expression hinner
    | cons => cases hfinish
  | _ => cases hfinish

end QueryReader

namespace Query

/-! ### The reader and the grammar -/

theorem IsExpression.ne_nil {tokens : List QueryToken} {q : Query} (h : IsExpression tokens q) :
    tokens ≠ [] := by
  rintro rfl
  obtain ⟨level, hread, -⟩ := QueryReader.foldlM_expression h []
  cases hread

theorem ofTokens_eq_map {tokens : List QueryToken} (hne : tokens ≠ []) :
    ofTokens tokens = (tokens.foldlM QueryReader.step {} >>= QueryReader.finish).map some := by
  obtain ⟨token, rest, rfl⟩ := List.exists_cons_of_ne_nil hne
  rw [ofTokens]
  · cases (token :: rest).foldlM QueryReader.step {} with
    | error e => rfl
    | ok state =>
      show (do return some (← state.finish)) = state.finish.map some
      cases state.finish <;> rfl
  · exact List.cons_ne_nil _ _

/-- The reader accepts exactly what the grammar derives, with the same query. -/
theorem ofTokens_eq_some_iff {tokens : List QueryToken} {q : Query} :
    ofTokens tokens = .ok (some q) ↔ IsExpression tokens q := by
  constructor
  · intro h
    have hne : tokens ≠ [] := by rintro rfl; cases h
    rw [ofTokens_eq_map hne] at h
    cases hrun : tokens.foldlM QueryReader.step {} with
    | error e => rw [hrun] at h; cases h
    | ok state =>
      cases hfinish : state.finish with
      | error e => simp [hrun, hfinish, bind, Except.bind, Except.map] at h
      | ok r =>
        obtain rfl : r = q := by simpa [hrun, hfinish, bind, Except.bind, Except.map] using h
        exact (QueryReader.reads_nil.run hrun).finish hfinish
  · intro h
    obtain ⟨level, hrun, rfl⟩ := QueryReader.foldlM_expression h []
    rw [ofTokens_eq_map h.ne_nil, hrun]
    rfl

/-- Tokens have at most one tree. -/
theorem IsExpression.unique {tokens : List QueryToken} {q r : Query} (hq : IsExpression tokens q)
    (hr : IsExpression tokens r) : q = r := by
  have h := (ofTokens_eq_some_iff.2 hq).symm.trans (ofTokens_eq_some_iff.2 hr)
  exact Option.some.inj (Except.ok.inj h)

/-- Tokens that form no expression are refused: only for no tokens at all there is no query. -/
theorem ofTokens_eq_error_iff {tokens : List QueryToken} (hne : tokens ≠ []) :
    (∃ e, ofTokens tokens = .error e) ↔ ¬∃ q, IsExpression tokens q := by
  simp only [← ofTokens_eq_some_iff, ofTokens_eq_map hne]
  cases tokens.foldlM QueryReader.step {} >>= QueryReader.finish <;> simp [Except.map]

/-- A text that is cut into tokens is read as the query that the grammar derives them with, and is
refused where it derives none; the grammar derives no tokens with two queries. -/
theorem read_grammar :
    (∀ text : String, match QueryToken.ofText text with
      | .error e => read text = .error e
      | .ok [] => read text = .ok none
      | .ok tokens => (∀ q, read text = .ok (some q) ↔ IsExpression tokens q) ∧
          ((∃ e, read text = .error e) ↔ ¬∃ q, IsExpression tokens q)) ∧
    ∀ tokens, Subsingleton { q : Query // IsExpression tokens q } := by
  refine ⟨fun text => ?_, fun tokens => ⟨fun q r => Subtype.ext (q.2.unique r.2)⟩⟩
  cases h : QueryToken.ofText text with
  | error e => simp only [read, h]; rfl
  | ok tokens =>
    have hread : read text = ofTokens tokens := by simp only [read, h]; rfl
    rw [hread]
    cases tokens with
    | nil => rfl
    | cons token rest =>
      exact ⟨fun q => ofTokens_eq_some_iff, ofTokens_eq_error_iff (List.cons_ne_nil _ _)⟩

end Query

end GridStore
