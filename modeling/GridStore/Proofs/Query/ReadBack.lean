import GridStore.Proofs.Number.ReadBack
import GridStore.Proofs.Query.Canonical
import GridStore.Proofs.Query.Grammar

/-!
# The text of a query reads back

The text of a query is cut into its tokens, also with other text after it, so that the parts of a
group follow one another. The grammar derives these tokens as one term, and so they are read.

## Main results

* `QueryToken.ofChars_text`: the text of a query is cut into its tokens.
* `Query.isTerm_tokens`: the tokens of a query are a term, and its tree is the query in which groups
  of one part are replaced by the part.
* `Query.read_text`: the text of a query is read as that query.
-/

namespace GridStore

/-! ### Cutting the text -/

namespace QueryToken

/-- The tokens in front of those of a text. -/
def prepend (tokens : List QueryToken) (rest : Except QueryError (List QueryToken)) :
    Except QueryError (List QueryToken) :=
  rest.map (tokens ++ ·)

theorem prepend_prepend (ts us : List QueryToken) (rest : Except QueryError (List QueryToken)) :
    prepend ts (prepend us rest) = prepend (ts ++ us) rest := by
  cases rest with
  | error e => rfl
  | ok vs => simp [prepend, Except.map]

theorem prepend_ok (ts us : List QueryToken) : prepend ts (.ok us) = .ok (ts ++ us) := rfl

/-- Whether a word can end where a text starts. -/
def EndsWord : List Char → Prop
  | [] => True
  | c :: _ => endsWord c = true

theorem endsWord_blank (rest : List Char) : EndsWord (' ' :: rest) := by
  show endsWord ' ' = true
  decide

theorem endsWord_closing (rest : List Char) : EndsWord (')' :: rest) := by
  show endsWord ')' = true
  decide

theorem ofChars_blank (rest : List Char) : ofChars (' ' :: rest) = ofChars rest := by
  rw [ofChars, if_pos (by decide)]

theorem ofChars_opening (rest : List Char) :
    ofChars ('(' :: rest) = prepend [opening] (ofChars rest) := by
  rw [ofChars, if_neg (by decide), if_pos rfl]
  rfl

theorem ofChars_closing (rest : List Char) :
    ofChars (')' :: rest) = prepend [closing] (ofChars rest) := by
  rw [ofChars, if_neg (by decide), if_neg (by decide), if_pos rfl]
  rfl

theorem ofChars_angle {c : Char} (h : c = '<' ∨ c = '>') (rest : List Char) :
    ofChars (c :: rest) = prepend [op (scanSign c rest).1] (ofChars (scanSign c rest).2) := by
  rw [ofChars]
  rcases h with rfl | rfl
  · rw [if_neg (by decide), if_neg (by decide), if_neg (by decide), if_neg (by decide),
      if_pos (.inl rfl)]
    rfl
  · rw [if_neg (by decide), if_neg (by decide), if_neg (by decide), if_neg (by decide),
      if_pos (.inr rfl)]
    rfl

/-- A sign is followed by a blank, which is part of no sign. -/
theorem ofChars_sign (o : QueryOp) (rest : List Char) :
    ofChars (o.sign.toList ++ ' ' :: rest) = prepend [op o] (ofChars (' ' :: rest)) := by
  cases o with
  | eq =>
    show ofChars ('=' :: ' ' :: rest) = _
    rw [ofChars, if_neg (by decide), if_neg (by decide), if_neg (by decide), if_pos rfl]
    rfl
  | ne => exact ofChars_angle (.inl rfl) ('>' :: ' ' :: rest)
  | lt => exact ofChars_angle (.inl rfl) (' ' :: rest)
  | lte => exact ofChars_angle (.inl rfl) ('=' :: ' ' :: rest)
  | gt => exact ofChars_angle (.inr rfl) (' ' :: rest)
  | gte => exact ofChars_angle (.inr rfl) ('=' :: ' ' :: rest)

/-- Each escaped character of a quoted text stands for itself. -/
theorem scanQuoted_escaped (cs rest : List Char) :
    scanQuoted (cs.flatMap (fun c => if c = '\\' ∨ c = '"' then ['\\', c] else [c]) ++
      '"' :: rest) = .ok (cs, rest) := by
  induction cs with
  | nil => rfl
  | cons c cs ih =>
    rw [List.flatMap_cons, List.append_assoc]
    by_cases hc : c = '\\' ∨ c = '"'
    · rw [if_pos hc, List.cons_append, List.cons_append, List.nil_append, scanQuoted, ih]
      rfl
    · rw [if_neg hc, List.cons_append, List.nil_append, scanQuoted, ih]
      · rfl
      · rintro rfl
        exact hc (.inr rfl)
      · rintro rfl
        exact absurd (.inl rfl) hc
      · rintro d after rfl
        exact absurd (.inl rfl) hc

theorem ofChars_quoted (s : String) (rest : List Char) :
    ofChars ((Query.quoted s).toList ++ rest) = prepend [quoted s] (ofChars rest) := by
  have htext : (Query.quoted s).toList ++ rest = '"' :: (s.toList.flatMap
      (fun c => if c = '\\' ∨ c = '"' then ['\\', c] else [c]) ++ '"' :: rest) := by
    simp [Query.quoted]
  rw [htext, ofChars, if_neg (by decide), if_neg (by decide), if_neg (by decide),
    if_neg (by decide), if_neg (by decide), if_pos rfl]
  split
  case h_1 e he => rw [scanQuoted_escaped] at he; cases he
  case h_2 text after he =>
    rw [scanQuoted_escaped] at he
    obtain ⟨rfl, rfl⟩ := Prod.mk.inj (Except.ok.inj he)
    rw [String.ofList_toList]
    rfl

theorem span_word {cs rest : List Char} (hcs : ∀ c ∈ cs, endsWord c = false)
    (hrest : EndsWord rest) :
    (cs ++ rest).takeWhile (fun c => !endsWord c) = cs ∧
      (cs ++ rest).dropWhile (fun c => !endsWord c) = rest := by
  have hpos : ∀ c ∈ cs, (!endsWord c) = true := fun c hc => by rw [hcs c hc]; rfl
  rw [List.takeWhile_append_of_pos hpos, List.dropWhile_append_of_pos hpos]
  cases rest with
  | nil => simp
  | cons d after =>
    have hd : ¬(!endsWord d) = true := by rw [show endsWord d = true from hrest]; decide
    rw [List.takeWhile_cons_of_neg (p := fun c => !endsWord c) hd,
      List.dropWhile_cons_of_neg (p := fun c => !endsWord c) hd, List.append_nil]
    exact ⟨rfl, rfl⟩

/-- A word ends where the text after it starts. -/
theorem ofChars_word {w : String} (hw : Query.IsWord w) {rest : List Char} (hrest : EndsWord rest) :
    ofChars (w.toList ++ rest) = prepend [word w] (ofChars rest) := by
  obtain ⟨hne, hchars⟩ := hw
  obtain ⟨c, cs, hcons⟩ : ∃ c cs, w.toList = c :: cs :=
    List.exists_cons_of_ne_nil fun h => hne (String.toList_eq_nil_iff.1 h)
  have hlist : w = String.ofList (c :: cs) := by rw [← hcons, String.ofList_toList]
  rw [hcons] at hchars ⊢
  have hc : endsWord c = false := hchars c (List.mem_cons_self ..)
  obtain ⟨htake, hdrop⟩ := span_word (fun d hd => hchars d (List.mem_cons_of_mem _ hd)) hrest
  simp only [endsWord, Bool.or_eq_false_iff, beq_eq_false_iff_ne] at hc
  obtain ⟨⟨⟨⟨⟨⟨hblank, hopen⟩, hclose⟩, hlt⟩, hgt⟩, heq⟩, hquote⟩ := hc
  rw [List.cons_append, ofChars, if_neg (by rw [hblank]; decide), if_neg hopen, if_neg hclose,
    if_neg heq, if_neg (not_or.2 ⟨hlt, hgt⟩), if_neg hquote, htake, hdrop, ← hlist]
  rfl

/-! ### Words of a query -/

theorem endsWord_of_isDigit {c : Char} (h : c.isDigit) : endsWord c = false := by
  have hcode := toNat_of_isDigit h
  have hblank : isBlank c = false := by
    simp only [isBlank, inRanges, blankRanges]
    grind
  have hne : ∀ d ∈ ['(', ')', '<', '>', '=', '"'], c ≠ d := by
    rintro d hd rfl
    simp only [List.mem_cons, List.not_mem_nil, or_false] at hd
    rcases hd with rfl | rfl | rfl | rfl | rfl | rfl <;> cases h
  simp only [endsWord, hblank, Bool.false_or, Bool.or_eq_false_iff, beq_eq_false_iff_ne]
  simpa only [List.mem_cons, List.not_mem_nil, or_false, forall_eq_or_imp, forall_eq,
    and_assoc] using hne

/-- The text of a number is a word. -/
theorem isWord_cellText (n : Number) : Query.IsWord n.cellText := by
  refine ⟨fun h => ?_, fun c hc => ?_⟩
  · have hread := Number.read?_cellText n
    rw [h] at hread
    cases hread
  · rcases Number.mem_cellText hc with hdigit | hmem
    · exact endsWord_of_isDigit hdigit
    · exact List.all_eq_true.1 (show ['-', '.', 'i', 'n', 'f', 'N', 'a'].all (!endsWord ·) by
        decide) c hmem |> fun h => by simpa using h

theorem isWord_flagText (b : Bool) : Query.IsWord (Value.flagText b) := by
  cases b <;> exact Query.isWord_of_all (by decide) (by decide)

/-! ### The text of a query -/

theorem ofChars_literal (l : Literal) {rest : List Char} (hrest : EndsWord rest) :
    ofChars ((Query.literalText l).toList ++ rest) =
      prepend [Query.literalToken l] (ofChars rest) := by
  cases l with
  | text s => exact ofChars_quoted s rest
  | number n => exact ofChars_word (isWord_cellText n) hrest
  | bool b => exact ofChars_word (isWord_flagText b) hrest

mutual

/-- The text of a query is cut into its tokens. -/
theorem ofChars_text : (q : Query) → q.Writable → {rest : List Char} → EndsWord rest →
    ofChars (q.text.toList ++ rest) = prepend q.tokens (ofChars rest)
  | .compare column o l, hq, rest, hrest => by
    have htext : (Query.compare column o l).text.toList ++ rest = column.toList ++
        ' ' :: (o.sign.toList ++ ' ' :: ((Query.literalText l).toList ++ rest)) := by
      simp [Query.text]
    rw [htext, ofChars_word (Query.isWord_of_isColumnWord hq) (endsWord_blank _), ofChars_blank,
      ofChars_sign, ofChars_blank, ofChars_literal l hrest, prepend_prepend, prepend_prepend]
    rfl
  | .and parts, hq, rest, _ => by
    have htext : (Query.and parts).text.toList ++ rest =
        '(' :: ((Query.textJoined (" " ++ "and" ++ " ") parts).toList ++ ')' :: rest) := by
      simp [Query.text]
    rw [htext, ofChars_opening,
      ofChars_textJoined (Query.isWord_of_all (by decide) (by decide)) parts hq.2
        (endsWord_closing _), ofChars_closing, prepend_prepend, prepend_prepend]
    rfl
  | .or parts, hq, rest, _ => by
    have htext : (Query.or parts).text.toList ++ rest =
        '(' :: ((Query.textJoined (" " ++ "or" ++ " ") parts).toList ++ ')' :: rest) := by
      simp [Query.text]
    rw [htext, ofChars_opening,
      ofChars_textJoined (Query.isWord_of_all (by decide) (by decide)) parts hq.2
        (endsWord_closing _), ofChars_closing, prepend_prepend, prepend_prepend]
    rfl

theorem ofChars_textJoined {w : String} (hw : Query.IsWord w) :
    (parts : List Query) → Query.AllWritable parts → {rest : List Char} → EndsWord rest →
    ofChars ((Query.textJoined (" " ++ w ++ " ") parts).toList ++ rest) =
      prepend (Query.tokensJoined w parts) (ofChars rest)
  | [], _, rest, _ => by
    rw [Query.textJoined, Query.tokensJoined]
    cases h : ofChars rest <;> simp [prepend, Except.map, h]
  | [part], hq, rest, hrest => by
    rw [Query.textJoined, Query.tokensJoined, String.append_empty, List.append_nil]
    exact ofChars_text part hq.1 hrest
  | part :: second :: others, hq, rest, hrest => by
    have htext : (Query.textJoined (" " ++ w ++ " ") (part :: second :: others)).toList ++ rest =
        part.text.toList ++ ' ' :: (w.toList ++
          ' ' :: ((Query.textJoined (" " ++ w ++ " ") (second :: others)).toList ++ rest)) := by
      simp [Query.textJoined]
    rw [htext, ofChars_text part hq.1 (endsWord_blank _), ofChars_blank,
      ofChars_word hw (endsWord_blank _), ofChars_blank,
      ofChars_textJoined hw (second :: others) hq.2 hrest, prepend_prepend, prepend_prepend,
      Query.tokensJoined]
    simp

end

end QueryToken

namespace Query

/-! ### Deriving the tokens -/

/-- The token of a literal stands for that literal. -/
theorem isLiteral_literalToken (l : Literal) : IsLiteral (literalToken l) l := by
  cases l with
  | text s => exact .text s
  | number n => exact .number (Number.read?_cellText n)
  | bool b =>
    cases b with
    | true => exact .true
    | false => exact .false

mutual

/-- The tokens of a query are a term, and groups of one part stand for that part. -/
theorem isTerm_tokens : (q : Query) → q.Writable → IsTerm q.tokens q.canonical
  | .compare column op l, _ => .compare column op (isLiteral_literalToken l)
  | .and parts, hq =>
    have hparts := isTerms_tokensJoined parts hq.2 hq.1
    .group (.mk (.one (.mk hparts (joins_iff.2 ⟨hparts.ne_nil, rfl⟩))) (.single _))
  | .or parts, hq =>
    have hparts := isDisjuncts_tokensJoined parts hq.2 hq.1
    .group (.mk hparts (joins_iff.2 ⟨hparts.ne_nil, rfl⟩))

theorem isTerms_tokensJoined : (parts : List Query) → AllWritable parts → parts ≠ [] →
    IsTerms (tokensJoined "and" parts) (canonicalAll parts)
  | [], _, hne => absurd rfl hne
  | [part], hq, _ => by
    rw [tokensJoined, List.append_nil]
    exact .one (isTerm_tokens part hq.1)
  | part :: second :: rest, hq, _ =>
    (isTerms_tokensJoined (second :: rest) hq.2 (List.cons_ne_nil _ _)).cons
      (isTerm_tokens part hq.1) isKeyword_and

theorem isDisjuncts_tokensJoined : (parts : List Query) → AllWritable parts → parts ≠ [] →
    IsDisjuncts (tokensJoined "or" parts) (canonicalAll parts)
  | [], _, hne => absurd rfl hne
  | [part], hq, _ => by
    rw [tokensJoined, List.append_nil]
    exact .one (.mk (.one (isTerm_tokens part hq.1)) (.single _))
  | part :: second :: rest, hq, _ =>
    (isDisjuncts_tokensJoined (second :: rest) hq.2 (List.cons_ne_nil _ _)).cons
      (.mk (.one (isTerm_tokens part hq.1)) (.single _)) isKeyword_or

end

/-! ### Reading the text -/

/-- The text of a query is read as the query in which groups of one part are replaced by the
part. -/
theorem read_text {q : Query} (hq : q.Writable) : read q.text = .ok (some q.canonical) := by
  have hcut : QueryToken.ofText q.text = .ok q.tokens := by
    have h := @QueryToken.ofChars_text q hq [] trivial
    rw [List.append_nil, QueryToken.ofChars, QueryToken.prepend_ok, List.append_nil] at h
    exact h
  have hread : ofTokens q.tokens = .ok (some q.canonical) :=
    ofTokens_eq_some_iff.2 (isTerm_tokens q hq).expression
  rw [read, hcut]
  exact hread

end Query

end GridStore
