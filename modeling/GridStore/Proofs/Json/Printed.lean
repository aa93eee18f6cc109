import GridStore.Json.Printer
import GridStore.Json.Token
import GridStore.Proofs.Text.Digits
import GridStore.Text.Count

/-!
# Texts and tokens of printed values

What printed texts and values are as written, and that their characters are cut into their tokens.
Both are shown with any characters after them that do not continue a word, so that the parts of a
value follow one another.

## Main definitions

* `JsonPiece.ofChar`, `JsonText.printed`: how texts are printed.
* `Json.printed`: a value as it is printed.
* `Json.tokens`: the tokens of a printed value.
* `Json.ReadsBack`: whether the numbers of a value are words that write them.

## Main results

* `JsonText.scan?_printed`: a printed text is scanned to its closing quote.
* `JsonText.decode?_printed`: a printed text means the text.
* `JsonToken.ofChars?_indented`: the indented text of a value is cut into its tokens.
-/

namespace GridStore

/-! ### Texts -/

/-- A character as it is printed in a text. -/
def JsonPiece.ofChar (c : Char) : JsonPiece :=
  if c = '"' ∨ c = '\\' ∨ c = '\n' ∨ c = '\r' ∨ c = '\t' ∨ c = '\x08' ∨ c = '\x0c' then .escaped c
  else if c.toNat < 32 then .unit c.toNat
  else .plain c

theorem JsonPiece.ofChar_of_isDigit {c : Char} (h : c.isDigit) : ofChar c = .plain c := by
  have hcode := toNat_of_isDigit h
  have hletter : ¬(c = '"' ∨ c = '\\' ∨ c = '\n' ∨ c = '\r' ∨ c = '\t' ∨ c = '\x08' ∨
      c = '\x0c') := by
    rintro (rfl | rfl | rfl | rfl | rfl | rfl | rfl) <;> exact absurd h (by decide)
  rw [ofChar, if_neg hletter, if_neg (by omega)]

namespace JsonText

/-- A text as it is printed. -/
def printed (s : String) : JsonText := s.toList.map JsonPiece.ofChar

/-- The pieces in front of a scanned text. -/
def prepend (pieces : JsonText) (rest : Option (JsonText × List Char)) :
    Option (JsonText × List Char) :=
  rest.map fun (more, after) => (pieces ++ more, after)

/-- The number that the hexadecimal digits of a control character write. -/
theorem hexUnit?_control {n : Nat} (h : n < 32) :
    List.replicate (4 - (Nat.toDigits 16 n).length) '0' ++ Nat.toDigits 16 n =
        ['0', '0', (n / 16).digitChar, (n % 16).digitChar] ∧
      hexUnit? '0' '0' (n / 16).digitChar (n % 16).digitChar = some n := by
  have hall : ∀ n < 32, List.replicate (4 - (Nat.toDigits 16 n).length) '0' ++ Nat.toDigits 16 n =
        ['0', '0', (n / 16).digitChar, (n % 16).digitChar] ∧
      hexUnit? '0' '0' (n / 16).digitChar (n % 16).digitChar = some n := by decide +kernel
  exact hall n h

/-! ### Scanning printed texts -/

theorem scan?_unit {a b c d : Char} {n : Nat} (h : hexUnit? a b c d = some n) (rest : List Char) :
    scan? ('\\' :: 'u' :: a :: b :: c :: d :: rest) = prepend [.unit n] (scan? rest) := by
  rw [scan?, h]
  cases scan? rest <;> rfl

theorem scan?_escaped {e c : Char} (h : escaped? e = some c) (rest : List Char) :
    scan? ('\\' :: e :: rest) = prepend [.escaped c] (scan? rest) := by
  have hunit : e ≠ 'u' := by
    rintro rfl
    cases h
  rw [scan?, h]
  · cases scan? rest <;> rfl
  · exact fun _ _ _ _ _ heq => absurd heq hunit

theorem scan?_plain {c : Char} (hquote : c ≠ '"') (hslash : c ≠ '\\') (hcode : ¬c.toNat < 32)
    (rest : List Char) : scan? (c :: rest) = prepend [.plain c] (scan? rest) := by
  rw [scan?, if_neg hcode]
  · cases scan? rest <;> rfl
  · exact hquote
  · exact fun _ _ _ _ _ heq => absurd heq hslash
  · exact fun _ _ heq => absurd heq hslash

/-- A character is printed as a letter after a backslash, as its code, or plainly. -/
theorem quotedChar_cases (c : Char) :
    (∃ e, Json.quotedChar c = ['\\', e] ∧ escaped? e = some c ∧
      JsonPiece.ofChar c = .escaped c) ∨
    (c.toNat < 32 ∧ Json.quotedChar c = '\\' :: 'u' ::
        (List.replicate (4 - (Nat.toDigits 16 c.toNat).length) '0' ++ Nat.toDigits 16 c.toNat) ∧
      JsonPiece.ofChar c = .unit c.toNat) ∨
    (c ≠ '"' ∧ c ≠ '\\' ∧ ¬c.toNat < 32 ∧ Json.quotedChar c = [c] ∧
      JsonPiece.ofChar c = .plain c) := by
  by_cases hletter : c = '"' ∨ c = '\\' ∨ c = '\n' ∨ c = '\r' ∨ c = '\t' ∨ c = '\x08' ∨ c = '\x0c'
  · refine .inl ?_
    rcases hletter with rfl | rfl | rfl | rfl | rfl | rfl | rfl <;> exact ⟨_, rfl, rfl, rfl⟩
  · refine .inr ?_
    rw [JsonPiece.ofChar, if_neg hletter, Json.quotedChar]
    obtain ⟨hquote, hslash, hnewline, hreturn, htab, hback, hfeed⟩ :
        c ≠ '"' ∧ c ≠ '\\' ∧ c ≠ '\n' ∧ c ≠ '\r' ∧ c ≠ '\t' ∧ c ≠ '\x08' ∧ c ≠ '\x0c' := by
      simpa only [not_or] using hletter
    rw [if_neg hquote, if_neg hslash, if_neg hnewline, if_neg hreturn, if_neg htab, if_neg hback,
      if_neg hfeed]
    by_cases hcode : c.toNat < 32
    · rw [if_pos hcode, if_pos hcode]
      exact .inl ⟨hcode, rfl, rfl⟩
    · rw [if_neg hcode, if_neg hcode]
      exact .inr ⟨hquote, hslash, hcode, rfl, rfl⟩

/-- A printed character is scanned as one piece. -/
theorem scan?_quotedChar (c : Char) (rest : List Char) :
    scan? (Json.quotedChar c ++ rest) = prepend [JsonPiece.ofChar c] (scan? rest) := by
  rcases quotedChar_cases c with ⟨e, hchars, hletter, hpiece⟩ | ⟨hcode, hchars, hpiece⟩ |
    ⟨hquote, hslash, hcode, hchars, hpiece⟩ <;> rw [hchars, hpiece]
  · exact scan?_escaped hletter rest
  · obtain ⟨hdigits, hunit⟩ := hexUnit?_control hcode
    rw [hdigits]
    exact scan?_unit hunit rest
  · exact scan?_plain hquote hslash hcode rest

theorem prepend_prepend (ps qs : JsonText) (rest : Option (JsonText × List Char)) :
    prepend ps (prepend qs rest) = prepend (ps ++ qs) rest := by
  cases rest with
  | none => rfl
  | some scanned => simp [prepend]

/-- A printed text is scanned to its closing quote. -/
theorem scan?_printed (s : String) (rest : List Char) :
    scan? (s.toList.flatMap Json.quotedChar ++ '"' :: rest) = some (printed s, rest) := by
  have hscan : ∀ cs : List Char, scan? (cs.flatMap Json.quotedChar ++ '"' :: rest) =
      some (cs.map JsonPiece.ofChar, rest) := by
    intro cs
    induction cs with
    | nil => rfl
    | cons c cs ih =>
      rw [List.flatMap_cons, List.append_assoc, scan?_quotedChar, ih]
      rfl
  exact hscan s.toList

/-! ### The meaning of printed texts -/

theorem decodeChars?_ofChar (c : Char) (rest : JsonText) :
    decodeChars? (JsonPiece.ofChar c :: rest) = (decodeChars? rest).map (c :: ·) := by
  rcases quotedChar_cases c with ⟨e, -, -, hpiece⟩ | ⟨hcode, -, hpiece⟩ | ⟨-, -, -, -, hpiece⟩ <;>
    rw [hpiece]
  · rfl
  · -- a control character is no surrogate
    rw [decodeChars?.eq_def]
    simp only
    rw [if_neg (by omega), if_neg (by omega), Char.ofNat_toNat]
  · rfl

/-- A printed text means the text. -/
theorem decode?_printed (s : String) : (printed s).decode? = some s := by
  have hdecode : ∀ cs : List Char, decodeChars? (cs.map JsonPiece.ofChar) = some cs := by
    intro cs
    induction cs with
    | nil => rfl
    | cons c cs ih =>
      rw [List.map_cons, decodeChars?_ofChar, ih]
      rfl
  rw [decode?, printed, hdecode, Option.map_some, String.ofList_toList]

/-- A text of characters that need no escapes is printed plainly. -/
theorem printed_of_plain {s : String} (h : ∀ c ∈ s.toList, JsonPiece.ofChar c = .plain c) :
    printed s = ofString s := List.map_congr_left h

end JsonText

/-! ### Values -/

namespace Json

mutual

/-- A value as it is printed. -/
def printed : Json → WrittenJson
  | null => .null
  | bool b => .bool b
  | number n => .number (some n)
  | text s => .text (.printed s)
  | array items => .array (printedItems items)
  | object fields => .object (printedFields fields)

/-- The items of an array as they are printed. -/
def printedItems : List Json → List WrittenJson
  | [] => []
  | item :: rest => printed item :: printedItems rest

/-- The fields of an object as they are printed. -/
def printedFields : List (String × Json) → List (JsonText × WrittenJson)
  | [] => []
  | (key, value) :: rest => (.printed key, printed value) :: printedFields rest

end

theorem printedItems_eq (items : List Json) : printedItems items = items.map printed := by
  induction items with
  | nil => rfl
  | cons item rest ih => rw [printedItems, ih, List.map_cons]

theorem printedFields_eq (fields : List (String × Json)) :
    printedFields fields = fields.map fun (key, value) => (.printed key, printed value) := by
  induction fields with
  | nil => rfl
  | cons field rest ih => rw [printedFields, ih, List.map_cons]

mutual

/-- The tokens of a printed value. -/
def tokens : Json → List JsonToken
  | text s => [.text (.printed s)]
  | array items => .openArray :: (itemTokens items ++ [.closeArray])
  | object fields => .openObject :: (fieldTokens fields ++ [.closeObject])
  | value => [.scalar (printed value)]

/-- The tokens of the items of an array. -/
def itemTokens : List Json → List JsonToken
  | [] => []
  | item :: rest =>
    tokens item ++ match rest with
      | [] => []
      | _ :: _ => .comma :: itemTokens rest

/-- The tokens of the fields of an object. -/
def fieldTokens : List (String × Json) → List JsonToken
  | [] => []
  | (key, value) :: rest =>
    .text (.printed key) :: .colon :: tokens value ++ match rest with
      | [] => []
      | _ :: _ => .comma :: fieldTokens rest

end

end Json

/-! ### Numbers -/

/-- Whether the text of a number is a word that writes the number. -/
structure JsonNumber.ReadsBack (n : JsonNumber) : Prop where
  inWord : ∀ c ∈ n.text.toList, JsonToken.inWord c = true
  number? : JsonToken.number? n.text.toList = some (some n)

namespace JsonNumber

theorem wholeOk_toDigits (n : Nat) : JsonToken.wholeOk (Nat.toDigits 10 n) = true := by
  rcases Nat.eq_zero_or_pos n with rfl | hpos
  · rfl
  · have hhead := head?_toDigits_ne_zero hpos
    match hdigits : Nat.toDigits 10 n with
    | [] => exact absurd hdigits Nat.toDigits_ne_nil
    | [_] => rfl
    | first :: second :: rest =>
      rw [hdigits] at hhead
      have hne : first ≠ '0' := fun heq => hhead (congrArg some heq)
      exact bne_iff_ne.2 hne

/-- A count that fits a machine word is read from its digits. -/
theorem readsBack_count {n : Nat} (h : n < wordBound) : (integer n).ReadsBack := by
  have htext : (integer n).text.toList = Nat.toDigits 10 n := Nat.toList_repr
  have hdigits : ∀ c ∈ Nat.toDigits 10 n, c.isDigit := fun _ => isDigit_of_mem_toDigits
  have hword : ∀ c ∈ Nat.toDigits 10 n, JsonToken.inWord c = true := fun c hc => by
    simp [JsonToken.inWord, Char.isAlphanum, hdigits c hc]
  have hread : JsonToken.unsigned? false (Nat.toDigits 10 n) = some (some (integer n)) := by
    have htake := takeWhile_isDigit_append hdigits []
    have hdrop := dropWhile_isDigit_append hdigits []
    rw [List.append_nil] at htake hdrop
    rw [JsonToken.unsigned?, htake, hdrop]
    simp [wholeOk_toDigits, JsonToken.hasBarePoint, natOfDigits_toDigits]
    exact h
  refine ⟨htext ▸ hword, ?_⟩
  rw [htext]
  cases hcons : Nat.toDigits 10 n with
  | nil => exact absurd hcons Nat.toDigits_ne_nil
  | cons first rest =>
    have hminus : first ≠ '-' := by
      rintro rfl
      exact absurd (hdigits '-' (hcons ▸ List.mem_cons_self ..)) (by decide)
    rw [hcons] at hread
    rw [JsonToken.number?]
    · exact hread
    · exact fun _ heq => hminus (List.cons.inj heq).1

end JsonNumber

/-! ### Tokens of characters -/

namespace JsonToken

/-- The tokens in front of those of other characters. -/
def prepend (tokens : List JsonToken) (rest : Option (List JsonToken)) : Option (List JsonToken) :=
  rest.map (tokens ++ ·)

theorem prepend_prepend (ts us : List JsonToken) (rest : Option (List JsonToken)) :
    prepend ts (prepend us rest) = prepend (ts ++ us) rest := by
  cases rest with
  | none => rfl
  | some vs => simp [prepend]

/-- Whether a word can end in front of characters. -/
def EndsWord : List Char → Prop
  | [] => True
  | c :: _ => inWord c = false

theorem endsWord_comma (rest : List Char) : EndsWord (',' :: rest) := rfl

theorem endsWord_lineStart (level : Nat) (rest : List Char) :
    EndsWord (Json.lineStart level ++ rest) := rfl

theorem ofChars?_space {c : Char} (h : isSpace c = true) (rest : List Char) :
    ofChars? (c :: rest) = ofChars? rest := by
  rw [ofChars?, if_pos h]

theorem ofChars?_mark {c : Char} {token : JsonToken} (hspace : isSpace c = false)
    (h : mark? c = some token) (rest : List Char) :
    ofChars? (c :: rest) = prepend [token] (ofChars? rest) := by
  rw [ofChars?, if_neg (by rw [hspace]; exact Bool.false_ne_true), h]
  rfl

/-- The start of a line has no token. -/
theorem ofChars?_lineStart (level : Nat) (rest : List Char) :
    ofChars? (Json.lineStart level ++ rest) = ofChars? rest := by
  rw [Json.lineStart, List.cons_append, ofChars?_space rfl]
  induction 2 * level with
  | zero => rfl
  | succ n ih => rw [List.replicate_succ, List.cons_append, ofChars?_space rfl, ih]

/-- A printed text is one token. -/
theorem ofChars?_quoted (s : String) (rest : List Char) :
    ofChars? (Json.quoted s ++ rest) = prepend [.text (.printed s)] (ofChars? rest) := by
  have hscan := JsonText.scan?_printed s rest
  rw [Json.quoted, List.cons_append, List.append_assoc, List.singleton_append, ofChars?,
    if_neg (by decide)]
  have hmark : mark? '"' = none := rfl
  rw [hmark]
  simp only [if_pos]
  split
  case h_1 heq =>
    rw [hscan] at heq
    cases heq
  case h_2 written after heq =>
    rw [hscan] at heq
    cases heq
    rfl

/-- A word is one token. -/
theorem ofChars?_word {word : List Char} {value : WrittenJson} (h : word? word = some value)
    (hword : ∀ c ∈ word, inWord c = true) {rest : List Char} (hrest : EndsWord rest) :
    ofChars? (word ++ rest) = prepend [.scalar value] (ofChars? rest) := by
  cases word with
  | nil => cases h
  | cons c cs =>
    obtain ⟨hc, hcs⟩ := List.forall_mem_cons.1 hword
    have hne : ∀ d, inWord d = false → c ≠ d := by
      rintro d hd rfl
      rw [hc] at hd
      cases hd
    have hspace : isSpace c = false := by
      simp [isSpace, hne ' ' rfl, hne '\t' rfl, hne '\n' rfl, hne '\r' rfl]
    have hmark : mark? c = none := by
      rw [mark?, if_neg (hne '[' rfl), if_neg (hne ']' rfl), if_neg (hne '\x7b' rfl),
        if_neg (hne '\x7d' rfl), if_neg (hne ',' rfl), if_neg (hne ':' rfl)]
    have hstop : rest.takeWhile inWord = [] ∧ rest.dropWhile inWord = rest := by
      cases rest with
      | nil => exact ⟨rfl, rfl⟩
      | cons d ds =>
        have hd : ¬inWord d = true := by
          rw [show inWord d = false from hrest]
          exact Bool.false_ne_true
        exact ⟨List.takeWhile_cons_of_neg hd, List.dropWhile_cons_of_neg hd⟩
    have htake : (cs ++ rest).takeWhile inWord = cs := by
      rw [List.takeWhile_append_of_pos hcs, hstop.1, List.append_nil]
    have hdrop : (cs ++ rest).dropWhile inWord = rest := by
      rw [List.dropWhile_append_of_pos hcs, hstop.2]
    rw [List.cons_append, ofChars?, if_neg (by rw [hspace]; exact Bool.false_ne_true), hmark]
    simp only [if_neg (hne '"' rfl), htake, hdrop, h]
    rfl

/-- A number that reads back is one token. -/
theorem ofChars?_number {n : JsonNumber} (h : n.ReadsBack) {rest : List Char}
    (hrest : EndsWord rest) :
    ofChars? (n.text.toList ++ rest) = prepend [.scalar (.number (some n))] (ofChars? rest) := by
  have hne : ∀ word, number? word = none → n.text.toList ≠ word := by
    intro word hnone heq
    rw [← heq, h.number?] at hnone
    cases hnone
  refine ofChars?_word ?_ h.inWord hrest
  rw [word?, if_neg (hne _ (by decide)), if_neg (hne _ (by decide)), if_neg (hne _ (by decide)),
    h.number?]
  rfl

end JsonToken

namespace Json

mutual

/-- Whether the numbers of a value are words that write them. -/
def ReadsBack : Json → Prop
  | number n => n.ReadsBack
  | array items => itemsReadBack items
  | object fields => fieldsReadBack fields
  | _ => True

/-- Whether the numbers of the items of an array are words that write them. -/
def itemsReadBack : List Json → Prop
  | [] => True
  | item :: rest => ReadsBack item ∧ itemsReadBack rest

/-- Whether the numbers of the fields of an object are words that write them. -/
def fieldsReadBack : List (String × Json) → Prop
  | [] => True
  | (_, value) :: rest => ReadsBack value ∧ fieldsReadBack rest

end

theorem itemsReadBack_iff (items : List Json) :
    itemsReadBack items ↔ ∀ item ∈ items, item.ReadsBack := by
  induction items with
  | nil => simp [itemsReadBack]
  | cons item rest ih => simp [itemsReadBack, ih]

theorem fieldsReadBack_iff (fields : List (String × Json)) :
    fieldsReadBack fields ↔ ∀ field ∈ fields, field.2.ReadsBack := by
  induction fields with
  | nil => simp [fieldsReadBack]
  | cons field rest ih => simp [fieldsReadBack, ih]

end Json

namespace JsonToken

open Json

mutual

/-- The characters of an indented value are cut into its tokens. -/
theorem ofChars?_indented (level : Nat) {rest : List Char} (hrest : EndsWord rest) :
    (value : Json) → value.ReadsBack →
      ofChars? (value.indentedChars level ++ rest) = prepend value.tokens (ofChars? rest)
  | .null, _ => by
    have hword : ∀ c ∈ ['n', 'u', 'l', 'l'], inWord c = true := List.all_eq_true.1 rfl
    exact ofChars?_word rfl hword hrest
  | .bool true, _ => by
    have hword : ∀ c ∈ ['t', 'r', 'u', 'e'], inWord c = true := List.all_eq_true.1 rfl
    exact ofChars?_word rfl hword hrest
  | .bool false, _ => by
    have hword : ∀ c ∈ ['f', 'a', 'l', 's', 'e'], inWord c = true := List.all_eq_true.1 rfl
    exact ofChars?_word rfl hword hrest
  | .number n, h => ofChars?_number h hrest
  | .text s, _ => ofChars?_quoted s rest
  | .array [], _ => by
    rw [indentedChars, List.cons_append, ofChars?_mark rfl rfl, List.cons_append,
      ofChars?_mark rfl rfl, prepend_prepend]
    rfl
  | .array (item :: items), h => by
    rw [indentedChars, List.cons_append, ofChars?_mark rfl rfl, List.append_assoc,
      List.append_assoc, ofChars?_items (level + 1) (endsWord_lineStart ..) (item :: items) h,
      ofChars?_lineStart, List.singleton_append, ofChars?_mark rfl rfl, prepend_prepend,
      prepend_prepend]
    rfl
  | .object [], _ => by
    rw [indentedChars, List.cons_append, ofChars?_mark rfl rfl, List.cons_append,
      ofChars?_mark rfl rfl, prepend_prepend]
    rfl
  | .object (field :: fields), h => by
    rw [indentedChars, List.cons_append, ofChars?_mark rfl rfl, List.append_assoc,
      List.append_assoc, ofChars?_fields (level + 1) (endsWord_lineStart ..) (field :: fields) h,
      ofChars?_lineStart, List.singleton_append, ofChars?_mark rfl rfl, prepend_prepend,
      prepend_prepend]
    rfl

/-- The characters of the items of an indented array are cut into their tokens. -/
theorem ofChars?_items (level : Nat) {rest : List Char} (hrest : EndsWord rest) :
    (items : List Json) → itemsReadBack items →
      ofChars? (indentedItems level items ++ rest) = prepend (itemTokens items) (ofChars? rest)
  | [], _ => (Option.map_id' ..).symm
  | [item], h => by
    rw [indentedItems, List.append_nil, List.append_assoc, ofChars?_lineStart,
      ofChars?_indented level hrest item h.1, itemTokens, List.append_nil]
  | item :: next :: items, h => by
    rw [indentedItems, List.append_assoc, List.append_assoc, ofChars?_lineStart, List.cons_append,
      ofChars?_indented level (endsWord_comma _) item h.1, ofChars?_mark rfl rfl,
      ofChars?_items level hrest (next :: items) h.2, prepend_prepend, prepend_prepend,
      List.append_assoc]
    rfl

/-- The characters of the fields of an indented object are cut into their tokens. -/
theorem ofChars?_fields (level : Nat) {rest : List Char} (hrest : EndsWord rest) :
    (fields : List (String × Json)) → fieldsReadBack fields →
      ofChars? (indentedFields level fields ++ rest) = prepend (fieldTokens fields) (ofChars? rest)
  | [], _ => (Option.map_id' ..).symm
  | [(key, value)], h => by
    rw [indentedFields, List.append_nil, List.append_assoc, List.append_assoc, ofChars?_lineStart,
      ofChars?_quoted, List.cons_append, ofChars?_mark rfl rfl, List.cons_append,
      ofChars?_space rfl, ofChars?_indented level hrest value h.1, prepend_prepend, prepend_prepend,
      fieldTokens, List.append_nil]
    rfl
  | (key, value) :: next :: fields, h => by
    rw [indentedFields, List.append_assoc, List.append_assoc, List.append_assoc,
      ofChars?_lineStart, ofChars?_quoted, List.cons_append, ofChars?_mark rfl rfl,
      List.cons_append, ofChars?_space rfl, List.cons_append,
      ofChars?_indented level (endsWord_comma _) value h.1, ofChars?_mark rfl rfl,
      ofChars?_fields level hrest (next :: fields) h.2, prepend_prepend, prepend_prepend,
      prepend_prepend, prepend_prepend, List.append_assoc]
    rfl

end

end JsonToken

end GridStore
