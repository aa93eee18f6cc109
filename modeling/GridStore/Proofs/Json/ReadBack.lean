import GridStore.Json.Reader
import GridStore.Proofs.Json.Printed

/-!
# Indented text reads back

The tokens of a printed value complete the value, whatever is open around it and whatever tokens
follow. So the indented text of a value is read as the value as it is printed.

## Main results

* `JsonReader.foldlM_tokens`: reading the tokens of a value completes the value.
* `WrittenJson.read?_indented`: the indented text of a value is read.
-/

namespace GridStore

namespace JsonReader

open Json (itemTokens fieldTokens printedItems printedFields)

/-- An array that is not closed at once starts with an item. -/
theorem step?_firstItem {token : JsonToken} (h : token ≠ .closeArray) (stack : List JsonFrame) :
    step? (.firstItem stack) token = step? (.value (.array [] :: stack)) token := by
  cases token <;> first
    | rfl
    | exact absurd rfl h

/-- No value starts with the end of an array. -/
theorem exists_tokens_eq_cons (value : Json) :
    ∃ first rest, value.tokens = first :: rest ∧ first ≠ .closeArray := by
  cases value <;> exact ⟨_, _, rfl, nofun⟩

theorem foldlM_firstItem (item : Json) (more : List JsonToken) (stack : List JsonFrame) :
    (item.tokens ++ more).foldlM step? (.firstItem stack) =
      (item.tokens ++ more).foldlM step? (.value (.array [] :: stack)) := by
  obtain ⟨first, rest, htokens, hfirst⟩ := exists_tokens_eq_cons item
  rw [htokens, List.cons_append, List.foldlM_cons, List.foldlM_cons, step?_firstItem hfirst]

/-- The tokens of the items of an array start with those of the first one. -/
theorem foldlM_firstItems (item : Json) (items : List Json) (more : List JsonToken)
    (stack : List JsonFrame) :
    (itemTokens (item :: items) ++ more).foldlM step? (.firstItem stack) =
      (itemTokens (item :: items) ++ more).foldlM step? (.value (.array [] :: stack)) := by
  cases items <;> rw [itemTokens, List.append_assoc, foldlM_firstItem]

mutual

/-- The tokens of a value complete the value, whatever is open around it. -/
theorem foldlM_tokens (more : List JsonToken) (stack : List JsonFrame) : (item : Json) →
    (item.tokens ++ more).foldlM step? (.value stack) =
      more.foldlM step? (complete item.printed stack)
  | .null => rfl
  | .bool _ => rfl
  | .number _ => rfl
  | .text _ => rfl
  | .array [] => rfl
  | .array (item :: items) => by
    rw [Json.tokens, List.cons_append, List.append_assoc, List.singleton_append, List.foldlM_cons]
    exact (foldlM_firstItems item items _ stack).trans
      (foldlM_items [] more stack (item :: items) (List.cons_ne_nil _ _))
  | .object [] => rfl
  | .object (field :: fields) => by
    rw [Json.tokens, List.cons_append, List.append_assoc, List.singleton_append, List.foldlM_cons]
    exact foldlM_fields (.firstKey stack) [] more stack (fun _ => rfl) (field :: fields)
      (List.cons_ne_nil _ _)

/-- The tokens of the items of an array add the items and close the array. -/
theorem foldlM_items (done : List WrittenJson) (more : List JsonToken) (stack : List JsonFrame) :
    (items : List Json) → items ≠ [] →
      (itemTokens items ++ .closeArray :: more).foldlM step? (.value (.array done :: stack)) =
        more.foldlM step? (complete (.array (done.reverse ++ printedItems items)) stack)
  | [], hne => absurd rfl hne
  | [item], _ => by
    rw [itemTokens, List.append_nil, foldlM_tokens, List.foldlM_cons]
    show more.foldlM step? (complete (.array (item.printed :: done).reverse) stack) = _
    rw [List.reverse_cons]
    rfl
  | item :: next :: items, _ => by
    rw [itemTokens, List.append_assoc, foldlM_tokens, List.cons_append, List.foldlM_cons]
    show (itemTokens (next :: items) ++ .closeArray :: more).foldlM step?
      (.value (.array (item.printed :: done) :: stack)) = _
    rw [foldlM_items (item.printed :: done) more stack (next :: items) (List.cons_ne_nil _ _),
      List.reverse_cons, List.append_assoc]
    rfl

/-- The tokens of the fields of an object add the fields and close the object. -/
theorem foldlM_fields (state : JsonReader) (done : List (JsonText × WrittenJson))
    (more : List JsonToken) (stack : List JsonFrame)
    (hstate : ∀ key, step? state (.text key) = some (.afterKey done key stack)) :
    (fields : List (String × Json)) → fields ≠ [] →
      (fieldTokens fields ++ .closeObject :: more).foldlM step? state =
        more.foldlM step? (complete (.object (done.reverse ++ printedFields fields)) stack)
  | [], hne => absurd rfl hne
  | [(key, item)], _ => by
    rw [fieldTokens, List.append_nil, List.cons_append, List.foldlM_cons, hstate]
    show (item.tokens ++ .closeObject :: more).foldlM step?
      (.value (.object done (.printed key) :: stack)) = _
    rw [foldlM_tokens, List.foldlM_cons]
    show more.foldlM step?
      (complete (.object ((.printed key, item.printed) :: done).reverse) stack) = _
    rw [List.reverse_cons]
    rfl
  | (key, item) :: next :: fields, _ => by
    rw [fieldTokens, List.cons_append, List.cons_append, List.foldlM_cons, hstate]
    show (item.tokens ++ .comma :: fieldTokens (next :: fields) ++ .closeObject :: more).foldlM
      step? (.value (.object done (.printed key) :: stack)) = _
    rw [List.append_assoc, foldlM_tokens, List.cons_append, List.foldlM_cons]
    show (fieldTokens (next :: fields) ++ .closeObject :: more).foldlM step?
      (.nextKey ((.printed key, item.printed) :: done) stack) = _
    rw [foldlM_fields _ ((.printed key, item.printed) :: done) more stack (fun _ => rfl)
      (next :: fields) (List.cons_ne_nil _ _), List.reverse_cons, List.append_assoc]
    rfl

end

end JsonReader

namespace WrittenJson

theorem ofTokens?_tokens (value : Json) : ofTokens? value.tokens = some value.printed := by
  have hread := JsonReader.foldlM_tokens [] [] value
  rw [List.append_nil] at hread
  rw [ofTokens?, hread]
  rfl

/-- The indented text of a value whose numbers read back is read as the value as it is printed. -/
theorem read?_indented {value : Json} (h : value.ReadsBack) :
    read? value.indented = some value.printed := by
  have hend : JsonToken.EndsWord [] := trivial
  have hchars := JsonToken.ofChars?_indented 0 hend value h
  have hnil : JsonToken.ofChars? [] = some [] := by rw [JsonToken.ofChars?]
  rw [List.append_nil, hnil, JsonToken.prepend, Option.map_some, List.append_nil] at hchars
  rw [read?, Json.indented, String.toList_ofList, hchars]
  exact ofTokens?_tokens value

end WrittenJson

end GridStore
