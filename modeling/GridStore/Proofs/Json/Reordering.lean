import GridStore.Cell.Value
import GridStore.Json.Reader
import GridStore.Proofs.Entries
import GridStore.Proofs.Results

/-!
# The order of keys and items

A JSON document is a tree in which the keys of an object and the items of an array stand in some
order. Two documents that differ only in these orders, at any depth, are reorderings of each other.
If no object repeats a key, they have the same keys, and their values under a key are reorderings of
each other again.

## Main definitions

* `Json.DistinctKeys`: whether no object in a document repeats a key.
* `Json.Reordered`: whether documents differ only in the order of keys and of items.

## Main results

* `Json.distinctKeys_of_read?`: documents that are read from texts do not repeat keys.
* `Json.Reordered.distinctKeys`: reordering keeps keys distinct.
* `Json.Reordered.ofJson?_eq`, `isTruthy_eq`: what reordering leaves as it is.
* `Json.Reordered.field?`: the values of reordered objects are reordered.
-/

namespace GridStore

namespace Json

/-! ### Keys -/

/-- Whether no object in a document, at any depth, repeats a key. -/
inductive DistinctKeys : Json → Prop
  | null : DistinctKeys .null
  | bool (b : Bool) : DistinctKeys (.bool b)
  | number (n : JsonNumber) : DistinctKeys (.number n)
  | text (s : String) : DistinctKeys (.text s)
  | array {items : List Json} (h : ∀ item ∈ items, DistinctKeys item) :
      DistinctKeys (.array items)
  | object {fields : Entries Json} (hnodup : (Entries.names fields).Nodup)
      (h : ∀ entry ∈ fields, DistinctKeys entry.2) : DistinctKeys (.object fields)

/-- The value of a key repeats no keys. -/
theorem DistinctKeys.of_field? {value found : Json} (h : value.DistinctKeys) {key : String}
    (hfound : value.field? key = some found) : found.DistinctKeys := by
  cases h with
  | object hnodup h => exact h _ (Entries.mem_of_get? hfound)
  | _ => cases hfound

theorem distinctKeys_array_iff {items : List Json} :
    (array items).DistinctKeys ↔ ∀ item ∈ items, item.DistinctKeys :=
  ⟨fun | .array h => h, .array⟩

theorem distinctKeys_object_iff {fields : Entries Json} :
    (object fields).DistinctKeys ↔
      (Entries.names fields).Nodup ∧ ∀ entry ∈ fields, entry.2.DistinctKeys :=
  ⟨fun | .object hnodup h => ⟨hnodup, h⟩, fun h => .object h.1 h.2⟩

mutual

/-- A merged document repeats no keys. -/
theorem distinctKeys_merged : (value : Json) → value.merged.DistinctKeys
  | null => .null
  | bool b => .bool b
  | number n => .number n
  | text s => .text s
  | array items => .array (distinctKeys_mergedItems items)
  | object fields => .object (Entries.nodup_names_ofList _) fun entry hmem =>
      distinctKeys_mergedFields fields entry (Entries.mem_ofList hmem)

theorem distinctKeys_mergedItems : (items : List Json) →
    ∀ item ∈ mergedItems items, item.DistinctKeys
  | [], _, h => nomatch h
  | first :: rest, item, h => by
    rcases List.mem_cons.1 h with rfl | hrest
    · exact distinctKeys_merged first
    · exact distinctKeys_mergedItems rest item hrest

theorem distinctKeys_mergedFields : (fields : List (String × Json)) →
    ∀ entry ∈ mergedFields fields, entry.2.DistinctKeys
  | [], _, h => nomatch h
  | (key, value) :: rest, entry, h => by
    rcases List.mem_cons.1 h with rfl | hrest
    · exact distinctKeys_merged value
    · exact distinctKeys_mergedFields rest entry hrest

end

/-- The document that a text says repeats no keys. -/
theorem distinctKeys_of_read? {text : String} {value : Json} (h : read? text = some value) :
    value.DistinctKeys := by
  obtain ⟨tokens, -, h⟩ := Option.bind_eq_some_iff.1 h
  split at h
  case isTrue =>
    obtain ⟨written, -, h⟩ := Option.bind_eq_some_iff.1 h
    obtain ⟨inner, -, h⟩ := Option.bind_eq_some_iff.1 h
    cases h
    exact distinctKeys_merged inner
  case isFalse => cases h

/-! ### Reordering -/

/-- Whether a document becomes another one by putting the keys of objects and the items of arrays
into other orders, at any depth. -/
inductive Reordered : Json → Json → Prop
  | refl (value : Json) : Reordered value value
  | items {items others : List Json} (h : items.Perm others) :
      Reordered (.array items) (.array others)
  | fields {fields others : Entries Json} (h : fields.Perm others) :
      Reordered (.object fields) (.object others)
  | inItem (before after : List Json) {item other : Json} (h : Reordered item other) :
      Reordered (.array (before ++ item :: after)) (.array (before ++ other :: after))
  | inField (before after : Entries Json) (key : String) {value other : Json}
      (h : Reordered value other) : Reordered (.object (before ++ (key, value) :: after))
        (.object (before ++ (key, other) :: after))
  | trans {first second third : Json} (h : Reordered first second)
      (h' : Reordered second third) : Reordered first third

namespace Reordered

variable {value other : Json}

theorem symm (h : Reordered value other) : Reordered other value := by
  induction h with
  | refl value => exact .refl value
  | items h => exact .items h.symm
  | fields h => exact .fields h.symm
  | inItem before after _ ih => exact .inItem before after ih
  | inField before after key _ ih => exact .inField before after key ih
  | trans _ _ ih ih' => exact ih'.trans ih

/-- Reordering keeps keys distinct. -/
theorem distinctKeys (h : Reordered value other) (hkeys : value.DistinctKeys) :
    other.DistinctKeys := by
  induction h with
  | refl => exact hkeys
  | items h =>
    rw [distinctKeys_array_iff] at hkeys ⊢
    exact fun item hmem => hkeys item (h.mem_iff.2 hmem)
  | fields h =>
    rw [distinctKeys_object_iff] at hkeys ⊢
    exact ⟨(h.map Prod.fst).nodup_iff.1 hkeys.1, fun entry hmem =>
      hkeys.2 entry (h.mem_iff.2 hmem)⟩
  | inItem before after _ ih =>
    rw [distinctKeys_array_iff, List.forall_mem_append, List.forall_mem_cons] at hkeys ⊢
    exact ⟨hkeys.1, ih hkeys.2.1, hkeys.2.2⟩
  | inField before after key _ ih =>
    rw [distinctKeys_object_iff, List.forall_mem_append, List.forall_mem_cons] at hkeys ⊢
    obtain ⟨hnodup, hbefore, hvalue, hafter⟩ := hkeys
    refine ⟨?_, hbefore, ih hvalue, hafter⟩
    rwa [Entries.names, List.map_append, List.map_cons] at hnodup ⊢
  | trans _ _ ih ih' => exact ih' (ih hkeys)

/-- Reordering leaves scalars as they are. -/
theorem ofJson?_eq (h : Reordered value other) : Value.ofJson? value = Value.ofJson? other := by
  induction h with
  | trans _ _ ih ih' => exact ih.trans ih'
  | _ => rfl

theorem isTruthy_eq (h : Reordered value other) : value.isTruthy = other.isTruthy := by
  induction h with
  | trans _ _ ih ih' => exact ih.trans ih'
  | _ => rfl

/-- Only an object is a reordering of an object. -/
theorem exists_object {fields : Entries Json} (h : Reordered (.object fields) other) :
    ∃ others, other = .object others := by
  generalize hvalue : Json.object fields = value at h
  induction h generalizing fields with
  | refl => exact ⟨fields, hvalue.symm⟩
  | items | inItem => cases hvalue
  | fields | inField => exact ⟨_, rfl⟩
  | trans _ _ ih ih' =>
    obtain ⟨_, rfl⟩ := ih hvalue
    exact ih' rfl

/-- Reordered objects have the same keys, with reordered values. -/
theorem field? (h : Reordered value other) (hkeys : value.DistinctKeys) (key : String) :
    Option.Rel Reordered (value.field? key) (other.field? key) := by
  have hrefl := optionRel_refl Reordered.refl
  induction h with
  | refl value => exact hrefl _
  | items _ => exact .none
  | inItem _ _ _ => exact .none
  | fields h =>
    rw [Json.field?, Json.field?, Entries.get?_perm h (distinctKeys_object_iff.1 hkeys).1]
    exact hrefl _
  | inField before after name h =>
    simp only [Json.field?, Entries.get?_append, Entries.get?]
    cases Entries.get? before key with
    | some found => exact hrefl _
    | none =>
      simp only [Option.none_or]
      split
      · exact .some h
      · exact hrefl _
  | trans h _ ih ih' =>
    exact optionRel_trans .trans (ih hkeys) (ih' (h.distinctKeys hkeys))

/-- Reordered objects have the same scalars under a key. -/
theorem map_get?_eq {fields others : Entries Json} (h : Reordered (.object fields) (.object others))
    (hkeys : (Json.object fields).DistinctKeys) (key : String) :
    (Entries.get? fields key).map Value.ofJson? = (Entries.get? others key).map Value.ofJson? :=
  map_eq_of_rel (h.field? hkeys key) fun _ _ => ofJson?_eq

end Reordered

end Json

end GridStore
