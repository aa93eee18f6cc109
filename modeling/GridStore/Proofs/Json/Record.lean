import GridStore.Json.Record
import GridStore.Proofs.Entries
import GridStore.Proofs.Json.ReadBack

/-!
# Documents that read back

What is found in a document after it has been printed: texts, counts, lists and records. A record
is found if its fields are printed under the known keys in their order.

## Main definitions

* `Json.ReadsAs`: whether a printed document is read, and as which value.

## Main results

* `Json.ReadsAs.read?_indented`: the value is found in the indented text of the document.
* `WrittenJson.record?_printed`: the fields of a record are found under their keys.
-/

namespace GridStore

variable {α β γ : Type}

theorem mapM_map_some {f : α → β} {g : β → Option γ} {h : α → γ} {xs : List α}
    (hg : ∀ x ∈ xs, g (f x) = some (h x)) : (xs.map f).mapM g = some (xs.map h) := by
  induction xs with
  | nil => rfl
  | cons x rest ih =>
    obtain ⟨hx, hrest⟩ := List.forall_mem_cons.1 hg
    rw [List.map_cons, List.mapM_cons, hx, ih hrest]
    rfl

/-- Whether a document reads back when it is printed, and a reader finds a value in it then. -/
structure Json.ReadsAs (document : Json) (read? : WrittenJson → Option α) (value : α) : Prop where
  readsBack : document.ReadsBack
  read? : read? document.printed = some value

namespace Json

/-- The value is found in the indented text of a document. -/
theorem ReadsAs.read?_indented {document : Json} {read? : WrittenJson → Option α} {value : α}
    (h : document.ReadsAs read? value) :
    (WrittenJson.read? document.indented).bind read? = some value := by
  rw [WrittenJson.read?_indented h.readsBack, Option.bind_some, h.read?]

/-! ### Texts, counts and lists -/

theorem readsAs_text (s : String) : (text s).ReadsAs (·.string?) s :=
  ⟨trivial, JsonText.decode?_printed s⟩

theorem readsAs_count {n : Nat} (h : n < wordBound) :
    (number (.integer n)).ReadsAs (·.natural?) n where
  readsBack := JsonNumber.readsBack_count h
  read? := by
    have hfits : 0 ≤ (n : Int) ∧ (n : Int) < wordBound := ⟨Int.natCast_nonneg n, Int.ofNat_lt.2 h⟩
    rw [printed, WrittenJson.natural?, if_pos hfits, Int.toNat_natCast]

/-- A list is found in the array of its documents. -/
theorem readsAs_array {toJson : α → Json} {read? : WrittenJson → Option α} {xs : List α}
    (h : ∀ x ∈ xs, (toJson x).ReadsAs read? x) :
    (array (xs.map toJson)).ReadsAs (·.listOf? read?) xs where
  readsBack := (itemsReadBack_iff _).2 fun item hitem => by
    obtain ⟨x, hx, rfl⟩ := List.mem_map.1 hitem
    exact (h x hx).readsBack
  read? := by
    rw [printed, printedItems_eq, List.map_map, WrittenJson.listOf?]
    exact (mapM_map_some fun x hx => (h x hx).read?).trans (congrArg some (List.map_id xs))

end Json

/-! ### Records -/

namespace WrittenRecord

/-- The only entry of a name among entries with distinct names. -/
theorem filter_of_nodup {entries : List (String × WrittenJson)}
    (hnodup : (Entries.names entries).Nodup) {entry : String × WrittenJson}
    (h : entry ∈ entries) : entries.filter (fun (key, _) => key == entry.1) = [entry] := by
  induction entries with
  | nil => cases h
  | cons first rest ih =>
    obtain ⟨hfirst, hrest⟩ := List.nodup_cons.1 hnodup
    rcases List.mem_cons.1 h with rfl | hmem
    · have hnone : rest.filter (fun (key, _) => key == entry.1) = [] :=
        List.filter_eq_nil_iff.2 fun other hother heq =>
          hfirst (eq_of_beq heq ▸ List.mem_map_of_mem hother)
      rw [List.filter_cons, hnone, if_pos (beq_self_eq_true entry.1)]
    · have hne : first.1 ≠ entry.1 := fun heq => hfirst (heq ▸ List.mem_map_of_mem hmem)
      rw [List.filter_cons, if_neg (by simpa using hne), ih hrest hmem]

/-- The entries of an object are a record if they have the known keys in their order. -/
theorem ofFields?_eq_some {entries : List (String × WrittenJson)}
    {known : List RecordField} (hnodup : (known.map (·.name)).Nodup)
    (hknown : known.map (·.name) = Entries.names entries) :
    ofFields? entries known = some entries := by
  have hpart : ∀ (known : List RecordField) (part : List (String × WrittenJson)),
      (∀ entry ∈ part, entry ∈ entries) → known.map (·.name) = Entries.names part →
      ofFields? entries known = some part := by
    intro known
    induction known with
    | nil =>
      intro part _ hnames
      rw [List.map_eq_nil_iff.1 hnames.symm]
      rfl
    | cons field known ih =>
      intro part hmem hnames
      cases part with
      | nil => cases hnames
      | cons entry rest =>
        obtain ⟨hentry, hrest⟩ := List.forall_mem_cons.1 hmem
        obtain ⟨hname, hnames⟩ := List.cons.inj hnames
        have hname : field.name = entry.1 := hname
        rw [ofFields?, ih rest hrest hnames, hname]
        simp only [filter_of_nodup (hknown ▸ hnodup) hentry]
        rfl
  exact hpart known entries (fun _ => id) hknown

variable {record : WrittenRecord} {name : String} {document : Json}
  {read? : WrittenJson → Option α} {value : α}

theorem required?_of_readsAs (h : document.ReadsAs read? value)
    (hget : Entries.get? record name = some document.printed) :
    record.required? name read? = some value := by
  rw [required?, hget, Option.bind_some, h.read?]

theorem defaulted?_of_readsAs (h : document.ReadsAs read? value)
    (hget : Entries.get? record name = some document.printed) (default : α) :
    record.defaulted? name read? default = some value := by
  rw [defaulted?, hget]
  exact h.read?

end WrittenRecord

/-- The fields of a printed record are found under their keys. -/
theorem WrittenJson.record?_printed {fields : List (String × Json)} {known : List RecordField}
    (hnodup : (known.map (·.name)).Nodup) (hknown : known.map (·.name) = Entries.names fields) :
    (Json.object fields).printed.record? known =
      some (fields.map fun (key, value) => (key, value.printed)) := by
  have hnames : Entries.names (fields.map fun (key, value) => (key, value.printed)) =
      Entries.names fields := List.map_map
  have hfield : ∀ field : String × Json,
      (do return ((← (JsonText.printed field.1).decode?), field.2.printed) : Option _) =
        some (field.1, field.2.printed) := fun field => by
    rw [JsonText.decode?_printed]
    rfl
  rw [Json.printed, Json.printedFields_eq, record?,
    mapM_map_some (h := fun (key, value) => (key, value.printed)) fun field _ => hfield field]
  exact WrittenRecord.ofFields?_eq_some hnodup (hnames ▸ hknown)

end GridStore
