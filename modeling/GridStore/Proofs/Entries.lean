import GridStore.Entries
import GridStore.Proofs.Dictionary

/-!
# Names and values of entries

## Main definitions

* `Entries.revise`: entries with the value of each name changed.

## Main results

* `Entries.revise_eq_map`: if names are distinct, changing the value of each name changes all.
* `Entries.nodup_names_set`: setting a name keeps the names distinct.
* `Entries.mem_set_of_nodup`: if names are distinct, setting one replaces all that it had.
* `Entries.get?_erase`: if names are distinct, erasing one takes away its value and no other.
* `Entries.ofList_of_nodup`: entries with distinct names, set one after another.
* `Entries.get?_perm`: if names are distinct, their values do not depend on the order of entries.
* `Dictionary.get?_ofList`: the dictionary of entries with distinct names has their values.
-/

namespace GridStore

namespace Entries

variable {α β : Type}

/-! ### Members -/

theorem mem_of_get? {entries : Entries α} {name : String} {value : α}
    (h : get? entries name = some value) : (name, value) ∈ entries := by
  induction entries with
  | nil => cases h
  | cons entry rest ih =>
    obtain ⟨key, old⟩ := entry
    rw [get?] at h
    split at h
    case isTrue heq =>
      cases h
      exact heq ▸ List.mem_cons_self ..
    case isFalse => exact List.mem_cons_of_mem _ (ih h)

theorem mem_set {entries : Entries α} {name : String} {value : α} {entry : String × α}
    (h : entry ∈ set entries name value) : entry = (name, value) ∨ entry ∈ entries := by
  induction entries with
  | nil => exact .inl (List.mem_singleton.1 h)
  | cons first rest ih =>
    obtain ⟨key, old⟩ := first
    rw [set] at h
    split at h
    case isTrue heq =>
      rw [heq] at h
      exact (List.mem_cons.1 h).imp_right (List.mem_cons_of_mem _)
    case isFalse =>
      rcases List.mem_cons.1 h with rfl | hrest
      · exact .inr (List.mem_cons_self ..)
      · exact (ih hrest).imp_right (List.mem_cons_of_mem _)

theorem erase_sublist (entries : Entries α) (name : String) :
    (erase entries name).Sublist entries := by
  induction entries with
  | nil => exact .refl _
  | cons first rest ih =>
    obtain ⟨key, old⟩ := first
    rw [erase]
    split
    · exact List.sublist_cons_self ..
    · exact ih.cons_cons _

/-! ### Names -/

theorem mem_names_of_get? {entries : Entries α} {name : String} {value : α}
    (h : get? entries name = some value) : name ∈ names entries :=
  List.mem_map_of_mem (mem_of_get? h)

theorem get?_eq_none_iff {entries : Entries α} {name : String} :
    get? entries name = none ↔ name ∉ names entries := by
  induction entries with
  | nil => exact iff_of_true rfl List.not_mem_nil
  | cons first rest ih =>
    obtain ⟨key, value⟩ := first
    rw [get?, names, List.map_cons, List.mem_cons, not_or]
    split
    case isTrue heq => exact iff_of_false (Option.some_ne_none value) fun h => h.1 heq.symm
    case isFalse hne => exact ih.trans (and_iff_right (Ne.symm hne)).symm

theorem isSome_get?_iff {entries : Entries α} {name : String} :
    (get? entries name).isSome = true ↔ name ∈ names entries := by
  rw [Option.isSome_iff_ne_none, Ne, get?_eq_none_iff, Decidable.not_not]

/-- If names are distinct, the value of each entry is that of its name. -/
theorem get?_of_mem {entries : Entries α} (hnodup : (names entries).Nodup) {entry : String × α}
    (h : entry ∈ entries) : get? entries entry.1 = some entry.2 := by
  induction entries with
  | nil => cases h
  | cons first rest ih =>
    obtain ⟨hkey, hrest⟩ := List.nodup_cons.1 hnodup
    rcases List.mem_cons.1 h with rfl | hmem
    · exact if_pos rfl
    · have hname : entry.1 ∈ names rest := List.mem_map_of_mem hmem
      have hne : first.1 ≠ entry.1 := fun heq => hkey (heq ▸ hname)
      exact (if_neg hne).trans (ih hrest hmem)

/-- Setting a name keeps the names distinct. -/
theorem nodup_names_set {entries : Entries α} (h : (names entries).Nodup) (name : String)
    (value : α) : (names (set entries name value)).Nodup := by
  rw [names_set]
  split
  case isTrue => exact h
  case isFalse hnew =>
    refine List.nodup_append.2 ⟨h, List.pairwise_singleton _ name, fun old hold new hnew' heq => ?_⟩
    rw [heq, List.mem_singleton.1 hnew'] at hold
    exact hnew hold

/-- A new name is set at the end. -/
theorem set_of_not_mem {entries : Entries α} {name : String} (h : name ∉ names entries)
    (value : α) : set entries name value = entries ++ [(name, value)] := by
  induction entries with
  | nil => rfl
  | cons first rest ih =>
    obtain ⟨hfirst, hrest⟩ := not_or.1 fun hor => h (List.mem_cons.2 hor)
    rw [set, if_neg (Ne.symm hfirst), ih hrest, List.cons_append]

/-- If names are distinct, erasing a name takes its value away, and no other. -/
theorem get?_erase {entries : Entries α} (hnodup : (names entries).Nodup) (name other : String) :
    get? (erase entries name) other = if name = other then none else get? entries other := by
  induction entries with
  | nil => exact (ite_self none).symm
  | cons first rest ih =>
    obtain ⟨key, value⟩ := first
    obtain ⟨hkey, hrest⟩ := List.nodup_cons.1 hnodup
    rw [erase]
    by_cases hname : key = name
    · subst hname
      by_cases hother : key = other
      · rw [if_pos rfl, if_pos hother, ← hother]
        exact get?_eq_none_iff.2 hkey
      · rw [if_pos rfl, if_neg hother, get?, if_neg hother]
    · rw [if_neg hname, get?, ih hrest]
      by_cases hother : key = other
      · rw [if_pos hother, if_neg fun heq => hname (hother.trans heq.symm), get?, if_pos hother]
      · rw [if_neg hother, get?, if_neg hother]

theorem nodup_names_erase {entries : Entries α} (h : (names entries).Nodup) (name : String) :
    (names (erase entries name)).Nodup :=
  h.sublist ((erase_sublist entries name).map Prod.fst)

/-- Entries with distinct names are determined by the order of the names and their values. -/
theorem ext_of_nodup {entries others : Entries α} (hnodup : (names entries).Nodup)
    (hnames : names entries = names others) (h : ∀ name, get? entries name = get? others name) :
    entries = others := by
  induction entries generalizing others with
  | nil => exact (List.map_eq_nil_iff.1 hnames.symm).symm
  | cons first rest ih =>
    cases others with
    | nil => cases hnames
    | cons first' rest' =>
      obtain ⟨key, value⟩ := first
      obtain ⟨key', value'⟩ := first'
      obtain ⟨rfl, hsame⟩ : key = key' ∧ names rest = names rest' := List.cons.inj hnames
      obtain ⟨hkey, hrest⟩ := List.nodup_cons.1 hnodup
      have hvalue : value = value' := by simpa [get?] using h key
      rw [hvalue, ih hrest hsame fun name => ?_]
      by_cases hname : key = name
      · subst hname
        rw [get?_eq_none_iff.2 hkey, get?_eq_none_iff.2 (hsame ▸ hkey)]
      · simpa [get?, hname] using h name

/-- If names are distinct, an entry of a name that was set is the one that was set. -/
theorem mem_set_of_nodup {entries : Entries α} (hnodup : (names entries).Nodup) {name : String}
    {value : α} {entry : String × α} (h : entry ∈ set entries name value) :
    entry = (name, value) ∨ (entry ∈ entries ∧ entry.1 ≠ name) := by
  induction entries with
  | nil => exact .inl (List.mem_singleton.1 h)
  | cons first rest ih =>
    obtain ⟨key, old⟩ := first
    obtain ⟨hkey, hrest⟩ := List.nodup_cons.1 hnodup
    rw [set] at h
    split at h
    case isTrue heq =>
      subst heq
      rcases List.mem_cons.1 h with rfl | hmem
      · exact .inl rfl
      · have hother : entry.1 ∈ names rest := List.mem_map_of_mem hmem
        exact .inr ⟨List.mem_cons_of_mem _ hmem, fun heq => hkey (heq ▸ hother)⟩
    case isFalse hne =>
      rcases List.mem_cons.1 h with rfl | hmem
      · exact .inr ⟨List.mem_cons_self .., hne⟩
      · exact (ih hrest hmem).imp_right (.imp_left (List.mem_cons_of_mem _))

theorem get?_map (f : α → β) (entries : Entries α) (name : String) :
    get? (entries.map fun (key, value) => (key, f value)) name = (get? entries name).map f := by
  induction entries with
  | nil => rfl
  | cons entry rest ih =>
    rw [List.map_cons, get?, get?, ih]
    split <;> rfl

/-! ### Entries with other values -/

/-- The entries with the value of each name changed, that of its first entry. -/
def revise (f : String → α → α) : Entries α → Entries α
  | [] => []
  | (key, value) :: rest =>
    (key, f key value) :: revise (fun name => if key = name then id else f name) rest

theorem names_revise (f : String → α → α) (entries : Entries α) :
    names (revise f entries) = names entries := by
  induction entries generalizing f with
  | nil => rfl
  | cons entry rest ih => exact congrArg (entry.1 :: ·) (ih _)

theorem get?_revise (f : String → α → α) (entries : Entries α) (name : String) :
    get? (revise f entries) name = (get? entries name).map (f name) := by
  induction entries generalizing f with
  | nil => rfl
  | cons entry rest ih =>
    obtain ⟨key, value⟩ := entry
    rw [revise, get?, get?, ih]
    by_cases hkey : key = name
    · rw [if_pos hkey, if_pos hkey, hkey]
      rfl
    · rw [if_neg hkey, if_neg hkey, if_neg hkey]

theorem revise_congr {f g : String → α → α} {entries : Entries α}
    (h : ∀ name ∈ names entries, f name = g name) : revise f entries = revise g entries := by
  induction entries generalizing f g with
  | nil => rfl
  | cons entry rest ih =>
    obtain ⟨hkey, hrest⟩ := List.forall_mem_cons.1 h
    rw [revise, revise, hkey]
    refine congrArg (_ :: ·) (ih fun name hmem => ?_)
    rw [hrest name hmem]

theorem revise_id (entries : Entries α) : revise (fun _ => id) entries = entries := by
  induction entries with
  | nil => rfl
  | cons entry rest ih =>
    rw [revise]
    simp only [ite_self, ih, id]

/-- Values that are changed twice are changed by both changes. -/
theorem revise_revise (f g : String → α → α) (entries : Entries α) :
    revise f (revise g entries) = revise (fun name => f name ∘ g name) entries := by
  induction entries generalizing f g with
  | nil => rfl
  | cons entry rest ih =>
    rw [revise, revise, revise, ih]
    refine congrArg (_ :: revise · rest) (funext fun name => ?_)
    split <;> rfl

/-- If names are distinct, the value of each entry is changed. -/
theorem revise_eq_map {entries : Entries α} (hnodup : (names entries).Nodup)
    (f : String → α → α) :
    revise f entries = entries.map fun (name, value) => (name, f name value) := by
  induction entries with
  | nil => rfl
  | cons entry rest ih =>
    obtain ⟨hkey, hrest⟩ := List.nodup_cons.1 hnodup
    rw [revise, List.map_cons, ← ih hrest]
    refine congrArg (_ :: ·) (revise_congr fun name hmem => if_neg fun heq => ?_)
    exact hkey (heq ▸ hmem)

/-- Setting a name that is present changes its value. -/
theorem set_eq_revise {entries : Entries α} {name : String} {value : α}
    (h : get? entries name = some value) (f : α → α) :
    set entries name (f value) =
      revise (fun other => if name = other then f else id) entries := by
  induction entries with
  | nil => cases h
  | cons entry rest ih =>
    obtain ⟨key, old⟩ := entry
    rw [get?] at h
    rw [set, revise]
    by_cases hkey : key = name
    · subst hkey
      rw [if_pos rfl, Option.some.injEq] at h
      subst h
      rw [if_pos rfl, if_pos rfl]
      refine congrArg (_ :: ·) ((revise_id rest).symm.trans (revise_congr fun other _ => ?_))
      split <;> rfl
    · rw [if_neg hkey] at h
      rw [if_neg hkey, if_neg (Ne.symm hkey), ih h]
      refine congrArg (_ :: ·) (revise_congr fun other _ => ?_)
      by_cases hother : key = other
      · rw [if_pos hother, if_neg fun heq => hkey (hother.trans heq.symm)]
      · rw [if_neg hother]

/-! ### Entries in another order -/

/-- The value of a name does not depend on the order of entries with distinct names. -/
theorem get?_perm {entries others : Entries α} (h : entries.Perm others)
    (hnodup : (names entries).Nodup) (name : String) : get? entries name = get? others name := by
  induction h with
  | nil => rfl
  | cons entry _ ih =>
    rw [get?, get?, ih (List.nodup_cons.1 hnodup).2]
  | swap first second rest =>
    have hne : second.1 ≠ first.1 := by
      intro heq
      rw [names, List.map_cons, List.map_cons, heq] at hnodup
      exact (List.nodup_cons.1 hnodup).1 (List.mem_cons_self ..)
    simp only [get?]
    split <;> split
    case isTrue.isTrue hsecond hfirst => exact absurd (hsecond.trans hfirst.symm) hne
    all_goals rfl
  | trans hab _ ihab ihbc =>
    exact (ihab hnodup).trans (ihbc ((hab.map Prod.fst).nodup_iff.1 hnodup))

theorem get?_append (entries others : Entries α) (name : String) :
    get? (entries ++ others) name = (get? entries name).or (get? others name) := by
  induction entries with
  | nil => rfl
  | cons entry rest ih =>
    rw [List.cons_append, get?, get?, ih]
    split <;> rfl

/-! ### Entries of a list -/

/-- A list of entries, set one after another, has each name once. -/
theorem nodup_names_ofList (entries : List (String × α)) : (names (ofList entries)).Nodup := by
  have hfold : ∀ (entries : List (String × α)) (done : Entries α), (names done).Nodup →
      (names (entries.foldl (fun done (name, value) => set done name value) done)).Nodup := by
    intro entries
    induction entries with
    | nil => exact fun _ => id
    | cons entry rest ih => exact fun done hdone => ih _ (nodup_names_set hdone entry.1 entry.2)
  exact hfold entries [] List.nodup_nil

/-- Entries with distinct names, set one after another, are these entries. -/
theorem ofList_of_nodup {entries : List (String × α)} (h : (names entries).Nodup) :
    ofList entries = entries := by
  have hfold : ∀ (entries : List (String × α)) (done : Entries α),
      (names (done ++ entries)).Nodup →
        entries.foldl (fun done (name, value) => set done name value) done = done ++ entries := by
    intro entries
    induction entries with
    | nil => exact fun done _ => (List.append_nil done).symm
    | cons entry rest ih =>
      obtain ⟨name, value⟩ := entry
      intro done hnodup
      have hnew : name ∉ names done := fun hold => by
        rw [names, List.map_append, List.map_cons] at hnodup
        exact (List.nodup_append.1 hnodup).2.2 _ hold _ (List.mem_cons_self ..) rfl
      rw [List.append_cons] at hnodup ⊢
      rw [List.foldl_cons]
      simp only [set_of_not_mem hnew]
      exact ih _ hnodup
  exact hfold entries [] h

theorem mem_ofList {entries : List (String × α)} {entry : String × α} (h : entry ∈ ofList entries) :
    entry ∈ entries := by
  have hfold : ∀ (entries : List (String × α)) (done : Entries α),
      entry ∈ entries.foldl (fun done (name, value) => set done name value) done →
        entry ∈ done ∨ entry ∈ entries := by
    intro entries
    induction entries with
    | nil => exact fun _ => .inl
    | cons first rest ih =>
      intro done hmem
      rcases ih _ hmem with hdone | hrest
      · rcases mem_set hdone with rfl | hold
        · exact .inr (List.mem_cons_self ..)
        · exact .inl hold
      · exact .inr (List.mem_cons_of_mem _ hrest)
  exact (hfold entries [] h).resolve_left List.not_mem_nil

end Entries

/-- The dictionary of entries with distinct names has their values. -/
theorem Dictionary.get?_ofList {α : Type} {entries : Entries α}
    (h : (Entries.names entries).Nodup) (name : String) :
    (ofList entries).get? name = Entries.get? entries name := by
  have hfold : ∀ (entries : Entries α) (d : Dictionary String α),
      (Entries.names entries).Nodup →
      (entries.foldl (fun d (key, value) => d.insert key value) d).get? name =
        (Entries.get? entries name).or (d.get? name) := by
    intro entries
    induction entries with
    | nil => exact fun d _ => rfl
    | cons entry rest ih =>
      intro d hnodup
      obtain ⟨key, value⟩ := entry
      obtain ⟨hkey, hrest⟩ := List.nodup_cons.1 hnodup
      rw [List.foldl_cons, ih _ hrest, Entries.get?]
      by_cases heq : key = name
      · subst heq
        rw [Entries.get?_eq_none_iff.2 hkey, get?_insert_self, if_pos rfl]
        rfl
      · rw [get?_insert_of_ne _ (Ne.symm heq), if_neg heq]
  rw [ofList, hfold entries empty h]
  cases Entries.get? entries name <;> rfl

end GridStore
