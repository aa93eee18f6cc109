import GridStore.Files.Access
import GridStore.Proofs.StoreM

/-!
# Saving again

Once a text has been saved in a file, its directory is there and the file is a text, so that any
other text can be saved in its place. Whether a first text can be saved does not depend on the text.

## Main definitions

* `FileTree.Accepts`: whether every text can be saved at a path.

## Main results

* `FileTree.accepts_of_save`: a path at which one text can be saved accepts all.
* `FileTree.Accepts.saved`: a path accepts texts after a text has been saved.
* `FileTree.error_of_save`: saving fails as the file cannot be used.
-/

namespace GridStore

namespace FileTree

variable {tree : FileTree} {here place : Place} {node found : FileNode} {names : List String}

/-! ### Directories on the way -/

/-- Names lead to a node if the first one is followed from a directory, and the others lead there
from where it stays or leads to. -/
theorem follow_cons_eq_node_iff {name : String} :
    tree.follow here node (name :: names) = .node place found ↔
      node = .directory ∧
        (((name = "" ∨ name = ".") ∧ tree.follow here node names = .node place found) ∨
          (¬(name = "" ∨ name = ".") ∧ isUsableName name = true ∧
            ∃ next, tree.node? (stepTo here name) = some next ∧
              tree.follow (stepTo here name) next names = .node place found)) := by
  rw [follow]
  by_cases hdirectory : node = .directory
  · rw [if_neg (not_not_intro hdirectory)]
    by_cases hstays : name = "" ∨ name = "."
    · rw [if_pos hstays]
      exact ⟨fun h => ⟨hdirectory, .inl ⟨hstays, h⟩⟩,
        fun h => h.2.elim And.right fun h => absurd hstays h.1⟩
    · rw [if_neg hstays]
      cases husable : isUsableName name with
      | false => simp [hstays]
      | true =>
        cases hnext : tree.node? (stepTo here name) with
        | some next => simp [hdirectory, hstays]
        | none =>
          have hnot : (if names = [] then Lead.free (stepTo here name) else .missing) ≠
              .node place found := by split <;> simp
          simp [hstays, hnot]
  · rw [if_pos hdirectory]
    exact ⟨fun h => (by cases h), fun h => absurd h.1 hdirectory⟩

/-- Names that stay can be left out of what leads to a node. -/
theorem follow_filter (h : tree.follow here node names = .node place found) :
    tree.follow here node (names.filter fun name => name != "" && name != ".") =
      .node place found := by
  induction names generalizing here node with
  | nil => exact h
  | cons name rest ih =>
    obtain ⟨hdirectory, ⟨hstays, hrest⟩ | ⟨hleads, husable, next, hnext, hrest⟩⟩ :=
      follow_cons_eq_node_iff.1 h
    · rw [List.filter_cons_of_neg (by rcases hstays with rfl | rfl <;> decide)]
      exact ih hrest
    · rw [List.filter_cons_of_pos (by simpa using hleads)]
      exact follow_cons_eq_node_iff.2
        ⟨hdirectory, .inr ⟨hleads, husable, next, hnext, ih hrest⟩⟩

/-- The names in front of the last one lead to a directory. -/
theorem follow_dropLast (hnames : names ≠ [])
    (h : tree.follow here node names = .node place found) :
    ∃ above, tree.follow here node names.dropLast = .node above .directory := by
  induction names generalizing here node with
  | nil => exact absurd rfl hnames
  | cons name rest ih =>
    obtain ⟨rfl, hrest⟩ := follow_cons_eq_node_iff.1 h
    rcases List.eq_nil_or_concat rest with rfl | ⟨init, last, hconcat⟩
    · exact ⟨here, rfl⟩
    · have hne : rest ≠ [] := by
        rw [hconcat]
        simp
      rw [List.dropLast_cons_of_ne_nil hne]
      rcases hrest with ⟨hstays, hrest⟩ | ⟨hleads, husable, next, hnext, hrest⟩
      · obtain ⟨above, habove⟩ := ih hne hrest
        exact ⟨above, follow_cons_eq_node_iff.2 ⟨rfl, .inl ⟨hstays, habove⟩⟩⟩
      · obtain ⟨above, habove⟩ := ih hne hrest
        exact ⟨above, follow_cons_eq_node_iff.2
          ⟨rfl, .inr ⟨hleads, husable, next, hnext, habove⟩⟩⟩

theorem any_contains_parentNames {path : String} {c : Char}
    (h : ¬(pathNames path).any (·.contains c) = true) :
    ¬(parentNames path).any (·.contains c) = true := by
  rw [List.any_eq_true] at h ⊢
  rintro ⟨name, hname, hc⟩
  exact h ⟨name, (List.mem_filter.1 ((List.dropLast_sublist _).subset hname)).1, hc⟩

/-- There is a directory in front of what a path leads to. -/
theorem isPresent_parentNames {path : String} (h : tree.lead path = .node place found) :
    tree.isPresent (parentNames path) = true := by
  rw [lead] at h
  split at h
  case isTrue => cases h
  case isFalse =>
    rw [locate] at h
    split at h
    case isTrue => cases h
    case isFalse hzero =>
      have hleading : tree.follow [] .directory (leadingNames path) = .node place found :=
        follow_filter h
      obtain ⟨above, habove⟩ :
          ∃ above, tree.follow [] .directory (parentNames path) = .node above .directory := by
        by_cases hnames : leadingNames path = []
        · exact ⟨[], by rw [parentNames, hnames]; rfl⟩
        · exact follow_dropLast hnames hleading
      rw [isPresent, locate, if_neg (any_contains_parentNames hzero), habove]

/-! ### Saving -/

variable {path content : String} {saved : FileTree}

theorem save_apply (path content : String) (tree : FileTree) :
    save path content tree = match makeParent path tree with
      | (.error e, made) => (.error e, made)
      | (.ok _, made) => match made.write? path content with
        | some written => (.ok (), written)
        | none => (.error .unusableFile, made) := by
  simp only [save, StoreM.bind_apply, StoreM.get_apply]
  rcases makeParent path tree with ⟨_ | _, made⟩
  · rfl
  · simp only
    cases made.write? path content <;> rfl

/-- No directory is made if none is named or it is there. -/
theorem makeParent_eq (h : parentNames path = [] ∨ tree.isPresent (parentNames path) = true) :
    makeParent path tree = (.ok (), tree) := by
  have hthere : ¬(parentNames path ≠ [] ∧ (!tree.isPresent (parentNames path)) = true) := by
    rintro ⟨hnames, habsent⟩
    rcases h with hroot | hpresent
    · exact hnames hroot
    · rw [hpresent] at habsent
      cases habsent
  simp only [makeParent, StoreM.bind_apply, StoreM.get_apply, if_neg hthere]
  rfl

/-- Whether every text can be saved at a path. -/
def Accepts (tree : FileTree) (path : String) : Prop :=
  ∀ content, (save path content tree).1 = .ok ()

theorem isSome_write? (tree : FileTree) (path content other : String) :
    (tree.write? path content).isSome = (tree.write? path other).isSome := by
  rw [write?, write?]
  split <;> rfl

/-- A path at which one text can be saved accepts all. -/
theorem accepts_of_save (h : (save path content tree).1 = .ok ()) : tree.Accepts path := by
  intro other
  rw [save_apply] at h ⊢
  rcases hparent : makeParent path tree with ⟨e | u, made⟩ <;> rw [hparent] at h
  · cases h
  · have hsome := isSome_write? made path content other
    simp only at h ⊢
    cases hother : made.write? path other with
    | some written => rfl
    | none =>
      rw [hother] at hsome
      rw [Option.isNone_iff_eq_none.1 (Option.isSome_eq_false_iff.1 hsome)] at h
      cases h

/-- A path at which a text is read accepts other texts: its directory is there. -/
theorem accepts_of_read (h : tree.read path = .ok (some content)) : tree.Accepts path := by
  intro other
  rw [read] at h
  split at h
  case h_1 place old hlead =>
    have hparent := makeParent_eq (.inr (isPresent_parentNames hlead))
    have hwrite : tree.write? path other = some (tree.put place (.text other)) := by
      rw [write?, hlead]
    rw [save_apply, hparent]
    simp only [hwrite]
  case h_2 => cases h
  case h_3 => cases h

/-- A path accepts texts after a text has been saved there. -/
theorem accepts_of_saved (h : save path content tree = (.ok (), saved)) : saved.Accepts path :=
  accepts_of_read (read_of_save h)

/-! ### Failures -/

theorem ends_get (tree : FileTree) :
    StoreM.Ends (get : StoreM FileTree FileTree) tree (fun _ _ => True)
      fun e _ => e = .unusableFile := ⟨trivial⟩

theorem ends_makeDirectory (names : List String) (tree s : FileTree) :
    StoreM.Ends (liftM (tree.makeDirectory names) : StoreM FileTree _) s (fun _ _ => True)
      fun e _ => e = .unusableFile := by
  rw [makeDirectory]
  split
  case h_4 => exact ⟨rfl⟩
  all_goals exact ⟨trivial⟩

theorem ends_makeDirectories (names : List String) (tree : FileTree) :
    StoreM.Ends (makeDirectories names) tree (fun _ _ => True) fun e _ => e = .unusableFile := by
  induction names generalizing tree with
  | nil => exact ⟨trivial⟩
  | cons name above ih =>
    have hmake : ∀ tree : FileTree, StoreM.Ends
        (do liftM ((← get).makeDirectory (name :: above).reverse) : StoreM FileTree _) tree
        (fun _ _ => True) fun e _ => e = .unusableFile := fun tree =>
      (ends_get tree).bind fun now s _ => ends_makeDirectory _ now s
    rw [makeDirectories]
    refine (hmake tree).bind fun made s _ => ?_
    cases made with
    | some made => exact ⟨trivial⟩
    | none =>
      refine (ih s).bind fun _ s _ => (hmake s).bind fun made s _ => ?_
      cases made with
      | some made => exact ⟨trivial⟩
      | none => exact ⟨rfl⟩

theorem ends_makeParent (path : String) (tree : FileTree) :
    StoreM.Ends (makeParent path) tree (fun _ _ => True) fun e _ => e = .unusableFile := by
  refine (ends_get tree).bind fun now s _ => ?_
  split
  · exact ends_makeDirectories _ s
  · exact ⟨trivial⟩

/-- A text that cannot be saved fails as files cannot be used. -/
theorem error_of_save {e : StoreError} (h : save path content tree = (.error e, saved)) :
    e = .unusableFile := by
  rw [save_apply] at h
  rcases hparent : makeParent path tree with ⟨cause | u, made⟩ <;> rw [hparent] at h
  · cases h
    exact (StoreM.ends_error hparent).1 (ends_makeParent path tree)
  · simp only at h
    split at h
    · cases h
    · cases h
      rfl

end FileTree

end GridStore
