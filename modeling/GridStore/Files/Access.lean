import GridStore.Files.Tree
import GridStore.StoreM

/-!
# Reading and saving texts

A text is read from the file at a path. It is saved in place of what the file had or in a new file,
after the directories in front of it have been made; directories that have been made stay, also if
the text cannot be saved.

## Main definitions

* `FileTree.read`: the text of a file, if there is one.
* `FileTree.makeDirectories`: missing directories made.
* `FileTree.save`: a text saved.

## Main results

* `FileTree.read_of_write?`: a text that has been written is read.
* `FileTree.read_of_save`: a text that has been saved is read.
-/

namespace GridStore

namespace FileTree

/-! ### Reading -/

/-- The text of the file at a path, or none if there is nothing. -/
def read (tree : FileTree) (path : String) : Except StoreError (Option String) :=
  match tree.lead path with
  | .node _ (.text content) => .ok (some content)
  | .node _ _ => .error .unusableFile
  | _ => .ok none

/-! ### Directories -/

/-- The tree with a directory where names lead, if it has one there or the place is free. It is none
if a directory on the way is missing. -/
def makeDirectory (tree : FileTree) (names : List String) : Except StoreError (Option FileTree) :=
  match tree.locate names with
  | .node _ .directory => .ok (some tree)
  | .free place => .ok (some (tree.put place .directory))
  | .missing => .ok none
  | _ => .error .unusableFile

/-- Makes a directory where names lead, which are given from the last one on, and those that are
missing on the way. -/
def makeDirectories : List String → StoreM FileTree Unit
  | [] => return
  | name :: above => do
    let names := (name :: above).reverse
    match ← (← get).makeDirectory names with
    | some tree => set tree
    | none =>
      makeDirectories above
      match ← (← get).makeDirectory names with
      | some tree => set tree
      | none => throw .unusableFile

/-! ### Saving -/

/-- The tree with a text in the file at a path, if there is a file or one can be made. -/
def write? (tree : FileTree) (path content : String) : Option FileTree :=
  match tree.lead path with
  | .node _ .directory => none
  | .node place _ => some (tree.put place (.text content))
  | .free place => some (tree.put place (.text content))
  | _ => none

/-- Makes the directory of a path if there is nothing in its place. -/
def makeParent (path : String) : StoreM FileTree Unit := do
  if parentNames path ≠ [] ∧ !(← get).isPresent (parentNames path) then
    makeDirectories (parentNames path).reverse

/-- Saves a text in the file at a path. -/
def save (path content : String) : StoreM FileTree Unit := do
  makeParent path
  match (← get).write? path content with
  | some tree => set tree
  | none => throw .unusableFile

/-! ### Laws -/

theorem read_of_write? {tree written : FileTree} {path content : String}
    (h : tree.write? path content = some written) : written.read path = .ok (some content) := by
  suffices ∃ place, written.lead path = .node place (.text content) by
    obtain ⟨place, hlead⟩ := this
    simp [read, hlead]
  unfold write? at h
  have hroot : tree.node? [] = some .directory := rfl
  unfold lead locate at h ⊢
  split at h
  · cases h
  · rename_i place node hnode hlead
    simp only [Option.some.injEq] at h
    subst h
    split at hlead
    · cases hlead
    · rename_i hpath
      split at hlead
      · cases hlead
      · rename_i hzero
        refine ⟨place, ?_⟩
        have hd : node ≠ .directory := fun he => hnode he
        have hfollow := follow_put (.text content) hroot hd hlead
        have hne : ([] : Place) ≠ place := by
          rintro rfl
          rw [node?_of_follow hroot hlead] at hroot
          exact hd (Option.some.inj hroot)
        rw [if_neg hne] at hfollow
        rw [if_neg hpath, if_neg hzero]
        exact hfollow
  · rename_i place hlead
    simp only [Option.some.injEq] at h
    subst h
    split at hlead
    · cases hlead
    · rename_i hpath
      split at hlead
      · cases hlead
      · rename_i hzero
        refine ⟨place, ?_⟩
        rw [if_neg hpath, if_neg hzero]
        exact follow_put_free (.text content) hroot hlead
  · cases h

theorem read_of_save {tree saved : FileTree} {path content : String}
    (h : save path content tree = (.ok (), saved)) : saved.read path = .ok (some content) := by
  simp only [save, StoreM.bind_apply, StoreM.get_apply] at h
  rcases hparent : makeParent path tree with ⟨result, made⟩
  rw [hparent] at h
  cases result with
  | error e => cases h
  | ok _ =>
    cases hwrite : made.write? path content with
    | none =>
      simp only [hwrite, StoreM.throw_apply] at h
      cases h
    | some written =>
      simp only [hwrite, StoreM.set_apply] at h
      cases h
      exact read_of_write? hwrite

end FileTree

end GridStore
