import GridStore.Dictionary

/-!
# Trees of files

Directories and files at places of a tree, and where paths lead in it. A path is followed name by
name from the root: an empty name or a point stays where it is, two points lead one directory up,
and every name, also one that stays, needs a directory to be followed from.

## Main definitions

* `FileTree`: what is at which place.
* `FileTree.follow`: where names lead.
* `FileTree.lead`: where a path leads.

## Main results

* `FileTree.follow_put`: names that lead to a file lead to what takes its place.
* `FileTree.follow_put_free`: names that lead to a free place lead to what is put there.
-/

namespace GridStore

/-- A place in a tree: the names of the directories that lead to it from the root, and its own. -/
abbrev Place := List String

/-- What is at a place: a directory, a text, or something that is neither. -/
inductive FileNode where
  | directory
  | text (content : String)
  | unreadable
deriving DecidableEq

/-- Directories and files by their places. The root is a directory. -/
structure FileTree where
  nodes : Dictionary Place FileNode := .empty
deriving DecidableEq

/-- Where names lead: to a node, to a free place in a directory, to nowhere because a directory is
missing, or to nowhere because something on the way is no directory or a name cannot be used. -/
inductive Lead where
  | node (place : Place) (node : FileNode)
  | free (place : Place)
  | missing
  | refused
deriving DecidableEq

/-! ### Names -/

/-- Whether something can have a name: at most 255 bytes. -/
def isUsableName (name : String) : Bool := name.utf8ByteSize ≤ 255

/-- The names of a path, with those that stay where they are. -/
def pathNames (path : String) : List String := path.splitOn "/"

/-- The names of a path that lead on. -/
def leadingNames (path : String) : List String :=
  (pathNames path).filter fun name => name != "" && name != "."

/-- The names that lead to the directory of a path. -/
def parentNames (path : String) : List String := (leadingNames path).dropLast

namespace FileTree

/-! ### Nodes -/

/-- What is at a place. -/
def node? (tree : FileTree) (place : Place) : Option FileNode :=
  if place = [] then some .directory else tree.nodes.get? place

/-- The tree with a node at a place. -/
def put (tree : FileTree) (place : Place) (node : FileNode) : FileTree :=
  ⟨tree.nodes.insert place node⟩

theorem node?_put_self (tree : FileTree) {place : Place} (h : place ≠ []) (node : FileNode) :
    (tree.put place node).node? place = some node := by
  simp [node?, put, h, Dictionary.get?_insert]

theorem node?_put_of_ne (tree : FileTree) {place other : Place} (h : other ≠ place)
    (node : FileNode) : (tree.put place node).node? other = tree.node? other := by
  simp [node?, put, h, Dictionary.get?_insert]

/-! ### Following names -/

/-- The place to which a name leads from another place. -/
def stepTo (here : Place) (name : String) : Place :=
  if name = ".." then here.dropLast else here ++ [name]

/-- Where names lead from a place with a node. -/
def follow (tree : FileTree) (here : Place) (node : FileNode) : List String → Lead
  | [] => .node here node
  | name :: rest =>
    if node ≠ .directory then .refused
    else if name = "" ∨ name = "." then follow tree here node rest
    else if !isUsableName name then .refused
    else match tree.node? (stepTo here name) with
      | some next => follow tree (stepTo here name) next rest
      | none => if rest = [] then .free (stepTo here name) else .missing

/-- Where names lead from the root. Nothing can have a name with a zero character. -/
def locate (tree : FileTree) (names : List String) : Lead :=
  if names.any (·.contains '\x00') then .refused else tree.follow [] .directory names

/-- Where a path leads. The empty path leads nowhere. -/
def lead (tree : FileTree) (path : String) : Lead :=
  if path = "" then .missing else tree.locate (pathNames path)

/-- Whether there is something where names lead. -/
def isPresent (tree : FileTree) (names : List String) : Bool :=
  match tree.locate names with
  | .node .. => true
  | _ => false

/-! ### Laws -/

theorem node?_of_follow {tree : FileTree} {here place : Place} {node found : FileNode}
    {names : List String} (hn : tree.node? here = some node)
    (h : tree.follow here node names = .node place found) : tree.node? place = some found := by
  induction names generalizing here node with
  | nil =>
    simp only [follow, Lead.node.injEq] at h
    obtain ⟨rfl, rfl⟩ := h
    exact hn
  | cons name rest ih =>
    simp only [follow] at h
    split at h
    · cases h
    · split at h
      · exact ih hn h
      · split at h
        · cases h
        · split at h
          · rename_i next hnext
            exact ih hnext h
          · split at h <;> cases h

theorem node?_of_follow_free {tree : FileTree} {here place : Place} {node : FileNode}
    {names : List String} (h : tree.follow here node names = .free place) :
    tree.node? place = none := by
  induction names generalizing here node with
  | nil => cases h
  | cons name rest ih =>
    simp only [follow] at h
    split at h
    · cases h
    · split at h
      · exact ih h
      · split at h
        · cases h
        · split at h
          · exact ih h
          · rename_i hnext
            split at h
            · simp only [Lead.free.injEq] at h
              exact h ▸ hnext
            · cases h

/-- The root is never free. -/
theorem ne_nil_of_node?_eq_none {tree : FileTree} {place : Place} (h : tree.node? place = none) :
    place ≠ [] := by
  rintro rfl
  simp [node?] at h

theorem follow_put {tree : FileTree} {here place : Place} {node old : FileNode}
    {names : List String} (new : FileNode) (hn : tree.node? here = some node)
    (hold : old ≠ .directory) (h : tree.follow here node names = .node place old) :
    (tree.put place new).follow here (if here = place then new else node) names =
      .node place new := by
  have hplace := node?_of_follow hn h
  induction names generalizing here node with
  | nil =>
    simp only [follow, Lead.node.injEq] at h
    simp [follow, h.1]
  | cons name rest ih =>
    have hd : node = .directory := Decidable.byContradiction fun hne => by
      simp [follow, hne] at h
    subst hd
    have hne : here ≠ place := by
      rintro rfl
      rw [hn] at hplace
      exact hold (Option.some.inj hplace).symm
    simp only [hne, if_false, follow, ne_eq, not_true_eq_false] at h ⊢
    split at h
    · rename_i hstay
      simpa [hstay, hne] using ih hn h
    · rename_i hstay
      split at h
      · cases h
      · rename_i husable
        split at h
        · rename_i next hnext
          have := ih hnext h
          by_cases he : stepTo here name = place
          · have hroot : place ≠ [] := by
              rintro rfl
              rw [node?, if_pos rfl] at hplace
              exact hold (Option.some.inj hplace).symm
            rw [he, if_pos rfl] at this
            simp only [hstay, if_false, husable]
            rw [he, node?_put_self tree hroot]
            exact this
          · rw [if_neg he] at this
            simp only [hstay, if_false, husable]
            rw [node?_put_of_ne tree he, hnext]
            exact this
        · split at h <;> cases h

theorem follow_put_free {tree : FileTree} {here place : Place} {node : FileNode}
    {names : List String} (new : FileNode) (hn : tree.node? here = some node)
    (h : tree.follow here node names = .free place) :
    (tree.put place new).follow here node names = .node place new := by
  have hplace := node?_of_follow_free h
  have hroot := ne_nil_of_node?_eq_none hplace
  induction names generalizing here node with
  | nil => cases h
  | cons name rest ih =>
    simp only [follow] at h ⊢
    split at h
    · cases h
    · rename_i hd
      simp only [hd, if_false]
      split at h
      · rename_i hstay
        simpa [hstay] using ih hn h
      · rename_i hstay
        split at h
        · cases h
        · rename_i husable
          simp only [hstay, if_false, husable]
          split at h
          · rename_i next hnext
            have hne : stepTo here name ≠ place := by
              intro he
              rw [he, hplace] at hnext
              cases hnext
            rw [node?_put_of_ne tree hne, hnext]
            exact ih hnext h
          · rename_i hnext
            split at h
            · rename_i hrest
              simp only [Lead.free.injEq] at h
              subst h
              simp [node?_put_self tree hroot, hrest, follow]
            · cases h

end FileTree

end GridStore
