import GridStore.CommandLine.Run

/-!
# Commands at a workplace

A command reads the configuration and the data from a tree of files, and leaves the tree with what
it has saved.

## Main definitions

* `Workplace`: a tree of files with what else a command needs.
* `Workplace.run`: a command at a workplace.
-/

namespace GridStore

/-- A tree of files, where files are looked for in it by default, the time, the identities of new
worksheets, and how rows are sorted. -/
structure Workplace where
  files : FileTree
  places : DefaultPlaces
  clock : Clock
  ids : IdSupply
  sorter : Sorter (Nat × StoredRow) := .insertion

namespace Workplace

/-- A command at a workplace: the text that it prints or its failure, and the workplace after it.
Nothing happens if the configuration cannot be used. -/
def run (settings : Settings) (command : Command) (workplace : Workplace) :
    Except StoreError String × Workplace :=
  match Config.ofFile workplace.files (settings.configFile workplace.places) with
  | .error e => (.error e, workplace)
  | .ok config =>
    let path := settings.dataFile config workplace.places
    let service : FileSheets := ⟨workplace.files, path, workplace.ids, workplace.sorter⟩
    let sheet := settings.spreadsheet config service
    let (result, service) := command.run workplace.clock sheet
    (result, { workplace with files := service.files, ids := service.ids })

end Workplace

end GridStore
