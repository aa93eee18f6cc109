import GridStore.CommandLine.Run
import Std.Time.DateTime.Timestamp

/-!
# Command line

Reads the arguments, the configuration and the data file, runs the command, and makes the
directories and writes the files that are new or have changed.
-/

namespace GridStore

namespace CommandLine

/-- The path from the root of the file system; the empty path stays empty. -/
def fromRoot (path : String) : IO String := do
  if path = "" || path.startsWith "/" then return path
  else return pathIn (← IO.currentDir).toString path

/-- The path of a place. -/
def placePath (place : Place) : String := "/" ++ "/".intercalate place

/-- What is at a place of the file system. -/
def readNode (place : Place) : IO (Option FileNode) := do
  let file := (← IO.currentDir) / placePath place
  if !(← file.pathExists) then return none
  else if ← file.isDir then return some .directory
  else
    try return some (.text (← IO.FS.readFile file))
    catch _ => return some .unreadable

/-- The tree with what is at the places to which the names of a path lead. -/
def load (files : FileTree) (path : String) : IO FileTree := do
  let mut files := files
  let mut here : Place := []
  for name in leadingNames path do
    here := FileTree.stepTo here name
    if let some node ← readNode here then files := files.put here node
  return files

/-- Makes the directories and writes the texts that are not in an old tree. -/
def store (old new : FileTree) : IO Unit := do
  for (place, node) in new.nodes.entries do
    if old.node? place ≠ some node then
      match node with
      | .directory => IO.FS.createDir (placePath place)
      | .text content => IO.FS.writeFile (placePath place) content
      | .unreadable => return

/-- The places of files for one user. -/
def defaultPlaces : IO DefaultPlaces := do
  let directory (setting fallback : String) : IO (Option String) := do
    match (← IO.getEnv setting).filter (·.startsWith "/") with
    | some path => return some path
    | none => return (← IO.getEnv "HOME").map (pathIn · fallback)
  let config ← directory "XDG_CONFIG_HOME" ".config"
  let data ← directory "XDG_DATA_HOME" ".local/share"
  return {
    configDirectory := (config.map (pathIn · "sheetdb")).getD "."
    dataFile := (data.map fun path => pathIn (pathIn path "sheetdb") "sheets.json").getD
      "sheets.json" }

/-- The time that the system shows. -/
def systemClock : IO Clock := do
  let now := (← Std.Time.Timestamp.now).toNanosecondsSinceUnixEpoch.val.toNat
  return { instant := (Instant.startOf ⟨1970, 1, 1, by decide, by decide⟩).later now }

/-- The last seven hexadecimal digits of a number. -/
def sevenDigits (n : Nat) : String :=
  let digits := Nat.toDigits 16 (n % 0x10000000)
  String.ofList (List.replicate (7 - digits.length) '0' ++ digits)

/-- A supply of identities from a random one on. -/
def freshIds : IO IdSupply := do
  let first ← IO.rand 0 0xfffffff
  return { stream := fun n => sevenDigits (first + n) }

/-- The help text. -/
def helpText : String :=
  "Query and edit spreadsheet rows with JSON documents\n\n" ++
  "Usage: sheetdb [OPTIONS] <COMMAND>\n\n" ++
  "Commands:\n" ++
  "  info                                    Show the spreadsheet and its worksheets\n" ++
  "  create-worksheet <TITLE>                Create a worksheet [--rows N] [--cols N]\n" ++
  "  drop-worksheet <TITLE>                  Drop a worksheet\n" ++
  "  columns <WORKSHEET>                     List the columns of a worksheet\n" ++
  "  find <WORKSHEET> [FILTER]               Print matching rows as JSON lines\n" ++
  "                                          [--skip N] [--limit N] [--sort COLUMN]\n" ++
  "                                          [--descending]\n" ++
  "  insert <WORKSHEET> <DOCUMENTS>          Insert one document or an array of documents\n" ++
  "  update <WORKSHEET> <SELECTOR> <UPDATE>  Update matching rows [--multiple] [--upsert]\n" ++
  "  remove <WORKSHEET> <SELECTOR>           Remove matching rows [--just-one]\n\n" ++
  "Options:\n" ++
  "  -s, --sheet <SHEET>    Spreadsheet to operate on\n" ++
  "      --data <DATA>      Spreadsheet data file\n" ++
  "      --config <CONFIG>  Directory holding sheetdb.json\n" ++
  "      --token <TOKEN>    Access token, required for creating and dropping worksheets\n" ++
  "  -v, --verbose          Verbose output\n" ++
  "  -h, --help             Print help\n"

/-- Reports a failure. A run that breaks off ends with a status of its own. -/
def report (e : StoreError) : IO UInt32 := do
  IO.eprintln ("Error: " ++ e.message)
  match e with
  | .brokenOff => return 101
  | _ => return 1

/-- Runs a command with the files of the system, which are written if they have changed. -/
def execute (settings : Settings) (command : Command) : IO UInt32 := do
  let places ← defaultPlaces
  let configPath ← fromRoot (settings.configFile places)
  let files ← load {} configPath
  match Config.ofFile files configPath with
  | .error e => report e
  | .ok config =>
    let path ← fromRoot (settings.dataFile config places)
    let files ← load files path
    let sheet := settings.spreadsheet config { files, path, ids := ← freshIds }
    let (result, service) := command.run (← systemClock) sheet
    let stored ← try store files service.files; pure true
      catch _ => pure false
    match result with
    | .error e => report e
    | .ok text =>
      if stored then
        IO.print text
        return 0
      else
        report .unusableFile

end CommandLine

end GridStore

/-- The program. -/
def main (arguments : List String) : IO UInt32 :=
  match GridStore.Invocation.ofArguments arguments with
  | .run settings command => GridStore.CommandLine.execute settings command
  | .help => do
    IO.print GridStore.CommandLine.helpText
    return 0
  | .fault => do
    IO.eprintln "error: invalid arguments, see --help"
    return 2
