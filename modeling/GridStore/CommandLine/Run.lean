import GridStore.Client.Documents
import GridStore.CommandLine.Command
import GridStore.Json.Printer
import GridStore.Service.File
import GridStore.Spreadsheet

/-!
# Running commands

A command works on a spreadsheet in a data file. It yields the text that it prints, or a failure,
and the service after it.

## Main definitions

* `DefaultPlaces`: where files are looked for by default.
* `Settings.configFile`, `Settings.dataFile`: where they are looked for.
* `Settings.spreadsheet`: the spreadsheet to work on.
* `Command.run`: a command on a spreadsheet.
-/

namespace GridStore

/-- The directory of the configuration and the data file that are used if no others are given. -/
structure DefaultPlaces where
  configDirectory : String
  dataFile : String

/-! ### Settings -/

/-- A path in a directory. -/
def pathIn (directory name : String) : String :=
  if directory.endsWith "/" then directory ++ name else directory ++ "/" ++ name

namespace Settings

/-- The path of the configuration. -/
def configFile (settings : Settings) (places : DefaultPlaces) : String :=
  pathIn (settings.config.getD places.configDirectory) Config.fileName

/-- The path of the data: as given on the command line, else in the configuration. -/
def dataFile (settings : Settings) (config : Config) (places : DefaultPlaces) : String :=
  (settings.data.or config.dataFile).getD places.dataFile

/-- The spreadsheet to work on, open through a client with the token that is given on the command
line, else in the configuration. Empty tokens are no tokens. -/
def spreadsheet (settings : Settings) (config : Config) (service : FileSheets) :
    Spreadsheet FileSheets :=
  let client := Client.ofConfig service config
  let client := match settings.token.filter (· != "") with
    | some token => client.withToken token
    | none => client
  { id := settings.sheet, client }

end Settings

/-! ### Printed text -/

/-- Lines, each with an end. -/
def linesText (lines : List String) : String := String.join (lines.map (· ++ "\n"))

/-- The lines about a spreadsheet and its worksheets. -/
def SheetInfo.lines (info : SheetInfo) (id : String) : List String :=
  (info.title ++ " (" ++ id ++ ")") ::
    ((info.updated.map fun t => "updated " ++ t.cellText).toList ++
      info.worksheets.map fun ws =>
        "  " ++ ws.title ++ " " ++ ws.worksheetId ++ " " ++ countText ws.rowCount ++ "x" ++
          countText ws.colCount)

/-- A line for each row, with its document. -/
def rowLines (rows : List Row) : List String := rows.map fun row => row.toJson.compact

/-! ### Commands -/

/-- The document that an argument writes. -/
def readDocument (text : String) : Except StoreError Json :=
  match Json.read? text with
  | some document => .ok document
  | none => .error .unreadableDocument

namespace Command

/-- What a command does with a spreadsheet, and the lines that it prints. -/
def lines (clock : Clock) : Command → StoreM (Spreadsheet FileSheets) (List String)
  | info => do
    let description ← Spreadsheet.info clock
    return description.lines (← get).id
  | createWorksheet title size => do
    let ws ← Spreadsheet.createWorksheet clock title size
    return ["Worksheet ready: " ++ ws.title ++ " (" ++ ws.worksheetId ++ ")"]
  | dropWorksheet title => do
    Spreadsheet.dropWorksheet clock title
    return ["Worksheet dropped: " ++ title]
  | columns worksheet => do
    let ws ← Spreadsheet.worksheet clock worksheet
    Spreadsheet.onClient (Client.columns clock ws)
  | find worksheet filter options => do
    let ws ← Spreadsheet.worksheet clock worksheet
    let filter ← readDocument filter
    return rowLines (← Spreadsheet.onClient (Client.findDocument clock ws filter options))
  | insert worksheet documents => do
    let ws ← Spreadsheet.worksheet clock worksheet
    let documents ← readDocument documents
    return rowLines (← Spreadsheet.onClient (Client.insertDocuments clock ws documents))
  | update worksheet selector change options => do
    let ws ← Spreadsheet.worksheet clock worksheet
    let selector ← readDocument selector
    let change ← readDocument change
    return rowLines
      (← Spreadsheet.onClient (Client.updateDocument clock ws selector change options))
  | remove worksheet selector options => do
    let ws ← Spreadsheet.worksheet clock worksheet
    let selector ← readDocument selector
    let count ← Spreadsheet.onClient (Client.removeDocument clock ws selector options)
    return ["Removed rows: " ++ countText count]

/-- A command on a spreadsheet: the text that it prints or its failure, and the service after it. -/
def run (command : Command) (clock : Clock) (sheet : Spreadsheet FileSheets) :
    Except StoreError String × FileSheets :=
  let (result, sheet) := command.lines clock sheet
  (result.map linesText, sheet.client.service)

end Command

end GridStore
