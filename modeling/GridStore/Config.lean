import GridStore.Files.Access
import GridStore.Json.Reader
import GridStore.Json.Record

/-!
# Configurations

How many writes may be under way at once, how answers are cached, where the data are, and the token
that gives access.

## Main definitions

* `Config`: configurations.
* `Config.ofWritten?`, `Config.toJson`: documents.
* `Config.ofFile`: the configuration in a file that may be missing.
-/

namespace GridStore

/-- A configuration. -/
structure Config where
  maxInFlight : Nat := 4
  cacheEnabled : Bool := true
  cacheSeconds : Option Nat := none
  dataFile : Option String := none
  accessToken : Option String := none
deriving DecidableEq

namespace Config

/-- The number of writes that may be under way at once, at least one. -/
def writesInFlight (config : Config) : Nat := max config.maxInFlight 1

/-- The greatest age of a cached answer in milliseconds. -/
def cacheMaxAge (config : Config) : Option Nat := config.cacheSeconds.map (· * 1000)

/-- The token that gives access; an empty one gives none. -/
def usableToken (config : Config) : Option String := config.accessToken.filter (· != "")

/-! ### Documents -/

/-- The configuration that a document describes. -/
def ofWritten? (document : WrittenJson) : Option Config := do
  let record ← document.record?
    [⟨"max_in_flight", .default⟩, ⟨"cache_enabled", .default⟩, ⟨"cache_ttl_secs", .default⟩,
      ⟨"data_file", .default⟩, ⟨"access_token", .default⟩]
  return {
    maxInFlight := ← record.defaulted? "max_in_flight" (·.natural?) 4
    cacheEnabled := ← record.defaulted? "cache_enabled" (·.flag?) true
    cacheSeconds := ← record.defaulted? "cache_ttl_secs" (·.optional? (·.natural?)) none
    dataFile := ← record.defaulted? "data_file" (·.optional? (·.string?)) none
    accessToken := ← record.defaulted? "access_token" (·.optional? (·.string?)) none }

/-- The document of a configuration. What is not given is left out. -/
def toJson (config : Config) : Json :=
  .object <|
    [("max_in_flight", .number (.integer config.maxInFlight)),
      ("cache_enabled", .bool config.cacheEnabled)] ++
    (config.cacheSeconds.map fun n => ("cache_ttl_secs", Json.number (.integer n))).toList ++
    (config.dataFile.map fun path => ("data_file", Json.text path)).toList ++
    (config.accessToken.map fun token => ("access_token", Json.text token)).toList

/-! ### Files -/

/-- The name of a file with a configuration. -/
def fileName : String := "sheetdb.json"

/-- The configuration that a text describes. A key that is given twice is a fault. -/
def read (text : String) : Except StoreError Config :=
  match (WrittenJson.read? text).bind ofWritten? with
  | some config => .ok config
  | none => .error .unreadableDocument

/-- The configuration in the file at a path, all of it defaults if there is no file. -/
def ofFile (files : FileTree) (path : String) : Except StoreError Config := do
  match ← files.read path with
  | none => return {}
  | some content => read content

end Config

end GridStore
