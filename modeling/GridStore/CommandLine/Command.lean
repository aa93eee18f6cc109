import GridStore.CommandLine.Options
import GridStore.Options

/-!
# Commands

The commands of the command line with their options and positional arguments. Some options may also
stand before the name of the command; one that is given after it counts.

## Main definitions

* `Command`: what is to be done.
* `Settings`: on which spreadsheet, and with which files and token.
* `Invocation.ofArguments`: what a command line asks for.
-/

namespace GridStore

/-- What is to be done. Documents are texts that have not been read yet. -/
inductive Command where
  | info
  | createWorksheet (title : String) (size : WorksheetSize)
  | dropWorksheet (title : String)
  | columns (worksheet : String)
  | find (worksheet filter : String) (options : FindOptions)
  | insert (worksheet documents : String)
  | update (worksheet selector change : String) (options : UpdateOptions)
  | remove (worksheet selector : String) (options : RemoveOptions)

/-- The spreadsheet to work on, the data file, the directory of the configuration and the token. -/
structure Settings where
  sheet : String
  data : Option String
  config : Option String
  token : Option String

/-- What a command line asks for. -/
inductive Invocation where
  | run (settings : Settings) (command : Command)
  | help
  | fault

/-! ### Names and options -/

/-- The kinds of commands. -/
inductive CommandKind where
  | info
  | createWorksheet
  | dropWorksheet
  | columns
  | find
  | insert
  | update
  | remove

/-- An option that takes any text. -/
def textOption (name : String) : OptionSpec := { long := name, value? := some fun _ => true }

/-- An option that takes a path, which is not empty. -/
def pathOption (name : String) : OptionSpec := { long := name, value? := some (· != "") }

/-- An option that takes a count. -/
def countOption (name : String) : OptionSpec :=
  { long := name, value? := some fun text => (count? text).isSome }

/-- An option without a value. -/
def flagOption (name : String) : OptionSpec := { long := name }

/-- The options that may stand before and after the name of a command. -/
def commonOptions : List OptionSpec :=
  [{ textOption "sheet" with short := some 's' }, pathOption "data", pathOption "config",
    textOption "token", { flagOption "verbose" with short := some 'v' }]

namespace CommandKind

/-- All kinds of commands. -/
def all : List CommandKind :=
  [info, createWorksheet, dropWorksheet, columns, find, insert, update, remove]

/-- The names of a command. -/
def names : CommandKind → List String
  | info => ["info"]
  | createWorksheet => ["create-worksheet", "mk"]
  | dropWorksheet => ["drop-worksheet"]
  | columns => ["columns", "cols"]
  | find => ["find", "f"]
  | insert => ["insert", "i"]
  | update => ["update", "u"]
  | remove => ["remove", "rm"]

/-- The command with a name. -/
def ofName? (name : String) : Option CommandKind := all.find? fun kind => kind.names.contains name

/-- The options of a command alone. -/
def options : CommandKind → List OptionSpec
  | createWorksheet => [countOption "rows", countOption "cols"]
  | find => [countOption "skip", countOption "limit", textOption "sort", flagOption "descending"]
  | update => [flagOption "multiple", flagOption "upsert"]
  | remove => [flagOption "just-one"]
  | _ => []

/-- The greatest number of positional arguments of a command. -/
def positionals : CommandKind → Nat
  | info => 0
  | createWorksheet => 1
  | dropWorksheet => 1
  | columns => 1
  | find => 2
  | insert => 2
  | update => 3
  | remove => 2

/-- The arguments that a command takes. -/
def grammar (kind : CommandKind) : Grammar where
  options := kind.options ++ commonOptions
  positionals := kind.positionals

end CommandKind

/-! ### Reading -/

/-- The count that is the value of an option. -/
def Given.count? (given : Given) (name : String) : Option Nat :=
  (given.value? name).bind GridStore.count?

/-- The command of a kind with the given arguments, unless some are missing. -/
def Command.ofGiven? (given : Given) : CommandKind → Option Command
  | .info => some .info
  | .createWorksheet =>
    match given.positionals with
    | [title] => some (.createWorksheet title ⟨given.count? "rows", given.count? "cols"⟩)
    | _ => none
  | .dropWorksheet =>
    match given.positionals with
    | [title] => some (.dropWorksheet title)
    | _ => none
  | .columns =>
    match given.positionals with
    | [worksheet] => some (.columns worksheet)
    | _ => none
  | .find =>
    let options : FindOptions := {
      skip := (given.count? "skip").getD 0
      limit := given.count? "limit"
      sort := given.value? "sort"
      descending := given.has "descending" }
    match given.positionals with
    | [worksheet] => some (.find worksheet "\x7b\x7d" options)
    | [worksheet, filter] => some (.find worksheet filter options)
    | _ => none
  | .insert =>
    match given.positionals with
    | [worksheet, documents] => some (.insert worksheet documents)
    | _ => none
  | .update =>
    match given.positionals with
    | [worksheet, selector, change] =>
      some (.update worksheet selector change ⟨given.has "multiple", given.has "upsert"⟩)
    | _ => none
  | .remove =>
    match given.positionals with
    | [worksheet, selector] => some (.remove worksheet selector ⟨given.has "just-one"⟩)
    | _ => none

/-- The settings given after the name of a command, and those given before it. -/
def Settings.ofGiven (after before : Given) : Settings :=
  let value (name : String) : Option String := (after.value? name).or (before.value? name)
  { sheet := (value "sheet").getD "default"
    data := value "data"
    config := value "config"
    token := value "token" }

namespace Invocation

/-- The word that asks for help where a command is expected. -/
def helpCommand : String := "help"

/-- The arguments before and at the name of a command. -/
def grammar : Grammar where
  options := commonOptions
  commands := helpCommand :: CommandKind.all.flatMap CommandKind.names

/-- What a request for help on some subject asks for. -/
def helpOn : List String → Invocation
  | [] => help
  | [subject] => if grammar.commands.contains subject then help else fault
  | _ => fault

/-- What a command asks for. -/
def ofCommand (kind : CommandKind) (arguments : List String) (before : ArgumentReader) :
    Invocation :=
  match kind.grammar.read arguments with
  | .done given =>
    match Command.ofGiven? given kind, before.settle? with
    | some command, some state => run (.ofGiven given state.given) command
    | _, _ => fault
  | .help => help
  | .command .. => fault
  | .fault => fault

/-- What a command line asks for. -/
def ofArguments (arguments : List String) : Invocation :=
  match grammar.read arguments with
  | .command name arguments before =>
    if name = helpCommand then helpOn arguments
    else match CommandKind.ofName? name with
      | some kind => ofCommand kind arguments before
      | none => fault
  | .help => help
  | .done _ => fault
  | .fault => fault

end Invocation

end GridStore
