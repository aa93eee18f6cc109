import GridStore.Entries

/-!
# Arguments of a command line

An argument is an option, the value of one, or a positional argument. An option has a long name
after two hyphens and may have a letter after one hyphen; its value follows as the next argument,
after an equals sign, or right after the letter. After `--` all arguments are positional.

An option is checked when the next one or a positional argument is met, and not before, so that a
request for help or the name of a command that comes in between is seen first.

## Main definitions

* `OptionSpec`, `Grammar`: the options and positional arguments that a command takes.
* `Given`: the options and positional arguments that were given.
* `Grammar.read`: what a list of arguments gives.
-/

namespace GridStore

/-- An option: its names, and which values it takes if it takes one. -/
structure OptionSpec where
  long : String
  short : Option Char := none
  value? : Option (String → Bool) := none

/-- The options, the number of positional arguments and the names of commands that are
understood. -/
structure Grammar where
  options : List OptionSpec
  positionals : Nat := 0
  commands : List String := []

/-- The options with their values, and the positional arguments. -/
structure Given where
  options : Entries String := []
  positionals : List String := []

namespace Given

/-- The value of an option. -/
def value? (given : Given) (name : String) : Option String := Entries.get? given.options name

/-- Whether an option is given. -/
def has (given : Given) (name : String) : Bool := (given.value? name).isSome

/-- The options with one more. No option is given twice, and its value has to be one that it
takes. -/
def add? (given : Given) (spec : OptionSpec) (value : String) : Option Given :=
  if given.has spec.long then none
  else if (spec.value?.getD fun _ => true) value then
    some { given with options := given.options ++ [(spec.long, value)] }
  else none

end Given

/-- What has been read: the options that are checked, the one that is not yet, whose value may still
be missing, and whether only positional arguments follow. -/
structure ArgumentReader where
  given : Given := {}
  pending : Option (OptionSpec × Option String) := none
  onlyPositionals : Bool := false

/-- What a list of arguments gives. A command comes with the arguments after its name and with what
has been read before it. -/
inductive Reading where
  | done (given : Given)
  | command (name : String) (arguments : List String) (before : ArgumentReader)
  | help
  | fault

namespace ArgumentReader

/-- The state with the last option checked. -/
def settle? (state : ArgumentReader) : Option ArgumentReader :=
  match state.pending with
  | none => some state
  | some (_, none) => none
  | some (spec, some value) =>
    (state.given.add? spec value).map fun given => { state with given, pending := none }

/-- Whether the last option still needs its value. -/
def isWaiting (state : ArgumentReader) : Bool :=
  match state.pending with
  | some (_, none) => true
  | _ => false

/-- The state after one more option, with its value if that is attached. -/
def withOption? (state : ArgumentReader) (spec : OptionSpec) (attached : Option String) :
    Option ArgumentReader := do
  let state ← state.settle?
  match spec.value?, attached with
  | none, none => return { state with given := ← state.given.add? spec "" }
  | none, some _ => none
  | some _, none => return { state with pending := some (spec, none) }
  | some _, some value => return { state with given := ← state.given.add? spec value }

/-- The state after one more positional argument. -/
def withPositional? (state : ArgumentReader) (limit : Nat) (argument : String) :
    Option ArgumentReader := do
  let state ← state.settle?
  if state.given.positionals.length < limit then
    return { state with
      given := { state.given with positionals := state.given.positionals ++ [argument] } }
  else none

/-- What is given at the end of the arguments. -/
def finish (state : ArgumentReader) : Reading :=
  match state.settle? with
  | some state => .done state.given
  | none => .fault

end ArgumentReader

/-- The state after an argument, or the end of reading. -/
abbrev ArgumentStep := Except Reading ArgumentReader

namespace Grammar

/-- The state after a step that may fail. -/
def orFault : Option ArgumentReader → ArgumentStep
  | some state => .ok state
  | none => .error .fault

/-- A request for help, which is granted if the options before it are in order. -/
def helped (state : ArgumentReader) : ArgumentStep :=
  .error (if state.settle?.isSome then .help else .fault)

/-- The state after the option with a long name. -/
def stepLong (grammar : Grammar) (state : ArgumentReader) (text : List Char) : ArgumentStep :=
  let name := String.ofList (text.takeWhile (· != '='))
  let attached := match text.dropWhile (· != '=') with
    | [] => none
    | _ :: value => some (String.ofList value)
  match grammar.options.find? fun spec => spec.long == name with
  | some spec => orFault (state.withOption? spec attached)
  | none => if name = "help" ∧ attached = none then helped state else .error .fault

/-- The value attached to a letter, after an equals sign or right after the letter. -/
def attachedToLetter : List Char → Option String
  | [] => none
  | '=' :: value => some (String.ofList value)
  | value => some (String.ofList value)

/-- The state after a group of letters, of which the last one may have a value. -/
def stepLetters (grammar : Grammar) (state : ArgumentReader) : List Char → ArgumentStep
  | [] => .ok state
  | letter :: rest =>
    match grammar.options.find? fun spec => spec.short == some letter with
    | some spec =>
      match spec.value? with
      | some _ => orFault (state.withOption? spec (attachedToLetter rest))
      | none =>
        match state.withOption? spec none with
        | some state => stepLetters grammar state rest
        | none => .error .fault
    | none => if letter = 'h' then helped state else .error .fault

/-- The state after a value or a positional argument. -/
def stepPlain (grammar : Grammar) (state : ArgumentReader) (argument : String) : ArgumentStep :=
  match state.pending with
  | some (spec, none) =>
    if state.onlyPositionals then .error .fault
    else .ok { state with pending := some (spec, some argument) }
  | _ => orFault (state.withPositional? grammar.positionals argument)

/-- The state after one more argument that is not the name of a command. -/
def step (grammar : Grammar) (state : ArgumentReader) (argument : String) : ArgumentStep :=
  if state.onlyPositionals then grammar.stepPlain state argument
  else match argument.toList with
    | ['-'] => grammar.stepPlain state argument
    | ['-', '-'] => .ok { state with onlyPositionals := true }
    | '-' :: '-' :: text => grammar.stepLong state text
    | '-' :: letters => grammar.stepLetters state letters
    | _ => grammar.stepPlain state argument

/-- Whether an argument is the name of a command where it stands. -/
def isCommand (grammar : Grammar) (state : ArgumentReader) (argument : String) : Bool :=
  !state.onlyPositionals && !state.isWaiting && grammar.commands.contains argument

/-- What arguments give after a state. -/
def readFrom (grammar : Grammar) (state : ArgumentReader) : List String → Reading
  | [] => state.finish
  | argument :: rest =>
    if grammar.isCommand state argument then .command argument rest state
    else match grammar.step state argument with
      | .ok state => readFrom grammar state rest
      | .error reading => reading

/-- What arguments give. -/
def read (grammar : Grammar) (arguments : List String) : Reading := grammar.readFrom {} arguments

end Grammar

end GridStore
