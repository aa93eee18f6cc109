import GridStore.Cell.Value
import GridStore.Time.Layout

/-!
# Typing of cells

A sheet holds texts. The value of a cell is guessed from its text, and a guess is only kept if the
value is written again as the text: `007`, `5.60` and `1e3` stay texts.

## Main definitions

* `Cell.number?`: a finite number written as cells write numbers, with a point or a comma.
* `Cell.date?`: an instant in one of the formats in which cells hold instants.
* `Cell.value`: the value of a cell.
* `Cell.timestamp?`: an instant in a format of cells or in any other form of RFC 3339.
-/

namespace GridStore

namespace Cell

/-! ### Numbers -/

/-- A text without one minus sign in front. -/
def withoutMinus : List Char → List Char
  | '-' :: cs => cs
  | cs => cs

/-- Whether a text has a decimal comma: after an optional minus sign there are only digits and one
comma. -/
def hasDecimalComma (cs : List Char) : Bool :=
  let body := withoutMinus cs
  body.count ',' == 1 && body.all fun c => c.isDigit || c == ','

/-- A text with a decimal comma turned into a point. -/
def normalized (text : String) : String :=
  if hasDecimalComma text.toList then
    String.ofList (text.toList.map fun c => if c = ',' then '.' else c)
  else
    text

/-- The finite number that is written as the text, up to a decimal comma. -/
def number? (text : String) : Option Number :=
  let expected := normalized text
  (Number.read? expected).filter fun n => n.isFinite && n.cellText == expected

/-! ### Instants -/

/-- The precisions in which a timestamp may be written: milliseconds, seconds, or as few digits as
lose nothing. -/
def precisions : List Instant.Precision := [.digits 3, .digits 0, .shortest]

/-- The instant of a cell: a timestamp in universal time in one of the precisions, or a date in one
of the layouts. -/
def date? (text : String) : Option Instant :=
  match Rfc3339.read? text with
  | some t => if precisions.any fun p => t.text p == text then some t else none
  | none => DateLayout.all.findSome? fun layout => layout.readExact? text

/-- The instant of a timestamp, in a format of cells or in any other form of RFC 3339. -/
def timestamp? (text : String) : Option Instant := (date? text).or (Rfc3339.read? text)

/-! ### Values -/

/-- The value of a cell: nothing if it is empty, else a number, else an instant, else its text. -/
def value (text : String) : Value :=
  if text = "" then .null
  else match number? text with
    | some n => .number n
    | none => match date? text with
      | some t => .date t
      | none => .text text

end Cell

end GridStore
