import GridStore.Time.Rfc3339

/-!
# Date layouts

A layout writes the parts of an instant in a fixed order between fixed characters. Reading with a
layout takes the parts in the same order; whether the text is written as the layout would write it
is for the caller to check, by writing it again.

## Main definitions

* `LayoutItem`: the parts of a layout.
* `DateLayout.write`, `DateLayout.read?`.
* `DateLayout.all`: the layouts in which cells hold dates.
-/

namespace GridStore

/-- One part of a layout. -/
inductive LayoutItem where
  | year
  | month
  | day
  | hour
  | minute
  | second
  | literal (c : Char)
deriving DecidableEq

/-- The numbers read with a layout. A time that the layout leaves out is the start of the day. -/
structure DateParts where
  year : Int := 0
  month : Nat := 1
  day : Nat := 1
  hour : Nat := 0
  minute : Nat := 0
  second : Nat := 0

/-- The parts of a date and a time, and the characters between them. -/
abbrev DateLayout := List LayoutItem

namespace LayoutItem

/-- The text of one part of an instant. -/
def write (t : Instant) : LayoutItem → List Char
  | year => Instant.yearText t.date.year
  | month => Instant.padded 2 t.date.month
  | day => Instant.padded 2 t.date.day
  | hour => Instant.padded 2 (t.second / 3600)
  | minute => Instant.padded 2 (t.second / 60 % 60)
  | second => Instant.padded 2 t.secondOfMinute
  | literal c => [c]

/-- Takes one part off the front of a text. -/
def read (parts : DateParts) : LayoutItem → Scan DateParts
  | year => return { parts with year := ← Rfc3339.signedYear }
  | month => return { parts with month := ← Rfc3339.number 2 2 }
  | day => return { parts with day := ← Rfc3339.number 2 2 }
  | hour => return { parts with hour := ← Rfc3339.number 2 2 }
  | minute => return { parts with minute := ← Rfc3339.number 2 2 }
  | second => return { parts with second := ← Rfc3339.number 2 2 }
  | literal c => do Scan.char c; return parts

end LayoutItem

namespace DateLayout

/-- The text of an instant in a layout. -/
def write (layout : DateLayout) (t : Instant) : String :=
  String.ofList (layout.flatMap (LayoutItem.write t))

/-- The instant read with a layout from all of a text. -/
def read? (layout : DateLayout) (text : String) : Option Instant := do
  let parts ← Scan.whole? (layout.foldlM LayoutItem.read {}) text.toList
  if Rfc3339.yearInRange parts.year then
    Rfc3339.assemble parts.year parts.month parts.day parts.hour parts.minute parts.second 0 0
  else
    none

/-- The instant that the layout writes as the text. -/
def readExact? (layout : DateLayout) (text : String) : Option Instant :=
  (layout.read? text).filter fun t => layout.write t == text

/-- The parts of a time, after a space. -/
def spacedTime : DateLayout :=
  [.literal ' ', .hour, .literal ':', .minute, .literal ':', .second]

/-- Year, month and day joined by hyphens. -/
def hyphens : DateLayout := [.year, .literal '-', .month, .literal '-', .day]

/-- Month, day and year joined by slashes. -/
def slashes : DateLayout := [.month, .literal '/', .day, .literal '/', .year]

/-- The layouts in which cells hold dates: with a time and without one. -/
def all : List DateLayout := [hyphens ++ spacedTime, slashes ++ spacedTime, hyphens, slashes]

end DateLayout

end GridStore
