import GridStore.Number.Decimal
import GridStore.Text.Blank
import GridStore.Text.Scan
import GridStore.Time.Instant

/-!
# Timestamps of RFC 3339

Two readers of timestamps. The strict one takes the format of RFC 3339 with a letter of either case
or a space between date and time and any offset. The lenient one, used for stored timestamps, also
takes numbers with fewer digits, years with a sign, blanks around the separators and the word
`UTC` for the offset.

## Main definitions

* `Rfc3339.read?`: the strict reader.
* `Rfc3339.readLenient?`: the lenient reader.
-/

namespace GridStore

namespace Rfc3339

/-! ### Parts of a timestamp -/

/-- A decimal number of at least `least` and at most `most` digits. -/
def number (least most : Nat) : Scan Nat := natOfDigits <$> Scan.run least most

/-- The fraction of a second in nanoseconds, after a point: at least one digit, and digits past the
ninth have no effect. Without a point the fraction is zero. -/
def fraction : Scan Nat := do
  if (← Scan.next?) = some '.' then
    Scan.char '.'
    let digits ← Scan.run 1 9
    Scan.blanks Char.isDigit
    return natOfDigits digits * 10 ^ (9 - digits.length)
  else
    return 0

/-- The character between date and time. -/
def dateTimeSeparator : Scan Unit := do
  let _ ← Scan.satisfying fun c => c == 'T' || c == 't' || c == ' '

/-- An offset from universal time in seconds: `Z`, or a sign, two digits of hours and two digits of
minutes, with `separator` between them. Its magnitude is below one day. -/
def offset (separator : Scan Unit) : Scan Int := do
  let mark ← Scan.satisfying fun c => c == 'Z' || c == 'z' || c == '+' || c == '-' || c == '−'
  if mark = 'Z' ∨ mark = 'z' then
    return 0
  else
    let hours ← number 2 2
    separator
    let minutes ← number 2 2
    if hours ≤ 23 ∧ minutes ≤ 59 then
      let seconds : Int := hours * 3600 + minutes * 60
      return if mark = '+' then seconds else -seconds
    else
      failure

/-- The instant with the parts of a timestamp, if they name one. -/
def assemble (year : Int) (month day hour minute second nanosecond : Nat) (offset : Int) :
    Option Instant := do
  (← Date.of? year month day) |> fun date => Instant.of? date hour minute second nanosecond offset

/-! ### The two readers -/

/-- A timestamp as RFC 3339 writes it. -/
def strict : Scan (Option Instant) := do
  let year ← number 4 4
  Scan.char '-'
  let month ← number 2 2
  Scan.char '-'
  let day ← number 2 2
  dateTimeSeparator
  let hour ← number 2 2
  Scan.char ':'
  let minute ← number 2 2
  Scan.char ':'
  let second ← number 2 2
  let nanosecond ← fraction
  let shift ← offset (Scan.char ':')
  return assemble year month day hour minute second nanosecond shift

/-- The instant named by a timestamp of RFC 3339. -/
def read? (text : String) : Option Instant := (Scan.whole? strict text.toList).join

/-- The years for which instants are defined when a year has more than four digits. -/
def yearInRange (year : Int) : Bool := -262143 ≤ year && year ≤ 262142

/-- A year of up to four digits, or of any number of digits after a sign. -/
def signedYear : Scan Int := do
  match ← Scan.next? with
  | some '-' => Scan.char '-'; return -(natOfDigits (← Scan.runAll 1) : Int)
  | some '+' => Scan.char '+'; return natOfDigits (← Scan.runAll 1)
  | _ => return (← number 1 4)

/-- A number of one or two digits with blanks in front. -/
def spacedNumber : Scan Nat := do
  Scan.blanks isBlank
  number 1 2

/-- A separator with blanks in front. -/
def spacedChar (c : Char) : Scan Unit := do
  Scan.blanks isBlank
  Scan.char c

/-- An offset, or `UTC` in any case of letters. -/
def lenientOffset : Scan Int := fun cs =>
  if (cs.take 3).map Char.toLower = ['u', 't', 'c'] then some (0, cs.drop 3)
  else offset (Scan.blanks fun c => c == ':' || isBlank c) cs

/-- A timestamp with blanks around its separators and numbers of any width up to the usual one. Its
year is in range both where it was written and in universal time. -/
def lenient : Scan (Option Instant) := do
  Scan.blanks isBlank
  let year ← signedYear
  spacedChar '-'
  let month ← spacedNumber
  spacedChar '-'
  let day ← spacedNumber
  dateTimeSeparator
  let hour ← spacedNumber
  spacedChar ':'
  let minute ← spacedNumber
  spacedChar ':'
  let second ← spacedNumber
  let nanosecond ← fraction
  Scan.blanks isBlank
  let shift ← lenientOffset
  Scan.blanks isBlank
  return if yearInRange year then
      (assemble year month day hour minute second nanosecond shift).filter fun t =>
        yearInRange t.date.year
    else none

/-- The instant named by a stored timestamp. -/
def readLenient? (text : String) : Option Instant := (Scan.whole? lenient text.toList).join

end Rfc3339

end GridStore
