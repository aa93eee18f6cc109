import GridStore.Time.Calendar

/-!
# Instants

An instant is a date, a second of that day and a fraction of the second in nanoseconds, in
universal time. During a leap second the fraction runs on past one second.

## Main definitions

* `Instant`: a point in time.
* `Instant.of?`: the instant with a given date, time of day and offset from universal time.
* `Instant.compare`: the order of instants.
* `Instant.later`: an instant some nanoseconds later.
* `Instant.text`: a date and a time with a fraction of a given precision.
-/

namespace GridStore

/-- The number of nanoseconds in a second. -/
abbrev nanosPerSecond : Nat := 1000000000

/-- The number of seconds in a day. -/
abbrev secondsPerDay : Nat := 86400

/-- A point in time, in universal time. -/
structure Instant where
  date : Date
  second : Nat
  nanosecond : Nat
  second_lt : second < secondsPerDay
  nanosecond_lt : nanosecond < 2 * nanosPerSecond
deriving DecidableEq

namespace Instant

/-! ### Construction -/

/-- The instant on a date at a second that may lie up to a day before its start or a day after its
end. -/
def ofShifted (date : Date) (second : Int) (nanosecond : Nat) : Option Instant :=
  if hn : nanosecond < 2 * nanosPerSecond then
    if hb : second < 0 then
      if hs : (second + secondsPerDay).toNat < secondsPerDay then
        some ⟨date.previous, _, nanosecond, hs, hn⟩
      else none
    else if ha : second < secondsPerDay then
      some ⟨date, second.toNat, nanosecond, by omega, hn⟩
    else if hs : (second - secondsPerDay).toNat < secondsPerDay then
      some ⟨date.next, _, nanosecond, hs, hn⟩
    else none
  else none

/-- The instant with a given date, time of day and fraction, at `offset` seconds ahead of
universal time. The second of a minute may be 60, which is the leap second after the 59th. -/
def of? (date : Date) (hour minute second nanosecond : Nat) (offset : Int) : Option Instant :=
  if hour ≤ 23 ∧ minute ≤ 59 ∧ second ≤ 60 ∧ nanosecond < nanosPerSecond then
    let leap := second / 60
    ofShifted date (hour * 3600 + minute * 60 + (second - leap : Nat) - offset)
      (nanosecond + leap * nanosPerSecond)
  else
    none

/-- The start of a day. -/
def startOf (date : Date) : Instant := ⟨date, 0, 0, by decide, by decide⟩

/-- The instant a number of nanoseconds later, in days without leap seconds. -/
def later (t : Instant) (nanoseconds : Nat) : Instant :=
  let total := t.nanosecond + nanoseconds
  let seconds := t.second + total / nanosPerSecond
  ⟨Nat.repeat Date.next (seconds / secondsPerDay) t.date, seconds % secondsPerDay,
    total % nanosPerSecond, Nat.mod_lt _ (by decide),
    Nat.lt_trans (Nat.mod_lt _ (by decide)) (by decide)⟩

/-! ### Order -/

/-- Instants in the order of time. -/
def compare (a b : Instant) : Ordering :=
  (a.date.compare b.date).then <| (Ord.compare a.second b.second).then <|
    Ord.compare a.nanosecond b.nanosecond

/-! ### Text -/

/-- How many digits of the fraction of a second are written: a fixed number, or the first of none,
three, six and nine that loses nothing. -/
inductive Precision where
  | digits (count : Nat)
  | shortest
deriving DecidableEq

/-- A natural number with at least `width` digits, zeros in front. -/
def padded (width n : Nat) : List Char :=
  let ds := Nat.toDigits 10 n
  List.replicate (width - ds.length) '0' ++ ds

/-- A year in four digits, or with a sign in front if it lies outside of 0 to 9999. -/
def yearText (year : Int) : List Char :=
  if 0 ≤ year ∧ year ≤ 9999 then padded 4 year.natAbs
  else (if year < 0 then '-' else '+') :: padded 4 year.natAbs

/-- A year, month and day joined by hyphens. -/
def dateText (d : Date) : List Char :=
  yearText d.year ++ '-' :: padded 2 d.month ++ '-' :: padded 2 d.day

/-- The second of the minute, 60 during a leap second. -/
def secondOfMinute (t : Instant) : Nat := t.second % 60 + t.nanosecond / nanosPerSecond

/-- An hour, minute and second joined by colons. -/
def timeText (t : Instant) : List Char :=
  padded 2 (t.second / 3600) ++ ':' :: padded 2 (t.second / 60 % 60) ++
    ':' :: padded 2 t.secondOfMinute

/-- The first `count` digits of the fraction of a second. -/
def fractionDigits (t : Instant) (count : Nat) : List Char :=
  if count = 0 then []
  else '.' :: padded count (t.nanosecond % nanosPerSecond / 10 ^ (9 - count))

/-- The fraction of a second with a given precision. -/
def fractionText (t : Instant) : Precision → List Char
  | .digits count => t.fractionDigits count
  | .shortest =>
    let fraction := t.nanosecond % nanosPerSecond
    t.fractionDigits <|
      if fraction = 0 then 0
      else if fraction % 1000000 = 0 then 3
      else if fraction % 1000 = 0 then 6
      else 9

/-- The date and time of an instant in universal time, with a `T` between them and a `Z` at the
end. -/
def text (t : Instant) (precision : Precision) : String :=
  String.ofList (dateText t.date ++ 'T' :: t.timeText ++ t.fractionText precision ++ ['Z'])

/-- The text of an instant in a cell or a document, in milliseconds. -/
def cellText (t : Instant) : String := t.text (.digits 3)

end Instant

end GridStore
