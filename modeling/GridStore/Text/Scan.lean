/-!
# Scanning text from the front

A scan takes a piece off the front of a list of characters and returns what the piece stands for,
or fails. Scans are sequenced by `do` blocks.

## Main definitions

* `Scan`: scans with a result.
* `Scan.char`, `Scan.digits`, `Scan.blanks`: a given character, a run of decimal digits, and a run
  of characters that satisfy a test.
* `Scan.whole?`: the result of a scan that takes a text to its end.
-/

namespace GridStore

/-- A scan of the front of a list of characters, which may fail. -/
abbrev Scan (α : Type) := StateT (List Char) Option α

namespace Scan

/-- The next character, if there is one. -/
def next? : Scan (Option Char) := fun cs => some (cs.head?, cs)

/-- Takes one character that satisfies a test. -/
def satisfying (test : Char → Bool) : Scan Char
  | c :: cs => if test c then some (c, cs) else none
  | [] => none

/-- Takes the given character. -/
def char (c : Char) : Scan Unit := do
  let _ ← satisfying (· == c)

/-- Takes characters as long as they satisfy a test. -/
def blanks (test : Char → Bool) : Scan Unit := fun cs => some ((), cs.dropWhile test)

/-- Takes decimal digits, at most `most`, and fails if there are fewer than `least`. -/
def run (least most : Nat) : Scan (List Char) := fun cs =>
  let ds := (cs.take most).takeWhile Char.isDigit
  if ds.length < least then none else some (ds, cs.drop ds.length)

/-- Takes every decimal digit in front, and fails if there are fewer than `least`. -/
def runAll (least : Nat) : Scan (List Char) := fun cs => run least cs.length cs

/-- The result of a scan that takes all of a text. -/
def whole? {α : Type} (scan : Scan α) (cs : List Char) : Option α :=
  match scan cs with
  | some (a, []) => some a
  | _ => none

end Scan

end GridStore
