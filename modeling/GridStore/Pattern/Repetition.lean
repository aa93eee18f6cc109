import GridStore.Number.Decimal
import GridStore.Pattern.Flags

/-!
# Bounds of repetitions

The bounds of a repetition stand between braces: one number, a least number and a comma, or a least
and a greatest number.

## Main definitions

* `RegexFlags.bounds?`: the bounds after an opening brace, and the text after them.
-/

namespace GridStore

namespace RegexFlags

/-- The decimal digits in front of a text, and the text after them. -/
def digits (flags : RegexFlags) (cs : List Char) : List Char × List Char :=
  match cs with
  | [] => ([], [])
  | c :: rest =>
    if c.isDigit then
      have := flags.length_skip_le rest
      let (more, after) := flags.digits (flags.skip rest)
      (c :: more, after)
    else ([], c :: rest)
termination_by cs.length

/-- A number below `2³²` with blanks around it. -/
def bound? (flags : RegexFlags) (cs : List Char) : Option (Nat × List Char) :=
  let (digits, rest) := flags.digits (cs.dropWhile isBlank)
  let value := natOfDigits digits
  if digits ≠ [] ∧ value < UInt32.size then
    some (value, flags.skip (rest.dropWhile isBlank))
  else none

/-- The bounds of a repetition after its opening brace, in order. -/
def bounds? (flags : RegexFlags) (cs : List Char) : Option ((Nat × Option Nat) × List Char) := do
  let (least, rest) ← flags.bound? (flags.skip cs)
  let (most, rest) ← match rest with
    | ',' :: more =>
      match flags.skip more with
      | '\x7d' :: after => some (none, '\x7d' :: after)
      | more => (flags.bound? more).map fun (n, after) => (some n, after)
    | rest => some (some least, rest)
  match rest with
  | '\x7d' :: after =>
    if most.all (least ≤ ·) then some ((least, most), flags.skip after) else none
  | _ => none

end RegexFlags

end GridStore
