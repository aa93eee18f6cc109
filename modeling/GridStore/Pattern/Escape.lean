import GridStore.Pattern.Flags
import GridStore.Text.Hexadecimal

/-!
# Escapes in regular expressions

What a backslash and the characters after it stand for: a character, a set of characters or an
assertion.

## Main definitions

* `RegexFlags.escape?`: the meaning of an escape, and the text after it.
-/

namespace GridStore

/-- Whether a character has a meaning of its own. -/
def isMeta (c : Char) : Bool := "\\.+*?()|[]\x7b\x7d^$#&-~".contains c

/-- Whether a character stands for itself after a backslash. -/
def isEscapable (c : Char) : Bool :=
  isMeta c || (c.toNat < 128 && !c.isAlphanum && c != '<' && c != '>')

/-- The character with a code point, if there is one. -/
def charOf? (code : Nat) : Option Char :=
  if code < 0xD800 ∨ 0xE000 ≤ code ∧ code ≤ lastCode then some (Char.ofNat code) else none

namespace RegexFlags

/-! ### Code points -/

/-- A given number of hexadecimal digits. -/
def fixedHex? (flags : RegexFlags) (code : Nat) : Nat → List Char → Option (Nat × List Char)
  | 0, cs => some (code, cs)
  | _ + 1, [] => none
  | n + 1, c :: cs => do
    let digit ← hexDigit? c
    flags.fixedHex? (code * 16 + digit) n (flags.skip cs)

/-- Hexadecimal digits up to a closing brace, at least one of them, after those that have been
read. -/
def bracedHex? (flags : RegexFlags) (digits : Option Nat) (cs : List Char) :
    Option (Nat × List Char) :=
  match h : flags.skip cs with
  | [] => none
  | c :: rest =>
    have : rest.length < cs.length := by
      have := flags.length_skip_le cs
      rw [h] at this
      exact this
    if c = '\x7d' then digits.map (·, flags.skip rest)
    else do
      let digit ← hexDigit? c
      flags.bracedHex? (some (digits.getD 0 * 16 + digit)) rest
termination_by cs.length

/-- A character by its code point, after the letter that says how many digits there are. -/
def hexEscape? (flags : RegexFlags) (count : Nat) (cs : List Char) :
    Option (Fragment × List Char) := do
  let (code, rest) ← match flags.skip cs with
    | '\x7b' :: rest => flags.bracedHex? none rest
    | rest => flags.fixedHex? 0 count rest
  return (flags.literal (← charOf? code), rest)

/-! ### Words -/

/-- The assertion on words with a name. -/
def wordAssertion? (name : String) : Option Assertion :=
  match name with
  | "start" => some .wordStart
  | "end" => some .wordEnd
  | "start-half" => some .wordStartHalf
  | "end-half" => some .wordEndHalf
  | _ => none

/-- Whether a character can occur in the name of an assertion on words. -/
def isWordNameChar (c : Char) : Bool := c.isAlpha || c == '-'

/-- The name of an assertion on words in front of a text, and the text after it. -/
def wordName (flags : RegexFlags) (cs : List Char) : List Char × List Char :=
  match cs with
  | [] => ([], [])
  | c :: rest =>
    if isWordNameChar c then
      have := flags.length_skip_le rest
      let (name, after) := flags.wordName (flags.skip rest)
      (c :: name, after)
    else ([], c :: rest)
termination_by cs.length

/-- What follows a `b` after a backslash: an assertion named between braces, or the boundary of a
word. Braces that hold no name belong to a repetition. -/
def boundary? (flags : RegexFlags) (cs : List Char) : Option (Fragment × List Char) :=
  match cs with
  | '\x7b' :: rest =>
    match flags.skip rest with
    | [] => none
    | c :: more =>
      if isWordNameChar c then
        match flags.wordName (c :: more) with
        | (name, '\x7d' :: after) =>
          (wordAssertion? (String.ofList name)).map fun assertion => (.assert assertion, after)
        | _ => none
      else some (.assert .wordBoundary, cs)
  | _ => some (.assert .wordBoundary, cs)

/-! ### All escapes -/

/-- The set that a letter stands for after a backslash; a capital stands for the complement. -/
def escapedSet? (c : Char) : Option CharSet :=
  let named (name : String) : Option CharSet :=
    (CharSet.named? name).map fun set => if c.isUpper then set.complement else set
  match c.toLower with
  | 'd' => named "digit"
  | 's' => named "space"
  | 'w' => named "word"
  | _ => none

/-- The number of digits of a code point after a letter, if they are not between braces. -/
def hexDigits? (c : Char) : Option Nat :=
  match c with
  | 'x' => some 2
  | 'u' => some 4
  | 'U' => some 8
  | _ => none

/-- The control character that a letter stands for after a backslash. -/
def escapedControl? (c : Char) : Option Char :=
  match c with
  | 'a' => some '\x07'
  | 'f' => some '\x0c'
  | 't' => some '\t'
  | 'n' => some '\n'
  | 'r' => some '\r'
  | 'v' => some '\x0b'
  | _ => none

/-- The assertion that a character stands for after a backslash. -/
def escapedAssertion? (c : Char) : Option Assertion :=
  match c with
  | 'A' => some .textStart
  | 'z' => some .textEnd
  | 'B' => some .noWordBoundary
  | '<' => some .wordStart
  | '>' => some .wordEnd
  | _ => none

/-- What a backslash and the characters after it stand for, and the text after them. -/
def escape? (flags : RegexFlags) : List Char → Option (Fragment × List Char)
  | [] => none
  | c :: cs =>
    if isEscapable c then some (flags.literal c, cs)
    else if c = 'b' then flags.boundary? cs
    else match hexDigits? c with
      | some count => flags.hexEscape? count cs
      | none =>
        ((escapedSet? c).map Fragment.set <|> (escapedControl? c).map Fragment.char <|>
          (escapedAssertion? c).map Fragment.assert).map (·, cs)

end RegexFlags

end GridStore
