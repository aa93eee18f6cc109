import GridStore.Text.Hexadecimal

/-!
# Texts as JSON writes them

A text stands between quotes. A character in it is written plainly, by a letter after a backslash,
or by units of 16 bits in hexadecimal digits; a character beyond 16 bits takes two of these units.
So not everything that is well written stands for a text.

## Main definitions

* `JsonPiece`, `JsonText`: texts as written.
* `JsonText.scan?`: a text after its opening quote.
* `JsonText.decode?`: the text that is meant.
* `JsonText.plain?`: the text, if it is written without escapes.

## Main results

* `JsonText.length_scan?`: a text takes at least its closing quote.
* `JsonText.decode?_ofString`, `JsonText.plain?_ofString`: a text written plainly means itself.
-/

namespace GridStore

/-- A piece of a written text: a plain character, a character after a backslash, or a unit of 16
bits. -/
inductive JsonPiece where
  | plain (c : Char)
  | escaped (c : Char)
  | unit (code : Nat)
deriving DecidableEq

/-- The pieces of a written text. -/
abbrev JsonText := List JsonPiece

namespace JsonText

/-! ### Scanning -/

/-- The number written by four hexadecimal digits. -/
def hexUnit? (a b c d : Char) : Option Nat := do
  return (((← hexDigit? a) * 16 + (← hexDigit? b)) * 16 + (← hexDigit? c)) * 16 + (← hexDigit? d)

/-- The character that a letter after a backslash stands for. -/
def escaped? (c : Char) : Option Char :=
  if c = '"' ∨ c = '\\' ∨ c = '/' then some c
  else if c = 'b' then some '\x08'
  else if c = 'f' then some '\x0c'
  else if c = 'n' then some '\n'
  else if c = 'r' then some '\r'
  else if c = 't' then some '\t'
  else none

/-- A text after its opening quote, and what follows the closing one. Control characters have to be
escaped. -/
def scan? : List Char → Option (JsonText × List Char)
  | [] => none
  | '"' :: rest => some ([], rest)
  | '\\' :: 'u' :: a :: b :: c :: d :: rest => do
    let code ← hexUnit? a b c d
    let (pieces, after) ← scan? rest
    return (.unit code :: pieces, after)
  | '\\' :: e :: rest => do
    let c ← escaped? e
    let (pieces, after) ← scan? rest
    return (.escaped c :: pieces, after)
  | c :: rest =>
    if c.toNat < 32 then none
    else do
      let (pieces, after) ← scan? rest
      return (.plain c :: pieces, after)

theorem length_scan? {cs after : List Char} {pieces : JsonText}
    (h : scan? cs = some (pieces, after)) : after.length < cs.length := by
  fun_induction scan? cs generalizing pieces after with
  | case1 => simp at h
  | case2 rest =>
    simp only [Option.some.injEq, Prod.mk.injEq] at h
    simp [← h.2]
  | case3 a b c d rest ih =>
    simp only [Option.bind_eq_bind, Option.bind_eq_some_iff] at h
    obtain ⟨_, _, ⟨ps, r⟩, hr, heq⟩ := h
    simp only [pure, Option.some.injEq, Prod.mk.injEq] at heq
    have := ih hr
    simp only [List.length_cons, ← heq.2]
    omega
  | case4 e rest _ ih =>
    simp only [Option.bind_eq_bind, Option.bind_eq_some_iff] at h
    obtain ⟨_, _, ⟨ps, r⟩, hr, heq⟩ := h
    simp only [pure, Option.some.injEq, Prod.mk.injEq] at heq
    have := ih hr
    simp only [List.length_cons, ← heq.2]
    omega
  | case5 => simp at h
  | case6 c rest _ _ _ _ ih =>
    simp only [Option.bind_eq_bind, Option.bind_eq_some_iff] at h
    obtain ⟨⟨ps, r⟩, hr, heq⟩ := h
    simp only [pure, Option.some.injEq, Prod.mk.injEq] at heq
    have := ih hr
    simp only [List.length_cons, ← heq.2]
    omega

/-! ### Meaning -/

/-- The characters that pieces stand for. Two units that form a surrogate pair stand for one
character, and no other surrogate is allowed. -/
def decodeChars? : JsonText → Option (List Char)
  | [] => some []
  | .plain c :: rest => (decodeChars? rest).map (c :: ·)
  | .escaped c :: rest => (decodeChars? rest).map (c :: ·)
  | .unit high :: rest =>
    if 0xD800 ≤ high ∧ high < 0xDC00 then
      match rest with
      | .unit low :: rest =>
        if 0xDC00 ≤ low ∧ low < 0xE000 then
          (decodeChars? rest).map
            (Char.ofNat (0x10000 + (high - 0xD800) * 0x400 + (low - 0xDC00)) :: ·)
        else none
      | _ => none
    else if 0xDC00 ≤ high ∧ high < 0xE000 then none
    else (decodeChars? rest).map (Char.ofNat high :: ·)

/-- The text that a written text stands for. -/
def decode? (written : JsonText) : Option String := (decodeChars? written).map String.ofList

/-- The characters of a text that is written without escapes. -/
def plainChars? : JsonText → Option (List Char)
  | [] => some []
  | .plain c :: rest => (plainChars? rest).map (c :: ·)
  | _ :: _ => none

/-- The text that is written without escapes. -/
def plain? (written : JsonText) : Option String := (plainChars? written).map String.ofList

/-- A text written plainly. -/
def ofString (text : String) : JsonText := text.toList.map .plain

theorem decodeChars?_map_plain (cs : List Char) :
    decodeChars? (cs.map .plain) = some cs := by
  induction cs with
  | nil => rfl
  | cons c cs ih => simp [decodeChars?, ih]

theorem plainChars?_map_plain (cs : List Char) : plainChars? (cs.map .plain) = some cs := by
  induction cs with
  | nil => rfl
  | cons c cs ih => simp [plainChars?, ih]

@[simp] theorem decode?_ofString (text : String) : (ofString text).decode? = some text := by
  simp [decode?, ofString, decodeChars?_map_plain]

@[simp] theorem plain?_ofString (text : String) : (ofString text).plain? = some text := by
  simp [plain?, ofString, plainChars?_map_plain]

end JsonText

end GridStore
