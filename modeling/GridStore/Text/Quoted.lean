import GridStore.Text.Printable

/-!
# Quoted texts in messages

Messages show texts and characters between quotes, with a backslash before a quote and before a
backslash, a letter for the common control characters, and the code point in hexadecimal for other
characters that have no appearance of their own.

## Main definitions

* `quotedText`: a text between double quotes.
* `quotedChar`: a character between single quotes.
-/

namespace GridStore

/-- The code point of a character between braces after a backslash and a `u`. -/
def codeEscape (c : Char) : List Char :=
  '\\' :: 'u' :: '\x7b' :: (Nat.toDigits 16 c.toNat ++ ['\x7d'])

/-- A character inside quotes of the kind `quote`. -/
def quotedBody (quote c : Char) : List Char :=
  if c = '\x00' then ['\\', '0']
  else if c = '\t' then ['\\', 't']
  else if c = '\r' then ['\\', 'r']
  else if c = '\n' then ['\\', 'n']
  else if c = '\\' ∨ c = quote then ['\\', c]
  else if extendsGrapheme c || isUnprintable c then codeEscape c
  else [c]

/-- A text between double quotes. -/
def quotedText (text : String) : String :=
  String.ofList ('"' :: (text.toList.flatMap (quotedBody '"') ++ ['"']))

/-- A character between single quotes. -/
def quotedChar (c : Char) : String :=
  String.ofList ('\'' :: (quotedBody '\'' c ++ ['\'']))

end GridStore
