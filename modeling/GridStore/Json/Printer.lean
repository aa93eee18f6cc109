import GridStore.Json.Basic

/-!
# JSON text

The compact text of a JSON value, without any blanks, and the indented text, with every item of an
array and every field of an object on a line of its own.

## Main definitions

* `Json.quoted`: a text between quotes.
* `Json.compact`: the compact text.
* `Json.indented`: the text indented by two blanks a level.
-/

namespace GridStore

namespace Json

/-! ### Texts -/

/-- A character inside a quoted text. Only quotes, backslashes and control characters are
escaped. -/
def quotedChar (c : Char) : List Char :=
  if c = '"' then ['\\', '"']
  else if c = '\\' then ['\\', '\\']
  else if c = '\n' then ['\\', 'n']
  else if c = '\r' then ['\\', 'r']
  else if c = '\t' then ['\\', 't']
  else if c = '\x08' then ['\\', 'b']
  else if c = '\x0c' then ['\\', 'f']
  else if c.toNat < 32 then
    let hex := Nat.toDigits 16 c.toNat
    '\\' :: 'u' :: (List.replicate (4 - hex.length) '0' ++ hex)
  else [c]

/-- A text between quotes. -/
def quoted (s : String) : List Char := '"' :: (s.toList.flatMap quotedChar ++ ['"'])

/-- The text of a value that is neither an array nor an object. -/
def scalarText : Json → List Char
  | null => ['n', 'u', 'l', 'l']
  | bool true => ['t', 'r', 'u', 'e']
  | bool false => ['f', 'a', 'l', 's', 'e']
  | number n => n.text.toList
  | text s => quoted s
  | array _ => []
  | object _ => []

/-! ### Compact text -/

mutual

/-- The characters of the compact text. -/
def compactChars : Json → List Char
  | array items => '[' :: (compactItems items ++ [']'])
  | object fields => '\x7b' :: (compactFields fields ++ ['\x7d'])
  | value => scalarText value

/-- The items of an array joined by commas. -/
def compactItems : List Json → List Char
  | [] => []
  | item :: rest =>
    compactChars item ++ match rest with
      | [] => []
      | _ :: _ => ',' :: compactItems rest

/-- The fields of an object joined by commas. -/
def compactFields : List (String × Json) → List Char
  | [] => []
  | (key, value) :: rest =>
    quoted key ++ ':' :: compactChars value ++ match rest with
      | [] => []
      | _ :: _ => ',' :: compactFields rest

end

/-- The text of a value without blanks. -/
def compact (value : Json) : String := String.ofList value.compactChars

/-! ### Indented text -/

/-- The start of a line at a level of indentation. -/
def lineStart (level : Nat) : List Char := '\n' :: List.replicate (2 * level) ' '

mutual

/-- The characters of the indented text of a value at a level; an empty array or object stays on
its line. -/
def indentedChars (level : Nat) : Json → List Char
  | array [] => ['[', ']']
  | array (item :: rest) =>
    '[' :: (indentedItems (level + 1) (item :: rest) ++ lineStart level ++ [']'])
  | object [] => ['\x7b', '\x7d']
  | object (field :: rest) =>
    '\x7b' :: (indentedFields (level + 1) (field :: rest) ++ lineStart level ++ ['\x7d'])
  | value => scalarText value

/-- The items of an array, each on a line of its own. -/
def indentedItems (level : Nat) : List Json → List Char
  | [] => []
  | item :: rest =>
    lineStart level ++ indentedChars level item ++ match rest with
      | [] => []
      | _ :: _ => ',' :: indentedItems level rest

/-- The fields of an object, each on a line of its own. -/
def indentedFields (level : Nat) : List (String × Json) → List Char
  | [] => []
  | (key, value) :: rest =>
    lineStart level ++ quoted key ++ ':' :: ' ' :: indentedChars level value ++ match rest with
      | [] => []
      | _ :: _ => ',' :: indentedFields level rest

end

/-- The text of a value with two blanks of indentation a level. -/
def indented (value : Json) : String := String.ofList (value.indentedChars 0)

end Json

end GridStore
