import SongSheet.Json.Basic
import SongSheet.Text.Hex
import SongSheet.Text.Numeral

/-!
# Writing JSON

A value is written on one line, with a space after each comma and colon, or spread over lines
with a number of spaces to the level. Quotes, backslashes and controls are always escaped; a
`Charset` says whether other characters stand for themselves.
-/

namespace SongSheet.Json

open Text (hex decimal)

/-- The characters that may appear in the written text. -/
inductive Charset where
  /-- Only ASCII: all else is escaped, in surrogate pairs where needed. -/
  | ascii
  /-- Every character. -/
  | unicode
  deriving DecidableEq, Repr

/-- One line (`none`), or lines with so many spaces to the level. -/
abbrev Indent := Option Nat

/-! ## 1. Texts -/

/-- `\u` and one 16-bit unit. -/
def escapedUnit (unit : Nat) : List Char := '\\' :: 'u' :: hex 4 unit

/-- The escape of a character by its code: one unit, or two beyond the first plane. -/
def escapedCode (c : Char) : List Char :=
  if c.toNat < 0x10000 then escapedUnit c.toNat
  else
    let offset := c.toNat - 0x10000
    escapedUnit (0xD800 + offset / 0x400) ++ escapedUnit (0xDC00 + offset % 0x400)

/-- A character of a text: escaped where it has to be, else as the character set allows. -/
def writtenChar (charset : Charset) (c : Char) : List Char :=
  if c = '"' then ['\\', '"']
  else if c = '\\' then ['\\', '\\']
  else if c = '\n' then ['\\', 'n']
  else if c = '\r' then ['\\', 'r']
  else if c = '\t' then ['\\', 't']
  else if c = '\x08' then ['\\', 'b']
  else if c = '\x0c' then ['\\', 'f']
  else if c.toNat < 0x20 then escapedUnit c.toNat
  else
    match charset with
    | .unicode => [c]
    | .ascii => if c.toNat < 0x7F then [c] else escapedCode c

/-- A text between its quotes. -/
def writtenText (charset : Charset) (s : String) : List Char :=
  '"' :: s.toList.flatMap (writtenChar charset) ++ ['"']

/-! ## 2. Layout -/

/-- What stands before an item at `level`: nothing on one line, else a new line and its indent. -/
def lineBreak (indent : Indent) (level : Nat) : List Char :=
  match indent with
  | none => []
  | some width => '\n' :: List.replicate (width * level) ' '

/-- What stands after each item but the last. -/
def itemEnd (indent : Indent) : List Char :=
  match indent with
  | none => [',', ' ']
  | some _ => [',']

/-! ## 3. Values -/

mutual

/-- The text of a value whose own line is at `level`. -/
def written (charset : Charset) (indent : Indent) (level : Nat) : Json → List Char
  | .null => "null".toList
  | .bool true => "true".toList
  | .bool false => "false".toList
  | .number n => (decimal n).toList
  | .text s => writtenText charset s
  | .array [] => ['[', ']']
  | .array (item :: items) =>
    '[' :: lineBreak indent (level + 1) ++ written charset indent (level + 1) item
      ++ writtenItems charset indent (level + 1) items ++ lineBreak indent level ++ [']']
  | .object [] => ['\x7b', '\x7d']
  | .object ((key, value) :: members) =>
    '\x7b' :: lineBreak indent (level + 1) ++ writtenText charset key ++ [':', ' ']
      ++ written charset indent (level + 1) value
      ++ writtenMembers charset indent (level + 1) members ++ lineBreak indent level ++ ['\x7d']

/-- The items of an array after its first, each with the comma before it. -/
def writtenItems (charset : Charset) (indent : Indent) (level : Nat) : List Json → List Char
  | [] => []
  | item :: items =>
    itemEnd indent ++ lineBreak indent level ++ written charset indent level item
      ++ writtenItems charset indent level items

/-- The members of an object after its first, each with the comma before it. -/
def writtenMembers (charset : Charset) (indent : Indent) (level : Nat) :
    List (String × Json) → List Char
  | [] => []
  | (key, value) :: members =>
    itemEnd indent ++ lineBreak indent level ++ writtenText charset key ++ [':', ' ']
      ++ written charset indent level value ++ writtenMembers charset indent level members

end

/-- The text of a value. -/
def write (charset : Charset) (indent : Indent) (value : Json) : String :=
  String.ofList (written charset indent 0 value)

end SongSheet.Json
