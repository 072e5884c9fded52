import SongSheet.Text.Hex
import SongSheet.Text.Printable

/-!
# Quoted texts

A text is shown between single quotes, or between double quotes if it holds a single quote and no
double one. A backslash and the closing quote are escaped, line ends and tabs have letters of
their own, and every other character that cannot be shown is written by its code point.
-/

namespace SongSheet.Text

/-- The quotation mark that needs fewer escapes. -/
def quoteFor (cs : List Char) : Char :=
  if cs.contains '\'' && !cs.contains '"' then '"' else '\''

/-- A character between quotation marks, escaped where it has to be. -/
def quotedChar (quote c : Char) : List Char :=
  if c = quote || c = '\\' then ['\\', c]
  else if c = '\n' then ['\\', 'n']
  else if c = '\r' then ['\\', 'r']
  else if c = '\t' then ['\\', 't']
  else if isPrintable c then [c]
  else if c.toNat < 0x100 then '\\' :: 'x' :: hex 2 c.toNat
  else if c.toNat < 0x10000 then '\\' :: 'u' :: hex 4 c.toNat
  else '\\' :: 'U' :: hex 8 c.toNat

/-- A text between quotation marks. -/
def quoted (s : String) : String :=
  let quote := quoteFor s.toList
  String.ofList (quote :: s.toList.flatMap (quotedChar quote) ++ [quote])

end SongSheet.Text
