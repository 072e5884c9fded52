import SongSheet.Diagnostic
import SongSheet.Line

/-!
# Lyric lines

A lyric line is a text followed by an underscore and the number of measures it covers, at the very
end: `Singing along _2`. The text may hold underscores and digits of its own; the last underscore
is the one that counts, and blanks before it belong to no part.
-/

namespace SongSheet

open Text (isDigit trimEnd)

/-- A lyric line as it is read. -/
structure Lyric where
  text : String
  /-- How many measures the line covers. -/
  span : Int
  line : Int
  deriving DecidableEq, Repr

namespace Lyric

/-- The text and the digits of a trimmed lyric line. -/
def parts? (cs : List Char) : Option (List Char × List Char) :=
  let digits := (cs.reverse.takeWhile isDigit).reverse
  match cs.reverse.dropWhile isDigit with
  | '_' :: before =>
    let text := trimEnd before.reverse
    if digits.isEmpty || text.contains '\n' then none else some (text, digits)
  | _ => none

/-- The line ends in an underscore and digits. -/
def hasSpan (s : String) : Bool := (parts? s.toList).isSome

/-- Reads a lyric line. -/
def read (l : Line) : Except Failure Lyric :=
  match parts? l.trimmed.toList with
  | none => Failure.raise (.noSpan l.trimmed) l.number
  | some (text, digits) =>
    match readNumber digits with
    | .error e => .error e
    | .ok span =>
      if span < 1 then Failure.raise (.zeroSpan (String.ofList digits)) l.number
      else .ok ⟨String.ofList text, span, l.number⟩

end Lyric

end SongSheet
