import SongSheet.Chord.Symbol
import SongSheet.Line

/-!
# Measures

One chord line is one measure: its chords, with semicolons between them. Semicolons at the end of
the line are left over and do no harm; an empty place before the last chord does.
-/

namespace SongSheet

open Text (pieces trimBoth)

/-- The chords of one chord line. -/
structure Measure where
  chords : List ChordSymbol
  line : Int
  deriving DecidableEq, Repr

namespace Measure

/-- The chords of a measure as they are written. -/
def texts (m : Measure) : List String := m.chords.map (·.text)

/-- The list without the empty pieces at its end. -/
def dropEmptyEnd (ps : List (List Char)) : List (List Char) :=
  (ps.reverse.dropWhile List.isEmpty).reverse

/-- The tokens of a chord line, trimmed. -/
def tokens (text : String) : List String :=
  (dropEmptyEnd ((pieces ';' text.toList).map trimBoth)).map String.ofList

/-- Reads tokens as symbols, up to the first that is none. -/
def readSymbols (line : Int) : List String → Except Failure (List ChordSymbol)
  | [] => .ok []
  | token :: rest =>
    match ChordSymbol.read token line with
    | .error e => .error e
    | .ok symbol =>
      match readSymbols line rest with
      | .error e => .error e
      | .ok symbols => .ok (symbol :: symbols)

/-- Reads a chord line. That it has chords, and no empty place, is settled before any chord is
    looked at. -/
def read (l : Line) : Except Failure Measure :=
  let ts := tokens l.text
  if ts.isEmpty then Failure.raise (.noChords l.trimmed) l.number
  else if ts.contains "" then Failure.raise (.emptyChord l.trimmed) l.number
  else
    match readSymbols l.number ts with
    | .ok chords => .ok ⟨chords, l.number⟩
    | .error e => .error e

end Measure

end SongSheet
