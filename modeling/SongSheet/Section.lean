import SongSheet.Lyric
import SongSheet.Measure
import SongSheet.Settings

/-!
# Sections

A section has a name, the measures of its chord block and perhaps lyric lines, which together
cover its measures exactly. A section without lyrics is instrumental.
-/

namespace SongSheet

open Text (trim)

/-- A section as it is read. -/
structure Section where
  name : String
  measures : List Measure
  lyrics : List Lyric
  /-- The line of its header. -/
  line : Int
  deriving DecidableEq, Repr

namespace Section

/-- How many measures the lyric lines cover together. -/
def claimed (s : Section) : Int := (s.lyrics.map (·.span)).foldr (· + ·) 0

/-- The chords of each measure, as written. -/
def grid (s : Section) : List (List String) := s.measures.map Measure.texts

/-- What the lyrics cover is what there is; an instrumental section always passes. -/
def checkTiming (s : Section) : Except Failure Section :=
  match s.lyrics with
  | [] => .ok s
  | first :: _ =>
    if s.claimed = s.measures.length then .ok s
    else if Text.isWritable s.claimed && Text.isWritable s.measures.length then
      Failure.raise (.timing s.name s.claimed s.measures.length) first.line
    else .error (.numeral .writing)

/-! ## Headers -/

/-- The line between the chords and the lyrics of a section. -/
def lyricMark : String := "--"

/-- The line can name a section: it is short enough and nothing else than a name. -/
def isHeader (settings : Settings) (text : String) : Bool :=
  let name := trim text
  !name.isEmpty && decide ((name.length : Int) ≤ settings.maxHeaderLength) &&
    name != lyricMark && !settings.commentMark.toList.isPrefixOf name.toList &&
    !name.toList.contains ';' && !name.toList.contains '@' && !Lyric.hasSpan name

end Section

end SongSheet
