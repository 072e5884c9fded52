import SongSheet.Notice

/-!
# Songs

A song as read: the directives before its first section, and what comes from there on in the order
of the text, sections and changes of tempo.
-/

namespace SongSheet

/-- One thing in the body of a song. -/
inductive Event where
  | part (s : Section)
  | directive (d : Directive)
  deriving DecidableEq, Repr

namespace Event

/-- The section, if the event is one. -/
def part? : Event → Option Section
  | .part s => some s
  | .directive _ => none

end Event

/-- A song as it is read. -/
structure Song where
  preamble : List Directive := []
  events : List Event := []
  deriving DecidableEq, Repr

namespace Song

/-- The sections of a song, in order. -/
def sections (s : Song) : List Section := s.events.filterMap Event.part?

end Song

end SongSheet
