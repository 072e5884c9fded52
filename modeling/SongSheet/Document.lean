import SongSheet.Json.Printer
import SongSheet.Metadata
import SongSheet.Song

/-!
# Compiled songs

A document shows a song twice: its sections, and the prompter, the one timeline of tempos and
sections that is played from. As JSON it holds both, and the lyrics if they are wanted.
-/

namespace SongSheet

/-- One thing on the prompter. -/
inductive Item where
  | tempo (bpm : Value)
  | content (name : String) (measures : List Measure)
  deriving DecidableEq, Repr

/-- A compiled song. -/
structure Document where
  metadata : Metadata
  sections : List Section
  prompter : List Item
  includeLyrics : Bool := false
  deriving DecidableEq, Repr

/-! ## 1. Building -/

/-- What an event puts on the prompter. -/
def Event.item : Event → Item
  | .part s => .content s.name s.measures
  | .directive d => .tempo d.value

/-- The timeline: the tempo the song starts with, if it says one, and then its events. -/
def timeline (metadata : Metadata) (events : List Event) : List Item :=
  metadata.tempo.toList.map Item.tempo ++ events.map Event.item

/-- The document of a song: its sections, and the timeline that is played from. -/
def Document.build (settings : Settings) (metadata : Metadata) (events : List Event) : Document :=
  { metadata
    sections := events.filterMap Event.part?
    prompter := timeline metadata events
    includeLyrics := settings.includeLyrics }

/-! ## 2. As JSON -/

/-- Measures as arrays of chord texts. -/
def gridJson (measures : List Measure) : Json :=
  .array (measures.map fun m => Json.texts m.texts)

/-- A lyric line as JSON: its text and how many measures it covers. -/
def Lyric.toJson (l : Lyric) : Json :=
  .object [("text", .text l.text), ("measures", .number l.span)]

/-- A section as JSON, with its lyrics if they are wanted. -/
def Section.toJson (includeLyrics : Bool) (s : Section) : Json :=
  .object ([("name", .text s.name), ("measures", gridJson s.measures)] ++
    if includeLyrics then [("lyrics", .array (s.lyrics.map Lyric.toJson))] else [])

/-- A thing on the prompter as JSON; its type says which of the two it is. -/
def Item.toJson : Item → Json
  | .tempo bpm => .object [("type", .text "tempo"), ("bpm", bpm.toJson)]
  | .content name measures =>
    .object [("type", .text "content"), ("name", .text name), ("chords", gridJson measures)]

namespace Document

/-- The document as JSON. Of its metadata only the tempo shows, on the prompter. -/
def toJson (d : Document) : Json :=
  .object [("sections", .array (d.sections.map (Section.toJson d.includeLyrics))),
    ("prompter", .array (d.prompter.map Item.toJson))]

/-- The document as JSON text, every character standing for itself where it may. -/
def write (indent : Json.Indent) (d : Document) : String := d.toJson.write .unicode indent

end Document

end SongSheet
