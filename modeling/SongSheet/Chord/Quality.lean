/-!
# Chord qualities

What stands between the root and the bass of a chord. `Quality.names` are the qualities a chord
can be read with; `Quality.harte?` gives the Harte shorthand of those a song may use. Neither list
holds all of the other.
-/

namespace SongSheet.Quality

/-- The qualities a chord can be read with. The empty one is a plain major triad. -/
def names : List String := [
  "", "5", "no5", "omit5", "m(no5)", "m(omit5)", "maj", "m", "min", "-", "dim", "(b5)", "aug",
  "sus2", "sus4", "sus", "6", "6b5", "6-5", "7", "7-5", "7b5", "7+5", "7#5", "7sus4", "m6", "m7",
  "m7-5", "m7b5", "m7+5", "m7#5", "dim7", "M7", "maj7", "maj7+5", "M7+5", "mmaj7", "mM7", "add4",
  "majadd4", "Madd4", "madd4", "add9", "majadd9", "Madd9", "madd9", "sus4add9", "sus4add2", "2",
  "add11", "4", "m69", "69", "9", "m9", "M9", "maj9", "9sus4", "7-9", "7b9", "7(b9)", "7+9",
  "7#9", "9-5", "9b5", "9+5", "9#5", "7#9b5", "7#9#5", "m7b9b5", "7b9b5", "7b9#5", "7+11",
  "7#11", "maj7+11", "M7+11", "maj7#11", "M7#11", "7-13", "7b13", "m7add11", "maj7add11",
  "M7add11", "mmaj7add11", "mM7add11", "maj7add13", "M7add13", "7b9#9", "7b9#11", "7#9#11",
  "9+11", "9#11", "11", "m11", "7b9b13", "13", "13-9", "13b9", "13+9", "13#9", "13+11", "13#11",
  "maj13", "M13"]

/-- Qualities with their Harte shorthand. -/
def shorthands : List (String × String) := [
  ("", "maj"), ("m", "min"), ("m7", "min7"), ("7", "7"), ("maj7", "maj7"), ("M7", "maj7"),
  ("dim", "dim"), ("dim7", "dim7"), ("dim6", "dim6"), ("aug", "aug"), ("aug7", "aug7"),
  ("m7-5", "hdim7"), ("m7b5", "hdim7"), ("sus4", "sus4"), ("sus2", "sus2"), ("7sus4", "7sus4"),
  ("7sus2", "7sus2"), ("add9", "maj(9)"), ("madd9", "min(9)"), ("9", "9"), ("m9", "min9"),
  ("maj9", "maj9"), ("11", "11"), ("m11", "min11"), ("13", "13"), ("m13", "min13"),
  ("maj13", "maj13"), ("6", "maj6"), ("m6", "min6"), ("mmaj7", "minmaj7"), ("mM7", "minmaj7"),
  ("5", "5")]

/-- A chord can be read with this quality. -/
def isName (s : String) : Bool := names.contains s

/-- The Harte shorthand of a quality, if it has one. -/
def harte? (quality : String) : Option String := shorthands.lookup quality

end SongSheet.Quality
