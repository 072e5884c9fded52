import SongSheet.Chord
import SongSheet.Diagnostic
import SongSheet.Text.Case

/-!
# Chord symbols

The chords of a song are written in a narrow notation: a root with at most one accidental, a
quality put together from a short list of words, and perhaps a bass of the same form as the root.
The root may be written small. A symbol is a token of that notation which can also be read as a
chord.
-/

namespace SongSheet

/-- A chord as it stands in a song, its root letter a capital. -/
structure ChordSymbol where
  text : String
  chord : Chord
  line : Int
  deriving DecidableEq, Repr

namespace ChordSymbol

/-! ## 1. The notation -/

/-- The words a quality is put together from. -/
def qualityWords : List (List Char) := [
  "m", "m7", "m9", "m11", "m13", "maj", "maj7", "maj9", "maj11", "maj13",
  "M", "M7", "M9", "M11", "M13", "Maj", "Maj7", "Maj9", "Maj11", "Maj13",
  "dim", "dim6", "dim7", "aug", "aug7", "sus2", "sus4", "sus27", "sus47", "add9",
  "7", "9", "11", "13", "6", "m7-5", "m7b5", "mM7", "mmaj7", "5"].map String.toList

/-- What is left of the words begun when `c` is read: of those under way (`begun`), and, if one of
    them is at its end, of every word that starts with `c`. -/
def advance (words begun : List (List Char)) (c : Char) : List (List Char) :=
  (begun ++ if begun.contains [] then words else []).filterMap fun word =>
    match word with
    | [] => none
    | first :: rest => if first = c then some rest else none

/-- The text completes the words begun and goes on with whole words. -/
def isChain (words begun : List (List Char)) : List Char → Bool
  | [] => begun.contains []
  | c :: rest => isChain words (advance words begun c) rest

/-- A row of words, with nothing between them; the empty row too. -/
def isQuality (cs : List Char) : Bool := isChain qualityWords [[]] cs

/-- A text without the accidental in front of it. -/
def dropAccidental : List Char → List Char
  | c :: rest => if Note.isAccidental c then rest else c :: rest
  | [] => []

/-- Root, quality and perhaps a bass. -/
def isNotation : List Char → Bool
  | [] => false
  | letter :: rest =>
    Note.isLetter letter && isQuality ((dropAccidental rest).takeWhile (· ≠ '/')) &&
      (Chord.afterSlash (dropAccidental rest)).all Note.isSimple

/-! ## 2. Symbols -/

/-- No symbol is longer. -/
def maxLength : Nat := 15

/-- A text with its first character in upper case. -/
def capitalizeChars : List Char → List Char
  | c :: rest => Text.upperChar c ++ rest
  | [] => []

/-- A token with its first letter in upper case. -/
def capitalize (token : String) : String := String.ofList (capitalizeChars token.toList)

/-- Reads a token as a symbol. A line end at the end of the token is not looked at by the
    notation. -/
def read (token : String) (line : Int) : Except Failure ChordSymbol :=
  let text := capitalize token
  if !text.toList.head?.any Note.isLetter then Failure.raise (.chordRoot token) line
  else if maxLength < text.length || !isNotation (Text.dropFinalNewline text.toList) then
    Failure.raise (.chordNotation token) line
  else
    match Chord.read? text with
    | some chord => .ok ⟨text, chord, line⟩
    | none => Failure.raise (.chordNotation token) line

end ChordSymbol

end SongSheet
