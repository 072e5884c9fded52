import SongSheet.Text.Pieces

/-!
# Notes

A note is a letter from A to G, raised or lowered by up to two sharps or flats.
-/

namespace SongSheet.Note

/-- The letters of notes. -/
def letters : List Char := ['A', 'B', 'C', 'D', 'E', 'F', 'G']

/-- The character is the letter of a note. -/
def isLetter (c : Char) : Bool := letters.contains c

/-- The character is a flat or a sharp. -/
def isAccidental (c : Char) : Bool := c = 'b' || c = '#'

/-- A letter with at most one accidental. -/
def isSimple : List Char → Bool
  | [letter] => isLetter letter
  | [letter, accidental] => isLetter letter && isAccidental accidental
  | _ => false

/-- A letter with at most two accidentals, both the same; a line end may follow. -/
def isNote (cs : List Char) : Bool :=
  match Text.dropFinalNewline cs with
  | [letter] => isLetter letter
  | [letter, a] => isLetter letter && isAccidental a
  | [letter, a, b] => isLetter letter && isAccidental a && a == b
  | _ => false

/-- How many characters at the front of a chord name its root: the letter and its accidentals. -/
def rootLength : List Char → Nat
  | _ :: 'b' :: 'b' :: _ => 3
  | _ :: '#' :: '#' :: _ => 3
  | _ :: 'b' :: _ => 2
  | _ :: '#' :: _ => 2
  | _ => 1

end SongSheet.Note
