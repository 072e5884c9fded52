import SongSheet.Text.Blank
import SongSheet.Text.Pieces

/-!
# Lines

A text is read line by line. A line ends at a line feed, a carriage return, or the two together;
a byte order mark in front of the text is no part of it. Blank and comment lines are kept, so
that the numbers stay those of the text.
-/

namespace SongSheet

open Text (trim trimLeft isAllBlank pieces)

/-- One line of a text. -/
structure Line where
  number : Int
  text : String
  deriving DecidableEq, Repr

namespace Line

/-- The line without the blanks at its ends. -/
def trimmed (l : Line) : String := trim l.text

/-- There is nothing on the line but blanks. -/
def isBlank (l : Line) : Bool := isAllBlank l.text

/-- The first thing on the line is the comment mark. -/
def isComment (mark : String) (l : Line) : Bool :=
  mark.toList.isPrefixOf (trimLeft l.text).toList

/-! ## 1. Cutting a text into lines -/

/-- A text without the byte order mark in front of it. -/
def dropByteOrderMark : List Char → List Char
  | '\ufeff' :: cs => cs
  | cs => cs

/-- A carriage return and line feed become one line feed. -/
def joinEndings : List Char → List Char
  | '\r' :: '\n' :: cs => '\n' :: joinEndings cs
  | c :: cs => c :: joinEndings cs
  | [] => []

/-- A carriage return becomes a line feed. -/
def unifyEnding (c : Char) : Char := if c = '\r' then '\n' else c

/-- A text as it is read from a file: every line ends in a line feed. -/
def withLineFeeds (text : String) : String :=
  String.ofList ((joinEndings text.toList).map unifyEnding)

/-- The lines of a text, without their ends. -/
def split (text : String) : List String :=
  (pieces '\n' ((joinEndings (dropByteOrderMark text.toList)).map unifyEnding)).map String.ofList

/-! ## 2. Numbering -/

/-- Numbers texts in order, from `first` on. -/
def numbered (first : Int) : List String → List Line
  | [] => []
  | t :: ts => ⟨first, t⟩ :: numbered (first + 1) ts

/-- The lines of a text, numbered from one. -/
def scan (text : String) : List Line := numbered 1 (split text)

theorem map_text_numbered (first : Int) (ts : List String) :
    (numbered first ts).map (·.text) = ts := by
  induction ts generalizing first with
  | nil => rfl
  | cons t ts ih => simp [numbered, ih]

/-- A text has at least one line. -/
theorem split_ne_nil (text : String) : split text ≠ [] := by
  simp [split, Text.pieces_ne_nil]

end Line

end SongSheet
