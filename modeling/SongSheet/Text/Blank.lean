import SongSheet.Text.Ranges

/-!
# Blanks and trimming

A blank is a space of any width, a tab, a line or paragraph end, or one of the four information
separators. A zero-width space is none. Trimming takes blanks off the ends of a text and leaves
those inside.
-/

namespace SongSheet.Text

/-- The blanks, by their code points. -/
def blankRanges : Ranges := [
  (0x0009, 0x000D), (0x001C, 0x0020), (0x0085, 0x0085), (0x00A0, 0x00A0), (0x1680, 0x1680),
  (0x2000, 0x200A), (0x2028, 0x2029), (0x202F, 0x202F), (0x205F, 0x205F), (0x3000, 0x3000)]

/-- The character is a blank. -/
def isBlank (c : Char) : Bool := blankRanges.contains c

/-! ## 1. On characters -/

/-- Without the blanks in front. -/
def trimStart (cs : List Char) : List Char := cs.dropWhile isBlank

/-- Without the blanks at the end. -/
def trimEnd (cs : List Char) : List Char := (cs.reverse.dropWhile isBlank).reverse

/-- Without the blanks at both ends. -/
def trimBoth (cs : List Char) : List Char := trimEnd (trimStart cs)

/-! ## 2. On texts -/

/-- A text without the blanks at its ends. -/
def trim (s : String) : String := String.ofList (trimBoth s.toList)

/-- A text without the blanks in front. -/
def trimLeft (s : String) : String := String.ofList (trimStart s.toList)

/-- Nothing but blanks; so is the empty text. -/
def isAllBlank (s : String) : Bool := s.toList.all isBlank

@[simp] theorem toList_trim (s : String) : (trim s).toList = trimBoth s.toList := by
  simp [trim]

@[simp] theorem toList_trimLeft (s : String) : (trimLeft s).toList = trimStart s.toList := by
  simp [trimLeft]

end SongSheet.Text
