/-!
# Cutting a text at a character

The pieces are what stands before, between and after the cuts, so there is one more of them than
there are cuts, and an empty text is one empty piece.
-/

namespace SongSheet.Text

/-- The pieces of a text that is cut at every such character. -/
def pieces (cut : Char) : List Char → List (List Char)
  | [] => [[]]
  | c :: rest =>
    if c = cut then [] :: pieces cut rest
    else (pieces cut rest).modifyHead (c :: ·)

theorem pieces_ne_nil (cut : Char) (cs : List Char) : pieces cut cs ≠ [] := by
  induction cs with
  | nil => simp [pieces]
  | cons c rest ih =>
    unfold pieces
    split
    · simp
    · cases h : pieces cut rest with
      | nil => exact absurd h ih
      | cons p ps => simp

/-- A text without one line end at its end, if it has one there. -/
def dropFinalNewline (cs : List Char) : List Char :=
  if cs.getLast? = some '\n' then cs.dropLast else cs

end SongSheet.Text
