import SongSheet.Text.Blank
import SongSheet.Text.Numeral

/-!
# Settings

The bounds a compilation works within. Settings that exist are sound: the tempo range is not
empty and starts above zero, the comment mark can be seen, and headers may have a length. The
proofs are fields, so no later step asks again; `Settings.ofDraft` is where they are decided.
-/

namespace SongSheet

open Text (isAllBlank decimal)

/-- The bounds a compilation works within, with the proofs that they are sound. -/
structure Settings where
  /-- Slowest accepted tempo. -/
  minBpm : Int := 40
  /-- Fastest accepted tempo. -/
  maxBpm : Int := 300
  /-- A line that starts with this mark is a comment. -/
  commentMark : String := "#"
  /-- Longest line that can name a section. -/
  maxHeaderLength : Int := 60
  /-- Written documents hold each section's lyrics. -/
  includeLyrics : Bool := false
  minBpm_pos : 1 ≤ minBpm := by decide
  minBpm_le_maxBpm : minBpm ≤ maxBpm := by decide
  commentMark_visible : isAllBlank commentMark = false := by decide
  maxHeaderLength_pos : 1 ≤ maxHeaderLength := by decide
  deriving DecidableEq

namespace Settings

/-- Settings as asked for, sound or not. -/
structure Draft where
  minBpm : Int := 40
  maxBpm : Int := 300
  commentMark : String := "#"
  maxHeaderLength : Int := 60
  includeLyrics : Bool := false
  deriving DecidableEq, Repr

/-- What is unsound about a draft. -/
inductive Fault where
  | tempoRange (minBpm maxBpm : Int)
  | blankCommentMark
  | headerLength (length : Int)
  deriving DecidableEq, Repr

/-- The wording of a fault. -/
def Fault.message : Fault → String
  | .tempoRange minBpm maxBpm => s!"Invalid tempo range: {decimal minBpm}-{decimal maxBpm}"
  | .blankCommentMark => "comment_prefix must be a non-blank string"
  | .headerLength length => s!"max_header_length must be positive, got {decimal length}"

/-- The settings a draft asks for, or its first fault. -/
def ofDraft (d : Draft) : Except Fault Settings :=
  if range : 1 ≤ d.minBpm ∧ d.minBpm ≤ d.maxBpm then
    if visible : isAllBlank d.commentMark = false then
      if length : 1 ≤ d.maxHeaderLength then
        .ok {
          minBpm := d.minBpm
          maxBpm := d.maxBpm
          commentMark := d.commentMark
          maxHeaderLength := d.maxHeaderLength
          includeLyrics := d.includeLyrics
          minBpm_pos := range.1
          minBpm_le_maxBpm := range.2
          commentMark_visible := visible
          maxHeaderLength_pos := length }
      else .error (.headerLength d.maxHeaderLength)
    else .error .blankCommentMark
  else .error (.tempoRange d.minBpm d.maxBpm)

end Settings

end SongSheet
