import SongSheet.Proofs.Session.Rules

/-!
# Headers among the classes of lines

A session asks in turn whether a line is a comment, blank, a directive line or a header, and elsewhere
whether it is the line before the lyrics or a lyric line. The tests were written one by one and look at the
text trimmed in different ways, so it has to be shown that a header is none of the others
(`header_among_line_classes`).

It fails in one place. A comment is told by the text trimmed on its left, a header by the text trimmed on
both sides. A comment mark may end in blanks, and a line with that mark and nothing else loses them when it
is trimmed: what is left does not start with the mark any more, and passes for a name
(`header_that_is_comment`). These lines are the only ones (`Line.isComment_iff_of_isHeader`), and no section
is ever named by them, since a session passes over comments first.
-/

namespace SongSheet

open Text (trim trimStart)

variable {settings : Settings} {l : Line}

/-! ## 1. Headers and comments -/

namespace Line

/-- **The line is the comment mark and nothing else**, and the mark ends in blanks that trimming the line
    takes away. -/
def IsBareMark (mark : String) (l : Line) : Prop :=
  ∃ gap rest, gap ≠ [] ∧ (∀ c ∈ gap ++ rest, Text.isBlank c = true) ∧
    mark.toList = l.trimmed.toList ++ gap ∧ trimStart l.text.toList = mark.toList ++ rest

/-- **A header is a comment exactly if it is a bare comment mark.** -/
theorem isComment_iff_of_isHeader (h : Section.isHeader settings l.text = true) :
    l.isComment settings.commentMark = true ↔ l.IsBareMark settings.commentMark := by
  obtain ⟨_, _, _, hmark, _⟩ := isHeader_iff.mp h
  have hnot : ¬ settings.commentMark.toList <+: Text.trimBoth l.text.toList := by
    rw [← List.isPrefixOf_iff_prefix, ← Text.toList_trim, hmark]
    exact Bool.false_ne_true
  rw [isComment, Text.toList_trimLeft, List.isPrefixOf_iff_prefix, Text.prefix_trimStart_iff,
    or_iff_right hnot, IsBareMark, toList_trimmed]

/-- A mark that ends visibly keeps headers and comments apart. -/
theorem isComment_eq_false_of_isHeader
    (hmark : ∀ c ∈ settings.commentMark.toList.getLast?, Text.isBlank c = false)
    (h : Section.isHeader settings l.text = true) : l.isComment settings.commentMark = false := by
  obtain ⟨_, _, _, hprefix, _⟩ := isHeader_iff.mp h
  rw [isComment, Text.toList_trimLeft, ← Text.isPrefixOf_trimBoth hmark, ← Text.toList_trim]
  exact hprefix

end Line

/-! ## 2. Headers and all other lines -/

/-- **A header is nothing else.** Whether a line is one depends on its trimmed text alone. A header is not
    blank, no directive line and not the line before the lyrics, and among lyrics it is refused for want of a
    span. It is a comment only as a bare comment mark that ends in blanks, never if the mark ends visibly; and
    as a comment every session passes over it. -/
theorem header_among_line_classes (settings : Settings) (l : Line) :
    Section.isHeader settings (trim l.text) = Section.isHeader settings l.text ∧
      (Section.isHeader settings l.text = true →
        l.isBlank = false ∧ Directive.isDirectiveLine l.text = false ∧
        l.trimmed ≠ Section.lyricMark ∧
        Lyric.read l = .error (.diagnostic
          ⟨.missingLyricSpan, (Problem.noSpan l.trimmed).message, some l.number⟩) ∧
        (l.isComment settings.commentMark = true ↔ l.IsBareMark settings.commentMark) ∧
        ((∀ c ∈ settings.commentMark.toList.getLast?, Text.isBlank c = false) →
          l.isComment settings.commentMark = false) ∧
        (l.isComment settings.commentMark = true →
          ∀ σ : Session, σ.read settings l = σ.stay)) := by
  refine ⟨Line.isHeader_trim settings l.text, fun h => ?_⟩
  obtain ⟨_, _, hlyricMark, _, _, _, hspan⟩ := Line.isHeader_iff.mp h
  exact ⟨Line.isBlank_eq_false_of_isHeader h, Line.isDirectiveLine_eq_false_of_isHeader h,
    hlyricMark, Lyric.read_of_hasSpan_eq_false hspan, Line.isComment_iff_of_isHeader h,
    fun hmark => Line.isComment_eq_false_of_isHeader hmark h,
    fun hc σ => Session.read_of_isComment hc hspan⟩

/-- A bare mark with blanks around it is read by no session, not even among lyrics. -/
theorem header_among_line_classes_bare :
    (⟨3, " #  "⟩ : Line).IsBareMark "# " ∧
      ∀ σ : Session, σ.read { commentMark := "# " } ⟨3, " #  "⟩ = σ.stay := by
  have hheader : Section.isHeader { commentMark := "# " } " #  " = true := by decide
  have hcomment : (⟨3, " #  "⟩ : Line).isComment "# " = true := by decide
  obtain ⟨_, _, _, _, hbare, _, hpassed⟩ :=
    (header_among_line_classes { commentMark := "# " } ⟨3, " #  "⟩).2 hheader
  exact ⟨hbare.mp hcomment, hpassed hcomment⟩

/-- With a mark that ends in a blank, the bare mark is a comment, and still it passes for a header. -/
theorem header_that_is_comment :
    Section.isHeader { commentMark := "# " } "# " = true ∧
      (⟨1, "# "⟩ : Line).isComment ({ commentMark := "# " } : Settings).commentMark = true := by
  constructor <;> decide

end SongSheet
