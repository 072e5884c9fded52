import SongSheet.Proofs.Layout
import SongSheet.Proofs.Line.Measure
import SongSheet.Proofs.Session.Failures
import SongSheet.Proofs.Sheet.Reading

/-!
# Blank lines between chord lines

After the chords of a block a blank line is a question, and the next line that is neither blank nor a
comment answers it: if it can only start something new, the block was over; if not, the blank line stands
among the chords and is reported. A chord line should not start anything new. But a line is tried as
a header before it is tried as a chord line, and a chord line without a semicolon is a header unless it is
too long for one (`Measure.isHeader_iff_of_read`). So one chord alone after a blank line ends the block and
names a section; any other chord line is reported (`pause_before_chord_line`).
-/

namespace SongSheet

open Text (trim trimStart trimBoth)

variable {settings : Settings} {l : Line} {m : Measure}

/-! ## 1. Chord lines that can be taken for something else -/

/-- The comment mark stands in front of the trimmed line only if it stands in front of the line. -/
theorem Line.isPrefixOf_trimmed_of_not_isComment (h : l.isComment settings.commentMark = false) :
    settings.commentMark.toList.isPrefixOf l.trimmed.toList = false := by
  rw [Bool.eq_false_iff, Ne, List.isPrefixOf_iff_prefix, Line.toList_trimmed]
  intro hprefix
  have hstart : settings.commentMark.toList <+: trimStart l.text.toList :=
    hprefix.trans (List.rdropWhile_prefix _ _)
  rw [Line.isComment, Text.toList_trimLeft, List.isPrefixOf_iff_prefix.mpr hstart] at h
  cases h

namespace Measure

theorem isBlank_eq_false_of_read (h : Measure.read l = .ok m) : l.isBlank = false := by
  apply Line.isBlank_eq_false_of_trimmed
  intro hnil
  apply (read_eq_ok_iff.mp h).1
  rw [← tokens_trim, ← Line.trimmed, String.toList_eq_nil_iff.mp hnil]
  decide

theorem trimmed_ne_lyricMark_of_read (h : Measure.read l = .ok m) :
    l.trimmed ≠ Section.lyricMark := by
  intro hmark
  obtain ⟨_, _, _, hss⟩ := read_eq_ok_iff.mp h
  have htokens : tokens l.text = ["--"] := by
    rw [← tokens_trim, ← Line.trimmed, hmark]
    decide
  rw [htokens] at hss
  obtain ⟨s, _, hs⟩ := exists_mem_of_forall₂ hss List.mem_cons_self
  exact absurd (ChordSymbol.read_eq_ok hs).1 (by decide)

theorem at_not_mem_of_read (h : Measure.read l = .ok m) : '@' ∉ l.trimmed.toList :=
  not_mem_of_read h (by decide)

theorem isDirectiveLine_eq_false_of_read (h : Measure.read l = .ok m) :
    Directive.isDirectiveLine l.text = false :=
  Bool.eq_false_iff.mpr fun hd => at_not_mem_of_read h (Line.at_mem_of_isDirectiveLine hd)

theorem hasSpan_eq_false_of_read (h : Measure.read l = .ok m) : Lyric.hasSpan l.trimmed = false := by
  have hmark : '_' ∉ l.trimmed.toList := not_mem_of_read h (by decide)
  rw [Bool.eq_false_iff]
  intro hspan
  obtain ⟨before, digits, hcut⟩ := Lyric.endsInSpan_of_hasSpan hspan
  apply hmark
  rw [hcut.eq]
  simp

/-- **A chord line is a header exactly if it has no semicolon and is short enough.** -/
theorem isHeader_iff_of_read (hc : l.isComment settings.commentMark = false)
    (h : Measure.read l = .ok m) : Section.isHeader settings l.text = true ↔
      ';' ∉ l.trimmed.toList ∧ (l.trimmed.length : Int) ≤ settings.maxHeaderLength := by
  rw [Line.isHeader_iff]
  constructor
  · intro hheader
    obtain ⟨_, hlen, _, _, hsemi, _⟩ := hheader
    exact ⟨hsemi, hlen⟩
  · intro hshort
    have hne : l.trimmed.isEmpty = false := by
      rw [Bool.eq_false_iff]
      intro hempty
      have hnil := String.toList_eq_nil_iff.mpr (String.isEmpty_iff.mp hempty)
      have hblank := Line.isBlank_iff_trimmed.mpr hnil
      rw [isBlank_eq_false_of_read h] at hblank
      cases hblank
    exact ⟨hne, hshort.2, trimmed_ne_lyricMark_of_read h,
      Line.isPrefixOf_trimmed_of_not_isComment hc, hshort.1, at_not_mem_of_read h,
      hasSpan_eq_false_of_read h⟩

/-- A chord line starts something new only as a header. -/
theorem startsNext_of_read (h : Measure.read l = .ok m) :
    Session.startsNext settings l = Section.isHeader settings l.text := by
  rw [Session.startsNext, isDirectiveLine_eq_false_of_read h, Bool.false_or]

end Measure

/-! ## 2. Pauses -/

namespace Sheet

open Session (Runs within)

variable {before cs gap : List Line} {x z : Line} {song : Song} {ms : List Measure}

theorem Interlude.of_forall_isPassed (h : ∀ y ∈ gap, IsPassed settings y) :
    Interlude settings gap [] := by
  induction gap with
  | nil => exact .nil
  | cons y gap ih =>
    have hgap := ih fun y' hy' => h y' (List.mem_cons_of_mem y hy')
    exact (Interlude.of_isPassed (h y List.mem_cons_self)).append hgap

/-- A session comes to a block with chords and a pause; the first blank line is the one remembered. -/
theorem runs_pause (hbefore : Closed settings before song) (hx : IsHeader settings x)
    (hcs : Chords settings cs ms) (hz : z.isBlank = true) (hgap : ∀ y ∈ gap, IsPassed settings y) :
    Runs settings {} (before ++ x :: (cs ++ z :: gap))
      (within song (.chords ⟨x.trimmed, x.number, ms⟩ (some z.number))) := by
  obtain ⟨σ, τ, hr, hs, rfl⟩ := hbefore.runs
  have hheader := hs.header hx.notComment hx.header
  have hchords := hcs.runs τ.song x.trimmed x.number []
  have hpassed : ∀ y ∈ z :: gap, IsPassed settings y := by
    intro y hy
    rcases List.mem_cons.mp hy with rfl | hy'
    · exact Or.inl hz
    · exact hgap y hy'
  have hpause := runs_bare hpassed τ.song ⟨x.trimmed, x.number, ms⟩ none
  rw [List.find?_cons_of_pos hz] at hpause
  exact hr.append (.cons hheader (hchords.append hpause))

/-- The block is over, and its section is part of the song. -/
theorem closed_pause (hbefore : Closed settings before song) (hx : IsHeader settings x)
    (hcs : Chords settings cs ms) (hms : ms ≠ []) (hz : z.isBlank = true)
    (hgap : ∀ y ∈ gap, IsPassed settings y) :
    Closed settings (before ++ x :: (cs ++ z :: gap))
      (song.addPart ⟨x.trimmed, ms, [], x.number⟩) := by
  have hclosed := hbefore.block (.instrumental hx hcs hms) hz (.of_forall_isPassed hgap)
  rw [Song.addTempos_nil] at hclosed
  exact hclosed

end Sheet

/-- **A blank line between two chord lines of a block.** Lines that leave no block open, a header, chord
    lines, blank lines with comments among them, and again a chord line: if that line has a semicolon or is
    longer than a header may be, the first of the blank lines is reported, whatever follows. If it is one
    chord, short enough for a header, it is not: it ends the section and names the next. -/
theorem pause_before_chord_line (settings : Settings) {before cs gap : List Line} {x z l : Line}
    {song : Song} {ms : List Measure} {m : Measure} (hbefore : Sheet.Closed settings before song)
    (hx : Sheet.IsHeader settings x) (hcs : Sheet.Chords settings cs ms) (hms : ms ≠ [])
    (hz : z.isBlank = true) (hgap : ∀ y ∈ gap, Sheet.IsPassed settings y)
    (hc : l.isComment settings.commentMark = false) (hm : Measure.read l = .ok m) :
    (';' ∈ l.trimmed.toList ∨ settings.maxHeaderLength < l.trimmed.length → ∀ rest,
      (Song.read settings (before ++ x :: (cs ++ z :: (gap ++ l :: rest)))).result =
        .error (.diagnostic ((Problem.emptyLine x.trimmed).on z.number))) ∧
      (';' ∉ l.trimmed.toList → (l.trimmed.length : Int) ≤ settings.maxHeaderLength →
        (Song.read settings (before ++ x :: (cs ++ z :: (gap ++ [l])))).result =
          .ok ((song.addPart ⟨x.trimmed, ms, [], x.number⟩).addPart ⟨l.trimmed, [], [], l.number⟩)) := by
  have hheader := Measure.isHeader_iff_of_read hc hm
  have hlines : ∀ ls, before ++ x :: (cs ++ z :: (gap ++ ls)) =
      before ++ x :: (cs ++ z :: gap) ++ ls := by simp
  refine ⟨fun hlong rest => ?_, fun hsemi hlen => ?_⟩
  · have hnot : Session.startsNext settings l = false := by
      rw [Measure.startsNext_of_read hm, Bool.eq_false_iff]
      intro hh
      obtain ⟨hsemi, hlen⟩ := hheader.mp hh
      rcases hlong with hmem | hlt
      · exact hsemi hmem
      · omega
    rw [hlines]
    exact Session.feed_eq_error_iff.mpr (.line (Sheet.runs_pause hbefore hx hcs hz hgap)
      (.emptyLine rfl hc (Measure.isBlank_eq_false_of_read hm) (Or.inr hnot) rfl))
  · rw [hlines]
    exact Sheet.read_eq_ok_iff_sheet.mpr (.bare (Sheet.closed_pause hbefore hx hcs hms hz hgap)
      ⟨hc, hheader.mpr ⟨hsemi, hlen⟩⟩ (fun y hy => absurd hy List.not_mem_nil))

/-- Two chords after a blank line are reported, with the blank line before the comment. -/
theorem pause_before_two_chords :
    (Song.read {} [⟨1, "Verse"⟩, ⟨2, "C"⟩, ⟨3, ""⟩, ⟨4, "# on"⟩, ⟨5, " "⟩, ⟨6, "Am;F"⟩, ⟨7, "--"⟩]).result =
      .error (.diagnostic ((Problem.emptyLine "Verse").on 3)) := by
  have hverse : Sheet.IsHeader {} ⟨1, "Verse"⟩ := ⟨by decide, by decide⟩
  have hchords : Sheet.Chords {} [⟨2, "C"⟩] [⟨[⟨"C", ⟨"C", "maj", none⟩, 2⟩], 2⟩] :=
    .measure (by decide) (by decide) (by decide) (by decide +kernel) .nil
  have hgap : ∀ y ∈ [(⟨4, "# on"⟩ : Line), ⟨5, " "⟩], Sheet.IsPassed {} y := by
    unfold Sheet.IsPassed
    decide
  have hread : Measure.read ⟨6, "Am;F"⟩ =
      .ok ⟨[⟨"Am", ⟨"A", "min", none⟩, 6⟩, ⟨"F", ⟨"F", "maj", none⟩, 6⟩], 6⟩ := by decide +kernel
  exact (pause_before_chord_line {} (.preamble .nil) hverse hchords (by decide) (z := ⟨3, ""⟩) (by decide)
    hgap (by decide) hread).1 (Or.inl (by decide)) [⟨7, "--"⟩]

/-- One chord after a blank line is a chord line, and still it is read as the name of a section. -/
theorem pause_before_one_chord :
    Measure.read ⟨4, "G"⟩ = .ok ⟨[⟨"G", ⟨"G", "maj", none⟩, 4⟩], 4⟩ ∧
      (Song.read {} (Line.scan "Verse\nC\n\nG")).result =
        .ok ⟨[], [.part ⟨"Verse", [⟨[⟨"C", ⟨"C", "maj", none⟩, 2⟩], 2⟩], [], 1⟩,
          .part ⟨"G", [], [], 4⟩]⟩ := by
  constructor <;> decide +kernel

end SongSheet
