import Mathlib.Algebra.Ring.Int.Defs
import SongSheet.Proofs.Line
import SongSheet.Song

/-!
# The grammar of a song

Which lines are a song, and which song they are, said without a session. A song is an interlude
and then blocks. An interlude is any number of blank lines, comments and directives that can be
read. A block is a header, its chord lines, and perhaps a `--` line and lyric lines; it ends with a
blank line, after which an interlude may follow, or with the text. Only the last header may stand
alone, with nothing but blank lines and comments after it.

Comments are told from other lines in three ways: in an interlude and among chords a comment is
passed over whatever it looks like; among lyrics one that ends in a span is a lyric line.

The relations also say what is read: an interlude its directives, chord lines their measures, a
block its section, and a sheet its song. `Sheet.Closed` grows at its end, block by block, as a
reader does.
-/

namespace SongSheet

/-- The changes of tempo among directives, as events. -/
def Directive.tempos (ds : List Directive) : List Event :=
  (ds.filter fun d => d.key = Topic.tempo.key).map .directive

namespace Song

/-- A song with one more section at its end. -/
def addPart (song : Song) (s : Section) : Song := { song with events := song.events ++ [.part s] }

/-- A song with directives after its first section: only those that set the tempo count. -/
def addTempos (song : Song) (ds : List Directive) : Song :=
  { song with events := song.events ++ Directive.tempos ds }

/-- A song with directives wherever no section is open. -/
def addDirectives (song : Song) (ds : List Directive) : Song :=
  if song.events = [] then { song with preamble := song.preamble ++ ds } else song.addTempos ds

@[simp] theorem addTempos_nil (song : Song) : song.addTempos [] = song := by
  simp [addTempos, Directive.tempos]

@[simp] theorem addDirectives_nil (song : Song) : song.addDirectives [] = song := by
  simp [addDirectives]

theorem addTempos_addTempos (song : Song) (ds ds' : List Directive) :
    (song.addTempos ds).addTempos ds' = song.addTempos (ds ++ ds') := by
  simp [addTempos, Directive.tempos]

theorem events_addPart_ne_nil (song : Song) (s : Section) : (song.addPart s).events ≠ [] := by
  simp [addPart]

theorem events_addTempos_ne_nil {song : Song} (h : song.events ≠ []) (ds : List Directive) :
    (song.addTempos ds).events ≠ [] := by
  simp [addTempos, h]

theorem addDirectives_of_ne_nil {song : Song} (h : song.events ≠ []) (ds : List Directive) :
    song.addDirectives ds = song.addTempos ds := if_neg h

/-- Directives may be added in two portions. -/
theorem addDirectives_addDirectives (song : Song) (ds ds' : List Directive) :
    (song.addDirectives ds).addDirectives ds' = song.addDirectives (ds ++ ds') := by
  by_cases h : song.events = []
  · simp [addDirectives, h]
  · rw [addDirectives_of_ne_nil h, addDirectives_of_ne_nil h,
      addDirectives_of_ne_nil (events_addTempos_ne_nil h ds), addTempos_addTempos]

end Song

namespace Sheet

variable {settings : Settings}

/-! ## 1. Lines and regions -/

/-- A line that is passed over outside lyrics. -/
def IsPassed (settings : Settings) (l : Line) : Prop :=
  l.isBlank = true ∨ l.isComment settings.commentMark = true

/-- A line that names a section. -/
structure IsHeader (settings : Settings) (l : Line) : Prop where
  notComment : l.isComment settings.commentMark = false
  header : Section.isHeader settings l.text = true

theorem IsHeader.not_isPassed {l : Line} (h : IsHeader settings l) : ¬ IsPassed settings l := by
  intro hp
  rcases hp with hb | hc
  · rw [Line.isBlank_eq_false_of_isHeader h.header] at hb
    cases hb
  · rw [h.notComment] at hc
    cases hc

/-- Blank lines, comments and directives, before the first section or between two. -/
inductive Interlude (settings : Settings) : List Line → List Directive → Prop where
  | nil : Interlude settings [] []
  | blank {l : Line} {ls : List Line} {ds : List Directive} (hb : l.isBlank = true)
      (h : Interlude settings ls ds) : Interlude settings (l :: ls) ds
  | comment {l : Line} {ls : List Line} {ds : List Directive}
      (hc : l.isComment settings.commentMark = true) (h : Interlude settings ls ds) :
      Interlude settings (l :: ls) ds
  | directive {l : Line} {ls : List Line} {d : Directive} {ds : List Directive}
      (hc : l.isComment settings.commentMark = false)
      (hl : Directive.isDirectiveLine l.text = true) (hd : Directive.read settings l = .ok d)
      (h : Interlude settings ls ds) : Interlude settings (l :: ls) (d :: ds)

/-- The chord lines of a block, with comments among them. -/
inductive Chords (settings : Settings) : List Line → List Measure → Prop where
  | nil : Chords settings [] []
  | comment {l : Line} {ls : List Line} {ms : List Measure}
      (hc : l.isComment settings.commentMark = true) (h : Chords settings ls ms) :
      Chords settings (l :: ls) ms
  | measure {l : Line} {ls : List Line} {m : Measure} {ms : List Measure}
      (hc : l.isComment settings.commentMark = false) (hb : l.isBlank = false)
      (hl : l.trimmed ≠ Section.lyricMark) (hm : Measure.read l = .ok m)
      (h : Chords settings ls ms) : Chords settings (l :: ls) (m :: ms)

/-- The lyric lines of a block. A comment among them has no span at its end; a line that can be
    read as a lyric is one, comment or not. -/
inductive Lyrics (settings : Settings) : List Line → List Lyric → Prop where
  | nil : Lyrics settings [] []
  | comment {l : Line} {ls : List Line} {ys : List Lyric}
      (hc : l.isComment settings.commentMark = true) (hs : Lyric.hasSpan l.trimmed = false)
      (h : Lyrics settings ls ys) : Lyrics settings (l :: ls) ys
  | lyric {l : Line} {ls : List Line} {y : Lyric} {ys : List Lyric} (hy : Lyric.read l = .ok y)
      (h : Lyrics settings ls ys) : Lyrics settings (l :: ls) (y :: ys)

/-! ## 2. Blocks and sheets -/

/-- A block that may end: it has chords, or a `--` line and lyrics that cover the chords. -/
inductive Block (settings : Settings) : List Line → Section → Prop where
  | instrumental {l : Line} {cs : List Line} {ms : List Measure} (hh : IsHeader settings l)
      (hcs : Chords settings cs ms) (hne : ms ≠ []) :
      Block settings (l :: cs) ⟨l.trimmed, ms, [], l.number⟩
  | sung {l mark : Line} {cs ls : List Line} {ms : List Measure} {ys : List Lyric}
      (hh : IsHeader settings l) (hcs : Chords settings cs ms)
      (hc : mark.isComment settings.commentMark = false) (hm : mark.trimmed = Section.lyricMark)
      (hys : Lyrics settings ls ys) (ht : ys = [] ∨ (ys.map (·.span)).sum = ms.length) :
      Block settings (l :: (cs ++ mark :: ls)) ⟨l.trimmed, ms, ys, l.number⟩

/-- Lines after which no block is open: the preamble, then blocks, each with the blank line that
    ends it and the interlude after it. -/
inductive Closed (settings : Settings) : List Line → Song → Prop where
  | preamble {ls : List Line} {ds : List Directive} (h : Interlude settings ls ds) :
      Closed settings ls ⟨ds, []⟩
  | block {ls body gap : List Line} {z : Line} {song : Song} {s : Section} {ds : List Directive}
      (h : Closed settings ls song) (hb : Block settings body s) (hz : z.isBlank = true)
      (hi : Interlude settings gap ds) :
      Closed settings (ls ++ (body ++ z :: gap)) ((song.addPart s).addTempos ds)

end Sheet

/-- **The lines are this song**: no block is open at their end, or the last block ends with them, or
    the last header stands alone. -/
inductive Sheet (settings : Settings) : List Line → Song → Prop where
  | closed {ls : List Line} {song : Song} (h : Sheet.Closed settings ls song)
      (hne : song.events ≠ []) : Sheet settings ls song
  | unended {ls body : List Line} {song : Song} {s : Section} (h : Sheet.Closed settings ls song)
      (hb : Sheet.Block settings body s) : Sheet settings (ls ++ body) (song.addPart s)
  | bare {l : Line} {ls rest : List Line} {song : Song} (h : Sheet.Closed settings ls song)
      (hh : Sheet.IsHeader settings l) (hr : ∀ x ∈ rest, Sheet.IsPassed settings x) :
      Sheet settings (ls ++ l :: rest) (song.addPart ⟨l.trimmed, [], [], l.number⟩)

namespace Sheet

variable {settings : Settings}

/-! ## 3. Putting regions together -/

theorem Interlude.append {ls ls' : List Line} {ds ds' : List Directive}
    (h : Interlude settings ls ds) (h' : Interlude settings ls' ds') :
    Interlude settings (ls ++ ls') (ds ++ ds') := by
  induction h with
  | nil => exact h'
  | blank hb _ ih => exact .blank hb ih
  | comment hc _ ih => exact .comment hc ih
  | directive hc hl hd _ ih => exact .directive hc hl hd ih

theorem Interlude.of_isPassed {l : Line} (h : IsPassed settings l) :
    Interlude settings [l] [] := by
  rcases h with hb | hc
  · exact .blank hb .nil
  · exact .comment hc .nil

theorem Chords.append {ls ls' : List Line} {ms ms' : List Measure} (h : Chords settings ls ms)
    (h' : Chords settings ls' ms') : Chords settings (ls ++ ls') (ms ++ ms') := by
  induction h with
  | nil => exact h'
  | comment hc _ ih => exact .comment hc ih
  | measure hc hb hl hm _ ih => exact .measure hc hb hl hm ih

theorem Lyrics.append {ls ls' : List Line} {ys ys' : List Lyric} (h : Lyrics settings ls ys)
    (h' : Lyrics settings ls' ys') : Lyrics settings (ls ++ ls') (ys ++ ys') := by
  induction h with
  | nil => exact h'
  | comment hc hs _ ih => exact .comment hc hs ih
  | lyric hy _ ih => exact .lyric hy ih

/-- Chord lines without a measure are comments. -/
theorem Chords.isComment_of_nil {ls : List Line} {ms : List Measure} (h : Chords settings ls ms)
    (hms : ms = []) : ∀ l ∈ ls, l.isComment settings.commentMark = true := by
  induction h with
  | nil => exact fun l hl => absurd hl List.not_mem_nil
  | comment hc _ ih =>
    intro x hx
    rcases List.mem_cons.mp hx with rfl | hx
    · exact hc
    · exact ih hms x hx
  | measure => cases hms

/-- **More of an interlude** may follow wherever no block is open. -/
theorem Closed.interlude {ls gap : List Line} {song : Song} {ds : List Directive}
    (h : Closed settings ls song) (hi : Interlude settings gap ds) :
    Closed settings (ls ++ gap) (song.addDirectives ds) := by
  cases h with
  | preamble h => exact .preamble (h.append hi)
  | @block ls body gap' z song s ds' h hb hz hi' =>
    have hne := Song.events_addTempos_ne_nil (song.events_addPart_ne_nil s) ds'
    rw [Song.addDirectives_of_ne_nil hne, Song.addTempos_addTempos, List.append_assoc,
      List.append_assoc, List.cons_append]
    exact .block h hb hz (hi'.append hi)

theorem Closed.passed {ls : List Line} {l : Line} {song : Song} (h : Closed settings ls song)
    (hl : IsPassed settings l) : Closed settings (ls ++ [l]) song := by
  have h' := h.interlude (.of_isPassed hl)
  rw [Song.addDirectives_nil] at h'
  exact h'

end Sheet

end SongSheet
