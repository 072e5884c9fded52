import SongSheet.Proofs.Session.Place

/-!
# No line is lost

A song lists what was read: the directives of its preamble, then section by section the header, the
measures and the lyrics, with the changes of tempo between sections. Each entry stands for one line
of the text. `keptLines` says which lines these are, by where each of them stands and by its looks, and
knows of no session; `entries_are_kept_lines` says that the entries are the readings of exactly these
lines, in order.

An open section counts as far as it is read (`Session.entries`), so that ending a section changes
nothing: each rule adds the reading of its own line, or nothing at all.
-/

namespace SongSheet

/-! ## 1. Entries -/

/-- One thing read from one line. -/
inductive Entry where
  | directive (d : Directive)
  | header (name : String) (line : Int)
  | measure (m : Measure)
  | lyric (y : Lyric)

namespace Entry

/-- The line an entry comes from. -/
def line : Entry → Int
  | .directive d => d.line
  | .header _ line => line
  | .measure m => m.line
  | .lyric y => y.line

/-- The entry is what the line says. -/
def IsReadingOf (settings : Settings) : Entry → Line → Prop
  | .directive d, l => Directive.read settings l = .ok d
  | .header name line, l => name = l.trimmed ∧ line = l.number
  | .measure m, l => Measure.read l = .ok m
  | .lyric y, l => Lyric.read l = .ok y

theorem line_of_isReadingOf {settings : Settings} {e : Entry} {l : Line}
    (h : e.IsReadingOf settings l) : e.line = l.number := by
  cases e with
  | directive d => exact (Directive.read_eq_ok h).1
  | header name line => exact h.2
  | measure m => exact (Measure.read_eq_ok h).2
  | lyric y => exact (Lyric.read_eq_ok h).2.2

end Entry

/-- The header, the measures and the lyrics of a section. -/
def Section.entries (s : Section) : List Entry :=
  .header s.name s.line :: (s.measures.map .measure ++ s.lyrics.map .lyric)

/-- The entries of an event. -/
def Event.entries : Event → List Entry
  | .part s => s.entries
  | .directive d => [.directive d]

/-- The entries of a song, in the order of its text. -/
def Song.entries (song : Song) : List Entry :=
  song.preamble.map .directive ++ song.events.flatMap Event.entries

/-! ## 2. Kept lines -/

namespace Place

/-- The line is passed over as a comment; among lyrics one that ends in a span never is. -/
def skips (settings : Settings) (l : Line) : Place → Bool
  | .lyrics _ _ _ => l.isComment settings.commentMark && !Lyric.hasSpan l.trimmed
  | .outside _ | .chords _ _ | .pause _ _ => l.isComment settings.commentMark

/-- The line is the `--` between the chords and the lyrics of a section. -/
def opensLyrics (l : Line) : Place → Bool
  | .chords _ _ => l.trimmed == "--"
  | .outside _ | .pause _ _ | .lyrics _ _ _ => false

/-- The line is a directive outside any block, behind a header, under another key than `bpm`. -/
def dropsDirective (settings : Settings) (l : Line) : Place → Bool
  | .outside late => late && (l.directive? settings).any fun d => d.key != "bpm"
  | .pause _ _ => (l.directive? settings).any fun d => d.key != "bpm"
  | .chords _ _ | .lyrics _ _ _ => false

/-- The line leaves an entry: it is neither blank nor passed over, opens no lyrics and is no
    directive that comes too late. -/
def keeps (settings : Settings) (p : Place) (l : Line) : Bool :=
  !l.isBlank && !p.skips settings l && !p.opensLyrics l && !p.dropsDirective settings l

theorem keeps_of_isBlank {settings : Settings} {l : Line} (p : Place) (hb : l.isBlank = true) :
    p.keeps settings l = false := by
  simp [keeps, hb]

/-- A line behind a pause is judged as one outside any block. -/
theorem keeps_pause (settings : Settings) (l : Line) (name : String) (measures : Nat) :
    (pause name measures).keeps settings l = (outside true).keeps settings l := rfl

end Place

/-- **The lines that leave an entry**, each judged by where it stands. -/
def keptLines (settings : Settings) : Place → List Line → List Line
  | _, [] => []
  | p, l :: ls =>
    (if p.keeps settings l then [l] else []) ++ keptLines settings (p.next settings l) ls

theorem keptLines_sublist (settings : Settings) : ∀ (p : Place) (ls : List Line),
    (keptLines settings p ls).Sublist ls
  | _, [] => .slnil
  | p, l :: ls => by
      have ih := keptLines_sublist settings (p.next settings l) ls
      rw [keptLines]
      split
      · exact ih.cons_cons l
      · exact ih.cons l

namespace Session

/-- The entries of a session, those of the open section included. -/
def entries (σ : Session) : List Entry :=
  σ.song.entries ++ (σ.stage.open?.map Section.entries).getD []

variable {settings : Settings} {σ σ' : Session} {l : Line}

theorem entries_of_open? {s : Section} (hs : σ.stage.open? = some s) :
    σ.entries = σ.song.entries ++ s.entries := by
  rw [entries, hs]
  rfl

theorem entries_outside (hs : σ.stage.open? = none) : σ.entries = σ.song.entries := by
  rw [entries, hs]
  simp

/-- Ending a section changes no entry. -/
theorem entries_closed {s : Section} (hs : σ.stage.open? = some s) :
    (σ.closed s).entries = σ.entries := by
  rw [entries_of_open? hs, entries_outside rfl]
  simp [closed, song, Song.entries, Event.entries]

/-! ## 3. Steps -/

/-- A session passes over a line exactly if the line's place says so. -/
theorem skips_place (σ : Session) (l : Line) :
    σ.place.skips settings l = σ.skips settings l := by
  unfold place skips Place.skips Stage.inLyrics
  cases σ.stage with
  | awaiting | done => simp
  | chords block blank => cases blank <;> simp
  | lyrics block sung => simp

theorem keeps_of_skips (hk : σ.skips settings l = true) : σ.place.keeps settings l = false := by
  simp [Place.keeps, skips_place, hk]

/-- What one line adds to the entries. -/
def Adds (settings : Settings) (σ : Session) (l : Line) (σ' : Session) : Prop :=
  ∃ es, σ'.entries = σ.entries ++ es ∧
    List.Forall₂ (Entry.IsReadingOf settings) es (if σ.place.keeps settings l then [l] else [])

theorem adds_nothing (hk : σ.place.keeps settings l = false) (he : σ'.entries = σ.entries) :
    Adds settings σ l σ' := by
  refine ⟨[], by rw [he, List.append_nil], ?_⟩
  rw [hk]
  exact .nil

theorem adds_entry {e : Entry} (hk : σ.place.keeps settings l = true)
    (he : σ'.entries = σ.entries ++ [e]) (hread : e.IsReadingOf settings l) :
    Adds settings σ l σ' := by
  refine ⟨[e], he, ?_⟩
  rw [hk]
  exact .cons hread .nil

/-- A directive goes to the end of the entries: to that of the preamble as long as there are no
    events, and to that of the events from then on. -/
theorem adds_directive (h : Sound settings σ) {d : Directive} (hs : σ.stage.open? = none)
    (hc : l.isComment settings.commentMark = false)
    (hl : Directive.isDirectiveLine l.text = true) (hd : Directive.read settings l = .ok d) :
    Adds settings σ l (σ.take d).session := by
  have hb := Line.isBlank_eq_false_of_isDirectiveLine hl
  have hs' : (σ.take d).session.stage.open? = none := by rw [take_stage, hs]
  have hkeeps : σ.place.keeps settings l = !(σ.seenSection && d.key != "bpm") := by
    rw [place_outside hs]
    simp [Place.keeps, Place.skips, Place.opensLyrics, Place.dropsDirective, hb, hc,
      Line.directive?_of_read hc hl hd]
  have hbpm : Topic.tempo.key = "bpm" := rfl
  rcases take_cases σ d with ⟨hseen, he⟩ | ⟨hseen, hkey, he⟩ | ⟨hseen, hkey, he⟩
  · have hev : σ.events = [] := by
      rcases h.starts with hnil | ⟨s, rest, hcons⟩
      · exact hnil
      · have := h.seen.mpr (Or.inr ⟨s, by rw [hcons]; exact List.mem_cons_self⟩)
        rw [hseen] at this
        cases this
    refine adds_entry (e := .directive d) (by simp [hkeeps, hseen]) ?_ hd
    rw [entries_outside hs', entries_outside hs, he]
    simp [song, Song.entries, hev]
  · rw [hbpm] at hkey
    refine adds_entry (e := .directive d) (by simp [hkeeps, hkey]) ?_ hd
    rw [entries_outside hs', entries_outside hs, he]
    simp [song, Song.entries, Event.entries]
  · rw [hbpm] at hkey
    refine adds_nothing (by simp [hkeeps, hseen, hkey]) ?_
    rw [he]

/-- **Every rule adds the reading of its line, or nothing if the line is not kept.** -/
theorem adds_of_reads (hr : Reads settings l σ σ') (h : Sound settings σ) :
    Adds settings σ l σ' := by
  induction hr with
  | comment hk => exact adds_nothing (keeps_of_skips hk) rfl
  | blank _ hb => exact adds_nothing (Place.keeps_of_isBlank _ hb) rfl
  | directive hs hc hl hd => exact adds_directive h hs hc hl hd
  | @header σ hs hc hl =>
    have hb := Line.isBlank_eq_false_of_isHeader hl
    refine adds_entry (e := .header l.trimmed l.number) ?_ ?_ ⟨rfl, rfl⟩
    · rw [place_outside hs]
      simp [Place.keeps, Place.skips, Place.opensLyrics, Place.dropsDirective, hb, hc,
        Line.directive?_of_isHeader hl]
    · rw [entries_of_open? (s := ⟨l.trimmed, [], [], l.number⟩) rfl, entries_outside hs]
      rfl
  | pause hs hb =>
    refine adds_nothing (Place.keeps_of_isBlank _ hb) ?_
    rw [entries, entries, hs]
    rfl
  | next hs hm hc hl _ ih =>
    have hopen : _ = some _ := congrArg Stage.open? hs
    obtain ⟨es, he, hes⟩ := ih (h.closed hopen (Block.isBalanced_close_nil _))
    refine ⟨es, ?_, ?_⟩
    · rw [he, entries_closed hopen]
    · rw [place_pause hs, Place.keeps_pause, ← place_closed h hopen]
      exact hes
  | mark hs hc hl =>
    have hmark : l.trimmed = "--" := hl
    refine adds_nothing ?_ ?_
    · rw [place_chords hs]
      simp [Place.keeps, Place.opensLyrics, hmark]
    · rw [entries, entries, hs]
      rfl
  | @measure σ block m hs hc hb hl hm =>
    have hmark : l.trimmed ≠ "--" := hl
    refine adds_entry (e := .measure m) ?_ ?_ hm
    · rw [place_chords hs]
      simp [Place.keeps, Place.skips, Place.opensLyrics, Place.dropsDirective, hb, hc, hmark]
    · simp [entries, hs, Stage.open?, Section.entries, Block.close, song]
  | @lyric σ block sung y hs hy =>
    obtain ⟨hspan, _⟩ := Lyric.read_eq_ok hy
    have hb := Lyric.isBlank_eq_false_of_hasSpan hspan
    refine adds_entry (e := .lyric y) ?_ ?_ hy
    · rw [place_lyrics hs]
      simp [Place.keeps, Place.skips, Place.opensLyrics, Place.dropsDirective, hb, hspan]
    · simp [entries, hs, Stage.open?, Section.entries, Block.close, song]
  | rest hs hb _ =>
    exact adds_nothing (Place.keeps_of_isBlank _ hb) (entries_closed (congrArg Stage.open? hs))

/-! ## 4. Runs -/

theorem entries_of_runs {ls : List Line} (hr : Runs settings σ ls σ') (h : Sound settings σ) :
    ∃ es, σ'.entries = σ.entries ++ es ∧
      List.Forall₂ (Entry.IsReadingOf settings) es (keptLines settings σ.place ls) := by
  induction hr with
  | nil => exact ⟨[], (List.append_nil _).symm, .nil⟩
  | @cons σ σ₁ σ₂ l ls hr _ ih =>
    obtain ⟨es, he, hes⟩ := adds_of_reads hr h
    obtain ⟨es', he', hes'⟩ := ih (h.reads hr)
    refine ⟨es ++ es', by rw [he', he, List.append_assoc], ?_⟩
    rw [keptLines, ← place_of_reads hr h]
    exact List.rel_append hes hes'

theorem entries_of_ends {song : Song} (h : Ends σ song) : song.entries = σ.entries := by
  cases h with
  | outside hs _ => exact (entries_outside hs).symm
  | inside hs _ _ =>
    rw [← entries_closed hs]
    exact (entries_outside rfl).symm

/-- The entries of a song are the readings of the kept lines. -/
theorem entries_of_songRead {ls : List Line} {song : Song}
    (h : (Song.read settings ls).result = .ok song) :
    List.Forall₂ (Entry.IsReadingOf settings) song.entries
      (keptLines settings (.outside false) ls) := by
  obtain ⟨σ, hr, he⟩ := songRead_eq_ok_iff.mp h
  obtain ⟨es, hes, hread⟩ := entries_of_runs hr (sound_start settings)
  have hsong : song.entries = es := by
    rw [entries_of_ends he, hes]
    rfl
  rw [hsong]
  exact hread

end Session

theorem Entry.map_line_of_forall₂ {settings : Settings} {es : List Entry} {ls : List Line}
    (h : List.Forall₂ (Entry.IsReadingOf settings) es ls) :
    es.map Entry.line = ls.map Line.number := by
  induction h with
  | nil => rfl
  | cons hread _ ih => rw [List.map_cons, List.map_cons, Entry.line_of_isReadingOf hread, ih]

/-- **The entries of a song are the readings of exactly the kept lines, in the order of the
    text**: none is lost, none is there twice, and their numbers go up. -/
theorem entries_are_kept_lines {settings : Settings} {text : String} {song : Song}
    (h : (Song.read settings (Line.scan text)).result = .ok song) :
    song.entries.map Entry.line =
        (keptLines settings (.outside false) (Line.scan text)).map Line.number ∧
      (song.entries.map Entry.line).Pairwise (· < ·) ∧
      List.Forall₂ (Entry.IsReadingOf settings) song.entries
        (keptLines settings (.outside false) (Line.scan text)) := by
  have hread := Session.entries_of_songRead h
  have hlines := Entry.map_line_of_forall₂ hread
  refine ⟨hlines, ?_, hread⟩
  rw [hlines]
  have hsub := keptLines_sublist settings (.outside false) (Line.scan text)
  exact (Line.pairwise_number_numbered 1 _).sublist (hsub.map Line.number)

/-- The comment, the `--` line, the blank line and the late metre leave no entry. -/
theorem entries_of_short_song : ∃ song,
    (Song.read {} (Line.scan
        "@bpm 90\n# note\nVerse\nC;G\n--\nLa _1\n\n@time 3/4\n@bpm 100")).result = .ok song ∧
      song.entries.map Entry.line = [1, 3, 4, 6, 9] := by
  cases h : (Song.read {} (Line.scan
      "@bpm 90\n# note\nVerse\nC;G\n--\nLa _1\n\n@time 3/4\n@bpm 100")).result with
  | error e =>
    have hok : (Song.read {} (Line.scan
        "@bpm 90\n# note\nVerse\nC;G\n--\nLa _1\n\n@time 3/4\n@bpm 100")).result.isOk = true := by
      decide +kernel
    rw [h] at hok
    cases hok
  | ok song =>
    refine ⟨song, rfl, ?_⟩
    rw [(entries_are_kept_lines h).1]
    decide +kernel

end SongSheet
