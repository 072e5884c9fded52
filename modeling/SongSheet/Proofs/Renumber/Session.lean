import SongSheet.Proofs.Renumber

/-!
# Line numbers are carried, never consulted

A session that is fed renumbered lines goes through the same stages as with the lines themselves, and
every number it holds is the renumbered one (`Session.read_renumber` for a line,
`Session.feed_renumber` for a batch). No step asks how two numbers compare, so any function will do, also
one that gives all lines the same number.
-/

namespace SongSheet

/-! ## 1. Sessions renumbered -/

section Renumber

variable (f : Int → Int)

/-- An open block with every line renumbered. -/
def Block.renumber (b : Block) : Block := ⟨b.name, f b.line, b.measures.map (Measure.renumber f)⟩

/-- A stage with every line renumbered, that of a pending blank line included. -/
def Stage.renumber : Stage → Stage
  | .awaiting => .awaiting
  | .chords block blank => .chords (block.renumber f) (blank.map f)
  | .lyrics block sung => .lyrics (block.renumber f) (sung.map (Lyric.renumber f))
  | .done => .done

/-- A session with every line renumbered. -/
def Session.renumber (σ : Session) : Session :=
  ⟨σ.stage.renumber f, σ.preamble.map (Directive.renumber f), σ.events.map (Event.renumber f),
    σ.seenSection⟩

/-- A step with every line renumbered. -/
def Step.renumber (r : Step) : Step :=
  ⟨r.session.renumber f, r.notices.map (Notice.renumber f), r.failure.map (Failure.renumber f)⟩

end Renumber

variable {f : Int → Int} {settings : Settings}

theorem Block.close_renumber (b : Block) (sung : List Lyric) :
    (b.renumber f).close (sung.map (Lyric.renumber f)) = (b.close sung).renumber f := rfl

theorem Block.isEmpty_measures_renumber (b : Block) :
    (b.renumber f).measures.isEmpty = b.measures.isEmpty := by
  unfold renumber
  cases b.measures <;> rfl

theorem Stage.open?_renumber (s : Stage) : (s.renumber f).open? = s.open?.map (Section.renumber f) := by
  cases s <;> rfl

/-- A step may be renumbered before it goes on or after. -/
theorem Step.renumber_andThen (r : Step) {next next' : Session → Step}
    (h : ∀ σ, next' (σ.renumber f) = (next σ).renumber f) :
    (r.renumber f).andThen next' = (r.andThen next).renumber f := by
  cases hf : r.failure with
  | some e =>
    have hf' : (r.renumber f).failure = some (e.renumber f) := by rw [renumber, hf]; rfl
    rw [andThen_of_failure hf, andThen_of_failure hf']
  | none =>
    have hf' : (r.renumber f).failure = none := by rw [renumber, hf]; rfl
    have hnext : next' (r.renumber f).session = (next r.session).renumber f := h r.session
    rw [andThen_of_none hf, andThen_of_none hf', hnext]
    simp [renumber]

namespace Session

@[simp] theorem seenSection_renumber (σ : Session) :
    (σ.renumber f).seenSection = σ.seenSection := rfl

@[simp] theorem stage_renumber (σ : Session) : (σ.renumber f).stage = σ.stage.renumber f := rfl

theorem stay_renumber (σ : Session) : (σ.renumber f).stay = σ.stay.renumber f := rfl

theorem fail_renumber (σ : Session) (e : Failure) :
    (σ.renumber f).fail (e.renumber f) = (σ.fail e).renumber f := rfl

theorem refuse_renumber (σ : Session) (p : Problem) (line : Int) :
    (σ.renumber f).refuse p (f line) = (σ.refuse p line).renumber f := rfl

/-! ## 2. One line -/

theorem close_renumber (σ : Session) (s : Section) :
    (σ.renumber f).close (s.renumber f) = (σ.close s).renumber f := by
  unfold close
  rw [Section.checkTiming_renumber]
  cases s.checkTiming with
  | error e => rfl
  | ok s =>
    simp [renumberOutcome, Step.renumber, renumber, Stage.renumber, Event.renumber,
      Section.notice_renumber]

theorem take_renumber (σ : Session) (d : Directive) :
    (σ.renumber f).take (d.renumber f) = (σ.take d).renumber f := by
  have hkey : (d.renumber f).key = d.key := rfl
  have hknown : (d.renumber f).known = d.known := rfl
  unfold take
  rw [seenSection_renumber, hkey, hknown, Directive.notices_renumber]
  split
  · simp [Step.renumber, renumber]
  · split
    · simp [Step.renumber, renumber, Event.renumber, Notice.renumber, Directive.renumber]
    · split
      · simp [Step.renumber, Notice.renumber, Directive.renumber]
      · rfl

theorem await_renumber (σ : Session) (l : Line) :
    (σ.renumber f).await settings (l.renumber f) = (σ.await settings l).renumber f := by
  unfold await
  rw [Line.isBlank_renumber, Line.text_renumber, Line.trimmed_renumber, Line.number_renumber,
    seenSection_renumber, Directive.read_renumber]
  by_cases hblank : l.isBlank = true
  · rw [if_pos hblank, if_pos hblank]
    exact stay_renumber σ
  rw [if_neg hblank, if_neg hblank]
  by_cases hdirective : Directive.isDirectiveLine l.text = true
  · rw [if_pos hdirective, if_pos hdirective]
    cases Directive.read settings l with
    | error e => exact fail_renumber σ e
    | ok d => exact take_renumber σ d
  rw [if_neg hdirective, if_neg hdirective]
  by_cases hheader : Section.isHeader settings l.text = true
  · rw [if_pos hheader, if_pos hheader]
    simp [Step.renumber, renumber, Stage.renumber, Block.renumber]
  rw [if_neg hheader, if_neg hheader]
  exact refuse_renumber σ _ _

theorem startsNext_renumber (l : Line) :
    startsNext settings (l.renumber f) = startsNext settings l := rfl

theorem readChords_renumber (σ : Session) (block : Block) (blank : Option Int) (l : Line) :
    (σ.renumber f).readChords settings (block.renumber f) (blank.map f) (l.renumber f) =
      (σ.readChords settings block blank l).renumber f := by
  unfold readChords
  rw [Line.isBlank_renumber, Line.trimmed_renumber, Measure.read_renumber, startsNext_renumber,
    Block.isEmpty_measures_renumber]
  split
  · cases blank <;> rfl
  · cases blank with
    | some number =>
      dsimp only [Option.map_some]
      split
      · have hclose : (σ.renumber f).close ((block.renumber f).close []) =
            (σ.close (block.close [])).renumber f := close_renumber σ (block.close [])
        rw [hclose]
        exact Step.renumber_andThen _ fun τ => await_renumber τ l
      · exact refuse_renumber σ _ _
    | none =>
      dsimp only [Option.map_none]
      split
      · rfl
      · cases Measure.read l with
        | error e => rfl
        | ok m => simp [renumberOutcome, Step.renumber, renumber, Stage.renumber, Block.renumber]

theorem readLyrics_renumber (σ : Session) (block : Block) (sung : List Lyric) (l : Line) :
    (σ.renumber f).readLyrics (block.renumber f) (sung.map (Lyric.renumber f)) (l.renumber f) =
      (σ.readLyrics block sung l).renumber f := by
  unfold readLyrics
  rw [Line.isBlank_renumber, Lyric.read_renumber, Block.close_renumber]
  split
  · exact close_renumber σ _
  · cases Lyric.read l with
    | error e => rfl
    | ok y => simp [renumberOutcome, Step.renumber, renumber, Stage.renumber]

/-- **Reading a renumbered line** is reading the line, renumbered. -/
theorem read_renumber (σ : Session) (l : Line) :
    (σ.renumber f).read settings (l.renumber f) = (σ.read settings l).renumber f := by
  have hskips : (σ.renumber f).skips settings (l.renumber f) = σ.skips settings l := by
    unfold skips
    rw [Line.isComment_renumber, Line.trimmed_renumber, stage_renumber]
    cases σ.stage <;> rfl
  unfold read
  rw [hskips, stage_renumber]
  split
  · rfl
  · cases σ.stage with
    | awaiting => exact await_renumber σ l
    | done => exact await_renumber σ l
    | chords block blank => exact readChords_renumber σ block blank l
    | lyrics block sung => exact readLyrics_renumber σ block sung l

/-! ## 3. Batches -/

theorem readAll_renumber (σ : Session) (ls : List Line) :
    (σ.renumber f).readAll settings (ls.map (Line.renumber f)) =
      (σ.readAll settings ls).renumber f := by
  induction ls generalizing σ with
  | nil => rfl
  | cons l ls ih =>
    rw [List.map_cons, readAll, readAll, read_renumber]
    exact Step.renumber_andThen _ ih

theorem closeOpen_renumber (σ : Session) : (σ.renumber f).closeOpen = σ.closeOpen.renumber f := by
  unfold closeOpen
  rw [stage_renumber, Stage.open?_renumber]
  cases σ.stage.open? with
  | none => rfl
  | some s => exact close_renumber σ s

theorem finish_renumber (σ : Session) : (σ.renumber f).finish = σ.finish.renumber f := by
  unfold finish
  rw [seenSection_renumber]
  cases σ.seenSection <;> rfl

/-- **Feeding renumbered lines** is feeding the lines, renumbered. -/
theorem feed_renumber (σ : Session) (ls : List Line) :
    (σ.renumber f).feed settings (ls.map (Line.renumber f)) = (σ.feed settings ls).renumber f := by
  unfold feed
  rw [readAll_renumber, Step.renumber_andThen _ closeOpen_renumber,
    Step.renumber_andThen _ finish_renumber]

end Session

/-- **A song of renumbered lines** is the song of the lines, renumbered; what is said on the way, and why
    it fails if it does, are renumbered too. -/
theorem Song.read_renumber (ls : List Line) :
    Song.read settings (ls.map (Line.renumber f)) =
      (Song.read settings ls).renumber f (Song.renumber f) := by
  have hfeed : Session.feed settings {} (ls.map (Line.renumber f)) =
      (Session.feed settings {} ls).renumber f := Session.feed_renumber {} ls
  unfold Song.read
  rw [hfeed]
  unfold Step.report Report.renumber
  cases hf : (Session.feed settings {} ls).failure with
  | none => simp [Step.renumber, hf, renumberOutcome, Session.song, Session.renumber, Song.renumber]
  | some e => simp [Step.renumber, hf, renumberOutcome]

end SongSheet
