import SongSheet.Proofs.Session.Invariant
import SongSheet.Proofs.Sheet

/-!
# Where a line stands

In a text that can be read, where a line stands follows from the lines before it by their looks alone:
outside any block, among chords, behind chords and a blank line, or among lyrics. `Place.next` finds it
line by line, without reading a chord or a lyric and without a session; what it counts are lines.

A session that reads the lines is at each of them where they say it is (`Session.place_of_reads`). So what
is said of a line by its place holds of the session that reads it.
-/

namespace SongSheet

variable {settings : Settings} {l : Line}

/-! ## 1. Lines outside any block -/

namespace Line

/-- A line that names a section, wherever a section may start. -/
def opensBlock (settings : Settings) (l : Line) : Bool :=
  !l.isComment settings.commentMark && Section.isHeader settings l.text

/-- What a line says as a directive, if it is one. -/
def directive? (settings : Settings) (l : Line) : Option Directive :=
  if l.isComment settings.commentMark || !Directive.isDirectiveLine l.text then none
  else (Directive.read settings l).toOption

theorem opensBlock_iff : l.opensBlock settings = true ↔ Sheet.IsHeader settings l := by
  rw [opensBlock, Bool.and_eq_true, Bool.not_eq_true']
  exact ⟨fun h => ⟨h.1, h.2⟩, fun h => ⟨h.notComment, h.header⟩⟩

theorem opensBlock_eq_false_of_isPassed (h : Sheet.IsPassed settings l) :
    l.opensBlock settings = false := by
  rw [Bool.eq_false_iff, Ne, opensBlock_iff]
  exact fun hh => hh.not_isPassed h

theorem opensBlock_eq_false_of_directive (h : Directive.isDirectiveLine l.text = true) :
    l.opensBlock settings = false := by
  rw [Bool.eq_false_iff, Ne, opensBlock_iff]
  intro hh
  rw [isDirectiveLine_eq_false_of_isHeader hh.header] at h
  cases h

theorem directive?_of_isPassed (h : Sheet.IsPassed settings l) : l.directive? settings = none := by
  unfold directive?
  rcases h with hb | hc
  · cases hd : Directive.isDirectiveLine l.text with
    | false => simp
    | true =>
      rw [isBlank_eq_false_of_isDirectiveLine hd] at hb
      cases hb
  · simp [hc]

theorem directive?_of_isHeader (h : Section.isHeader settings l.text = true) :
    l.directive? settings = none := by
  simp [directive?, isDirectiveLine_eq_false_of_isHeader h]

theorem directive?_of_read {d : Directive} (hc : l.isComment settings.commentMark = false)
    (hl : Directive.isDirectiveLine l.text = true) (hd : Directive.read settings l = .ok d) :
    l.directive? settings = some d := by
  simp [directive?, hc, hl, hd, Except.toOption]

theorem directive?_eq_some {d : Directive} (h : l.directive? settings = some d) :
    Directive.read settings l = .ok d := by
  unfold directive? at h
  split at h
  · cases h
  · cases hd : Directive.read settings l with
    | error e => rw [hd] at h; cases h
    | ok d' =>
      rw [hd] at h
      cases h
      rfl

end Line

/-! ## 2. Places -/

/-- Where a line stands in a text, with what has been counted of the section around it. -/
inductive Place where
  /-- Outside any block, `late` if a header stands before it. -/
  | outside (late : Bool)
  | chords (name : String) (measures : Nat)
  /-- Behind the chords of a section and a blank line. -/
  | pause (name : String) (measures : Nat)
  | lyrics (name : String) (measures lyrics : Nat)
  deriving DecidableEq, Repr

/-- Where a line outside any block leads. -/
def Line.entered (settings : Settings) (late : Bool) (l : Line) : Place :=
  if l.opensBlock settings then .chords l.trimmed 0 else .outside late

theorem Line.entered_of_isPassed (h : Sheet.IsPassed settings l) (late : Bool) :
    l.entered settings late = .outside late := by
  rw [entered, opensBlock_eq_false_of_isPassed h]
  rfl

/-- Where the line after `l` stands. -/
def Place.next (settings : Settings) (l : Line) : Place → Place
  | .outside late => l.entered settings late
  | .chords name measures =>
    if l.isComment settings.commentMark then .chords name measures
    else if l.isBlank then .pause name measures
    else if l.trimmed = Section.lyricMark then .lyrics name measures 0
    else .chords name (measures + 1)
  | .pause name measures =>
    if l.isBlank || l.isComment settings.commentMark then .pause name measures
    else l.entered settings true
  | .lyrics name measures sung =>
    if l.isBlank then .outside true
    else if l.isComment settings.commentMark && !Lyric.hasSpan l.trimmed then
      .lyrics name measures sung
    else .lyrics name measures (sung + 1)

/-! ## 3. The place of a session -/

namespace Session

/-- Where the next line stands. -/
def place (σ : Session) : Place :=
  match σ.stage with
  | .awaiting | .done => .outside σ.seenSection
  | .chords block none => .chords block.name block.measures.length
  | .chords block (some _) => .pause block.name block.measures.length
  | .lyrics block sung => .lyrics block.name block.measures.length sung.length

variable {σ σ' : Session}

theorem place_outside (hs : σ.stage.open? = none) : σ.place = .outside σ.seenSection := by
  unfold place
  cases hst : σ.stage with
  | awaiting => rfl
  | done => rfl
  | chords block blank => rw [hst] at hs; cases hs
  | lyrics block sung => rw [hst] at hs; cases hs

theorem place_pause {block : Block} {number : Int} (hs : σ.stage = .chords block (some number)) :
    σ.place = .pause block.name block.measures.length := by
  rw [place, hs]

theorem place_chords {block : Block} (hs : σ.stage = .chords block none) :
    σ.place = .chords block.name block.measures.length := by
  rw [place, hs]

theorem place_lyrics {block : Block} {sung : List Lyric} (hs : σ.stage = .lyrics block sung) :
    σ.place = .lyrics block.name block.measures.length sung.length := by
  rw [place, hs]

theorem take_seenSection (σ : Session) (d : Directive) :
    (σ.take d).session.seenSection = σ.seenSection := by
  rcases take_cases σ d with ⟨_, he⟩ | ⟨_, _, he⟩ | ⟨_, _, he⟩ <;> rw [he]

/-- Outside any block, behind a section that has ended. -/
theorem place_closed (h : Sound settings σ) {s : Section} (hs : σ.stage.open? = some s) :
    (σ.closed s).place = .outside true := by
  have hseen : σ.seenSection = true := h.seen.mpr (Or.inl (by rw [hs]; rfl))
  rw [place_outside rfl]
  exact congrArg Place.outside hseen

/-- A line that is passed over leads nowhere. -/
theorem next_place_of_skips (hk : σ.skips settings l = true) :
    σ.place.next settings l = σ.place := by
  have hc : l.isComment settings.commentMark = true := by
    rw [skips, Bool.and_eq_true] at hk
    exact hk.1
  have hb := Line.isBlank_eq_false_of_isComment settings hc
  cases hst : σ.stage with
  | awaiting | done =>
    rw [place_outside (by rw [hst]; rfl)]
    exact Line.entered_of_isPassed (Or.inr hc) _
  | chords block blank =>
    cases blank with
    | none =>
      rw [place_chords hst]
      simp [Place.next, hc]
    | some number =>
      rw [place_pause hst]
      simp [Place.next, hc]
  | lyrics block sung =>
    have hspan : Lyric.hasSpan l.trimmed = false := by
      simpa [skips, hst, hc, Stage.inLyrics] using hk
    rw [place_lyrics hst]
    simp [Place.next, hb, hc, hspan]

theorem place_take {d : Directive} (hs : σ.stage.open? = none)
    (hl : Directive.isDirectiveLine l.text = true) :
    (σ.take d).session.place = σ.place.next settings l := by
  have hs' : (σ.take d).session.stage.open? = none := by rw [take_stage, hs]
  have hopens : l.opensBlock settings = false := Line.opensBlock_eq_false_of_directive hl
  rw [place_outside hs', take_seenSection, place_outside hs, Place.next, Line.entered, hopens]
  rfl

theorem place_opened (hs : σ.stage.open? = none) (hc : l.isComment settings.commentMark = false)
    (hl : Section.isHeader settings l.text = true) :
    (σ.opened l).place = σ.place.next settings l := by
  rw [place_outside hs, Place.next, Line.entered, Line.opensBlock_iff.mpr ⟨hc, hl⟩]
  rfl

/-- **A session that reads a line goes where the line says.** -/
theorem place_of_reads (hr : Reads settings l σ σ') (h : Sound settings σ) :
    σ'.place = σ.place.next settings l := by
  induction hr with
  | comment hk => exact (next_place_of_skips hk).symm
  | @blank σ hs hb =>
    rw [place_outside hs]
    exact (Line.entered_of_isPassed (Or.inl hb) _).symm
  | directive hs _ hl _ => exact place_take hs hl
  | header hs hc hl => exact place_opened hs hc hl
  | @pause σ block blank hs hb =>
    have hc := Line.isComment_eq_false_of_isBlank settings hb
    cases blank with
    | none =>
      rw [place_chords hs]
      simp [Place.next, hc, hb, place]
    | some number =>
      rw [place_pause hs]
      simp [Place.next, hb, place]
  | next hs hm hc hl _ ih =>
    -- the section ends first, and the line is then outside any
    have hopen : _ = some _ := congrArg Stage.open? hs
    have hb := isBlank_eq_false_of_startsNext hl
    rw [ih (h.closed hopen (Block.isBalanced_close_nil _)), place_closed h hopen, place_pause hs]
    simp [Place.next, hb, hc]
  | mark hs hc hl =>
    have hb : l.isBlank = false := by
      apply Line.isBlank_eq_false_of_trimmed
      rw [hl]
      decide
    rw [place_chords hs]
    simp [Place.next, hc, hb, hl, place]
  | measure hs hc hb hl _ =>
    rw [place_chords hs]
    simp [Place.next, hc, hb, hl, place]
  | lyric hs hy =>
    obtain ⟨hspan, _⟩ := Lyric.read_eq_ok hy
    have hb := Lyric.isBlank_eq_false_of_hasSpan hspan
    rw [place_lyrics hs]
    simp [Place.next, hb, hspan, place]
  | rest hs hb _ =>
    rw [place_closed h (congrArg Stage.open? hs), place_lyrics hs]
    simp [Place.next, hb]

end Session

end SongSheet
