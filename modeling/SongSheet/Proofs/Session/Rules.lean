import SongSheet.Proofs.Line
import SongSheet.Session

/-!
# The rules of reading

What a line can do to a session, said once. `Session.Reads` has one rule for each way a line is
accepted, `Session.read` is the function that looks for the rule that applies, and
`Session.reads_iff` says that they are the same. A line that fails leaves the session where it was,
with one exception (`Session.Fails.session_eq`): the line that was to follow a section may already
have ended it.

Whatever all rules keep, every batch keeps (`Session.feed_keeps`). The song a batch gives is read
off the session after its last line (`Session.songRead_eq_ok_iff`).
-/

namespace SongSheet

/-! ## 1. Ending a section -/

namespace Section

/-- The lyrics, if there are any, cover the measures exactly. -/
def IsBalanced (s : Section) : Prop := s.lyrics = [] ∨ s.claimed = s.measures.length

theorem checkTiming_of_isBalanced {s : Section} (h : s.IsBalanced) : s.checkTiming = .ok s := by
  unfold checkTiming
  split
  · rfl
  · rename_i first rest hlyrics
    rcases h with hnil | hsum
    · rw [hnil] at hlyrics
      cases hlyrics
    · rw [if_pos hsum]

theorem isBalanced_of_checkTiming {s t : Section} (h : s.checkTiming = .ok t) :
    t = s ∧ s.IsBalanced := by
  unfold checkTiming at h
  split at h
  · rename_i hnil
    cases h
    exact ⟨rfl, Or.inl hnil⟩
  · split at h
    · rename_i hsum
      cases h
      exact ⟨rfl, Or.inr hsum⟩
    · split at h <;> cases h

end Section

theorem Block.isBalanced_close_nil (b : Block) : (b.close []).IsBalanced := Or.inl rfl

/-- What the lyrics of a section cover, with one more lyric. -/
theorem Block.claimed_snoc (b : Block) (sung : List Lyric) (y : Lyric) :
    (b.close (sung ++ [y])).claimed = (b.close sung).claimed + y.span := by
  have hsum : ((sung ++ [y]).map (·.span)).sum = (sung.map (·.span)).sum + y.span := by simp
  exact hsum

namespace Session

/-- The session after its open section has ended as `s`. -/
def closed (σ : Session) (s : Section) : Session :=
  { σ with stage := .awaiting, events := σ.events ++ [.part s] }

/-- The session after a header line. -/
def opened (σ : Session) (l : Line) : Session :=
  { σ with stage := .chords { name := l.trimmed, line := l.number } none, seenSection := true }

theorem close_of_isBalanced (σ : Session) {s : Section} (h : s.IsBalanced) :
    σ.close s = { session := σ.closed s, notices := [s.notice] } := by
  unfold close
  rw [Section.checkTiming_of_isBalanced h]
  rfl

/-- A section is ended as it is or not at all. -/
theorem close_cases (σ : Session) (s : Section) :
    (s.IsBalanced ∧ σ.close s = { session := σ.closed s, notices := [s.notice] }) ∨
      (¬ s.IsBalanced ∧ ∃ e, σ.close s = σ.fail e) := by
  cases h : s.checkTiming with
  | ok t =>
    have hbal := (Section.isBalanced_of_checkTiming h).2
    exact Or.inl ⟨hbal, close_of_isBalanced σ hbal⟩
  | error e =>
    refine Or.inr ⟨fun hbal => ?_, e, ?_⟩
    · rw [Section.checkTiming_of_isBalanced hbal] at h
      cases h
    · unfold close
      rw [h]

/-! ## 2. Which function reads the line -/

variable {settings : Settings} {σ σ' : Session} {l : Line}

theorem skips_eq_false_of_not_isComment (h : l.isComment settings.commentMark = false) :
    σ.skips settings l = false := by
  simp [skips, h]

theorem skips_eq_false_of_isBlank (h : l.isBlank = true) : σ.skips settings l = false :=
  skips_eq_false_of_not_isComment (Line.isComment_eq_false_of_isBlank settings h)

/-- Among lyrics, a line that ends in a span is never passed over. -/
theorem skips_eq_false_of_hasSpan {block : Block} {sung : List Lyric}
    (hs : σ.stage = .lyrics block sung) (h : Lyric.hasSpan l.trimmed = true) :
    σ.skips settings l = false := by
  simp [skips, hs, h, Stage.inLyrics]

/-- Outside lyrics, a line is passed over exactly if it is a comment. -/
theorem skips_of_not_inLyrics (h : σ.stage.inLyrics = false) :
    σ.skips settings l = l.isComment settings.commentMark := by
  simp [skips, h]

theorem inLyrics_of_open?_eq_none (h : σ.stage.open? = none) : σ.stage.inLyrics = false := by
  cases hs : σ.stage with
  | awaiting => rfl
  | done => rfl
  | chords block blank => rw [hs] at h; cases h
  | lyrics block sung => rw [hs] at h; cases h

theorem read_of_skips (h : σ.skips settings l = true) : σ.read settings l = σ.stay := by
  rw [read, if_pos h]

/-- A comment that does not end in a span is passed over at every stage. -/
theorem read_of_isComment (hc : l.isComment settings.commentMark = true)
    (hspan : Lyric.hasSpan l.trimmed = false) : σ.read settings l = σ.stay := by
  apply read_of_skips
  rw [skips, hc, hspan, Bool.and_false]
  rfl

theorem read_outside (hk : σ.skips settings l = false) (hs : σ.stage.open? = none) :
    σ.read settings l = σ.await settings l := by
  rw [read, hk]
  cases hst : σ.stage with
  | awaiting => rfl
  | done => rfl
  | chords block blank => rw [hst] at hs; cases hs
  | lyrics block sung => rw [hst] at hs; cases hs

theorem read_chords {block : Block} {blank : Option Int} (hk : σ.skips settings l = false)
    (hs : σ.stage = .chords block blank) :
    σ.read settings l = σ.readChords settings block blank l := by
  rw [read, hk, hs]
  rfl

theorem read_lyrics {block : Block} {sung : List Lyric} (hk : σ.skips settings l = false)
    (hs : σ.stage = .lyrics block sung) : σ.read settings l = σ.readLyrics block sung l := by
  rw [read, hk, hs]
  rfl

/-! ## 3. The rules -/

/-- **The line takes the session from `σ` to `σ'`**: one rule for each way a line is accepted. -/
inductive Reads (settings : Settings) (l : Line) : Session → Session → Prop where
  | comment {σ : Session} (hk : σ.skips settings l = true) : Reads settings l σ σ
  | blank {σ : Session} (hs : σ.stage.open? = none) (hb : l.isBlank = true) : Reads settings l σ σ
  | directive {σ : Session} {d : Directive} (hs : σ.stage.open? = none)
      (hc : l.isComment settings.commentMark = false)
      (hl : Directive.isDirectiveLine l.text = true) (hd : Directive.read settings l = .ok d) :
      Reads settings l σ (σ.take d).session
  | header {σ : Session} (hs : σ.stage.open? = none)
      (hc : l.isComment settings.commentMark = false)
      (hl : Section.isHeader settings l.text = true) : Reads settings l σ (σ.opened l)
  /-- A blank line in a chord block waits for the next line; the first one counts. -/
  | pause {σ : Session} {block : Block} {blank : Option Int} (hs : σ.stage = .chords block blank)
      (hb : l.isBlank = true) :
      Reads settings l σ { σ with stage := .chords block (blank.or (some l.number)) }
  /-- The line after a pause starts something new, so the chord block was over. -/
  | next {σ σ' : Session} {block : Block} {number : Int}
      (hs : σ.stage = .chords block (some number)) (hm : block.measures ≠ [])
      (hc : l.isComment settings.commentMark = false) (hl : startsNext settings l = true)
      (h : Reads settings l (σ.closed (block.close [])) σ') : Reads settings l σ σ'
  | mark {σ : Session} {block : Block} (hs : σ.stage = .chords block none)
      (hc : l.isComment settings.commentMark = false) (hl : l.trimmed = Section.lyricMark) :
      Reads settings l σ { σ with stage := .lyrics block [] }
  | measure {σ : Session} {block : Block} {m : Measure} (hs : σ.stage = .chords block none)
      (hc : l.isComment settings.commentMark = false) (hb : l.isBlank = false)
      (hl : l.trimmed ≠ Section.lyricMark) (hm : Measure.read l = .ok m) :
      Reads settings l σ
        { σ with stage := .chords { block with measures := block.measures ++ [m] } none }
  | lyric {σ : Session} {block : Block} {sung : List Lyric} {y : Lyric}
      (hs : σ.stage = .lyrics block sung) (hy : Lyric.read l = .ok y) :
      Reads settings l σ { σ with stage := .lyrics block (sung ++ [y]) }
  /-- A blank line among lyrics ends the section. -/
  | rest {σ : Session} {block : Block} {sung : List Lyric} (hs : σ.stage = .lyrics block sung)
      (hb : l.isBlank = true) (ht : (block.close sung).IsBalanced) :
      Reads settings l σ (σ.closed (block.close sung))

/-- **The line fails with `e` and leaves the session at `σ'`**: one rule for each way a line is
    refused. -/
inductive Fails (settings : Settings) (l : Line) (e : Failure) : Session → Session → Prop where
  | directive {σ : Session} (hs : σ.stage.open? = none)
      (hc : l.isComment settings.commentMark = false)
      (hl : Directive.isDirectiveLine l.text = true) (hd : Directive.read settings l = .error e) :
      Fails settings l e σ σ
  | unexpected {σ : Session} (hs : σ.stage.open? = none)
      (hc : l.isComment settings.commentMark = false) (hb : l.isBlank = false)
      (hl : startsNext settings l = false)
      (he : e = .diagnostic ((Problem.unexpectedLine l.trimmed σ.seenSection).on l.number)) :
      Fails settings l e σ σ
  /-- A blank line that turns out to stand inside a chord block; it is the one pointed at. -/
  | emptyLine {σ : Session} {block : Block} {number : Int}
      (hs : σ.stage = .chords block (some number))
      (hc : l.isComment settings.commentMark = false) (hb : l.isBlank = false)
      (hl : block.measures = [] ∨ startsNext settings l = false)
      (he : e = .diagnostic ((Problem.emptyLine block.name).on number)) : Fails settings l e σ σ
  /-- The section before is over, and stays so. -/
  | next {σ σ' : Session} {block : Block} {number : Int}
      (hs : σ.stage = .chords block (some number)) (hm : block.measures ≠ [])
      (hc : l.isComment settings.commentMark = false) (hl : startsNext settings l = true)
      (h : Fails settings l e (σ.closed (block.close [])) σ') : Fails settings l e σ σ'
  | measure {σ : Session} {block : Block} (hs : σ.stage = .chords block none)
      (hc : l.isComment settings.commentMark = false) (hb : l.isBlank = false)
      (hl : l.trimmed ≠ Section.lyricMark) (hm : Measure.read l = .error e) :
      Fails settings l e σ σ
  | lyric {σ : Session} {block : Block} {sung : List Lyric} (hs : σ.stage = .lyrics block sung)
      (hk : σ.skips settings l = false) (hb : l.isBlank = false) (hy : Lyric.read l = .error e) :
      Fails settings l e σ σ
  | timing {σ : Session} {block : Block} {sung : List Lyric} (hs : σ.stage = .lyrics block sung)
      (hb : l.isBlank = true) (ht : (block.close sung).checkTiming = .error e) :
      Fails settings l e σ σ

/-! ## 4. The function follows the rules -/

theorem isBlank_eq_false_of_startsNext (h : startsNext settings l = true) : l.isBlank = false := by
  rw [startsNext, Bool.or_eq_true] at h
  rcases h with hd | hh
  · exact Line.isBlank_eq_false_of_isDirectiveLine hd
  · exact Line.isBlank_eq_false_of_isHeader hh

/-- **A line that starts something new, after a pause, is read as after the section's end.** -/
theorem read_next {block : Block} {number : Int} (hs : σ.stage = .chords block (some number))
    (hm : block.measures ≠ []) (hc : l.isComment settings.commentMark = false)
    (hl : startsNext settings l = true) :
    σ.read settings l =
      ⟨((σ.closed (block.close [])).read settings l).session,
        (block.close []).notice :: ((σ.closed (block.close [])).read settings l).notices,
        ((σ.closed (block.close [])).read settings l).failure⟩ := by
  have hb := isBlank_eq_false_of_startsNext hl
  have hm' : block.measures.isEmpty = false := List.isEmpty_eq_false_iff.mpr hm
  have hclose := close_of_isBalanced σ block.isBalanced_close_nil
  have hafter : (σ.closed (block.close [])).read settings l =
      (σ.closed (block.close [])).await settings l :=
    read_outside (skips_eq_false_of_not_isComment hc) rfl
  rw [read_chords (skips_eq_false_of_not_isComment hc) hs, readChords, hb, hafter]
  simp [hm', hl, hclose, Step.andThen]

theorem readChords_blank (σ : Session) (block : Block) (blank : Option Int)
    (hb : l.isBlank = true) :
    σ.readChords settings block blank l =
      { session := { σ with stage := .chords block (blank.or (some l.number)) } } := by
  unfold readChords
  rw [if_pos hb]

theorem await_directive {d : Directive} (hl : Directive.isDirectiveLine l.text = true)
    (hd : Directive.read settings l = .ok d) : σ.await settings l = σ.take d := by
  have hb := Line.isBlank_eq_false_of_isDirectiveLine hl
  simp [await, hb, hl, hd]

theorem await_header (hl : Section.isHeader settings l.text = true) :
    σ.await settings l = { session := σ.opened l } := by
  have hb := Line.isBlank_eq_false_of_isHeader hl
  have hd := Line.isDirectiveLine_eq_false_of_isHeader hl
  simp [await, hb, hl, hd, opened]

theorem take_failure (σ : Session) (d : Directive) : (σ.take d).failure = none := by
  unfold take
  split
  · rfl
  · split
    · rfl
    · split <;> rfl

/-- **Where a directive goes**: before the first section to the preamble, after it to the events if
    it sets the tempo, and nowhere otherwise. -/
theorem take_cases (σ : Session) (d : Directive) :
    (σ.seenSection = false ∧ (σ.take d).session = { σ with preamble := σ.preamble ++ [d] }) ∨
      (σ.seenSection = true ∧ d.key = Topic.tempo.key ∧
        (σ.take d).session = { σ with events := σ.events ++ [.directive d] }) ∨
      (σ.seenSection = true ∧ d.key ≠ Topic.tempo.key ∧ (σ.take d).session = σ) := by
  unfold take
  cases hseen : σ.seenSection with
  | false => exact Or.inl ⟨rfl, rfl⟩
  | true =>
    by_cases hkey : d.key = Topic.tempo.key
    · refine Or.inr (Or.inl ⟨rfl, hkey, ?_⟩)
      simp [hkey]
    · refine Or.inr (Or.inr ⟨rfl, hkey, ?_⟩)
      cases hk : d.known <;> simp [hkey]

theorem take_stage (σ : Session) (d : Directive) : (σ.take d).session.stage = σ.stage := by
  rcases take_cases σ d with ⟨_, he⟩ | ⟨_, _, he⟩ | ⟨_, _, he⟩ <;> rw [he]

/-- Every rule is one the function finds. -/
theorem read_of_reads (h : Reads settings l σ σ') :
    (σ.read settings l).failure = none ∧ (σ.read settings l).session = σ' := by
  induction h with
  | comment hk =>
    rw [read_of_skips hk]
    exact ⟨rfl, rfl⟩
  | blank hs hb =>
    rw [read_outside (skips_eq_false_of_isBlank hb) hs, await, if_pos hb]
    exact ⟨rfl, rfl⟩
  | directive hs hc hl hd =>
    rw [read_outside (skips_eq_false_of_not_isComment hc) hs, await_directive hl hd]
    exact ⟨take_failure _ _, rfl⟩
  | header hs hc hl =>
    rw [read_outside (skips_eq_false_of_not_isComment hc) hs, await_header hl]
    exact ⟨rfl, rfl⟩
  | pause hs hb =>
    rw [read_chords (skips_eq_false_of_isBlank hb) hs, readChords_blank _ _ _ hb]
    exact ⟨rfl, rfl⟩
  | next hs hm hc hl _ ih =>
    rw [read_next hs hm hc hl]
    exact ih
  | mark hs hc hl =>
    have hb : l.isBlank = false := by
      apply Line.isBlank_eq_false_of_trimmed
      rw [hl]
      decide
    rw [read_chords (skips_eq_false_of_not_isComment hc) hs, readChords, hb]
    simp [hl]
  | measure hs hc hb hl hm =>
    rw [read_chords (skips_eq_false_of_not_isComment hc) hs, readChords, hb]
    simp [hl, hm]
  | lyric hs hy =>
    obtain ⟨hspan, _⟩ := Lyric.read_eq_ok hy
    rw [read_lyrics (skips_eq_false_of_hasSpan hs hspan) hs, readLyrics,
      Lyric.isBlank_eq_false_of_hasSpan hspan]
    simp [hy]
  | rest hs hb ht =>
    rw [read_lyrics (skips_eq_false_of_isBlank hb) hs, readLyrics, if_pos hb,
      close_of_isBalanced _ ht]
    exact ⟨rfl, rfl⟩

/-- What a step was by the rules: accepted or refused. -/
def Follows (settings : Settings) (σ : Session) (l : Line) (r : Step) : Prop :=
  (r.failure = none ∧ Reads settings l σ r.session) ∨
    ∃ e, r.failure = some e ∧ Fails settings l e σ r.session

theorem follows_outside (hk : σ.skips settings l = false) (hs : σ.stage.open? = none) :
    Follows settings σ l (σ.read settings l) := by
  have hc : l.isComment settings.commentMark = false := by
    rw [← skips_of_not_inLyrics (inLyrics_of_open?_eq_none hs), hk]
  rw [read_outside hk hs, await]
  cases hb : l.isBlank with
  | true => exact Or.inl ⟨rfl, .blank hs hb⟩
  | false =>
    cases hl : Directive.isDirectiveLine l.text with
    | true =>
      cases hd : Directive.read settings l with
      | error e => exact Or.inr ⟨e, rfl, .directive hs hc hl hd⟩
      | ok d => exact Or.inl ⟨take_failure σ d, .directive hs hc hl hd⟩
    | false =>
      cases hh : Section.isHeader settings l.text with
      | true => exact Or.inl ⟨rfl, .header hs hc hh⟩
      | false => exact Or.inr ⟨_, rfl, .unexpected hs hc hb (by simp [startsNext, hl, hh]) rfl⟩

theorem follows_chords {block : Block} {blank : Option Int} (hk : σ.skips settings l = false)
    (hs : σ.stage = .chords block blank) : Follows settings σ l (σ.read settings l) := by
  have hc : l.isComment settings.commentMark = false := by
    rw [← skips_of_not_inLyrics (σ := σ) (by rw [hs]; rfl), hk]
  cases hb : l.isBlank with
  | true =>
    rw [read_chords hk hs, readChords_blank σ block blank hb]
    exact Or.inl ⟨rfl, .pause hs hb⟩
  | false =>
    cases blank with
    | some number =>
      by_cases hnext : block.measures ≠ [] ∧ startsNext settings l = true
      · -- the section ends, and the line is read once more from there
        obtain ⟨hm, hl⟩ := hnext
        rw [read_next hs hm hc hl]
        rcases follows_outside (σ := σ.closed (block.close []))
          (skips_eq_false_of_not_isComment hc) rfl with ⟨hf, hr⟩ | ⟨e, hf, hr⟩
        · exact Or.inl ⟨hf, .next hs hm hc hl hr⟩
        · exact Or.inr ⟨e, hf, .next hs hm hc hl hr⟩
      · have hl : block.measures = [] ∨ startsNext settings l = false := by
          rw [not_and_or, not_not, Bool.not_eq_true] at hnext
          exact hnext
        have hcond : (!block.measures.isEmpty && startsNext settings l) = false := by
          rcases hl with hl | hl <;> simp [hl]
        rw [read_chords hk hs, readChords, hb]
        simp only [Bool.false_eq_true, if_false, hcond]
        exact Or.inr ⟨_, rfl, .emptyLine hs hc hb hl rfl⟩
    | none =>
      rw [read_chords hk hs, readChords, hb]
      simp only [Bool.false_eq_true, if_false]
      by_cases hl : l.trimmed = Section.lyricMark
      · rw [if_pos hl]
        exact Or.inl ⟨rfl, .mark hs hc hl⟩
      · rw [if_neg hl]
        cases hm : Measure.read l with
        | error e => exact Or.inr ⟨e, rfl, .measure hs hc hb hl hm⟩
        | ok m => exact Or.inl ⟨rfl, .measure hs hc hb hl hm⟩

theorem follows_lyrics {block : Block} {sung : List Lyric} (hk : σ.skips settings l = false)
    (hs : σ.stage = .lyrics block sung) : Follows settings σ l (σ.read settings l) := by
  rw [read_lyrics hk hs, readLyrics]
  cases hb : l.isBlank with
  | true =>
    rw [if_pos rfl, close]
    cases ht : (block.close sung).checkTiming with
    | error e => exact Or.inr ⟨e, rfl, .timing hs hb ht⟩
    | ok s =>
      obtain ⟨rfl, hbal⟩ := Section.isBalanced_of_checkTiming ht
      exact Or.inl ⟨rfl, .rest hs hb hbal⟩
  | false =>
    cases hy : Lyric.read l with
    | error e => exact Or.inr ⟨e, rfl, .lyric hs hk hb hy⟩
    | ok y => exact Or.inl ⟨rfl, .lyric hs hy⟩

/-- **Every line is accepted or refused by a rule.** -/
theorem read_follows (settings : Settings) (σ : Session) (l : Line) :
    Follows settings σ l (σ.read settings l) := by
  cases hk : σ.skips settings l with
  | true =>
    rw [read_of_skips hk]
    exact Or.inl ⟨rfl, .comment hk⟩
  | false =>
    cases hs : σ.stage with
    | awaiting => exact follows_outside hk (by rw [hs]; rfl)
    | done => exact follows_outside hk (by rw [hs]; rfl)
    | chords block blank => exact follows_chords hk hs
    | lyrics block sung => exact follows_lyrics hk hs

/-- **The rules say exactly what the function does.** -/
theorem reads_iff :
    Reads settings l σ σ' ↔
      (σ.read settings l).failure = none ∧ (σ.read settings l).session = σ' := by
  constructor
  · exact read_of_reads
  · rintro ⟨hf, rfl⟩
    rcases read_follows settings σ l with ⟨_, h⟩ | ⟨e, he, _⟩
    · exact h
    · rw [hf] at he
      cases he

/-- Where a line fails, the session stays where it was, unless the line found that the section
    before it was over. -/
theorem Fails.session_eq {e : Failure} (h : Fails settings l e σ σ') :
    σ' = σ ∨ ∃ block number, σ.stage = .chords block (some number) ∧ block.measures ≠ [] ∧
      σ' = σ.closed (block.close []) := by
  cases h with
  | next hs hm hc hl h =>
    refine Or.inr ⟨_, _, hs, hm, ?_⟩
    cases h with
    | directive => rfl
    | unexpected => rfl
    | emptyLine hs' => cases hs'
    | next hs' => cases hs'
    | measure hs' => cases hs'
    | lyric hs' => cases hs'
    | timing hs' => cases hs'
  | directive => exact Or.inl rfl
  | unexpected => exact Or.inl rfl
  | emptyLine => exact Or.inl rfl
  | measure => exact Or.inl rfl
  | lyric => exact Or.inl rfl
  | timing => exact Or.inl rfl

/-! ## 5. What a line can do at each stage -/

theorem reads_outside_cases (hs : σ.stage.open? = none) (hr : Reads settings l σ σ') :
    (l.isBlank = true ∧ σ' = σ) ∨ (l.isComment settings.commentMark = true ∧ σ' = σ) ∨
      (l.isComment settings.commentMark = false ∧ Directive.isDirectiveLine l.text = true ∧
        ∃ d, Directive.read settings l = .ok d ∧ σ' = (σ.take d).session) ∨
      (l.isComment settings.commentMark = false ∧ Section.isHeader settings l.text = true ∧
        σ' = σ.opened l) := by
  cases hr with
  | comment hk =>
    rw [skips_of_not_inLyrics (inLyrics_of_open?_eq_none hs)] at hk
    exact Or.inr (Or.inl ⟨hk, rfl⟩)
  | blank _ hb => exact Or.inl ⟨hb, rfl⟩
  | directive _ hc hl hd => exact Or.inr (Or.inr (Or.inl ⟨hc, hl, _, hd, rfl⟩))
  | header _ hc hl => exact Or.inr (Or.inr (Or.inr ⟨hc, hl, rfl⟩))
  | pause hs' | next hs' | mark hs' | measure hs' | lyric hs' | rest hs' =>
    rw [hs'] at hs
    cases hs

/-- In a chord block, before any pause. -/
theorem reads_chords_cases {block : Block} (hs : σ.stage = .chords block none)
    (hr : Reads settings l σ σ') :
    (l.isComment settings.commentMark = true ∧ σ' = σ) ∨
      (l.isBlank = true ∧ σ' = { σ with stage := .chords block (some l.number) }) ∨
      (l.isComment settings.commentMark = false ∧ l.trimmed = Section.lyricMark ∧
        σ' = { σ with stage := .lyrics block [] }) ∨
      (l.isComment settings.commentMark = false ∧ l.isBlank = false ∧
        l.trimmed ≠ Section.lyricMark ∧ ∃ m, Measure.read l = .ok m ∧
        σ' = { σ with stage := .chords { block with measures := block.measures ++ [m] } none }) := by
  cases hr with
  | comment hk =>
    rw [skips_of_not_inLyrics (by rw [hs]; rfl)] at hk
    exact Or.inl ⟨hk, rfl⟩
  | pause hs' hb =>
    rw [hs] at hs'
    cases hs'
    exact Or.inr (Or.inl ⟨hb, rfl⟩)
  | mark hs' hc hl =>
    rw [hs] at hs'
    cases hs'
    exact Or.inr (Or.inr (Or.inl ⟨hc, hl, rfl⟩))
  | measure hs' hc hb hl hm =>
    rw [hs] at hs'
    cases hs'
    exact Or.inr (Or.inr (Or.inr ⟨hc, hb, hl, _, hm, rfl⟩))
  | blank hs' | directive hs' | header hs' | next hs' | lyric hs' | rest hs' =>
    rw [hs] at hs'
    cases hs'

/-- In a chord block, after a pause. -/
theorem reads_pending_cases {block : Block} {number : Int}
    (hs : σ.stage = .chords block (some number)) (hr : Reads settings l σ σ') :
    ((l.isBlank = true ∨ l.isComment settings.commentMark = true) ∧ σ' = σ) ∨
      (block.measures ≠ [] ∧ l.isComment settings.commentMark = false ∧
        startsNext settings l = true ∧ Reads settings l (σ.closed (block.close [])) σ') := by
  cases hr with
  | comment hk =>
    rw [skips_of_not_inLyrics (by rw [hs]; rfl)] at hk
    exact Or.inl ⟨Or.inr hk, rfl⟩
  | pause hs' hb =>
    rw [hs] at hs'
    cases hs'
    refine Or.inl ⟨Or.inl hb, ?_⟩
    obtain ⟨stage, preamble, events, seen⟩ := σ
    cases hs
    rfl
  | next hs' hm hc hl hr =>
    rw [hs] at hs'
    cases hs'
    exact Or.inr ⟨hm, hc, hl, hr⟩
  | blank hs' | directive hs' | header hs' | mark hs' | measure hs' | lyric hs' | rest hs' =>
    rw [hs] at hs'
    cases hs'

theorem reads_lyrics_cases {block : Block} {sung : List Lyric}
    (hs : σ.stage = .lyrics block sung) (hr : Reads settings l σ σ') :
    (l.isComment settings.commentMark = true ∧ Lyric.hasSpan l.trimmed = false ∧ σ' = σ) ∨
      (∃ y, Lyric.read l = .ok y ∧ σ' = { σ with stage := .lyrics block (sung ++ [y]) }) ∨
      (l.isBlank = true ∧ (block.close sung).IsBalanced ∧ σ' = σ.closed (block.close sung)) := by
  cases hr with
  | comment hk =>
    rw [skips, hs] at hk
    simp only [Stage.inLyrics, Bool.true_and, Bool.and_eq_true, Bool.not_eq_true'] at hk
    exact Or.inl ⟨hk.1, hk.2, rfl⟩
  | lyric hs' hy =>
    rw [hs] at hs'
    cases hs'
    exact Or.inr (Or.inl ⟨_, hy, rfl⟩)
  | rest hs' hb ht =>
    rw [hs] at hs'
    cases hs'
    exact Or.inr (Or.inr ⟨hb, ht, rfl⟩)
  | blank hs' | directive hs' | header hs' | pause hs' | next hs' | mark hs' | measure hs' =>
    rw [hs] at hs'
    cases hs'

/-! ## 6. Batches -/

/-- Lines read one after the other, none of them refused. -/
inductive Runs (settings : Settings) : Session → List Line → Session → Prop where
  | nil {σ : Session} : Runs settings σ [] σ
  | cons {σ σ' σ'' : Session} {l : Line} {ls : List Line} (hr : Reads settings l σ σ')
      (h : Runs settings σ' ls σ'') : Runs settings σ (l :: ls) σ''

theorem readAll_of_runs {ls : List Line} (h : Runs settings σ ls σ') :
    (σ.readAll settings ls).failure = none ∧ (σ.readAll settings ls).session = σ' := by
  induction h with
  | nil => exact ⟨rfl, rfl⟩
  | cons hr _ ih =>
    obtain ⟨hf, hσ⟩ := reads_iff.mp hr
    rw [readAll, Step.andThen_of_none hf, hσ]
    exact ih

theorem runs_of_readAll : ∀ {ls : List Line} {σ : Session},
    (σ.readAll settings ls).failure = none →
      Runs settings σ ls (σ.readAll settings ls).session
  | [], _, _ => .nil
  | l :: ls, σ, h => by
      rcases read_follows settings σ l with ⟨hf, hr⟩ | ⟨e, he, _⟩
      · rw [readAll, Step.andThen_of_none hf] at h ⊢
        exact .cons hr (runs_of_readAll h)
      · rw [readAll, Step.andThen_of_failure he, he] at h
        cases h

theorem runs_iff {ls : List Line} :
    Runs settings σ ls σ' ↔
      (σ.readAll settings ls).failure = none ∧ (σ.readAll settings ls).session = σ' := by
  constructor
  · exact readAll_of_runs
  · rintro ⟨hf, rfl⟩
    exact runs_of_readAll hf

theorem Runs.append {ls ls' : List Line} {σ'' : Session} (h : Runs settings σ ls σ')
    (h' : Runs settings σ' ls' σ'') : Runs settings σ (ls ++ ls') σ'' := by
  induction h with
  | nil => exact h'
  | cons hr _ ih => exact .cons hr (ih h')

theorem Runs.snoc {ls : List Line} {σ'' : Session} (h : Runs settings σ ls σ')
    (hr : Reads settings l σ' σ'') : Runs settings σ (ls ++ [l]) σ'' :=
  h.append (.cons hr .nil)

theorem Runs.of_append {ls ls' : List Line} {σ'' : Session}
    (h : Runs settings σ (ls ++ ls') σ'') :
    ∃ σ', Runs settings σ ls σ' ∧ Runs settings σ' ls' σ'' := by
  induction ls generalizing σ with
  | nil => exact ⟨σ, .nil, h⟩
  | cons l ls ih =>
    cases h with
    | cons hr h =>
      obtain ⟨σ', h₁, h₂⟩ := ih h
      exact ⟨σ', .cons hr h₁, h₂⟩

/-- **What holds at first, and every rule carries on by its line, holds of all lines read.** -/
theorem runs_keeps {P : List Line → Session → Prop} {σ₀ : Session} {ls : List Line}
    (hstart : P [] σ₀)
    (hread : ∀ {ls l σ σ'}, Runs settings σ₀ ls σ → Reads settings l σ σ' → P ls σ →
      P (ls ++ [l]) σ')
    (hr : Runs settings σ₀ ls σ) : P ls σ := by
  induction ls using List.reverseRecOn generalizing σ with
  | nil =>
    cases hr
    exact hstart
  | append_singleton ls l ih =>
    obtain ⟨σ₁, hr₁, hr₂⟩ := hr.of_append
    cases hr₂ with
    | cons hl hnil =>
      cases hnil
      exact hread hr₁ hl (ih hr₁)

/-- Lines that were read leave it to those after them to fail. -/
theorem Runs.failure_append {ls : List Line} (h : Runs settings σ ls σ') (ls' : List Line) :
    (σ.readAll settings (ls ++ ls')).failure = (σ'.readAll settings ls').failure := by
  obtain ⟨hf, hσ⟩ := readAll_of_runs h
  rw [readAll_append, Step.andThen_of_none hf, hσ]

/-- **What every rule, every end of a section and the end of a batch keep, a batch keeps**, whether
    or not one of its lines fails. -/
theorem feed_keeps {P : Session → Prop}
    (hread : ∀ {l σ σ'}, Reads settings l σ σ' → P σ → P σ')
    (hclose : ∀ {σ s}, σ.stage.open? = some s → s.IsBalanced → P σ → P (σ.closed s))
    (hdone : ∀ {σ}, σ.stage.open? = none → P σ → P { σ with stage := .done })
    (σ : Session) (ls : List Line) (h : P σ) : P (σ.feed settings ls).session := by
  have hlines : ∀ (ls : List Line) (σ : Session), P σ → P (σ.readAll settings ls).session := by
    intro ls
    induction ls with
    | nil => exact fun σ h => h
    | cons l ls ih =>
      intro σ h
      rcases read_follows settings σ l with ⟨hf, hr⟩ | ⟨e, hf, hr⟩
      · rw [readAll, Step.andThen_of_none hf]
        exact ih _ (hread hr h)
      · rw [readAll, Step.andThen_of_failure hf]
        rcases hr.session_eq with hσ | ⟨block, number, hs, _, hσ⟩
        · rw [hσ]
          exact h
        · rw [hσ]
          exact hclose (by rw [hs]; rfl) block.isBalanced_close_nil h
  unfold feed
  cases hf : (σ.readAll settings ls).failure with
  | some e =>
    rw [Step.andThen_of_failure hf, Step.andThen_of_failure hf]
    exact hlines ls σ h
  | none =>
    rw [Step.andThen_of_none hf]
    have hP := hlines ls σ h
    generalize (σ.readAll settings ls).session = τ at hP
    cases ho : τ.stage.open? with
    | none =>
      have hstay : τ.closeOpen = τ.stay := by rw [closeOpen, ho]
      rw [hstay, Step.andThen_of_none rfl]
      exact hdone ho hP
    | some s =>
      have hcl : τ.closeOpen = τ.close s := by rw [closeOpen, ho]
      rcases close_cases τ s with ⟨hbal, hok⟩ | ⟨_, e, hfail⟩
      · rw [hcl, hok, Step.andThen_of_none rfl]
        exact hdone rfl (hclose ho hbal hP)
      · rw [hcl, hfail, Step.andThen_of_failure rfl]
        exact hP

/-- **The song of a session at the end of a batch**: the open section is ended, and some section
    has been seen. -/
inductive Ends : Session → Song → Prop where
  | outside {σ : Session} (hs : σ.stage.open? = none) (hseen : σ.seenSection = true) : Ends σ σ.song
  | inside {σ : Session} {s : Section} (hs : σ.stage.open? = some s) (ht : s.IsBalanced)
      (hseen : σ.seenSection = true) : Ends σ (σ.closed s).song

theorem finish_failure (σ : Session) : σ.finish.failure = none ↔ σ.seenSection = true := by
  unfold finish
  cases σ.seenSection <;> simp

/-- The end of a batch, from the session after its last line. -/
theorem ends_iff (σ : Session) (song : Song) :
    ((σ.closeOpen.andThen finish).failure = none ∧
        (σ.closeOpen.andThen finish).session.song = song) ↔ Ends σ song := by
  cases ho : σ.stage.open? with
  | none =>
    have hstay : σ.closeOpen = σ.stay := by rw [closeOpen, ho]
    rw [hstay, stay_andThen]
    constructor
    · rintro ⟨hf, rfl⟩
      exact .outside ho (σ.finish_failure.mp hf)
    · intro h
      cases h with
      | outside hs hseen => exact ⟨σ.finish_failure.mpr hseen, rfl⟩
      | inside hs => rw [ho] at hs; cases hs
  | some s =>
    have hcl : σ.closeOpen = σ.close s := by rw [closeOpen, ho]
    rw [hcl]
    rcases close_cases σ s with ⟨hbal, hok⟩ | ⟨hbal, e, hfail⟩
    · rw [hok, Step.andThen_of_none rfl]
      constructor
      · rintro ⟨hf, rfl⟩
        exact .inside ho hbal ((σ.closed s).finish_failure.mp hf)
      · intro h
        cases h with
        | outside hs => rw [ho] at hs; cases hs
        | inside hs ht hseen =>
          rw [ho] at hs
          cases hs
          exact ⟨(σ.closed s).finish_failure.mpr hseen, rfl⟩
    · rw [hfail, Step.andThen_of_failure rfl]
      constructor
      · rintro ⟨hf, _⟩
        cases hf
      · intro h
        cases h with
        | outside hs => rw [ho] at hs; cases hs
        | inside hs ht =>
          rw [ho] at hs
          cases hs
          exact absurd ht hbal

/-- **A batch gives a song exactly if a session reads all its lines and ends with it.** -/
theorem feed_eq_ok_iff {ls : List Line} {song : Song} :
    (σ.feed settings ls).report.result = .ok song ↔ ∃ τ, Runs settings σ ls τ ∧ Ends τ song := by
  have hreport : ∀ r : Step, r.report.result = .ok song ↔
      r.failure = none ∧ r.session.song = song := by
    intro r
    unfold Step.report
    cases r.failure <;> simp
  rw [hreport, feed, Step.andThen_assoc]
  cases hf : (σ.readAll settings ls).failure with
  | some e =>
    rw [Step.andThen_of_failure hf, hf]
    constructor
    · rintro ⟨h, _⟩
      cases h
    · rintro ⟨τ, hr, _⟩
      rw [(runs_iff.mp hr).1] at hf
      cases hf
  | none =>
    rw [Step.andThen_of_none hf, ends_iff]
    constructor
    · intro h
      exact ⟨_, runs_of_readAll hf, h⟩
    · rintro ⟨τ, hr, h⟩
      rw [(runs_iff.mp hr).2]
      exact h

/-- **Lines are a song exactly if a new session reads them all and ends with it.** -/
theorem songRead_eq_ok_iff {ls : List Line} {song : Song} :
    (Song.read settings ls).result = .ok song ↔ ∃ σ, Runs settings {} ls σ ∧ Ends σ song :=
  feed_eq_ok_iff

/-- A line that fails is the failure of the song. -/
theorem songRead_eq_error {ls : List Line} {e : Failure}
    (h : (readAll settings {} ls).failure = some e) :
    (Song.read settings ls).result = .error e := by
  rw [Song.read, feed, Step.andThen_of_failure h, Step.andThen_of_failure h, Step.report, h]

end Session

end SongSheet
