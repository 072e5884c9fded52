import SongSheet.Session

/-!
# Reading into a register

A session keeps the open section inside its stage, so by its form alone lyrics and a pending blank line are
only where they belong. A register keeps the same things side by side: the phase it is in, and apart from it
the draft of a section with its measures, its lyrics and a blank line. By its form a draft could stand in any
phase, and a blank line could wait among lyrics.

What a line does to a register is said here once more, field by field, and the two readings are the same: a
session seen as a register (`Session.register`) is read like one, line by line, batch by batch
(`Session.register_read`, `Session.register_feed`). That phase and draft go together (`Register.Consistent`)
is proved of registers as they are: every line keeps it, also one that fails, and so do the ends of batches
(`Register.Consistent.feed`).
-/

namespace SongSheet

namespace Register

/-! ## 1. Registers -/

/-- What a register is waiting for. -/
inductive Phase where
  | awaitingHeader
  | inChordBlock
  | inLyricBlock
  | done
  deriving DecidableEq, Repr

/-- A section as far as it is written down. -/
structure Draft where
  name : String
  /-- The line of the header. -/
  line : Int
  measures : List Measure := []
  lyrics : List Lyric := []
  /-- The first blank line among the chords. -/
  blank : Option Int := none
  deriving DecidableEq, Repr

/-- The section a draft comes to. -/
def Draft.build (d : Draft) : Section := ⟨d.name, d.measures, d.lyrics, d.line⟩

end Register

open Register (Phase Draft)

/-- A reading, field by field. -/
structure Register where
  phase : Phase := .awaitingHeader
  preamble : List Directive := []
  events : List Event := []
  /-- The open section. -/
  current : Option Draft := none
  /-- A header has been read. -/
  seenSection : Bool := false
  deriving DecidableEq, Repr

namespace Register

/-- The register a line or a batch leads to, what was said, and why it stopped, if it did. -/
structure Step where
  register : Register
  notices : List Notice := []
  failure : Option Failure := none
  deriving DecidableEq, Repr

/-- Goes on from the register reached, unless the step failed. -/
def Step.andThen (t : Step) (next : Register → Step) : Step :=
  match t.failure with
  | some _ => t
  | none =>
    let t' := next t.register
    ⟨t'.register, t.notices ++ t'.notices, t'.failure⟩

/-- The register stays as it is. -/
def stay (ρ : Register) : Step := { register := ρ }

/-- The register stays as it is, because of a failure. -/
def fail (ρ : Register) (e : Failure) : Step := { register := ρ, failure := some e }

/-- The register stays as it is, because of a problem on a line. -/
def refuse (ρ : Register) (p : Problem) (line : Int) : Step := ρ.fail (.diagnostic (p.on line))

/-! ## 2. One line -/

/-- Puts a draft among the events, if its timing is right, and clears the way for a header. -/
def close (ρ : Register) (d : Draft) : Step :=
  match d.build.checkTiming with
  | .error e => ρ.fail e
  | .ok s =>
    { register := { ρ with events := ρ.events ++ [.part s], current := none, phase := .awaitingHeader }
      notices := [s.notice] }

/-- Puts a directive where it counts. -/
def take (ρ : Register) (d : Directive) : Step :=
  if !ρ.seenSection then
    { register := { ρ with preamble := ρ.preamble ++ [d] }, notices := d.notices }
  else if d.key = Topic.tempo.key then
    { register := { ρ with events := ρ.events ++ [.directive d] }
      notices := d.notices ++ [.tempoChange d.value d.line] }
  else if d.known then
    { register := ρ, notices := d.notices ++ [.lateDirective d.key d.line] }
  else { register := ρ, notices := d.notices }

/-- A line while nothing is drafted. -/
def await (settings : Settings) (ρ : Register) (l : Line) : Step :=
  if l.isBlank then ρ.stay
  else if Directive.isDirectiveLine l.text then
    match Directive.read settings l with
    | .error e => ρ.fail e
    | .ok d => ρ.take d
  else if !Section.isHeader settings l.text then
    ρ.refuse (.unexpectedLine l.trimmed ρ.seenSection) l.number
  else
    { register :=
        { ρ with
          current := some { name := l.trimmed, line := l.number }
          seenSection := true
          phase := .inChordBlock } }

/-- A line of chords for a draft. -/
def readChords (settings : Settings) (ρ : Register) (d : Draft) (l : Line) : Step :=
  if l.isBlank then
    match d.blank with
    | none => { register := { ρ with current := some { d with blank := some l.number } } }
    | some _ => ρ.stay
  else
    match d.blank with
    | some number =>
      if !(!d.measures.isEmpty && Session.startsNext settings l) then
        ρ.refuse (.emptyLine d.name) number
      else (ρ.close d).andThen fun ρ => ρ.await settings l
    | none =>
      if l.trimmed = Section.lyricMark then { register := { ρ with phase := .inLyricBlock } }
      else
        match Measure.read l with
        | .error e => ρ.fail e
        | .ok m => { register := { ρ with current := some { d with measures := d.measures ++ [m] } } }

/-- A line of lyrics for a draft. -/
def readLyrics (ρ : Register) (d : Draft) (l : Line) : Step :=
  if l.isBlank then ρ.close d
  else
    match Lyric.read l with
    | .error e => ρ.fail e
    | .ok y => { register := { ρ with current := some { d with lyrics := d.lyrics ++ [y] } } }

/-- The line is passed over as a comment. -/
def skips (settings : Settings) (ρ : Register) (l : Line) : Bool :=
  l.isComment settings.commentMark &&
    !(decide (ρ.phase = .inLyricBlock) && Lyric.hasSpan l.trimmed)

/-- Reads a line. Whether there is a draft is looked at before the phase. -/
def read (settings : Settings) (ρ : Register) (l : Line) : Step :=
  if ρ.skips settings l then ρ.stay
  else
    match ρ.current with
    | none => ρ.await settings l
    | some d =>
      if ρ.phase = .inChordBlock then ρ.readChords settings d l else ρ.readLyrics d l

/-! ## 3. Batches -/

/-- Reads lines up to the first that fails. -/
def readAll (settings : Settings) (ρ : Register) : List Line → Step
  | [] => ρ.stay
  | l :: ls => (ρ.read settings l).andThen fun ρ => ρ.readAll settings ls

/-- Ends the draft, if there is one. -/
def closeOpen (ρ : Register) : Step :=
  match ρ.current with
  | none => ρ.stay
  | some d => ρ.close d

/-- Marks the end of a batch. A song needs a section. -/
def finish (ρ : Register) : Step :=
  { register := { ρ with phase := .done }
    failure := if ρ.seenSection then none else some (.diagnostic Problem.noSections.overall) }

/-- Reads a batch of lines to its end. -/
def feed (settings : Settings) (ρ : Register) (ls : List Line) : Step :=
  ((ρ.readAll settings ls).andThen closeOpen).andThen finish

/-- The register after these batches more, one after the other, whatever failed on the way. -/
def fed (settings : Settings) (ρ : Register) (batches : List (List Line)) : Register :=
  batches.foldl (fun ρ ls => (ρ.feed settings ls).register) ρ

/-! ## 4. Phase and draft -/

/-- **Phase and draft go together.** -/
structure Consistent (ρ : Register) : Prop where
  /-- There is a draft in a chord block and in a lyric block, and nowhere else. -/
  opened : ρ.current.isSome = true ↔ ρ.phase = .inChordBlock ∨ ρ.phase = .inLyricBlock
  /-- Only a chord block has a blank line whose meaning is open. -/
  pending : ∀ d, ρ.current = some d → d.blank.isSome = true → ρ.phase = .inChordBlock
  /-- Only a lyric block has lyrics. -/
  sung : ∀ d, ρ.current = some d → d.lyrics ≠ [] → ρ.phase = .inLyricBlock

variable {settings : Settings} {ρ : Register} {d : Draft} {l : Line}

theorem consistent_of_none (hc : ρ.current = none)
    (hp : ρ.phase = .awaitingHeader ∨ ρ.phase = .done) : ρ.Consistent where
  opened := by
    rw [hc]
    rcases hp with hp | hp <;> rw [hp] <;> decide
  pending d hd := by
    rw [hc] at hd
    cases hd
  sung d hd := by
    rw [hc] at hd
    cases hd

theorem consistent_of_chords (hc : ρ.current = some d) (hp : ρ.phase = .inChordBlock)
    (hl : d.lyrics = []) : ρ.Consistent where
  opened := by
    rw [hc, hp]
    exact ⟨fun _ => Or.inl rfl, fun _ => rfl⟩
  pending _ _ _ := hp
  sung d' hd' hne := by
    rw [hc] at hd'
    cases hd'
    exact absurd hl hne

theorem consistent_of_lyrics (hc : ρ.current = some d) (hp : ρ.phase = .inLyricBlock)
    (hb : d.blank = none) : ρ.Consistent where
  opened := by
    rw [hc, hp]
    exact ⟨fun _ => Or.inr rfl, fun _ => rfl⟩
  pending d' hd' hsome := by
    rw [hc] at hd'
    cases hd'
    rw [hb] at hsome
    cases hsome
  sung _ _ _ := hp

theorem consistent_start : ({} : Register).Consistent := consistent_of_none rfl (Or.inl rfl)

/-- Without a draft it is a header that is waited for, or nothing. -/
theorem Consistent.phase_of_none (h : ρ.Consistent) (hc : ρ.current = none) :
    ρ.phase = .awaitingHeader ∨ ρ.phase = .done := by
  have hopen := h.opened
  rw [hc] at hopen
  cases hp : ρ.phase with
  | awaitingHeader => exact Or.inl rfl
  | done => exact Or.inr rfl
  | inChordBlock => exact absurd (hopen.mpr (Or.inl hp)) (by decide)
  | inLyricBlock => exact absurd (hopen.mpr (Or.inr hp)) (by decide)

/-- A draft that is not in a chord block is in a lyric block. -/
theorem Consistent.phase_of_some (h : ρ.Consistent) (hc : ρ.current = some d)
    (hp : ρ.phase ≠ .inChordBlock) : ρ.phase = .inLyricBlock := by
  have hopen := h.opened.mp (by rw [hc]; rfl)
  rcases hopen with hchords | hlyrics
  · exact absurd hchords hp
  · exact hlyrics

theorem Consistent.lyrics_eq_nil (h : ρ.Consistent) (hc : ρ.current = some d)
    (hp : ρ.phase = .inChordBlock) : d.lyrics = [] := by
  cases hl : d.lyrics with
  | nil => rfl
  | cons y ys =>
    have hphase := h.sung d hc (by rw [hl]; exact List.cons_ne_nil y ys)
    rw [hp] at hphase
    cases hphase

theorem Consistent.blank_eq_none (h : ρ.Consistent) (hc : ρ.current = some d)
    (hp : ρ.phase = .inLyricBlock) : d.blank = none := by
  cases hb : d.blank with
  | none => rfl
  | some number =>
    have hphase := h.pending d hc (by rw [hb]; rfl)
    rw [hp] at hphase
    cases hphase

/-! ## 5. Every line keeps it -/

/-- What a step and the one after it keep. -/
theorem Step.andThen_keeps {P : Register → Prop} {t : Step} {next : Register → Step}
    (ht : P t.register) (hnext : t.failure = none → P (next t.register).register) :
    P (t.andThen next).register := by
  unfold Step.andThen
  cases hf : t.failure with
  | some e => exact ht
  | none => exact hnext hf

/-- Two steps that did not fail. -/
theorem Step.andThen_of_ok {t : Step} {next : Register → Step}
    (hok : (t.andThen next).failure = none) :
    (t.andThen next).register = (next t.register).register ∧ (next t.register).failure = none := by
  unfold Step.andThen at hok ⊢
  cases hf : t.failure with
  | some e =>
    rw [hf] at hok
    cases hf.symm.trans hok
  | none =>
    rw [hf] at hok
    exact ⟨rfl, hok⟩

/-- Ending a draft clears it, or fails and changes nothing. -/
theorem close_cases (ρ : Register) (d : Draft) :
    ((ρ.close d).failure = none ∧ (ρ.close d).register.current = none ∧
        (ρ.close d).register.phase = .awaitingHeader) ∨
      ((ρ.close d).failure ≠ none ∧ (ρ.close d).register = ρ) := by
  unfold close
  cases d.build.checkTiming with
  | ok s => exact Or.inl ⟨rfl, rfl, rfl⟩
  | error e => exact Or.inr ⟨Option.some_ne_none e, rfl⟩

theorem Consistent.close (h : ρ.Consistent) (d : Draft) : (ρ.close d).register.Consistent := by
  rcases close_cases ρ d with ⟨_, hc, hp⟩ | ⟨_, hρ⟩
  · exact consistent_of_none hc (Or.inl hp)
  · rw [hρ]
    exact h

/-- A directive touches neither phase nor draft. -/
theorem take_frame (ρ : Register) (d : Directive) :
    (ρ.take d).register.phase = ρ.phase ∧ (ρ.take d).register.current = ρ.current := by
  unfold take
  split
  · exact ⟨rfl, rfl⟩
  · split
    · exact ⟨rfl, rfl⟩
    · split <;> exact ⟨rfl, rfl⟩

theorem Consistent.await (h : ρ.Consistent) (hc : ρ.current = none) (l : Line) :
    (ρ.await settings l).register.Consistent := by
  unfold Register.await
  split
  · exact h
  · split
    · cases Directive.read settings l with
      | error e => exact h
      | ok d =>
        obtain ⟨hphase, hcurrent⟩ := take_frame ρ d
        refine consistent_of_none (hcurrent.trans hc) ?_
        show (ρ.take d).register.phase = _ ∨ (ρ.take d).register.phase = _
        rw [hphase]
        exact h.phase_of_none hc
    · split
      · exact h
      · exact consistent_of_chords rfl rfl rfl

theorem Consistent.readChords (h : ρ.Consistent) (hc : ρ.current = some d)
    (hp : ρ.phase = .inChordBlock) (l : Line) :
    (ρ.readChords settings d l).register.Consistent := by
  have hlyrics := h.lyrics_eq_nil hc hp
  unfold Register.readChords
  by_cases hblank : l.isBlank = true
  · rw [if_pos hblank]
    cases d.blank with
    | none => exact consistent_of_chords rfl hp hlyrics
    | some number => exact h
  · rw [if_neg hblank]
    cases hb : d.blank with
    | some number =>
      dsimp only
      split
      · exact h
      · -- the draft is ended first, and only if that went well is the line read
        refine Step.andThen_keeps (h.close d) fun hok => ?_
        rcases close_cases ρ d with ⟨_, hnone, _⟩ | ⟨hfail, _⟩
        · exact (h.close d).await hnone l
        · exact absurd hok hfail
    | none =>
      dsimp only
      split
      · exact consistent_of_lyrics hc rfl hb
      · cases Measure.read l with
        | error e => exact h
        | ok m => exact consistent_of_chords rfl hp hlyrics

theorem Consistent.readLyrics (h : ρ.Consistent) (hc : ρ.current = some d)
    (hp : ρ.phase = .inLyricBlock) (l : Line) : (ρ.readLyrics d l).register.Consistent := by
  have hb := h.blank_eq_none hc hp
  unfold Register.readLyrics
  split
  · exact h.close d
  · cases Lyric.read l with
    | error e => exact h
    | ok y => exact consistent_of_lyrics rfl hp hb

/-- **Every line keeps phase and draft together**, whether it is read or fails. -/
theorem Consistent.read (h : ρ.Consistent) (l : Line) :
    (ρ.read settings l).register.Consistent := by
  unfold Register.read
  split
  · exact h
  · cases hc : ρ.current with
    | none => exact h.await hc l
    | some d =>
      dsimp only
      by_cases hp : ρ.phase = .inChordBlock
      · rw [if_pos hp]
        exact h.readChords hc hp l
      · rw [if_neg hp]
        exact h.readLyrics hc (h.phase_of_some hc hp) l

/-! ## 6. Every batch keeps it -/

theorem Consistent.readAll (h : ρ.Consistent) (ls : List Line) :
    (ρ.readAll settings ls).register.Consistent := by
  induction ls generalizing ρ with
  | nil => exact h
  | cons l ls ih => exact Step.andThen_keeps (h.read l) fun _ => ih (h.read l)

/-- The end of a draft leaves none, unless it fails. -/
theorem current_closeOpen (ρ : Register) (hok : ρ.closeOpen.failure = none) :
    ρ.closeOpen.register.current = none := by
  unfold closeOpen at hok ⊢
  cases hc : ρ.current with
  | none => exact hc
  | some d =>
    rw [hc] at hok
    rcases close_cases ρ d with ⟨_, hnone, _⟩ | ⟨hfail, _⟩
    · exact hnone
    · exact absurd hok hfail

theorem Consistent.closeOpen (h : ρ.Consistent) : ρ.closeOpen.register.Consistent := by
  unfold Register.closeOpen
  cases ρ.current with
  | none => exact h
  | some d => exact h.close d

/-- **Every batch keeps phase and draft together**, failed or not. -/
theorem Consistent.feed (h : ρ.Consistent) (ls : List Line) :
    (ρ.feed settings ls).register.Consistent := by
  have hread : (ρ.readAll settings ls).register.Consistent := h.readAll ls
  refine Step.andThen_keeps (Step.andThen_keeps hread fun _ => hread.closeOpen) fun hok => ?_
  obtain ⟨hended, hclosed⟩ := Step.andThen_of_ok hok
  refine consistent_of_none ?_ (Or.inr rfl)
  show ((ρ.readAll settings ls).andThen Register.closeOpen).register.current = none
  rw [hended]
  exact current_closeOpen _ hclosed

theorem Consistent.fed (h : ρ.Consistent) (batches : List (List Line)) :
    (ρ.fed settings batches).Consistent := by
  induction batches generalizing ρ with
  | nil => exact h
  | cons ls batches ih => exact ih (h.feed ls)

end Register

/-! ## 7. Sessions as registers -/

/-- An open block as a draft. -/
def Block.draft (b : Block) (sung : List Lyric) (blank : Option Int) : Draft :=
  ⟨b.name, b.line, b.measures, sung, blank⟩

theorem Block.build_draft (b : Block) (sung : List Lyric) (blank : Option Int) :
    (b.draft sung blank).build = b.close sung := rfl

namespace Stage

/-- The phase of a stage. -/
def phase : Stage → Phase
  | .awaiting => .awaitingHeader
  | .chords _ _ => .inChordBlock
  | .lyrics _ _ => .inLyricBlock
  | .done => .done

/-- The open section of a stage as a draft. -/
def draft? : Stage → Option Draft
  | .awaiting | .done => none
  | .chords block blank => some (block.draft [] blank)
  | .lyrics block sung => some (block.draft sung none)

end Stage

/-- **A session seen as a register.** -/
def Session.register (σ : Session) : Register :=
  ⟨σ.stage.phase, σ.preamble, σ.events, σ.stage.draft?, σ.seenSection⟩

/-- A step of a session seen as one of a register. -/
def Step.register (t : Step) : Register.Step := ⟨t.session.register, t.notices, t.failure⟩

theorem Step.register_andThen (t : Step) (next : Session → Step) (next' : Register → Register.Step)
    (h : t.failure = none → (next t.session).register = next' t.session.register) :
    (t.andThen next).register = t.register.andThen next' := by
  cases hf : t.failure with
  | some e => simp [andThen, Register.Step.andThen, register, hf]
  | none =>
    have hnext := h hf
    simp [andThen, Register.Step.andThen, register, hf, ← hnext]

namespace Session

variable {settings : Settings} {σ : Session}

theorem register_close (σ : Session) (d : Draft) :
    (σ.close d.build).register = σ.register.close d := by
  unfold close Register.close
  cases d.build.checkTiming with
  | error e => rfl
  | ok s => rfl

theorem register_take (σ : Session) (d : Directive) : (σ.take d).register = σ.register.take d := by
  unfold take Register.take
  cases hseen : σ.seenSection with
  | false => simp [register, Step.register, hseen]
  | true =>
    by_cases hkey : d.key = Topic.tempo.key
    · simp [register, Step.register, hseen, hkey]
    · cases hknown : d.known <;> simp [register, Step.register, hseen, hkey]

theorem register_await (σ : Session) (l : Line) :
    (σ.await settings l).register = σ.register.await settings l := by
  unfold await Register.await
  split
  · rfl
  · split
    · cases Directive.read settings l with
      | error e => rfl
      | ok d => exact register_take σ d
    · cases Section.isHeader settings l.text with
      | true => rfl
      | false => rfl

theorem register_readChords {block : Block} {blank : Option Int} (hs : σ.stage = .chords block blank)
    (l : Line) :
    (σ.readChords settings block blank l).register =
      σ.register.readChords settings (block.draft [] blank) l := by
  unfold readChords Register.readChords
  by_cases hb : l.isBlank = true
  · rw [if_pos hb, if_pos hb]
    cases blank with
    | none => simp [Step.register, register, hs, Stage.phase, Stage.draft?, Block.draft]
    | some number => simp [Step.register, register, Register.stay, hs, Block.draft]
  · rw [if_neg hb, if_neg hb]
    cases blank with
    | some number =>
      show (if !block.measures.isEmpty && startsNext settings l then _ else _ : Step).register =
        if !(!block.measures.isEmpty && startsNext settings l) then _ else _
      cases !block.measures.isEmpty && startsNext settings l with
      | false => rfl
      | true =>
        refine (Step.register_andThen (σ.close (block.close [])) (await settings · l)
          (Register.await settings · l) fun _ => register_await _ l).trans ?_
        rw [← block.build_draft [] (some number), register_close]
        rfl
    | none =>
      dsimp only [Block.draft]
      split
      · simp [Step.register, register, hs, Stage.phase, Stage.draft?, Block.draft]
      · cases Measure.read l with
        | error e => rfl
        | ok m => simp [Step.register, register, hs, Stage.phase, Stage.draft?, Block.draft]

theorem register_readLyrics {block : Block} {sung : List Lyric} (hs : σ.stage = .lyrics block sung)
    (l : Line) :
    (σ.readLyrics block sung l).register = σ.register.readLyrics (block.draft sung none) l := by
  unfold readLyrics Register.readLyrics
  split
  · rw [← block.build_draft sung none, register_close]
  · cases Lyric.read l with
    | error e => rfl
    | ok y => simp [Step.register, register, hs, Stage.phase, Stage.draft?, Block.draft]

theorem register_skips (σ : Session) (l : Line) :
    σ.register.skips settings l = σ.skips settings l := by
  unfold Register.skips skips register
  cases σ.stage <;> rfl

/-- **A session is read as its register is**, line by line. -/
theorem register_read (σ : Session) (l : Line) :
    (σ.read settings l).register = σ.register.read settings l := by
  have hphase : σ.register.phase = σ.stage.phase := rfl
  have hcurrent : σ.register.current = σ.stage.draft? := rfl
  unfold read Register.read
  rw [register_skips, hphase, hcurrent]
  split
  · rfl
  · cases hs : σ.stage with
    | awaiting => exact register_await σ l
    | done => exact register_await σ l
    | chords block blank => exact register_readChords hs l
    | lyrics block sung => exact register_readLyrics hs l

theorem register_readAll (σ : Session) (ls : List Line) :
    (σ.readAll settings ls).register = σ.register.readAll settings ls := by
  induction ls generalizing σ with
  | nil => rfl
  | cons l ls ih =>
    rw [readAll, Register.readAll, ← register_read]
    exact Step.register_andThen _ _ (Register.readAll settings · ls) fun _ => ih _

theorem register_closeOpen (σ : Session) : σ.closeOpen.register = σ.register.closeOpen := by
  have hcurrent : σ.register.current = σ.stage.draft? := rfl
  unfold closeOpen Register.closeOpen
  rw [hcurrent]
  cases σ.stage with
  | awaiting => rfl
  | done => rfl
  | chords block blank => exact register_close σ (block.draft [] blank)
  | lyrics block sung => exact register_close σ (block.draft sung none)

/-- With nothing open, the end of a batch is the same for both. -/
theorem register_finish (h : σ.register.current = none) : σ.finish.register = σ.register.finish := by
  unfold finish Register.finish
  rw [h]
  rfl

/-- **A batch that is fed to a session is fed to its register.** -/
theorem register_feed (σ : Session) (ls : List Line) :
    (σ.feed settings ls).register = σ.register.feed settings ls := by
  have hended : ((σ.readAll settings ls).andThen closeOpen).register =
      (σ.register.readAll settings ls).andThen Register.closeOpen := by
    rw [Step.register_andThen _ _ _ fun _ => register_closeOpen _, register_readAll]
  rw [feed, Register.feed, ← hended]
  refine Step.register_andThen _ _ _ fun hok => register_finish ?_
  show ((σ.readAll settings ls).andThen closeOpen).register.register.current = none
  have hok' : ((σ.readAll settings ls).andThen closeOpen).register.failure = none := hok
  rw [hended] at hok' ⊢
  obtain ⟨hregister, hclosed⟩ := Register.Step.andThen_of_ok hok'
  rw [hregister]
  exact Register.current_closeOpen _ hclosed

end Session

end SongSheet
