import SongSheet.Report
import SongSheet.Song

/-!
# Reading sessions

A session reads a song line by line. It waits for a header or a directive, reads the chord block
of a section, then perhaps its lyrics, and waits again:

* a header line opens a section; each line of its chord block is one measure;
* a `--` line ends the chords and starts the lyrics;
* a blank line ends the lyrics, and with them the section. After chords it only may: what the next
  line is decides whether the section was over or the blank line stands inside its chords;
* a comment is skipped wherever it stands, unless it looks like a lyric among lyrics.

A session is fed batch after batch. The end of a batch ends the open section. When a line fails,
the session stays where it was, and can be fed again.
-/

namespace SongSheet

/-! ## 1. Where a session stands -/

/-- The header and the chords of an open section. -/
structure Block where
  name : String
  /-- The line of the header. -/
  line : Int
  measures : List Measure := []
  deriving DecidableEq, Repr

/-- The section an open block comes to with these lyrics. -/
def Block.close (b : Block) (sung : List Lyric) : Section := ⟨b.name, b.measures, sung, b.line⟩

/-- Where a session stands, with the open section as far as it is read. -/
inductive Stage where
  | awaiting
  /-- In a chord block; `blank` is the first blank line since its last measure. -/
  | chords (block : Block) (blank : Option Int)
  | lyrics (block : Block) (sung : List Lyric)
  /-- A batch has come to its end. -/
  | done
  deriving DecidableEq, Repr

namespace Stage

/-- The name of a stage. -/
def name : Stage → String
  | .awaiting => "AwaitingHeader"
  | .chords _ _ => "InChordBlock"
  | .lyrics _ _ => "InLyricBlock"
  | .done => "Done"

/-- The open section as far as it is read. -/
def open? : Stage → Option Section
  | .awaiting | .done => none
  | .chords block _ => some (block.close [])
  | .lyrics block sung => some (block.close sung)

/-- The blank line whose meaning the next line decides. -/
def pendingBlank? : Stage → Option Int
  | .chords _ blank => blank
  | _ => none

/-- The session stands among the lyrics of a section. -/
def inLyrics : Stage → Bool
  | .lyrics _ _ => true
  | _ => false

end Stage

/-- What has been read so far, and where the reading stands. -/
structure Session where
  stage : Stage := .awaiting
  preamble : List Directive := []
  events : List Event := []
  /-- A header has been read. -/
  seenSection : Bool := false
  deriving DecidableEq, Repr

/-- The session a line or a batch leads to, what was said, and why it stopped, if it did. -/
structure Step where
  session : Session
  notices : List Notice := []
  failure : Option Failure := none
  deriving DecidableEq, Repr

namespace Step

/-- Goes on from the session reached, unless the step failed. -/
def andThen (r : Step) (next : Session → Step) : Step :=
  match r.failure with
  | some _ => r
  | none =>
    let r' := next r.session
    ⟨r'.session, r.notices ++ r'.notices, r'.failure⟩

theorem andThen_of_failure {r : Step} {e : Failure} (h : r.failure = some e)
    (next : Session → Step) : r.andThen next = r := by
  simp [andThen, h]

theorem andThen_of_none {r : Step} (h : r.failure = none) (next : Session → Step) :
    r.andThen next = ⟨(next r.session).session, r.notices ++ (next r.session).notices,
      (next r.session).failure⟩ := by
  simp [andThen, h]

theorem andThen_assoc (r : Step) (f g : Session → Step) :
    (r.andThen f).andThen g = r.andThen fun σ => (f σ).andThen g := by
  cases h : r.failure with
  | some e => simp [andThen_of_failure h]
  | none => cases h' : (f r.session).failure <;> simp [andThen, h, h']

/-- How a step goes on matters only if it did not fail. -/
theorem andThen_congr {r : Step} {f g : Session → Step}
    (h : r.failure = none → f r.session = g r.session) : r.andThen f = r.andThen g := by
  cases hf : r.failure with
  | some e => rw [andThen_of_failure hf, andThen_of_failure hf]
  | none => rw [andThen_of_none hf, andThen_of_none hf, h hf]

end Step

namespace Session

/-- The session stays as it is. -/
def stay (σ : Session) : Step := { session := σ }

/-- The session stays as it is, because of a failure. -/
def fail (σ : Session) (e : Failure) : Step := { session := σ, failure := some e }

/-- The session stays as it is, because of a problem on a line. -/
def refuse (σ : Session) (p : Problem) (line : Int) : Step := σ.fail (.diagnostic (p.on line))

/-! ## 2. One line -/

/-- Puts a complete section among the events, if its timing is right. -/
def close (σ : Session) (s : Section) : Step :=
  match s.checkTiming with
  | .error e => σ.fail e
  | .ok s =>
    { session := { σ with stage := .awaiting, events := σ.events ++ [.part s] }
      notices := [s.notice] }

/-- Puts a directive where it counts: before the first section all of them, after it only changes
    of tempo. -/
def take (σ : Session) (d : Directive) : Step :=
  if !σ.seenSection then
    { session := { σ with preamble := σ.preamble ++ [d] }, notices := d.notices }
  else if d.key = Topic.tempo.key then
    { session := { σ with events := σ.events ++ [.directive d] }
      notices := d.notices ++ [.tempoChange d.value d.line] }
  else if d.known then
    { session := σ, notices := d.notices ++ [.lateDirective d.key d.line] }
  else { session := σ, notices := d.notices }

/-- A line outside any section. -/
def await (settings : Settings) (σ : Session) (l : Line) : Step :=
  if l.isBlank then σ.stay
  else if Directive.isDirectiveLine l.text then
    match Directive.read settings l with
    | .error e => σ.fail e
    | .ok d => σ.take d
  else if Section.isHeader settings l.text then
    { session :=
        { σ with stage := .chords { name := l.trimmed, line := l.number } none, seenSection := true } }
  else σ.refuse (.unexpectedLine l.trimmed σ.seenSection) l.number

/-- The line can only start something new. -/
def startsNext (settings : Settings) (l : Line) : Bool :=
  Directive.isDirectiveLine l.text || Section.isHeader settings l.text

/-- A line in a chord block. -/
def readChords (settings : Settings) (σ : Session) (block : Block) (blank : Option Int)
    (l : Line) : Step :=
  if l.isBlank then { session := { σ with stage := .chords block (blank.or (some l.number)) } }
  else
    match blank with
    | some number =>
      if !block.measures.isEmpty && startsNext settings l then
        (σ.close (block.close [])).andThen fun σ => σ.await settings l
      else σ.refuse (.emptyLine block.name) number
    | none =>
      if l.trimmed = Section.lyricMark then { session := { σ with stage := .lyrics block [] } }
      else
        match Measure.read l with
        | .error e => σ.fail e
        | .ok m =>
          let block := { block with measures := block.measures ++ [m] }
          { session := { σ with stage := .chords block none } }

/-- A line among lyrics. -/
def readLyrics (σ : Session) (block : Block) (sung : List Lyric) (l : Line) : Step :=
  if l.isBlank then σ.close (block.close sung)
  else
    match Lyric.read l with
    | .error e => σ.fail e
    | .ok lyric => { session := { σ with stage := .lyrics block (sung ++ [lyric]) } }

/-- The line is passed over as a comment. Among lyrics a line that ends in a span never is. -/
def skips (settings : Settings) (σ : Session) (l : Line) : Bool :=
  l.isComment settings.commentMark && !(σ.stage.inLyrics && Lyric.hasSpan l.trimmed)

/-- Reads one line, by where the session stands. -/
def read (settings : Settings) (σ : Session) (l : Line) : Step :=
  if σ.skips settings l then σ.stay
  else
    match σ.stage with
    | .awaiting | .done => σ.await settings l
    | .chords block blank => σ.readChords settings block blank l
    | .lyrics block sung => σ.readLyrics block sung l

/-! ## 3. A batch -/

/-- Reads lines up to the first that fails. -/
def readAll (settings : Settings) (σ : Session) : List Line → Step
  | [] => σ.stay
  | l :: ls => (σ.read settings l).andThen fun σ => σ.readAll settings ls

@[simp] theorem stay_andThen (σ : Session) (next : Session → Step) :
    σ.stay.andThen next = next σ := by
  simp [stay, Step.andThen]

/-- Lines read one after the other are read as one list, and the other way round. -/
theorem readAll_append (settings : Settings) (σ : Session) (ls ls' : List Line) :
    σ.readAll settings (ls ++ ls') =
      (σ.readAll settings ls).andThen fun σ => σ.readAll settings ls' := by
  induction ls generalizing σ with
  | nil => simp [readAll]
  | cons l ls ih => simp [readAll, ih, Step.andThen_assoc]

/-- Ends the open section, if there is one. -/
def closeOpen (σ : Session) : Step :=
  match σ.stage.open? with
  | none => σ.stay
  | some s => σ.close s

/-- Marks the end of a batch. A song needs a section. -/
def finish (σ : Session) : Step :=
  { session := { σ with stage := .done }
    failure := if σ.seenSection then none else some (.diagnostic Problem.noSections.overall) }

/-- The song read so far. -/
def song (σ : Session) : Song := ⟨σ.preamble, σ.events⟩

/-- Reads a batch of lines to its end. -/
def feed (settings : Settings) (σ : Session) (ls : List Line) : Step :=
  ((σ.readAll settings ls).andThen closeOpen).andThen finish

end Session

/-! ## 4. Songs from lines -/

/-- The song a step has come to, or why it stopped. -/
def Step.report (r : Step) : Report Song :=
  ⟨r.notices, match r.failure with
    | some e => .error e
    | none => .ok r.session.song⟩

/-- Reads lines as one song. -/
def Song.read (settings : Settings) (ls : List Line) : Report Song :=
  (Session.feed settings {} ls).report

end SongSheet
