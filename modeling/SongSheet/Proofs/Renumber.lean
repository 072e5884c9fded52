import SongSheet.Compile
import SongSheet.Proofs.Line.Refusal

/-!
# Renumbering

Whatever is read from a line keeps its number: directives, chords, measures, lyrics and sections, the
diagnostics they are refused with, and the notices given on the way. To renumber is to change all these
numbers by one function and leave everything else as it is. The readers of single lines do not look at
numbers: what they make of a renumbered line is what they make of the line, renumbered
(`Measure.read_renumber`, `Lyric.read_renumber`, `Directive.read_renumber`).
-/

namespace SongSheet

/-! ## 1. What carries a line number -/

section Renumber

variable (f : Int → Int)

/-- A line under its new number. -/
def Line.renumber (l : Line) : Line := { l with number := f l.number }

/-- A chord on the line of the new number. -/
def ChordSymbol.renumber (c : ChordSymbol) : ChordSymbol := { c with line := f c.line }

/-- A measure on the line of the new number, with its chords. -/
def Measure.renumber (m : Measure) : Measure := ⟨m.chords.map (ChordSymbol.renumber f), f m.line⟩

/-- A lyric on the line of the new number. -/
def Lyric.renumber (y : Lyric) : Lyric := { y with line := f y.line }

/-- A directive on the line of the new number. -/
def Directive.renumber (d : Directive) : Directive := { d with line := f d.line }

/-- A section with every line renumbered. -/
def Section.renumber (s : Section) : Section :=
  ⟨s.name, s.measures.map (Measure.renumber f), s.lyrics.map (Lyric.renumber f), f s.line⟩

/-- An event with every line renumbered. -/
def Event.renumber : Event → Event
  | .part s => .part (s.renumber f)
  | .directive d => .directive (d.renumber f)

/-- A song with every line renumbered. -/
def Song.renumber (s : Song) : Song :=
  ⟨s.preamble.map (Directive.renumber f), s.events.map (Event.renumber f)⟩

/-- A diagnostic of the song as a whole has no line, and gets none. -/
def Diagnostic.renumber (d : Diagnostic) : Diagnostic := { d with line := d.line.map f }

/-- A failure that points at the new number of its line, if it points at one. -/
def Failure.renumber : Failure → Failure
  | .diagnostic d => .diagnostic (d.renumber f)
  | .numeral limit => .numeral limit
  | .unknownKey key => .unknownKey key

/-- A notice about the new number of its line, if it is about one. -/
def Notice.renumber : Notice → Notice
  | .unknownDirective key line => .unknownDirective key (f line)
  | .sectionRead name measures lyrics => .sectionRead name measures lyrics
  | .tempoChange tempo line => .tempoChange tempo (f line)
  | .lateDirective key line => .lateDirective key (f line)
  | .overridden key line => .overridden key (f line)
  | .compiled sections items => .compiled sections items
  | .refused d => .refused (d.renumber f)

/-- An outcome renumbered; `g` renumbers what was read. -/
def renumberOutcome {α : Type} (g : α → α) : Except Failure α → Except Failure α
  | .ok value => .ok (g value)
  | .error e => .error (e.renumber f)

/-- A report with every line renumbered, in what was said and in what it comes to. -/
def Report.renumber {α : Type} (g : α → α) (r : Report α) : Report α :=
  ⟨r.notices.map (Notice.renumber f), renumberOutcome f g r.result⟩

end Renumber

variable {f : Int → Int}

@[simp] theorem Line.number_renumber (l : Line) : (l.renumber f).number = f l.number := rfl

@[simp] theorem Line.text_renumber (l : Line) : (l.renumber f).text = l.text := rfl

@[simp] theorem Line.trimmed_renumber (l : Line) : (l.renumber f).trimmed = l.trimmed := rfl

@[simp] theorem Line.isBlank_renumber (l : Line) : (l.renumber f).isBlank = l.isBlank := rfl

@[simp] theorem Line.isComment_renumber (mark : String) (l : Line) :
    (l.renumber f).isComment mark = l.isComment mark := rfl

/-- A number that cannot be read is refused alike on every line. -/
theorem renumberOutcome_of_readNumber {α : Type} {g : α → α} {digits : List Char} {e : Failure}
    (h : readNumber digits = .error e) : renumberOutcome f g (.error e) = .error e := by
  obtain ⟨limit, rfl⟩ := (readNumber_eq_error h).1
  rfl

/-- What is made of a renumbered value is renumbered, if the two ways of making it agree. -/
theorem map_renumberOutcome {α β : Type} {g : α → α} {g' : β → β} {make make' : α → β}
    (h : ∀ a, make' (g a) = g' (make a)) (x : Except Failure α) :
    (renumberOutcome f g x).map make' = renumberOutcome f g' (x.map make) := by
  cases x with
  | error e => rfl
  | ok a => exact congrArg Except.ok (h a)

/-! ## 2. Chord lines and lyric lines -/

theorem ChordSymbol.read_renumber (f : Int → Int) (token : String) (line : Int) :
    ChordSymbol.read token (f line) =
      renumberOutcome f (ChordSymbol.renumber f) (ChordSymbol.read token line) := by
  unfold ChordSymbol.read
  dsimp only
  split
  · rfl
  · split
    · rfl
    · split <;> rfl

theorem Measure.readSymbols_renumber (f : Int → Int) (line : Int) (ts : List String) :
    readSymbols (f line) ts =
      renumberOutcome f (List.map (ChordSymbol.renumber f)) (readSymbols line ts) := by
  induction ts with
  | nil => rfl
  | cons t ts ih =>
    unfold readSymbols
    rw [ChordSymbol.read_renumber f, ih]
    cases ChordSymbol.read t line with
    | error e => rfl
    | ok c => cases readSymbols line ts <;> rfl

theorem Measure.read_renumber (l : Line) :
    Measure.read (l.renumber f) = renumberOutcome f (Measure.renumber f) (Measure.read l) := by
  unfold Measure.read
  simp only [Line.text_renumber, Line.number_renumber, Line.trimmed_renumber, readSymbols_renumber]
  split
  · rfl
  · split
    · rfl
    · cases readSymbols l.number (tokens l.text) <;> rfl

theorem Lyric.read_renumber (l : Line) :
    Lyric.read (l.renumber f) = renumberOutcome f (Lyric.renumber f) (Lyric.read l) := by
  unfold Lyric.read
  simp only [Line.number_renumber, Line.trimmed_renumber]
  split
  · rfl
  · rename_i text digits _
    cases hspan : readNumber digits with
    | error e => exact (renumberOutcome_of_readNumber hspan).symm
    | ok span =>
      dsimp only
      split <;> rfl

/-! ## 3. Directive lines -/

namespace Directive

theorem readTempo_renumber (f : Int → Int) (settings : Settings) (value : String) (line : Int) :
    readTempo settings value (f line) = renumberOutcome f id (readTempo settings value line) := by
  unfold readTempo
  dsimp only
  split
  · rfl
  · split
    · rfl
    · cases hbpm : readNumber (Text.dropFinalNewline value.toList) with
      | error e => exact (renumberOutcome_of_readNumber hbpm).symm
      | ok bpm =>
        dsimp only
        split <;> rfl

theorem readKey_renumber (f : Int → Int) (value : String) (line : Int) :
    readKey value (f line) = renumberOutcome f id (readKey value line) := by
  unfold readKey
  dsimp only
  split
  · split <;> rfl
  · split
    · split <;> rfl
    · rfl
  · rfl

theorem readMeter_renumber (f : Int → Int) (value : String) (line : Int) :
    readMeter value (f line) = renumberOutcome f id (readMeter value line) := by
  unfold readMeter
  dsimp only
  split
  · rfl
  · rename_i beatDigits unitDigits _
    cases hbeats : readNumber beatDigits with
    | error e => exact (renumberOutcome_of_readNumber hbeats).symm
    | ok beats =>
      cases hunit : readNumber unitDigits with
      | error e => exact (renumberOutcome_of_readNumber hunit).symm
      | ok unit =>
        dsimp only
        split <;> rfl

theorem readValue_renumber (f : Int → Int) (settings : Settings) (topic : Topic) (value : String)
    (line : Int) :
    readValue settings topic value (f line) =
      renumberOutcome f id (readValue settings topic value line) := by
  unfold readValue
  cases topic with
  | tempo =>
    dsimp only
    rw [readTempo_renumber f settings value line]
    refine map_renumberOutcome (fun bpm => ?_) _
    rfl
  | tonality =>
    dsimp only
    rw [readKey_renumber f value line]
    refine map_renumberOutcome (fun key => ?_) _
    rfl
  | meter =>
    dsimp only
    rw [readMeter_renumber f value line]
    refine map_renumberOutcome (fun meter => ?_) _
    rfl

theorem read_renumber (settings : Settings) (l : Line) :
    Directive.read settings (l.renumber f) =
      renumberOutcome f (Directive.renumber f) (Directive.read settings l) := by
  unfold Directive.read
  simp only [Line.number_renumber, Line.trimmed_renumber]
  split
  · rfl
  · split
    · rfl
    · rw [readValue_renumber f]
      refine map_renumberOutcome (fun v => ?_) _
      rfl

end Directive

/-! ## 4. Sections -/

namespace Section

@[simp] theorem name_renumber (s : Section) : (s.renumber f).name = s.name := rfl

@[simp] theorem length_measures_renumber (s : Section) :
    (s.renumber f).measures.length = s.measures.length :=
  List.length_map _

@[simp] theorem claimed_renumber (s : Section) : (s.renumber f).claimed = s.claimed := by
  unfold claimed renumber
  rw [List.map_map]
  rfl

theorem checkTiming_renumber (s : Section) :
    (s.renumber f).checkTiming = renumberOutcome f (Section.renumber f) s.checkTiming := by
  unfold checkTiming
  simp only [name_renumber, length_measures_renumber, claimed_renumber]
  cases hs : s.lyrics with
  | nil =>
    have hnil : (s.renumber f).lyrics = [] := by rw [renumber, hs]; rfl
    rw [hnil]
    rfl
  | cons y ys =>
    have hcons : (s.renumber f).lyrics = y.renumber f :: ys.map (Lyric.renumber f) := by
      rw [renumber, hs]
      rfl
    rw [hcons]
    dsimp only
    split
    · rfl
    · split <;> rfl

theorem notice_renumber (s : Section) : (s.renumber f).notice = s.notice.renumber f := by
  simp [notice, renumber, Notice.renumber]

end Section

theorem Directive.notices_renumber (d : Directive) :
    (d.renumber f).notices = d.notices.map (Notice.renumber f) := by
  unfold Directive.notices
  cases hk : d.known <;> simp [Directive.renumber, Notice.renumber, hk]

end SongSheet
