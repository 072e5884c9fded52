import SongSheet.Json.Basic
import SongSheet.Text.Numeral
import SongSheet.Text.Quoted

/-!
# Diagnostics

A song that cannot be compiled is refused with one diagnostic: a code out of a closed list, a
message, and the line it points at unless it is about the whole song. A `Problem` is what may be
wrong with a song; its code and its wording are fixed here, and nowhere else.
-/

namespace SongSheet

open Text (decimal quoted)

/-! ## 1. Codes -/

/-- What kind of problem a diagnostic is about. -/
inductive Code where
  | invalidDirectiveValue
  | unexpectedToken
  | invalidChordNotation
  | emptyMeasureLine
  | missingLyricSpan
  | lyricTimingMismatch
  | noSections
  deriving DecidableEq, Repr

namespace Code

/-- Every code there is. -/
def all : List Code :=
  [.invalidDirectiveValue, .unexpectedToken, .invalidChordNotation, .emptyMeasureLine,
    .missingLyricSpan, .lyricTimingMismatch, .noSections]

/-- The name a code goes by. -/
def name : Code → String
  | .invalidDirectiveValue => "InvalidDirectiveValue"
  | .unexpectedToken => "UnexpectedToken"
  | .invalidChordNotation => "InvalidChordNotation"
  | .emptyMeasureLine => "EmptyMeasureLine"
  | .missingLyricSpan => "MissingLyricSpan"
  | .lyricTimingMismatch => "LyricTimingMismatch"
  | .noSections => "NoSections"

/-- The code of a name, if there is one. -/
def ofName? (name : String) : Option Code := all.find? (·.name == name)

/-- What is said of a name that no code has. -/
def unknownName (name : String) : String := s!"{quoted name} is not a valid ErrorCode"

theorem ofName?_name (code : Code) : ofName? code.name = some code := by
  cases code <;> rfl

end Code

/-! ## 2. Diagnostics -/

/-- What is said about a song that is refused. -/
structure Diagnostic where
  code : Code
  message : String
  /-- The line pointed at, or `none` for the song as a whole. -/
  line : Option Int := none
  deriving DecidableEq, Repr

namespace Diagnostic

/-- The diagnostic for a reader. -/
def render (d : Diagnostic) : String :=
  match d.line with
  | none => s!"{d.code.name}: {d.message}"
  | some line => s!"{d.code.name} (line {decimal line}): {d.message}"

/-- The diagnostic with its fields spelt out. -/
def inspect (d : Diagnostic) : String :=
  let line := match d.line with
    | none => "None"
    | some line => decimal line
  s!"SongCodeError(code={quoted d.code.name}, message={quoted d.message}, line={line})"

/-- A diagnostic without a line has no such member. -/
def toJson (d : Diagnostic) : Json :=
  .object ([("code", .text d.code.name), ("message", .text d.message)] ++
    d.line.toList.map fun line => ("line", .number line))

end Diagnostic

/-! ## 3. What may be wrong with a song -/

/-- What may be wrong with a song, with what there is to say about it. -/
inductive Problem where
  | malformedDirective (text : String)
  | invalidValue (key value expected : String)
  /-- A line that is neither a header nor, before the first section, a directive. -/
  | unexpectedLine (text : String) (afterSection : Bool)
  | chordRoot (token : String)
  | chordNotation (token : String)
  | noChords (text : String)
  | emptyChord (text : String)
  | emptyLine (sectionName : String)
  | noSpan (text : String)
  | zeroSpan (digits : String)
  | timing (sectionName : String) (claimed measures : Int)
  | noSections
  deriving DecidableEq, Repr

namespace Problem

/-- The code a problem is reported under. -/
def code : Problem → Code
  | .malformedDirective _ => .unexpectedToken
  | .invalidValue _ _ _ => .invalidDirectiveValue
  | .unexpectedLine _ _ => .unexpectedToken
  | .chordRoot _ => .invalidChordNotation
  | .chordNotation _ => .invalidChordNotation
  | .noChords _ => .emptyMeasureLine
  | .emptyChord _ => .emptyMeasureLine
  | .emptyLine _ => .emptyMeasureLine
  | .noSpan _ => .missingLyricSpan
  | .zeroSpan _ => .missingLyricSpan
  | .timing _ _ _ => .lyricTimingMismatch
  | .noSections => .noSections

/-- The wording of a problem. -/
def message : Problem → String
  | .malformedDirective text => s!"Malformed directive: '{text}' (expected @key value)"
  | .invalidValue key value expected =>
    let shown := if value.isEmpty then "<missing>" else value
    s!"Invalid value for @{key}: '{shown}' (expected {expected})"
  | .unexpectedLine text afterSection =>
    let expected := if afterSection then "a section header" else "a directive or section header"
    s!"Unexpected line '{text}' (expected {expected})"
  | .chordRoot token => s!"Invalid chord '{token}': chord root must be a letter A-G"
  | .chordNotation token => s!"Invalid chord '{token}': unrecognized chord notation"
  | .noChords text => s!"Chord line contains no chords: '{text}'"
  | .emptyChord text => s!"Empty chord between ';' separators: '{text}'"
  | .emptyLine sectionName => s!"Empty line inside the chord block of section '{sectionName}'"
  | .noSpan text => s!"Lyric line must end with _<measures>: '{text}'"
  | .zeroSpan digits => s!"Lyric measure span must be a positive integer, got _{digits}"
  | .timing sectionName claimed measures =>
    s!"Section '{sectionName}': claimed {decimal claimed} measures across lyrics "
      ++ s!"but section has {decimal measures} measures"
  | .noSections => "No sections found in song"

/-- The problem as a diagnostic that points at `line`. -/
def on (p : Problem) (line : Int) : Diagnostic := ⟨p.code, p.message, some line⟩

/-- The problem as a diagnostic of the whole song. -/
def overall (p : Problem) : Diagnostic := ⟨p.code, p.message, none⟩

end Problem

/-! ## 4. Failures -/

/-- Why nothing was compiled. Only the first kind is about the song's notation. -/
inductive Failure where
  | diagnostic (d : Diagnostic)
  | numeral (limit : NumeralLimit)
  /-- A directive counted as known under a key that names no metadata. -/
  | unknownKey (key : String)
  deriving DecidableEq, Repr

namespace Failure

/-- The wording of a failure. -/
def message : Failure → String
  | .diagnostic d => d.render
  | .numeral limit => limit.message
  | .unknownKey key => quoted key

/-- Fails with a problem on a line. -/
def raise {α : Type} (p : Problem) (line : Int) : Except Failure α :=
  .error (.diagnostic (p.on line))

end Failure

/-- Reads a numeral; too long a one is a failure. -/
def readNumber (ds : List Char) : Except Failure Int :=
  match Text.readNumeral ds with
  | .ok n => .ok n
  | .error limit => .error (.numeral limit)

end SongSheet
