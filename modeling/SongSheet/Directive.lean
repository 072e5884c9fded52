import SongSheet.Diagnostic
import SongSheet.Line
import SongSheet.Settings
import SongSheet.Text.Case
import SongSheet.Text.Word

/-!
# Directives

A directive line is `@key value`. Three keys are known, and their values are checked and brought
into one form: a tempo within the settings' bounds, the key a song is in, and a time signature. Any
other key is kept with its value as written.
-/

namespace SongSheet

open Text (isBlank isWord isDigit isNumeral trimStart dropFinalNewline decimal)

/-- What a directive says. -/
inductive Value where
  | number (n : Int)
  | text (s : String)
  | meter (beats unit : Int)
  /-- Anything else, put there by hand; no line reads so. -/
  | given (json : Json)
  deriving DecidableEq, Repr

namespace Value

/-- A value as JSON; a time signature is an array of its two numbers. -/
def toJson : Value → Json
  | .number n => .number n
  | .text s => .text s
  | .meter beats unit => .array [.number beats, .number unit]
  | .given json => json

end Value

/-- What a known directive is about. -/
inductive Topic where
  | tempo
  | tonality
  | meter
  deriving DecidableEq, Repr

namespace Topic

/-- The key a topic is written with. -/
def key : Topic → String
  | .tempo => "bpm"
  | .tonality => "original"
  | .meter => "time"

/-- The topic a key names, if it names one. -/
def ofKey? (key : String) : Option Topic :=
  [Topic.tempo, .tonality, .meter].find? (·.key == key)

theorem ofKey?_key (t : Topic) : ofKey? t.key = some t := by
  cases t <;> rfl

theorem key_of_ofKey? {key : String} {t : Topic} (h : ofKey? key = some t) : t.key = key := by
  have hk := List.find?_some h
  simpa using hk

end Topic

/-- A directive as it is read, under its key in lower case. -/
structure Directive where
  key : String
  value : Value
  line : Int
  known : Bool := true
  deriving DecidableEq, Repr

namespace Directive

/-! ## 1. The values of known keys -/

/-- A known key with a value it cannot have. -/
def refuse {α : Type} (topic : Topic) (value expected : String) (line : Int) : Except Failure α :=
  Failure.raise (.invalidValue topic.key value expected) line

/-- Reads a tempo: digits only, within the bounds. The bounds are part of what is said when it is
    refused, so they have to be writable. -/
def readTempo (settings : Settings) (value : String) (line : Int) : Except Failure Int :=
  let expected :=
    s!"an integer between {decimal settings.minBpm} and {decimal settings.maxBpm}"
  let digits := dropFinalNewline value.toList
  if !(Text.isWritable settings.minBpm && Text.isWritable settings.maxBpm) then
    .error (.numeral .writing)
  else if !isNumeral digits then refuse .tempo value expected line
  else
    match readNumber digits with
    | .error e => .error e
    | .ok bpm =>
      if settings.minBpm ≤ bpm ∧ bpm ≤ settings.maxBpm then .ok bpm
      else refuse .tempo value expected line

/-- The letter of a key, small or capital, as a capital. -/
def keyLetter? (c : Char) : Option Char :=
  if "ABCDEFGabcdefg".toList.contains c then some c.toUpper else none

/-- Reads the key a song is in: a letter from A to G with at most one accidental. -/
def readKey (value : String) (line : Int) : Except Failure String :=
  let refused := refuse .tonality value "a note A-G with optional # or b" line
  match dropFinalNewline value.toList with
  | [letter] =>
    match keyLetter? letter with
    | some capital => .ok (String.ofList [capital])
    | none => refused
  | [letter, accidental] =>
    match keyLetter? letter with
    | some capital =>
      if accidental = '#' || accidental = 'b' then .ok (String.ofList [capital, accidental])
      else refused
    | none => refused
  | _ => refused

/-- The two numerals of a time signature: digits, a slash with blanks around it, digits. -/
def meterParts? (cs : List Char) : Option (List Char × List Char) :=
  let beats := cs.takeWhile isDigit
  match trimStart (cs.dropWhile isDigit) with
  | '/' :: rest =>
    let unit := trimStart rest
    if !beats.isEmpty && isNumeral unit then some (beats, unit) else none
  | _ => none

/-- Reads a time signature: two numbers, neither zero. -/
def readMeter (value : String) (line : Int) : Except Failure (Int × Int) :=
  let refused := refuse .meter value "N/M with two positive integers" line
  match meterParts? (dropFinalNewline value.toList) with
  | none => refused
  | some (beatDigits, unitDigits) =>
    match readNumber beatDigits with
    | .error e => .error e
    | .ok beats =>
      match readNumber unitDigits with
      | .error e => .error e
      | .ok unit => if 1 ≤ beats ∧ 1 ≤ unit then .ok (beats, unit) else refused

/-- Reads the value of a known key. -/
def readValue (settings : Settings) (topic : Topic) (value : String) (line : Int) :
    Except Failure Value :=
  match topic with
  | .tempo => (readTempo settings value line).map .number
  | .tonality => (readKey value line).map .text
  | .meter => (readMeter value line).map fun m => .meter m.1 m.2

/-! ## 2. Lines -/

/-- The first thing on the line is an at sign. -/
def isDirectiveLine (text : String) : Bool :=
  (trimStart text.toList).head? = some '@'

/-- A character of a key after its first. -/
def isKeyChar (c : Char) : Bool := isWord c || c = '-'

/-- Key and value of a trimmed directive line, as written. The key starts with an ASCII letter and
    ends at a blank or with the line; the value holds no line end. -/
def parts? (cs : List Char) : Option (List Char × List Char) :=
  match cs with
  | '@' :: first :: rest =>
    let after := rest.dropWhile isKeyChar
    if first.isAlpha && after.head?.all isBlank && !(trimStart after).contains '\n' then
      some (first :: rest.takeWhile isKeyChar, trimStart after)
    else none
  | _ => none

/-- Reads a directive line. -/
def read (settings : Settings) (l : Line) : Except Failure Directive :=
  match parts? l.trimmed.toList with
  | none => Failure.raise (.malformedDirective l.trimmed) l.number
  | some (keyChars, valueChars) =>
    let key := Text.lower (String.ofList keyChars)
    let value := String.ofList valueChars
    match Topic.ofKey? key with
    | none => .ok ⟨key, .text value, l.number, false⟩
    | some topic => (readValue settings topic value l.number).map fun v => ⟨key, v, l.number, true⟩

end Directive

end SongSheet
