import SongSheet.Chord.Note
import SongSheet.Chord.Quality
import SongSheet.Text.Numeral

/-!
# Reading a chord

A chord is a root, a quality and, after a slash, a bass note: `F#m7/A`. A slash followed by a
number is an inversion; it changes neither root nor bass and is passed over, but the first one has
to be a number that can be read. The reading keeps the root and the bass as written and gives the
quality in Harte shorthand.
-/

namespace SongSheet

/-- A chord as it is read. -/
structure Chord where
  root : String
  /-- In Harte shorthand. -/
  quality : String
  bass : Option String := none
  deriving DecidableEq, Repr

namespace Chord

/-- Why a text is not read as a chord. -/
inductive ReadError where
  | invalidNote (note : String)
  | unknownQuality (quality : String)
  /-- A quality with no Harte shorthand. -/
  | noShorthand (quality : String)
  /-- An inversion too long to be read. -/
  | inversion (limit : NumeralLimit)
  deriving DecidableEq, Repr

/-- What is said about a text that is not read as a chord. -/
def ReadError.message : ReadError → String
  | .invalidNote note => s!"Invalid note {note}"
  | .unknownQuality quality => s!"Unknown quality: {quality}"
  | .noShorthand quality => s!"Unknown pychord quality: {quality}"
  | .inversion limit => limit.message

/-- The Harte shorthand of a quality. -/
def shorthand (quality : String) : Except ReadError String :=
  match Quality.harte? quality with
  | some harte => .ok harte
  | none => .error (.noShorthand quality)

/-- Inversions are numbered in ASCII digits only. -/
def startsWithDigit : List Char → Bool
  | c :: _ => c.isDigit
  | [] => false

/-- Takes out every slash with the digits after it; `inside` says that digits just read belong to
    one. -/
def dropInversions (inside : Bool) : List Char → List Char
  | [] => []
  | c :: rest =>
    if inside && c.isDigit then dropInversions true rest
    else if c = '/' && startsWithDigit rest then dropInversions true rest
    else c :: dropInversions false rest

/-- The digits of the first inversion. -/
def firstInversion? : List Char → Option (List Char)
  | [] => none
  | c :: rest =>
    if c = '/' && startsWithDigit rest then some (rest.takeWhile Char.isDigit)
    else firstInversion? rest

/-- The first inversion, if there is one, can be read. -/
def checkInversion (cs : List Char) : Except ReadError Unit :=
  match firstInversion? cs with
  | none => .ok ()
  | some digits =>
    match Text.readNumeral digits with
    | .ok _ => .ok ()
    | .error limit => .error (.inversion limit)

/-- What stands after the first slash, if there is one. -/
def afterSlash (cs : List Char) : Option (List Char) :=
  match cs.dropWhile (· ≠ '/') with
  | [] => none
  | _ :: bass => some bass

/-- Reads what follows the root, inversions taken out: bass first, then quality. -/
def readTail (root tail : List Char) : Except ReadError Chord :=
  let quality := String.ofList (tail.takeWhile (· ≠ '/'))
  match (afterSlash tail).filter fun bass => !Note.isNote bass with
  | some bass => .error (.invalidNote (String.ofList bass))
  | none =>
    if Quality.isName quality then
      match shorthand quality with
      | .ok harte => .ok ⟨String.ofList root, harte, (afterSlash tail).map String.ofList⟩
      | .error e => .error e
    else .error (.unknownQuality quality)

/-- Reads a chord: root first, then inversions, bass and quality. -/
def read (text : String) : Except ReadError Chord :=
  let cs := text.toList
  let root := cs.take (Note.rootLength cs)
  let rest := cs.drop (Note.rootLength cs)
  if Note.isNote root = false then .error (.invalidNote (String.ofList root))
  else
    match checkInversion rest with
    | .error e => .error e
    | .ok () => readTail root (dropInversions false rest)

/-- Reads a chord, or does not. -/
def read? (text : String) : Option Chord := (read text).toOption

end Chord

end SongSheet
