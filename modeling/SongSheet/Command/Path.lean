import SongSheet.Text.Pieces

/-!
# Paths

A path is shown and looked up in one form: no empty and no `.` steps, no slash at its end. Slashes
at its front are one, or two if there are exactly two.
-/

namespace SongSheet.Path

open Text (pieces)

/-- What a path starts from. -/
def rootOf : List Char → List Char
  | '/' :: '/' :: '/' :: _ => ['/']
  | '/' :: '/' :: _ => ['/', '/']
  | '/' :: _ => ['/']
  | _ => []

/-- The steps of a path, without those that go nowhere. -/
def steps (cs : List Char) : List (List Char) :=
  (pieces '/' cs).filter fun step => !step.isEmpty && step != ['.']

/-- The path in its one form; a path that goes nowhere is `.`. -/
def normalize (path : String) : String :=
  let cs := rootOf path.toList ++ ['/'].intercalate (steps path.toList)
  if cs.isEmpty then "." else String.ofList cs

end SongSheet.Path
