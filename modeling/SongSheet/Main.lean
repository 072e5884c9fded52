import SongSheet.Command

/-!
# The command line program

Reads the input file, carries out the order, and prints or writes what it comes to.
-/

namespace SongSheet.Command

/-- The text of a file, if it can be read. -/
def readFile? (path : String) : IO (Option String) := do
  try
    return some (Line.withLineFeeds (← IO.FS.readFile path))
  catch _ => return none

/-- Writes and prints what a run leaves behind, and gives its exit code. -/
def Effect.show (e : Effect) : IO UInt32 := do
  match e.written with
  | none => pure ()
  | some (path, text) => IO.FS.writeFile path text
  IO.print e.stdout
  IO.eprint e.stderr
  return e.exit.toUInt32

/-- Carries out an order on the files of the system. -/
def Order.execute (o : Order) : IO UInt32 := do
  match ← readFile? o.inputPath with
  | none => o.missingInput.show
  | some text =>
    match o.run text with
    | .ok effect => effect.show
    | .error e => (Fault.failure e).effect.show

end SongSheet.Command

open SongSheet.Command in
/-- Runs the command. -/
def main (args : List String) : IO UInt32 := do
  match request args with
  | .error e => (usageEffect e).show
  | .ok .help => helpEffect.show
  | .ok (.compile order) => order.execute
