import SongSheet.Command.Arguments
import SongSheet.Command.Folder
import SongSheet.Compile

/-!
# The command

The command compiles one file and prints the document, or writes it to another file. An `Order`
and the text of its input file give an `Effect`; `Command.run` carries it out in a `Folder` and
gives the folder as it is afterwards.
-/

namespace SongSheet.Command

/-! ## 1. Texts -/

/-- The name the command goes by. -/
def programName : String := "convert_songcode.py"

/-- How the command is called, in one line. -/
def usage : String :=
  s!"usage: {programName} [-h] [-o OUTPUT] [--pretty] [--lyrics] [-v] input\n"

/-- What help is given. -/
def helpText : String :=
  usage ++ "\n" ++
  "Convert a SongCode file to Livenotes JSON\n" ++
  "\n" ++
  "positional arguments:\n" ++
  "  input                 Input SongCode file\n" ++
  "\n" ++
  "options:\n" ++
  "  -h, --help            show this help message and exit\n" ++
  "  -o OUTPUT, --output OUTPUT\n" ++
  "                        Output JSON file (default: stdout)\n" ++
  "  --pretty              Pretty-print JSON output\n" ++
  "  --lyrics              Include lyric lines per section\n" ++
  "  -v, --verbose         Log parser progress\n" ++
  "\n" ++
  "Examples:\n" ++
  s!"  {programName} testdata/road_song.txt --pretty\n" ++
  s!"  {programName} testdata/tempo_changes.txt -o song.json\n" ++
  "        \n"

/-! ## 2. Effects -/

/-- What a run leaves behind. -/
structure Effect where
  exit : Nat
  stdout : String := ""
  stderr : String := ""
  /-- The file written, and its text. -/
  written : Option (String × String) := none
  deriving DecidableEq, Repr

/-- Arguments that make no request are answered with the usage and what is wrong with them. -/
def usageEffect (e : UsageError) : Effect :=
  { exit := 2, stderr := usage ++ s!"{programName}: error: {e.message}\n" }

/-- A request for help is answered with it. -/
def helpEffect : Effect := { exit := 0, stdout := helpText }

/-- A run that breaks off says why and does nothing else. -/
def Fault.effect (fault : Fault) : Effect := { exit := 1, stderr := fault.message ++ "\n" }

/-- The lines a run logs: warnings, or everything. -/
def logText (verbose : Bool) (notices : List Notice) : String :=
  let shown := notices.filter fun n => verbose || n.level == .warning
  String.join (shown.map fun n => n.render ++ "\n")

namespace Order

/-- The settings an order compiles with. -/
def settings (o : Order) : Settings := { includeLyrics := o.lyrics }

/-- The layout an order asks for. -/
def indent (o : Order) : Json.Indent := if o.pretty then some 2 else none

/-- The input file in its one form. -/
def inputPath (o : Order) : String := Path.normalize o.input

/-- Where there is no input file, the run says so and does nothing else. -/
def missingInput (o : Order) : Effect :=
  { exit := 1, stderr := s!"Error: Input file not found: {o.inputPath}\n" }

/-- What compiling the text of the input file comes to. -/
def run (o : Order) (text : String) : Except Failure Effect :=
  let r := attempt o.settings text
  let log := logText o.verbose r.notices
  match r.result with
  | .error e => .error e
  | .ok a =>
    if !a.succeeded then
      .ok { exit := 1, stderr := log ++ (a.error?.getD .null).write .ascii none ++ "\n" }
    else
      let json := (a.data?.getD .null).write .unicode o.indent ++ "\n"
      match o.output with
      | none => .ok { exit := 0, stdout := json, stderr := log }
      | some path =>
        let path := Path.normalize path
        .ok { exit := 0, stderr := log ++ s!"Wrote {path}\n", written := some (path, json) }

end Order

/-! ## 3. In a folder -/

/-- What a run comes to, and the folder after it. -/
structure Outcome where
  effect : Effect
  folder : Folder
  deriving DecidableEq, Repr

/-- Writes what an effect says is written. -/
def Effect.perform (e : Effect) (folder : Folder) : Except Fault Outcome :=
  match e.written with
  | none => .ok ⟨e, folder⟩
  | some (path, text) =>
    match folder.write path text with
    | .ok folder' => .ok ⟨e, folder'⟩
    | .error fault => .error fault

/-- Carries out an order on the file it names, and writes what is to be written. -/
def Order.runIn (o : Order) (folder : Folder) : Except Fault Outcome :=
  match folder.read o.inputPath with
  | .error fault => .error fault
  | .ok none => .ok ⟨o.missingInput, folder⟩
  | .ok (some text) =>
    match o.run text with
    | .error e => .error (.failure e)
    | .ok effect => effect.perform folder

/-- Runs the command with these arguments in a folder. -/
def run (folder : Folder) (args : List String) : Except Fault Outcome :=
  match request args with
  | .error e => .ok ⟨usageEffect e, folder⟩
  | .ok .help => .ok ⟨helpEffect, folder⟩
  | .ok (.compile order) => order.runIn folder

/-- What a run comes to in any case. Whatever makes it break off comes before the first write, so the
    folder is as it was. -/
def outcome (folder : Folder) (args : List String) : Outcome :=
  match run folder args with
  | .ok o => o
  | .error fault => ⟨fault.effect, folder⟩

end SongSheet.Command
