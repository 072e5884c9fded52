import SongSheet.Text.Digit
import SongSheet.Text.Numeral
import SongSheet.Text.Pieces
import SongSheet.Text.Quoted

/-!
# Command line arguments

The command takes one input file and five options. An argument is first told by its look: a plain
one, an option with what is attached to it, or something that looks like an option and is none.
Then they are taken in order. A long option may be cut short as long as it stays the only one
meant; short ones may be written together; after `--` everything is plain.
-/

namespace SongSheet.Command

open Text (isDigit quoted)

/-! ## 1. Options -/

/-- The options of the command. -/
inductive Switch where
  | help
  | output
  | pretty
  | lyrics
  | verbose
  deriving DecidableEq, Repr

namespace Switch

/-- Every option there is. -/
def all : List Switch := [.help, .output, .pretty, .lyrics, .verbose]

/-- The letter an option can be named by. -/
def short? : Switch → Option Char
  | .help => some 'h'
  | .output => some 'o'
  | .verbose => some 'v'
  | .pretty | .lyrics => none

/-- The name of an option, written out. -/
def long : Switch → String
  | .help => "--help"
  | .output => "--output"
  | .pretty => "--pretty"
  | .lyrics => "--lyrics"
  | .verbose => "--verbose"

/-- All names of the option, for a message. -/
def title (s : Switch) : String :=
  match s.short? with
  | some c => s!"-{String.singleton c}/{s.long}"
  | none => s.long

/-- The option needs a value. -/
def takesValue : Switch → Bool
  | .output => true
  | _ => false

/-- The option a letter names, if it names one. -/
def ofShort? (c : Char) : Option Switch := all.find? fun s => s.short? == some c

/-- The options a cut name may mean. -/
def candidates (name : List Char) : List Switch := all.filter fun s => name.isPrefixOf s.long.toList

end Switch

/-- Why the arguments make no request. -/
inductive UsageError where
  | ambiguous (argument : String) (matching : List Switch)
  | ignoredValue (switch : Switch) (value : String)
  | missingValue (switch : Switch)
  | missingInput
  | unrecognized (arguments : List String)
  deriving DecidableEq, Repr

/-- The wording of what is wrong with the arguments. -/
def UsageError.message : UsageError → String
  | .ambiguous argument matching =>
    let names := ", ".intercalate (matching.map Switch.long)
    s!"ambiguous option: {argument} could match {names}"
  | .ignoredValue switch value =>
    s!"argument {switch.title}: ignored explicit argument {quoted value}"
  | .missingValue switch => s!"argument {switch.title}: expected one argument"
  | .missingInput => "the following arguments are required: input"
  | .unrecognized arguments =>
    let shown := " ".intercalate arguments
    s!"unrecognized arguments: {shown}"

/-! ## 2. Telling arguments by their look -/

/-- How an option is named. Only short names can be written together. -/
inductive Naming where
  | short
  | long
  deriving DecidableEq, Repr

/-- What is attached to a name in the same argument; an equals sign in front of it is dropped. -/
def attached? : List Char → Option (List Char)
  | [] => none
  | '=' :: cs => some cs
  | cs => some cs

/-- An argument, told by its look. -/
inductive Word where
  | plain (text : String)
  /-- The first `--`. -/
  | separator
  | option (switch : Switch) (naming : Naming) (attached : Option (List Char))
  /-- It looks like an option and is none. -/
  | unknown (text : String)
  deriving DecidableEq, Repr

/-- A minus sign and a number, with a decimal point or without. -/
def isNegativeNumber (cs : List Char) : Bool :=
  match Text.dropFinalNewline cs with
  | '-' :: rest =>
    Text.isNumeral rest ||
      match rest.dropWhile isDigit with
      | '.' :: fraction => Text.isNumeral fraction
      | _ => false
  | _ => false

/-- An argument with a dash in front that names no option. -/
def strayWord (arg : String) : Word :=
  if isNegativeNumber arg.toList || arg.toList.contains ' ' then .plain arg else .unknown arg

/-- Tells an argument by its look, outside of what comes after `--`. -/
def Word.ofArgument (arg : String) : Except UsageError Word :=
  match arg.toList with
  | '-' :: '-' :: rest =>
    let name := '-' :: '-' :: rest.takeWhile (· ≠ '=')
    match Switch.candidates name with
    | [] => .ok (strayWord arg)
    | [switch] => .ok (.option switch .long (attached? (rest.dropWhile (· ≠ '='))))
    | several => .error (.ambiguous arg several)
  | '-' :: c :: rest =>
    match Switch.ofShort? c with
    | some switch => .ok (.option switch .short (attached? rest))
    | none => .ok (strayWord arg)
  | _ => .ok (.plain arg)

/-- Tells all arguments; those after `--` are plain. -/
def words : List String → Except UsageError (List Word)
  | [] => .ok []
  | arg :: args =>
    if arg = "--" then .ok (.separator :: args.map .plain)
    else do
      let word ← Word.ofArgument arg
      let rest ← words args
      return word :: rest

/-! ## 3. Taking them in order -/

/-- What one option argument asks for. -/
inductive Act where
  | turnOn (switch : Switch)
  | write (path : String)
  /-- The path to write to is the next argument. -/
  | writeNext
  deriving DecidableEq, Repr

/-- An option with nothing attached. -/
def bareAct (switch : Switch) : Act := if switch.takesValue then .writeNext else .turnOn switch

/-- A short option and what is written right after it: its value, or more short options. -/
def bundledActs (switch : Switch) : List Char → Except UsageError (List Act)
  | [] => .ok [bareAct switch]
  | c :: rest =>
    if switch.takesValue then .ok [.write (String.ofList (c :: rest))]
    else
      match Switch.ofShort? c with
      | none => .error (.ignoredValue switch (String.ofList (c :: rest)))
      | some next => (bundledActs next rest).map (.turnOn switch :: ·)

/-- All that an option argument asks for, with what is attached to it. -/
def acts (switch : Switch) (naming : Naming) (attached : Option (List Char)) :
    Except UsageError (List Act) :=
  match attached with
  | none => .ok [bareAct switch]
  | some cs =>
    if switch.takesValue then .ok [.write (String.ofList cs)]
    else if naming = .short && !cs.isEmpty then bundledActs switch cs
    else .error (.ignoredValue switch (String.ofList cs))

/-- What the command is to do with a file. -/
structure Order where
  input : String
  output : Option String := none
  pretty : Bool := false
  lyrics : Bool := false
  verbose : Bool := false
  deriving DecidableEq, Repr

/-- What the arguments ask for. -/
inductive Request where
  | help
  | compile (order : Order)
  deriving DecidableEq, Repr

/-- What has been asked for so far. -/
structure Progress where
  input : Option String := none
  output : Option String := none
  help : Bool := false
  pretty : Bool := false
  lyrics : Bool := false
  verbose : Bool := false
  /-- The argument just taken is the input file. -/
  fresh : Bool := false
  /-- Arguments that have no place, in order. -/
  left : List String := []
  deriving DecidableEq, Repr

namespace Progress

/-- Takes one act; `next` is the argument after the one it stands in. A `--` attached to the output
    option takes back an output asked for before. -/
def act (p : Progress) (next : String) : Act → Progress
  | .turnOn .help => { p with help := true }
  | .turnOn .pretty => { p with pretty := true }
  | .turnOn .lyrics => { p with lyrics := true }
  | .turnOn .verbose => { p with verbose := true }
  | .turnOn .output => p
  | .write path => { p with output := if path = "--" then none else some path }
  | .writeNext => { p with output := some next }

/-- The request once all arguments are taken. -/
def request (p : Progress) : Except UsageError Request :=
  match p.input with
  | none => .error .missingInput
  | some input =>
    if p.left.isEmpty then
      .ok (.compile ⟨input, p.output, p.pretty, p.lyrics, p.verbose⟩)
    else .error (.unrecognized p.left)

/-- Takes a plain argument: the first is the input file. -/
def takePlain (p : Progress) (text : String) : Progress :=
  if p.input.isNone then { p with input := some text, fresh := true }
  else { p with left := p.left ++ [text], fresh := false }

/-- Takes the `--`. It goes unnoticed before the input file and right after it. -/
def takeSeparator (p : Progress) : Progress :=
  if p.input.isNone || p.fresh then { p with fresh := false }
  else { p with left := p.left ++ ["--"] }

/-- Takes an argument that names no option. -/
def takeUnknown (p : Progress) (text : String) : Progress :=
  { p with left := p.left ++ [text], fresh := false }

/-- Takes all that one option argument asks for. -/
def takeActs (p : Progress) (next : String) (as : List Act) : Progress :=
  as.foldl (fun p a => p.act next a) { p with fresh := false }

/-- Takes words in order. Help is given at once. -/
def take (p : Progress) : List Word → Except UsageError Request
  | [] => p.request
  | .plain text :: rest => (p.takePlain text).take rest
  | .separator :: rest => p.takeSeparator.take rest
  | .unknown text :: rest => (p.takeUnknown text).take rest
  | .option switch naming attached :: rest =>
    match acts switch naming attached with
    | .error e => .error e
    | .ok as =>
      if as.contains .writeNext then
        match rest with
        | .plain text :: rest' =>
          let p := p.takeActs text as
          if p.help then .ok .help else p.take rest'
        | _ => .error (.missingValue .output)
      else
        let p := p.takeActs "" as
        if p.help then .ok .help else p.take rest

end Progress

/-- The request a list of arguments makes. -/
def request (args : List String) : Except UsageError Request :=
  match words args with
  | .error e => .error e
  | .ok ws => Progress.take {} ws

end SongSheet.Command
