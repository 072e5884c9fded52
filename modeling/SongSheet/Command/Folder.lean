import SongSheet.Command.Path
import SongSheet.Diagnostic
import SongSheet.Line

/-!
# Files

The command works in a folder of files. A path leads from the folder step by step, perhaps out of
it; outside only the folders that every system has are known, and the null device. Where a path
leads decides what can be read from it and written to it.
-/

namespace SongSheet.Command

open Text (quoted)

/-- Files by their paths from the folder, with their texts. -/
abbrev Folder := List (String × String)

/-- Why a run breaks off. -/
inductive Fault where
  | failure (f : Failure)
  | isFolder (path : String)
  | notFolder (path : String)
  | noFile (path : String)
  | nameTooLong (path : String)
  /-- A path with a null character. -/
  | nullCharacter
  deriving DecidableEq, Repr

/-- The wording of what breaks off a run. -/
def Fault.message : Fault → String
  | .failure f => f.message
  | .isFolder path => s!"[Errno 21] Is a directory: {quoted path}"
  | .notFolder path => s!"[Errno 20] Not a directory: {quoted path}"
  | .noFile path => s!"[Errno 2] No such file or directory: {quoted path}"
  | .nameTooLong path => s!"[Errno 36] File name too long: {quoted path}"
  | .nullCharacter => "embedded null byte"

/-! ## 1. Where a path leads -/

/-- What is at the end of a path. -/
inductive Place where
  | file (name text : String)
  | folder
  /-- Nothing yet, in a folder that exists; without a name outside the folder of the run. -/
  | vacant (name : Option String)
  /-- The null device: it reads as empty and keeps nothing. -/
  | sink
  deriving DecidableEq, Repr

/-- Why a path leads nowhere. -/
inductive DeadEnd where
  | missing
  | notFolder
  | tooLong
  | nullCharacter
  deriving DecidableEq, Repr

/-- A folder on the way. -/
inductive Spot where
  /-- The folder of the run, or one in it. -/
  | inside (steps : List (List Char))
  /-- A folder above that of the run. -/
  | above
  | root
  /-- A folder that every system has. -/
  | system (step : List Char)
  deriving DecidableEq, Repr

/-- The folders that stand at the root of every system. -/
def systemFolders : List (List Char) :=
  ["bin", "boot", "dev", "etc", "home", "lib", "media", "mnt", "opt", "proc", "root", "run",
    "sbin", "srv", "sys", "tmp", "usr", "var"].map String.toList

/-- A path from its steps. -/
def joined (steps : List (List Char)) : String := String.ofList (['/'].intercalate steps)

/-- The folder above. -/
def Spot.up : Spot → Spot
  | .inside [] => .above
  | .inside steps => .inside steps.dropLast
  | .above => .above
  | .root | .system _ => .root

/-- The most bytes of one step of a path. -/
def maxStepSize : Nat := 255

/-- The most bytes of a whole path. -/
def maxPathSize : Nat := 4095

namespace Folder

/-- The text of a file, if there is one of this name. -/
def get? (f : Folder) (name : String) : Option String := f.lookup name

/-- Writes a file, new or not. -/
def put (f : Folder) (name text : String) : Folder :=
  (name, text) :: f.filter fun file => file.1 != name

/-- Some file lies beneath these steps. -/
def isBranch (f : Folder) (steps : List (List Char)) : Bool :=
  f.any fun file => ((joined steps).toList ++ ['/']).isPrefixOf file.1.toList

/-- What a folder holds under one step: a place where a path can only end, or a folder. -/
def enter (f : Folder) (spot : Spot) (step : List Char) : Place ⊕ Spot :=
  match spot with
  | .inside steps =>
    let name := joined (steps ++ [step])
    match f.get? name with
    | some text => .inl (.file name text)
    | none =>
      if f.isBranch (steps ++ [step]) then .inr (.inside (steps ++ [step]))
      else .inl (.vacant (some name))
  | .above => .inl (.vacant none)
  | .root =>
    if systemFolders.contains step then .inr (.system step) else .inl (.vacant none)
  | .system above =>
    if above = "dev".toList && step = "null".toList then .inl .sink else .inl (.vacant none)

/-- Follows steps from a folder on the way. -/
def walk (f : Folder) (spot : Spot) : List (List Char) → Except DeadEnd Place
  | [] => .ok .folder
  | step :: rest =>
    if step = ['.', '.'] then f.walk spot.up rest
    else if maxStepSize < (String.ofList step).utf8ByteSize then .error .tooLong
    else
      match f.enter spot step with
      | .inr spot' => f.walk spot' rest
      | .inl place =>
        if rest.isEmpty then .ok place
        else
          match place with
          | .vacant _ => .error .missing
          | _ => .error .notFolder

/-- Follows a path in its one form. -/
def resolve (f : Folder) (path : String) : Except DeadEnd Place :=
  if path.toList.contains '\x00' then .error .nullCharacter
  else if maxPathSize < path.utf8ByteSize then .error .tooLong
  else
    f.walk (if (Path.rootOf path.toList).isEmpty then .inside [] else .root)
      (Path.steps path.toList)

/-! ## 2. Reading and writing -/

/-- The text at a path, its lines ended by line feeds; `none` if there is nothing. -/
def read (f : Folder) (path : String) : Except Fault (Option String) :=
  match f.resolve path with
  | .ok (.file _ text) => .ok (some (Line.withLineFeeds text))
  | .ok .sink => .ok (some "")
  | .ok .folder => .error (.isFolder path)
  | .error .tooLong => .error (.nameTooLong path)
  | .ok (.vacant _) | .error .missing | .error .notFolder | .error .nullCharacter => .ok none

/-- The folder with a text written at a path. -/
def write (f : Folder) (path text : String) : Except Fault Folder :=
  match f.resolve path with
  | .ok (.file name _) | .ok (.vacant (some name)) => .ok (f.put name text)
  | .ok (.vacant none) | .ok .sink => .ok f
  | .ok .folder => .error (.isFolder path)
  | .error .missing => .error (.noFile path)
  | .error .notFolder => .error (.notFolder path)
  | .error .tooLong => .error (.nameTooLong path)
  | .error .nullCharacter => .error .nullCharacter

end Folder

end SongSheet.Command
