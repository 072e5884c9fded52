import SongSheet.Document
import SongSheet.Session

/-!
# From text to document

A text is cut into lines, the lines are read as a song, its preamble becomes metadata, and both
become a document. The first thing that goes wrong ends the compilation; nothing is built from a
part of a song.
-/

namespace SongSheet

/-- Builds the document of a song. -/
def Song.compile (settings : Settings) (song : Song) : Report Document :=
  (Metadata.ofDirectives song.preamble).andThen fun metadata =>
    let document := Document.build settings metadata song.events
    (Report.ok document).saying [.compiled document.sections.length document.prompter.length]

/-- Compiles a text. -/
def compile (settings : Settings) (text : String) : Report Document :=
  (Song.read settings (Line.scan text)).andThen (Song.compile settings)

/-- What an attempt at a text comes to: its document, or the diagnostic it was refused with. -/
inductive Attempt where
  | compiled (document : Document)
  | refused (d : Diagnostic)
  deriving DecidableEq, Repr

namespace Attempt

/-- Whether there is a document. -/
def succeeded : Attempt → Bool
  | .compiled _ => true
  | .refused _ => false

/-- What was compiled, as JSON. -/
def data? : Attempt → Option Json
  | .compiled document => some document.toJson
  | .refused _ => none

/-- What was wrong, as JSON. -/
def error? : Attempt → Option Json
  | .compiled _ => none
  | .refused d => some d.toJson

end Attempt

/-- Compiles a text and takes a diagnostic as an answer, not as a failure. -/
def attempt (settings : Settings) (text : String) : Report Attempt :=
  let r := compile settings text
  match r.result with
  | .ok document => ⟨r.notices, .ok (.compiled document)⟩
  | .error (.diagnostic d) => ⟨r.notices ++ [.refused d], .ok (.refused d)⟩
  | .error e => ⟨r.notices, .error e⟩

/-- Attempts texts one by one, up to the first failure. -/
def attemptAll (settings : Settings) : List String → Report (List Attempt)
  | [] => .ok []
  | text :: texts =>
    (attempt settings text).andThen fun a =>
      (attemptAll settings texts).andThen fun as => .ok (a :: as)

end SongSheet
