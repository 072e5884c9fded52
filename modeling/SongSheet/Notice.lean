import SongSheet.Directive
import SongSheet.Json.Printer
import SongSheet.Section

/-!
# Notices

What a compilation says on its way, whether or not it comes to a document. A notice is a cause;
its source, its level and its wording are fixed here.
-/

namespace SongSheet

open Text (decimal)

/-- How much a notice matters. -/
inductive Level where
  | debug
  | info
  | warning
  deriving DecidableEq, Repr

namespace Level

/-- The name of a level in a log. -/
def name : Level → String
  | .debug => "DEBUG"
  | .info => "INFO"
  | .warning => "WARNING"

end Level

/-- One thing said on the way, with what it is about. -/
inductive Notice where
  | unknownDirective (key : String) (line : Int)
  | sectionRead (name : String) (measures lyrics : Nat)
  | tempoChange (tempo : Value) (line : Int)
  /-- A directive about the whole song that comes too late to count. -/
  | lateDirective (key : String) (line : Int)
  | overridden (key : String) (line : Int)
  | compiled (sections items : Nat)
  | refused (d : Diagnostic)
  deriving DecidableEq, Repr

namespace Notice

/-- Who says it. -/
def source : Notice → String
  | .unknownDirective _ _ | .overridden _ _ => "songcode.compiler.directives"
  | .sectionRead _ _ _ | .tempoChange _ _ | .lateDirective _ _ => "songcode.compiler.sections"
  | .compiled _ _ | .refused _ => "songcode.converter"

/-- How much it matters: warnings are about directives that do not count, or count in place of
    another. -/
def level : Notice → Level
  | .unknownDirective _ _ | .sectionRead _ _ _ | .tempoChange _ _ | .compiled _ _ => .debug
  | .refused _ => .info
  | .lateDirective _ _ | .overridden _ _ => .warning

/-- A tempo in a message. One read from a line is a number. -/
def tempoText : Value → String
  | .number n => decimal n
  | .text s => s
  | value => value.toJson.write .unicode none

/-- The wording of a notice. -/
def message : Notice → String
  | .unknownDirective key line =>
    s!"Ignoring unknown directive @{key} on line {decimal line}"
  | .sectionRead name measures lyrics =>
    s!"Parsed section '{name}': {decimal measures} measures, {decimal lyrics} lyric lines"
  | .tempoChange tempo line =>
    s!"Tempo change to {tempoText tempo} on line {decimal line}"
  | .lateDirective key line =>
    s!"@{key} on line {decimal line} appears after the first section and is ignored"
  | .overridden key line => s!"@{key} on line {decimal line} overrides an earlier value"
  | .compiled sections items =>
    s!"Converted song: {decimal sections} sections, {decimal items} prompter items"
  | .refused d => s!"SongCode conversion failed: {d.render}"

/-- The notice as one line of a log. -/
def render (n : Notice) : String := s!"{n.source} - {n.level.name} - {n.message}"

end Notice

/-- What is said on reading a directive line. -/
def Directive.notices (d : Directive) : List Notice :=
  if d.known then [] else [.unknownDirective d.key d.line]

/-- What is said once a section is complete. -/
def Section.notice (s : Section) : Notice :=
  .sectionRead s.name s.measures.length s.lyrics.length

end SongSheet
