import SongSheet.Report

/-!
# Metadata

What the directives before the first section say about the whole song. Of two directives with one
key the later counts, and says so. A directive that is not known is passed over.
-/

namespace SongSheet

/-- What is said about the whole song, topic by topic. -/
structure Metadata where
  tempo : Option Value := none
  tonality : Option Value := none
  meter : Option Value := none
  deriving DecidableEq, Repr

namespace Metadata

/-- What is said on a topic. -/
def get? (m : Metadata) : Topic → Option Value
  | .tempo => m.tempo
  | .tonality => m.tonality
  | .meter => m.meter

/-- Says a value on a topic, in place of what was said before. -/
def set (m : Metadata) (topic : Topic) (value : Value) : Metadata :=
  match topic with
  | .tempo => { m with tempo := some value }
  | .tonality => { m with tonality := some value }
  | .meter => { m with meter := some value }

theorem get?_set (m : Metadata) (t t' : Topic) (v : Value) :
    (m.set t v).get? t' = if t = t' then some v else m.get? t' := by
  cases t <;> cases t' <;> simp [set, get?]

/-- What is said when a directive on a topic is added. -/
def overrideNotices (m : Metadata) (topic : Topic) (d : Directive) : List Notice :=
  if (m.get? topic).isSome then [.overridden d.key d.line] else []

/-- Adds directives, in order. A known directive with a key of no topic is a failure. -/
def add (m : Metadata) : List Directive → Report Metadata
  | [] => .ok m
  | d :: rest =>
    if d.known then
      match Topic.ofKey? d.key with
      | none => { result := .error (.unknownKey d.key) }
      | some topic => ((m.set topic d.value).add rest).saying (m.overrideNotices topic d)
    else m.add rest

/-- The metadata of a preamble. -/
def ofDirectives (ds : List Directive) : Report Metadata := add {} ds

end Metadata

end SongSheet
