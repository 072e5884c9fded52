import SongSheet.Notice

/-!
# Reports

The outcome of a piece of work together with what was said on the way. What was said before a
failure stays said.
-/

namespace SongSheet

/-- An outcome, and what was said on the way to it. -/
structure Report (α : Type) where
  notices : List Notice := []
  result : Except Failure α
  deriving Repr

namespace Report

/-- An outcome without a word. -/
def ok {α : Type} (value : α) : Report α := { result := .ok value }

/-- Goes on with the value, if there is one. -/
def andThen {α β : Type} (r : Report α) (next : α → Report β) : Report β :=
  match r.result with
  | .error e => ⟨r.notices, .error e⟩
  | .ok value => ⟨r.notices ++ (next value).notices, (next value).result⟩

/-- Says something before anything else. -/
def saying {α : Type} (notices : List Notice) (r : Report α) : Report α :=
  ⟨notices ++ r.notices, r.result⟩

@[simp] theorem andThen_ok {α β : Type} (value : α) (next : α → Report β) :
    (ok value).andThen next = next value := by
  simp [ok, andThen]

end Report

end SongSheet
