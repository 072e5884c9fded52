/-!
# Sets of characters, as ranges of code points

A set is listed as ranges with both ends included. Every character class of this library that is
a matter of tables (`Text/Word`, `Text/Printable`, `Text/Case/Table`) is such a list.
-/

namespace SongSheet.Text

/-- Ranges of code points, both ends included. -/
abbrev Ranges := List (Nat × Nat)

namespace Ranges

/-- The character lies in one of the ranges. -/
def contains (rs : Ranges) (c : Char) : Bool :=
  rs.any fun r => decide (r.1 ≤ c.toNat) && decide (c.toNat ≤ r.2)

theorem contains_iff (rs : Ranges) (c : Char) :
    rs.contains c = true ↔ ∃ r ∈ rs, r.1 ≤ c.toNat ∧ c.toNat ≤ r.2 := by
  simp [contains]

end Ranges

end SongSheet.Text
