import SongSheet.Line

/-!
# Line endings

A text whose line endings were unified on the way, as those of a file are, has the same lines
(`Line.scan_withLineFeeds`): there is nothing left to unify the second time, and a byte order mark in
front is still in front.
-/

namespace SongSheet.Line

/-- The text with every ending made a line feed. -/
def unified (cs : List Char) : List Char := (joinEndings cs).map unifyEnding

theorem return_not_mem_unified (cs : List Char) : '\r' ∉ unified cs := by
  intro h
  obtain ⟨c, _, hc⟩ := List.mem_map.mp h
  unfold unifyEnding at hc
  split at hc
  · cases hc
  · contradiction

theorem joinEndings_eq_self {cs : List Char} (h : '\r' ∉ cs) : joinEndings cs = cs := by
  induction cs with
  | nil => rfl
  | cons c cs ih =>
    rw [List.mem_cons, not_or] at h
    obtain ⟨hc, hcs⟩ := h
    rw [joinEndings.eq_def]
    split
    · rename_i heq
      obtain ⟨rfl, _⟩ := List.cons.inj heq
      exact absurd rfl hc
    · rename_i heq
      obtain ⟨rfl, rfl⟩ := List.cons.inj heq
      rw [ih hcs]
    · rename_i heq
      cases heq

theorem unified_eq_self {cs : List Char} (h : '\r' ∉ cs) : unified cs = cs := by
  have hkeep : ∀ c ∈ cs, unifyEnding c = c := by
    intro c hc
    have hr : c ≠ '\r' := fun hr => h (hr ▸ hc)
    exact if_neg hr
  rw [unified, joinEndings_eq_self h, List.map_congr_left hkeep, List.map_id']

theorem head?_unified (cs : List Char) : (unified cs).head? = cs.head?.map unifyEnding := by
  rw [unified, joinEndings.eq_def]
  split <;> rfl

theorem dropByteOrderMark_eq_self {cs : List Char} (h : cs.head? ≠ some '\ufeff') :
    dropByteOrderMark cs = cs := by
  unfold dropByteOrderMark
  split
  · exact absurd rfl h
  · rfl

/-- The mark is no part of an ending, so the two do not get in each other's way. -/
theorem dropByteOrderMark_unified (cs : List Char) :
    dropByteOrderMark (unified cs) = unified (dropByteOrderMark cs) := by
  by_cases h : cs.head? = some '\ufeff'
  · obtain ⟨rest, rfl⟩ := List.head?_eq_some_iff.mp h
    rfl
  · have hunified : (unified cs).head? ≠ some '\ufeff' := by
      rw [head?_unified]
      intro hmark
      obtain ⟨c, hc, hmark⟩ := Option.map_eq_some_iff.mp hmark
      unfold unifyEnding at hmark
      split at hmark
      · cases hmark
      · exact h (hmark ▸ hc)
    rw [dropByteOrderMark_eq_self h, dropByteOrderMark_eq_self hunified]

/-- **A text read from a file has the lines it has in the file.** -/
theorem scan_withLineFeeds (text : String) : scan (withLineFeeds text) = scan text := by
  have hsplit : split (withLineFeeds text) = split text := by
    have htext : (withLineFeeds text).toList = unified text.toList := String.toList_ofList
    show (Text.pieces '\n' (unified (dropByteOrderMark (withLineFeeds text).toList))).map String.ofList =
      (Text.pieces '\n' (unified (dropByteOrderMark text.toList))).map String.ofList
    rw [htext, dropByteOrderMark_unified, unified_eq_self (return_not_mem_unified _)]
  rw [scan, hsplit, scan]

end SongSheet.Line
