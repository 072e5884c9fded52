import SongSheet.Proofs.Text.Trim
import SongSheet.Text.Pieces

/-!
# Cutting and putting together

Where a text is put together from two, its pieces are those of the first and those of the second, with
the last piece of the first and the first piece of the second grown into one (`exists_pieces_append`).
So what stands at the ends of a text, if it holds no cut, belongs to the first or the last piece, and
blanks there go when the pieces are trimmed (`map_trimBoth_pieces`).
-/

namespace SongSheet.Text

variable {cut : Char}

/-- The pieces are those that a list is split into. -/
theorem pieces_eq_splitOn (cut : Char) (cs : List Char) : pieces cut cs = cs.splitOn cut := by
  induction cs with
  | nil => rfl
  | cons c cs ih =>
    rw [pieces, List.splitOn_cons_eq_if_modifyHead, ih]
    simp only [beq_iff_eq]

/-- **The characters in the pieces of a text are its characters other than the cut.** -/
theorem exists_mem_pieces_iff {cs : List Char} {c : Char} :
    (∃ p ∈ pieces cut cs, c ∈ p) ↔ c ∈ cs ∧ c ≠ cut := by
  induction cs with
  | nil => simp [pieces]
  | cons d cs ih =>
    rw [pieces]
    split
    · rename_i hd
      simp only [List.mem_cons, exists_eq_or_imp, List.not_mem_nil, false_or, ih, hd]
      exact ⟨fun h => ⟨Or.inr h.1, h.2⟩, fun h => ⟨h.1.resolve_left h.2, h.2⟩⟩
    · rename_i hd
      cases hps : pieces cut cs with
      | nil => exact absurd hps (pieces_ne_nil cut cs)
      | cons q qs =>
        rw [hps] at ih
        simp only [List.mem_cons, exists_eq_or_imp] at ih
        simp only [List.modifyHead_cons, List.mem_cons, exists_eq_or_imp, or_assoc, ih]
        constructor
        · rintro (rfl | h)
          · exact ⟨Or.inl rfl, hd⟩
          · exact ⟨Or.inr h.1, h.2⟩
        · rintro ⟨rfl | h, hc⟩
          · exact Or.inl rfl
          · exact Or.inr ⟨h, hc⟩

/-- **The pieces of a text and of every text that starts with it.** -/
theorem exists_pieces_append (cut : Char) (cs : List Char) :
    ∃ init last, pieces cut cs = init ++ [last] ∧
      ∀ ds, pieces cut (cs ++ ds) = init ++ (pieces cut ds).modifyHead (last ++ ·) := by
  induction cs with
  | nil =>
    refine ⟨[], [], rfl, fun ds => ?_⟩
    cases h : pieces cut ds with
    | nil => exact absurd h (pieces_ne_nil cut ds)
    | cons p ps => simp [h]
  | cons c cs ih =>
    obtain ⟨init, last, hcs, happ⟩ := ih
    by_cases hc : c = cut
    · refine ⟨[] :: init, last, ?_, fun ds => ?_⟩
      · rw [pieces, if_pos hc, hcs]
        rfl
      · rw [List.cons_append, pieces, if_pos hc, happ]
        rfl
    · cases init with
      | nil =>
        -- no cut so far: the character joins the piece that may still grow
        refine ⟨[], c :: last, ?_, fun ds => ?_⟩
        · rw [pieces, if_neg hc, hcs]
          rfl
        · rw [List.cons_append, pieces, if_neg hc, happ]
          cases pieces cut ds <;> rfl
      | cons p ps =>
        refine ⟨(c :: p) :: ps, last, ?_, fun ds => ?_⟩
        · rw [pieces, if_neg hc, hcs]
          rfl
        · rw [List.cons_append, pieces, if_neg hc, happ]
          rfl

theorem pieces_of_not_mem {cs : List Char} (h : cut ∉ cs) : pieces cut cs = [cs] := by
  induction cs with
  | nil => rfl
  | cons c cs ih =>
    have hc : c ≠ cut := fun e => h (e ▸ List.mem_cons_self)
    have hcs : cut ∉ cs := fun hmem => h (List.mem_cons_of_mem c hmem)
    rw [pieces, if_neg hc, ih hcs]
    rfl

/-- What stands in front without a cut is part of the first piece. -/
theorem pieces_append_left {bs : List Char} (hb : cut ∉ bs) (cs : List Char) :
    pieces cut (bs ++ cs) = (pieces cut cs).modifyHead (bs ++ ·) := by
  obtain ⟨init, last, hbs, happ⟩ := exists_pieces_append cut bs
  rw [pieces_of_not_mem hb] at hbs
  have hinit : init = [] ∧ last = bs := by
    cases init with
    | nil => exact ⟨rfl, (List.cons.inj hbs).1.symm⟩
    | cons p ps => simp at hbs
  rw [happ, hinit.1, hinit.2, List.nil_append]

/-- What stands behind without a cut is part of the last piece. -/
theorem exists_pieces_append_right {bs : List Char} (hb : cut ∉ bs) (cs : List Char) :
    ∃ init last, pieces cut cs = init ++ [last] ∧ pieces cut (cs ++ bs) = init ++ [last ++ bs] := by
  obtain ⟨init, last, hcs, happ⟩ := exists_pieces_append cut cs
  refine ⟨init, last, hcs, ?_⟩
  rw [happ, pieces_of_not_mem hb]
  rfl

/-- **Trimmed pieces of a trimmed text**: they are those of the text itself, if no blank cuts. -/
theorem map_trimBoth_pieces (hcut : isBlank cut = false) (cs : List Char) :
    (pieces cut (trimBoth cs)).map trimBoth = (pieces cut cs).map trimBoth := by
  have hno : ∀ bs : List Char, (∀ c ∈ bs, isBlank c = true) → cut ∉ bs := by
    intro bs hb hmem
    rw [hb cut hmem] at hcut
    cases hcut
  obtain ⟨before, after, hbefore, hafter, _, hcs⟩ := exists_blanks_around cs
  obtain ⟨init, last, htrim, happ⟩ := exists_pieces_append_right (hno after hafter) (trimBoth cs)
  have hright : (pieces cut (trimBoth cs ++ after)).map trimBoth =
      (pieces cut (trimBoth cs)).map trimBoth := by
    rw [happ, htrim]
    simp [trimBoth_append_right hafter]
  have hleft : (pieces cut (before ++ (trimBoth cs ++ after))).map trimBoth =
      (pieces cut (trimBoth cs ++ after)).map trimBoth := by
    rw [pieces_append_left (hno before hbefore)]
    cases pieces cut (trimBoth cs ++ after) with
    | nil => rfl
    | cons p ps => simp [trimBoth_append_left hbefore]
  calc (pieces cut (trimBoth cs)).map trimBoth
      = (pieces cut (trimBoth cs ++ after)).map trimBoth := hright.symm
    _ = (pieces cut (before ++ (trimBoth cs ++ after))).map trimBoth := hleft.symm
    _ = (pieces cut cs).map trimBoth := by rw [← hcs]

end SongSheet.Text
