import Mathlib.Data.List.DropRight
import SongSheet.Text.Blank

/-!
# What trimming leaves

A trimmed text starts and ends with a character that is no blank, unless it is empty; so trimming
twice is trimming once, and no other character is lost. The classes of lines are told apart on
texts trimmed in different ways (`Line.isBlank` on the text as it stands, `Line.isComment` on the
text trimmed on its left, `Section.isHeader` on the text trimmed on both sides); these lemmas carry
a fact from one of them to the other.
-/

namespace SongSheet.Text

theorem trimStart_eq_nil_iff {cs : List Char} : trimStart cs = [] ↔ ∀ c ∈ cs, isBlank c = true :=
  List.dropWhile_eq_nil_iff

theorem isAllBlank_iff {s : String} : isAllBlank s = true ↔ trimStart s.toList = [] := by
  rw [trimStart_eq_nil_iff, isAllBlank, List.all_eq_true]

/-- What trimming on the left stops at is no blank. -/
theorem isBlank_head_trimStart {cs : List Char} {c : Char} (h : (trimStart cs).head? = some c) :
    isBlank c = false := by
  have hc := List.head?_dropWhile_not isBlank cs
  unfold trimStart at h
  rw [h] at hc
  simpa using hc

/-- What trimming on the right stops at is no blank. -/
theorem isBlank_getLast_trimEnd {cs : List Char} {c : Char} (h : (trimEnd cs).getLast? = some c) :
    isBlank c = false := by
  have hc := List.head?_dropWhile_not isBlank cs.reverse
  rw [trimEnd, List.getLast?_reverse] at h
  rw [h] at hc
  simpa using hc

/-- In front of a character that is no blank, trimming on the right goes on behind it. -/
theorem trimEnd_cons {c : Char} (h : isBlank c = false) (cs : List Char) :
    trimEnd (c :: cs) = c :: trimEnd cs := by
  unfold trimEnd
  rw [List.reverse_cons, List.dropWhile_append]
  split
  · rename_i hnil
    have hnil' : cs.reverse.dropWhile isBlank = [] := List.isEmpty_iff.mp hnil
    rw [hnil']
    simp [h]
  · simp

theorem head?_trimEnd {cs : List Char} {c : Char} (hb : isBlank c = false)
    (h : cs.head? = some c) : (trimEnd cs).head? = some c := by
  cases cs with
  | nil => cases h
  | cons d rest =>
    cases h
    rw [trimEnd_cons hb]
    rfl

/-- **The first character of a text trimmed on both sides is that of the text trimmed on its
    left.** -/
theorem head?_trimBoth (cs : List Char) : (trimBoth cs).head? = (trimStart cs).head? := by
  cases h : (trimStart cs).head? with
  | none =>
    have hnil : trimStart cs = [] := List.head?_eq_none_iff.mp h
    rw [trimBoth, hnil]
    rfl
  | some c => exact head?_trimEnd (isBlank_head_trimStart h) h

theorem trimStart_eq_self {cs : List Char} (h : ∀ c, cs.head? = some c → isBlank c = false) :
    trimStart cs = cs := by
  cases cs with
  | nil => rfl
  | cons c rest =>
    have hc := h c rfl
    simp [trimStart, hc]

theorem trimEnd_eq_self {cs : List Char} (h : ∀ c, cs.getLast? = some c → isBlank c = false) :
    trimEnd cs = cs := by
  refine List.rdropWhile_eq_self_iff.mpr fun hne hb => ?_
  rw [h _ (List.getLast?_eq_some_getLast hne)] at hb
  cases hb

/-- A text that starts and ends visibly is trimmed as it stands. -/
theorem trimBoth_eq_self {cs : List Char} (hhead : ∀ c, cs.head? = some c → isBlank c = false)
    (hlast : ∀ c, cs.getLast? = some c → isBlank c = false) : trimBoth cs = cs := by
  rw [trimBoth, trimStart_eq_self hhead, trimEnd_eq_self hlast]

/-- **Trimming twice is trimming once.** -/
theorem trimBoth_trimBoth (cs : List Char) : trimBoth (trimBoth cs) = trimBoth cs := by
  have hstart : trimStart (trimBoth cs) = trimBoth cs := by
    apply trimStart_eq_self
    intro c hc
    rw [head?_trimBoth] at hc
    exact isBlank_head_trimStart hc
  calc trimBoth (trimBoth cs) = trimEnd (trimStart (trimBoth cs)) := rfl
    _ = trimEnd (trimEnd (trimStart cs)) := by rw [hstart, trimBoth]
    _ = trimBoth cs := List.rdropWhile_idempotent isBlank (trimStart cs)

theorem trim_trim (s : String) : trim (trim s) = trim s := by
  have h : (trim s).toList = trimBoth s.toList := toList_trim s
  rw [trim, h, trimBoth_trimBoth]
  rfl

/-- Trimming brings in no character. -/
theorem trimBoth_subset (cs : List Char) : trimBoth cs ⊆ cs := by
  have hend : trimBoth cs ⊆ trimStart cs := (List.rdropWhile_prefix isBlank _).subset
  have hstart : trimStart cs ⊆ cs := (List.dropWhile_sublist isBlank).subset
  exact List.Subset.trans hend hstart

/-- **A text is its trimmed text with blanks around it.** -/
theorem exists_blanks_around (cs : List Char) :
    ∃ before after, (∀ c ∈ before, isBlank c = true) ∧ (∀ c ∈ after, isBlank c = true) ∧
      trimStart cs = trimBoth cs ++ after ∧ cs = before ++ (trimBoth cs ++ after) := by
  have hend : trimStart cs = trimBoth cs ++ (trimStart cs).rtakeWhile isBlank :=
    List.rdropWhile_append_rtakeWhile.symm
  refine ⟨cs.takeWhile isBlank, (trimStart cs).rtakeWhile isBlank, ?_, ?_, hend, ?_⟩
  · exact List.all_eq_true.mp List.all_takeWhile
  · intro c hc
    exact List.mem_rtakeWhile_imp hc
  · rw [← hend]
    exact List.takeWhile_append_dropWhile.symm

theorem trimBoth_append_left {bs : List Char} (hb : ∀ c ∈ bs, isBlank c = true) (cs : List Char) :
    trimBoth (bs ++ cs) = trimBoth cs := by
  have hstart : trimStart (bs ++ cs) = trimStart cs := List.dropWhile_append_of_pos hb
  rw [trimBoth, hstart, trimBoth]

theorem trimEnd_append_right {bs : List Char} (hb : ∀ c ∈ bs, isBlank c = true) (cs : List Char) :
    trimEnd (cs ++ bs) = trimEnd cs := by
  have hrev : ∀ c ∈ bs.reverse, isBlank c = true := fun c hc => hb c (List.mem_reverse.mp hc)
  rw [trimEnd, List.reverse_append, List.dropWhile_append_of_pos hrev, trimEnd]

theorem trimBoth_append_right {bs : List Char} (hb : ∀ c ∈ bs, isBlank c = true) (cs : List Char) :
    trimBoth (cs ++ bs) = trimBoth cs := by
  by_cases hnil : trimStart cs = []
  · -- nothing but blanks on both sides
    have hcs := trimStart_eq_nil_iff.mp hnil
    have hall : trimStart (cs ++ bs) = [] := by
      rw [trimStart_eq_nil_iff]
      intro c hc
      exact (List.mem_append.mp hc).elim (hcs c) (hb c)
    rw [trimBoth, trimBoth, hall, hnil]
  · have hstart : trimStart (cs ++ bs) = trimStart cs ++ bs := by
      unfold trimStart at hnil ⊢
      rw [List.dropWhile_append, if_neg (by simpa using hnil)]
    rw [trimBoth, hstart, trimEnd_append_right hb, trimBoth]

/-- **What starts a text trimmed on the left** starts it trimmed on both sides too, or reaches into the
    blanks that are cut off behind it. -/
theorem prefix_trimStart_iff {mark cs : List Char} :
    mark <+: trimStart cs ↔ mark <+: trimBoth cs ∨
      ∃ gap rest, gap ≠ [] ∧ (∀ c ∈ gap ++ rest, isBlank c = true) ∧ mark = trimBoth cs ++ gap ∧
        trimStart cs = mark ++ rest := by
  obtain ⟨before, after, _, hafter, hstart, _⟩ := exists_blanks_around cs
  constructor
  · intro h
    rw [hstart] at h
    rcases List.prefix_or_prefix_of_prefix h (List.prefix_append _ _) with h' | ⟨gap, rfl⟩
    · exact Or.inl h'
    · obtain ⟨rest, hrest⟩ := (List.prefix_append_right_inj _).mp h
      by_cases hgap : gap = []
      · rw [hgap, List.append_nil]
        exact Or.inl (List.prefix_refl _)
      · refine Or.inr ⟨gap, rest, hgap, ?_, rfl, ?_⟩
        · rw [hrest]
          exact hafter
        · rw [hstart, ← hrest, List.append_assoc]
  · intro h
    rcases h with h | ⟨gap, rest, _, _, _, h⟩
    · rw [hstart]
      exact h.trans (List.prefix_append _ _)
    · rw [h]
      exact List.prefix_append _ _

/-- A text that ends visibly starts a text trimmed on both sides exactly if it starts the one trimmed on
    the left: it cannot reach into the blanks that are cut off. -/
theorem isPrefixOf_trimBoth {mark : List Char} (hmark : ∀ c ∈ mark.getLast?, isBlank c = false)
    (cs : List Char) : mark.isPrefixOf (trimBoth cs) = mark.isPrefixOf (trimStart cs) := by
  rw [Bool.eq_iff_iff, List.isPrefixOf_iff_prefix, List.isPrefixOf_iff_prefix, prefix_trimStart_iff]
  constructor
  · exact Or.inl
  · intro h
    rcases h with h | ⟨gap, rest, hgap, hblank, rfl, _⟩
    · exact h
    · -- the mark would end in one of the blanks
      have hlast : gap.getLast hgap ∈ (trimBoth cs ++ gap).getLast? := by
        rw [List.getLast?_append_of_ne_nil _ hgap]
        exact List.getLast?_eq_some_getLast hgap
      have hc := hblank _ (List.mem_append_left rest (List.getLast_mem hgap))
      rw [hmark _ hlast] at hc
      cases hc

/-- A text is empty after trimming only if it is blank. -/
theorem trimBoth_eq_nil_iff {cs : List Char} : trimBoth cs = [] ↔ trimStart cs = [] := by
  rw [← List.head?_eq_none_iff, head?_trimBoth, List.head?_eq_none_iff]

end SongSheet.Text
