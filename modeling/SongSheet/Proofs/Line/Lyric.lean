import SongSheet.Proofs.Line.Refusal

/-!
# Where a lyric line is cut

A lyric line is cut at the underscore before the digits it ends in (`Lyric.IsCut`). The text may hold
underscores and digits of its own and any blanks, but there is one such place at most, since no digit
is an underscore. So a line is read exactly if it can be cut and its digits stand for a positive number
that can be read (`Lyric.read_of_isCut`).

What was read can be written down again: its text, a blank, an underscore and the number in decimal
digits. Read back, it is the same lyric.
-/

namespace SongSheet

open Text (isBlank isNumeral trimEnd trimBoth numeralValue digitLimit decimal isWritable)

namespace Lyric

/-! ## 1. The cut -/

variable {cs before digits : List Char}

/-- **A text is cut at one place only.** -/
theorem IsCut.unique {before' digits' : List Char} (h : IsCut cs before digits)
    (h' : IsCut cs before' digits') (hn : '\n' ∉ cs) : before = before' ∧ digits = digits' := by
  have hparts := h.parts?_eq (h.newline_not_mem hn)
  rw [h'.parts?_eq (h'.newline_not_mem hn)] at hparts
  have hdigits : digits = digits' := congrArg Prod.snd (Option.some.inj hparts).symm
  have heq : before ++ '_' :: digits = before' ++ '_' :: digits := by
    rw [← h.eq, h'.eq, hdigits]
  exact ⟨List.append_cancel_right heq, hdigits⟩

/-! ## 2. Reading -/

variable {l : Line}

/-- **What is made of a line that can be cut**: too long a numeral cannot be read, zero is refused, and
    any other number is the span. -/
theorem read_of_isCut (h : IsCut l.trimmed.toList before digits) (hn : '\n' ∉ trimEnd before) :
    Lyric.read l =
      if digitLimit < digits.length then .error (.numeral (.reading digits.length))
      else if numeralValue digits = 0 then Failure.raise (.zeroSpan (String.ofList digits)) l.number
      else .ok ⟨String.ofList (trimEnd before), numeralValue digits, l.number⟩ := by
  unfold Lyric.read
  rw [h.parts?_eq hn]
  dsimp only
  by_cases hlen : digitLimit < digits.length
  · rw [readNumber_of_lt_length hlen, if_pos hlen]
  · rw [readNumber_of_length_le (Nat.not_lt.mp hlen), if_neg hlen]
    dsimp only
    by_cases hzero : numeralValue digits = 0
    · rw [if_pos hzero, if_pos (by omega)]
    · rw [if_neg hzero, if_neg (by omega)]

/-- A line that cannot be cut is refused. -/
theorem read_of_not_isCut (h : ¬ ∃ before digits, IsCut l.trimmed.toList before digits) :
    Lyric.read l = Failure.raise (.noSpan l.trimmed) l.number := by
  apply read_of_hasSpan_eq_false
  rw [Bool.eq_false_iff]
  intro hspan
  exact h (endsInSpan_of_hasSpan hspan)

/-- **A line is read exactly if it can be cut at a positive number that can be read.** -/
theorem read_eq_ok_iff (hn : '\n' ∉ l.text.toList) {y : Lyric} :
    Lyric.read l = .ok y ↔ ∃ before digits, IsCut l.trimmed.toList before digits ∧
      digits.length ≤ digitLimit ∧ 1 ≤ numeralValue digits ∧
      y = ⟨String.ofList (trimEnd before), numeralValue digits, l.number⟩ := by
  constructor
  · intro h
    by_cases hcut : ∃ before digits, IsCut l.trimmed.toList before digits
    · obtain ⟨before, digits, hcut⟩ := hcut
      rw [read_of_isCut hcut (hcut.newline_not_mem (Line.newline_not_mem_trimmed hn))] at h
      split at h
      · cases h
      · split at h
        · cases h
        · cases h
          exact ⟨before, digits, hcut, by omega, by omega, rfl⟩
    · rw [read_of_not_isCut hcut] at h
      cases h
  · rintro ⟨before, digits, hcut, hlen, hpos, rfl⟩
    rw [read_of_isCut hcut (hcut.newline_not_mem (Line.newline_not_mem_trimmed hn)),
      if_neg (by omega), if_neg (by omega)]

/-! ## 3. Writing -/

/-- Trimming a written lyric line leaves the underscore, the digits and, in front of them, the text
    with at most a blank after it. -/
theorem exists_isCut_written {text : List Char}
    (hhead : ∀ c, text.head? = some c → isBlank c = false) (htext : trimEnd text = text) (n : Nat) :
    ∃ before, trimEnd before = text ∧
      IsCut (trimBoth (text ++ ' ' :: '_' :: (decimal n).toList)) before (decimal n).toList := by
  have hlast : ∀ c, (('_' :: (decimal n).toList).getLast?) = some c → isBlank c = false := by
    intro c hc
    rcases List.mem_cons.mp (List.mem_of_getLast? hc) with rfl | hmem
    · decide
    · exact Text.isBlank_of_isDigit (isDigit_of_isNumeral (Text.isNumeral_decimal n) c hmem)
  cases text with
  | nil =>
    refine ⟨[], rfl, ?_, Text.isNumeral_decimal n⟩
    have hblank : ∀ c ∈ [' '], isBlank c = true := List.forall_mem_singleton.mpr rfl
    have hself : trimBoth ('_' :: (decimal n).toList) = '_' :: (decimal n).toList := by
      refine Text.trimBoth_eq_self (fun c hc => ?_) hlast
      cases hc
      decide
    exact (Text.trimBoth_append_left hblank _).trans hself
  | cons c rest =>
    refine ⟨c :: rest ++ [' '], ?_, ?_, Text.isNumeral_decimal n⟩
    · rw [Text.trimEnd_append_right (List.forall_mem_singleton.mpr rfl), htext]
    · have hself : trimBoth (c :: rest ++ ' ' :: '_' :: (decimal n).toList) =
          c :: rest ++ ' ' :: '_' :: (decimal n).toList := by
        refine Text.trimBoth_eq_self hhead fun d hd => hlast d ?_
        rw [List.getLast?_append, List.getLast?_cons_cons, List.getLast?_cons, Option.some_or] at hd
        rw [List.getLast?_cons]
        exact hd
      rw [hself, List.append_assoc]
      rfl

/-- **A lyric that is written down is read back.** -/
theorem read_written {text : List Char} (hhead : ∀ c, text.head? = some c → isBlank c = false)
    (htext : trimEnd text = text) (hn : '\n' ∉ text) {n : Nat} (hpos : n ≠ 0)
    (hw : isWritable n = true) (number : Int) :
    Lyric.read ⟨number, String.ofList text ++ " _" ++ decimal n⟩ =
      .ok ⟨String.ofList text, n, number⟩ := by
  obtain ⟨before, hbefore, hcut⟩ := exists_isCut_written hhead htext n
  have hparts := hcut.parts?_eq (by rw [hbefore]; exact hn)
  have htrimmed : (Line.mk number (String.ofList text ++ " _" ++ decimal n)).trimmed.toList =
      trimBoth (text ++ ' ' :: '_' :: (decimal n).toList) := by
    rw [Line.toList_trimmed]
    simp
  rw [← htrimmed, hbefore] at hparts
  unfold Lyric.read
  rw [hparts]
  dsimp only
  rw [readNumber_decimal hw]
  dsimp only
  rw [if_neg (by omega)]

/-- The text of a lyric is trimmed at both ends. -/
theorem text_of_isCut (h : IsCut l.trimmed.toList before digits) :
    (∀ c, (trimEnd before).head? = some c → isBlank c = false) ∧
      trimEnd (trimEnd before) = trimEnd before := by
  refine ⟨fun c hc => ?_, List.rdropWhile_idempotent _ _⟩
  have hprefix : trimEnd before <+: l.trimmed.toList := by
    rw [h.eq]
    exact (List.rdropWhile_prefix _ _).trans (List.prefix_append _ _)
  have hhead : l.trimmed.toList.head? = some c := by
    obtain ⟨rest, hrest⟩ := hprefix
    rw [← hrest, List.head?_append, hc]
    rfl
  rw [Line.toList_trimmed, Text.head?_trimBoth] at hhead
  exact Text.isBlank_head_trimStart hhead

end Lyric

/-- **How a lyric line is read.** It is read exactly if, trimmed, it is some text, an underscore and
    digits of any scripts, no more of them than can be read, that stand for a positive number; the text
    without the blanks at its end and the number are the lyric. There is only one such way to cut it.
    A line that cannot be cut, or whose digits stand for zero, is refused at its number; too many digits
    are a failure of their own. A lyric that was read is read again from its text and its number. -/
theorem lyric_line_is_cut_once (l : Line) (hn : '\n' ∉ l.text.toList) :
    (∀ y, Lyric.read l = .ok y ↔ ∃ before digits, Lyric.IsCut l.trimmed.toList before digits ∧
        digits.length ≤ digitLimit ∧ 1 ≤ numeralValue digits ∧
        y = ⟨String.ofList (trimEnd before), numeralValue digits, l.number⟩) ∧
      (∀ before digits before' digits', Lyric.IsCut l.trimmed.toList before digits →
        Lyric.IsCut l.trimmed.toList before' digits' → before = before' ∧ digits = digits') ∧
      ((¬ ∃ before digits, Lyric.IsCut l.trimmed.toList before digits) →
        ∃ e, Lyric.read l = .error e ∧ e.IsProblem [.missingLyricSpan] l.number) ∧
      (∀ before digits, Lyric.IsCut l.trimmed.toList before digits →
        (digitLimit < digits.length → Lyric.read l = .error (.numeral (.reading digits.length))) ∧
        (digits.length ≤ digitLimit → numeralValue digits = 0 →
          ∃ e, Lyric.read l = .error e ∧ e.IsProblem [.missingLyricSpan] l.number)) ∧
      ∀ y, Lyric.read l = .ok y → ∀ number,
        Lyric.read ⟨number, y.text ++ " _" ++ decimal y.span⟩ = .ok { y with line := number } := by
  have hnt := Line.newline_not_mem_trimmed hn
  refine ⟨fun y => Lyric.read_eq_ok_iff hn, fun _ _ _ _ h h' => h.unique h' hnt, fun hno => ?_,
    fun before digits hcut => ?_, fun y h number => ?_⟩
  · exact ⟨_, Lyric.read_of_not_isCut hno, _, List.mem_singleton.mpr rfl, rfl⟩
  · have hread := Lyric.read_of_isCut hcut (hcut.newline_not_mem hnt)
    refine ⟨fun hlen => ?_, fun hlen hzero => ?_⟩
    · rw [hread, if_pos hlen]
    · rw [if_neg (by omega), if_pos hzero] at hread
      exact ⟨_, hread, _, List.mem_singleton.mpr rfl, rfl⟩
  · obtain ⟨before, digits, hcut, hlen, hpos, rfl⟩ := (Lyric.read_eq_ok_iff hn).mp h
    obtain ⟨hhead, htext⟩ := Lyric.text_of_isCut hcut
    exact Lyric.read_written hhead htext (hcut.newline_not_mem hnt) (by omega)
      (Text.isWritable_of_lt (Text.numeralValue_lt digits) hlen) number

/-- A text with an underscore and digits of its own, and a span in digits of two scripts. -/
theorem lyric_line_with_two_scripts :
    Lyric.read ⟨7, " take _5, ho \t_1\u0663 "⟩ = .ok ⟨"take _5, ho", 13, 7⟩ ∧
      Lyric.read ⟨8, "take _5, ho" ++ " _" ++ decimal 13⟩ = .ok ⟨"take _5, ho", 13, 8⟩ := by
  have hread : Lyric.read ⟨7, " take _5, ho \t_1\u0663 "⟩ = .ok ⟨"take _5, ho", 13, 7⟩ := by
    decide +kernel
  have h := lyric_line_is_cut_once ⟨7, " take _5, ho \t_1\u0663 "⟩ (by decide)
  exact ⟨hread, h.2.2.2.2 _ hread 8⟩

end SongSheet
