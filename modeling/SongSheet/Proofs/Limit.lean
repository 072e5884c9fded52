import SongSheet.Proofs.Compile
import SongSheet.Proofs.Session.Failures
import SongSheet.Proofs.Text.Numeral

/-!
# Below the digit limit

A compilation may break off without a diagnostic only over a number that is too long, to be read or
to be written. A text that holds no more digits than the limit allows never comes to that
(`compile_below_limit`). Each numeral on a line is short enough then, and so is the one number that
is not written on any line: what the lyrics of a section cover together. It has no more digits than
the lines of these lyrics (`Session.Measured`).
-/

namespace SongSheet

open Text (isDigit digitLimit pieces)

/-! ## 1. The digits of a text -/

/-- How many decimal digits stand on lines. -/
def digitCount (ls : List Line) : Nat := (ls.map Line.digitCount).sum

theorem digitCount_append (ls ls' : List Line) :
    digitCount (ls ++ ls') = digitCount ls + digitCount ls' := by
  simp [digitCount]

@[simp] theorem digitCount_singleton (l : Line) : digitCount [l] = l.digitCount := by
  simp [digitCount]

/-- Cutting loses the character it cuts at and no other. -/
theorem sum_countP_pieces {cut : Char} {p : Char → Bool} (hcut : p cut = false) (cs : List Char) :
    ((pieces cut cs).map (·.countP p)).sum = cs.countP p := by
  induction cs with
  | nil => simp [pieces]
  | cons c cs ih =>
    unfold pieces
    by_cases hc : c = cut
    · rw [if_pos hc, List.map_cons, List.sum_cons, ih, hc]
      simp [hcut]
    · rw [if_neg hc, List.countP_cons, ← ih]
      cases hp : pieces cut cs with
      | nil => exact absurd hp (Text.pieces_ne_nil cut cs)
      | cons first rest =>
        simp only [List.modifyHead_cons, List.map_cons, List.sum_cons, List.countP_cons]
        omega

namespace Line

theorem joinEndings_sublist : ∀ cs : List Char, (joinEndings cs).Sublist cs
  | [] => .slnil
  | c :: cs => by
      unfold joinEndings
      split
      · rename_i rest heq
        cases heq
        exact ((joinEndings_sublist rest).cons_cons '\n').cons '\r'
      · rename_i heq
        cases heq
        exact (joinEndings_sublist cs).cons_cons c
      · rename_i heq
        cases heq

theorem dropByteOrderMark_sublist (cs : List Char) : (dropByteOrderMark cs).Sublist cs := by
  unfold dropByteOrderMark
  split
  · exact List.sublist_cons_self _ _
  · exact List.Sublist.refl _

theorem isDigit_unifyEnding (c : Char) : isDigit (unifyEnding c) = isDigit c := by
  unfold unifyEnding
  split
  · rename_i hc
    rw [hc]
    decide
  · rfl

/-- **The lines of a text hold no digit that the text does not hold.** -/
theorem digitCount_scan_le (text : String) :
    SongSheet.digitCount (scan text) ≤ text.toList.countP isDigit := by
  have htexts : (scan text).map digitCount = (split text).map fun t => t.toList.countP isDigit := by
    have hmap := map_text_numbered 1 (split text)
    calc (scan text).map digitCount
        = ((scan text).map (·.text)).map fun t => t.toList.countP isDigit := by
          rw [List.map_map]
          rfl
      _ = (split text).map fun t => t.toList.countP isDigit := by rw [scan, hmap]
  have hpieces : ∀ ps : List (List Char),
      ((ps.map String.ofList).map fun t => t.toList.countP isDigit) =
        ps.map (·.countP isDigit) := by
    intro ps
    rw [List.map_map]
    exact List.map_congr_left fun p _ => by simp
  have hunify : (isDigit ∘ unifyEnding) = isDigit := funext isDigit_unifyEnding
  rw [SongSheet.digitCount, htexts, split, hpieces, sum_countP_pieces (by decide), List.countP_map,
    hunify]
  exact ((joinEndings_sublist _).trans (dropByteOrderMark_sublist _)).countP_le

end Line

/-- The span of a lyric line has no more digits than the line. -/
theorem Lyric.span_lt_of_read {l : Line} {y : Lyric} (h : Lyric.read l = .ok y) :
    y.span.toNat < 10 ^ l.digitCount := by
  unfold Lyric.read at h
  split at h
  · cases h
  · rename_i text digits hparts
    split at h
    · cases h
    · rename_i span hspan
      split at h
      · cases h
      · cases h
        calc span.toNat = Text.numeralValue digits := by
              rw [readNumber_eq_ok hspan, Int.toNat_natCast]
          _ < 10 ^ digits.length := Text.numeralValue_lt digits
          _ ≤ 10 ^ l.digitCount := Nat.pow_le_pow_right (by decide) (Lyric.length_digits_le hparts)

/-! ## 2. What a section comes to -/

namespace Session

variable {settings : Settings} {σ σ' : Session} {l : Line} {ls : List Line} {e : Failure}

/-- **The open section is no more than the lines give**: its lyrics cover a number with no more digits
    than there are on them, and it has no more measures than there are lines. -/
def Measured (ls : List Line) (σ : Session) : Prop :=
  ∀ s, σ.stage.open? = some s → 0 ≤ s.claimed ∧ s.claimed.toNat < 10 ^ digitCount ls ∧
    s.measures.length ≤ ls.length

theorem Measured.of_none (h : σ.stage.open? = none) : Measured ls σ := by
  intro s hs
  rw [h] at hs
  cases hs

/-- Without lyrics there is nothing to add up. -/
theorem Measured.of_block {block : Block} (hs : σ.stage.open? = some (block.close []))
    (hm : block.measures.length ≤ ls.length) : Measured ls σ := by
  intro s hs'
  rw [hs] at hs'
  cases hs'
  exact ⟨Int.le_refl 0, Nat.pow_pos (by decide), hm⟩

/-- A line that leaves the section as it is. -/
theorem Measured.snoc (h : Measured ls σ) (ho : σ'.stage.open? = σ.stage.open?) (l : Line) :
    Measured (ls ++ [l]) σ' := by
  intro s hs
  rw [ho] at hs
  obtain ⟨hpos, hlt, hm⟩ := h s hs
  have hpow : 10 ^ digitCount ls ≤ 10 ^ digitCount (ls ++ [l]) := by
    rw [digitCount_append]
    exact Nat.pow_le_pow_right (by decide) (Nat.le_add_right _ _)
  refine ⟨hpos, by omega, ?_⟩
  rw [List.length_append]
  omega

/-- **Every rule keeps it**: a chord line is one line and one measure, and a lyric line adds a span
    that is written on it. -/
theorem Measured.reads (hr : Reads settings l σ σ') (h : Measured ls σ) :
    Measured (ls ++ [l]) σ' := by
  induction hr with
  | comment _ => exact h.snoc rfl l
  | blank _ _ => exact h.snoc rfl l
  | directive _ _ _ _ => exact h.snoc (by rw [take_stage]) l
  | header _ _ _ => exact .of_block rfl (Nat.zero_le _)
  | pause hs _ => exact h.snoc (by rw [hs]; rfl) l
  | next _ _ _ _ _ ih => exact ih (.of_none rfl)
  | mark hs _ _ => exact h.snoc (by rw [hs]; rfl) l
  | @measure σ block m hs _ _ _ _ =>
    obtain ⟨_, _, hm⟩ := h (block.close []) (by rw [hs]; rfl)
    refine .of_block rfl ?_
    have hm' : block.measures.length ≤ ls.length := hm
    simp only [List.length_append, List.length_singleton]
    omega
  | @lyric σ block sung y hs hy =>
    obtain ⟨hpos, hlt, hm⟩ := h (block.close sung) (by rw [hs]; rfl)
    have hspan := (Lyric.read_eq_ok hy).2.1
    intro s ho
    cases ho
    rw [Block.claimed_snoc, digitCount_append, digitCount_singleton,
      Int.toNat_add hpos (by omega)]
    refine ⟨by omega, Text.add_lt_pow_add hlt (Lyric.span_lt_of_read hy), ?_⟩
    have hm' : block.measures.length ≤ ls.length := hm
    rw [List.length_append]
    exact Nat.le_add_right_of_le hm'
  | rest _ _ _ => exact .of_none rfl

theorem measured_of_runs (hr : Runs settings {} ls σ) : Measured ls σ :=
  runs_keeps (P := Measured) (.of_none rfl) (fun _ hl h => h.reads hl) hr

/-! ## 3. Failures are diagnostics -/

/-- A line list short enough, and with few enough digits on it. -/
structure BelowLimit (ls : List Line) : Prop where
  digits : digitCount ls ≤ digitLimit
  lines : ls.length < 10 ^ digitLimit

theorem BelowLimit.of_append {ls' : List Line} (h : BelowLimit (ls ++ ls')) : BelowLimit ls where
  digits := by
    have := h.digits
    rw [digitCount_append] at this
    omega
  lines := by
    have := h.lines
    rw [List.length_append] at this
    omega

/-- A section that does not come out even can be said to. -/
theorem Measured.isDiagnostic {s : Section} (h : Measured ls σ) (hls : BelowLimit ls)
    (hs : σ.stage.open? = some s) (ht : s.checkTiming = .error e) : ∃ d, e = .diagnostic d := by
  obtain ⟨hpos, hlt, hm⟩ := h s hs
  have hclaimed : Text.isWritable s.claimed = true := by
    rw [← Int.toNat_of_nonneg hpos]
    exact Text.isWritable_of_lt hlt hls.digits
  have hmeasures : Text.isWritable s.measures.length = true :=
    Text.isWritable_of_lt (Nat.lt_of_le_of_lt hm hls.lines) (Nat.le_refl _)
  obtain ⟨y, ys, _, ⟨p, _, he⟩ | ⟨_, hw⟩⟩ := Section.checkTiming_eq_error ht
  · exact ⟨_, he⟩
  · exact absurd ⟨hclaimed, hmeasures⟩ hw

/-- **A line that is refused is refused with a diagnostic.** -/
theorem Fails.isDiagnostic (h : Fails settings l e σ σ') (hw : settings.IsWritable)
    (hσ : Measured ls σ) (hls : BelowLimit (ls ++ [l])) : ∃ d, e = .diagnostic d := by
  have hl : l.digitCount ≤ digitLimit := by
    have := hls.digits
    rw [digitCount_append, digitCount_singleton] at this
    omega
  induction h with
  | directive _ _ _ hd =>
    rcases Directive.read_eq_error hd with ⟨_, hlen | hw'⟩ | ⟨p, _, he⟩
    · omega
    · exact absurd hw hw'
    · exact ⟨_, he⟩
  | unexpected _ _ _ _ he => exact ⟨_, he⟩
  | emptyLine _ _ _ _ he => exact ⟨_, he⟩
  | next _ _ _ _ _ ih => exact ih (.of_none rfl)
  | measure _ _ _ _ hm =>
    obtain ⟨p, _, he⟩ := Measure.read_eq_error hm
    exact ⟨_, he⟩
  | lyric _ _ _ hy =>
    rcases Lyric.read_eq_error hy with ⟨_, hlen⟩ | ⟨p, _, he⟩
    · omega
    · exact ⟨_, he⟩
  | timing hs _ ht => exact hσ.isDiagnostic hls.of_append (by rw [hs]; rfl) ht

theorem Stops.isDiagnostic (h : Stops settings {} ls e) (hw : settings.IsWritable)
    (hls : BelowLimit ls) : ∃ d, e = .diagnostic d := by
  cases h with
  | @line before after l τ τ' _ hr hf =>
    have happ : before ++ l :: after = (before ++ [l]) ++ after := by simp
    rw [happ] at hls
    exact hf.isDiagnostic hw (measured_of_runs hr) hls.of_append
  | timing hr hs ht => exact (measured_of_runs hr).isDiagnostic hls hs ht
  | noSections _ _ _ => exact ⟨_, rfl⟩

end Session

/-! ## 4. Texts -/

/-- **Below the digit limit nothing breaks off.** A text of no more digits and not more lines than can
    be written compiles or is refused with a diagnostic, and an attempt at it answers with one of the
    two: the document as data or the diagnostic as an error, and never both. -/
theorem compile_below_limit {settings : Settings} {text : String} (hw : settings.IsWritable)
    (hdigits : text.toList.countP isDigit ≤ digitLimit)
    (hlines : (Line.scan text).length < 10 ^ digitLimit) :
    (∃ document, (compile settings text).result = .ok document ∧
        ∃ a, (attempt settings text).result = .ok a ∧ a.data? = some document.toJson ∧
          a.error? = none) ∨
      ∃ d, (compile settings text).result = .error (.diagnostic d) ∧
        ∃ a, (attempt settings text).result = .ok a ∧ a.data? = none ∧
          a.error? = some d.toJson := by
  have hls : Session.BelowLimit (Line.scan text) :=
    ⟨Nat.le_trans (Line.digitCount_scan_le text) hdigits, hlines⟩
  cases h : (compile settings text).result with
  | ok document =>
    refine Or.inl ⟨document, rfl, .compiled document, ?_, rfl, rfl⟩
    simp [attempt, h]
  | error e =>
    have hstops := Session.feed_eq_error_iff.mp (compile_eq_error_iff.mp h)
    obtain ⟨d, rfl⟩ := hstops.isDiagnostic hw hls
    refine Or.inr ⟨d, rfl, .refused d, ?_, rfl, rfl⟩
    simp [attempt, h]

/-- Lyrics that cover too much are refused, and the attempt answers with the diagnostic. -/
theorem compile_below_limit_uneven :
    ∃ a, (attempt {} "Verse\nC\n--\nLa _2\nLo _3").result = .ok a ∧ a.data? = none ∧
      a.error? = some ((Problem.timing "Verse" 5 1).on 4).toJson := by
  have hd : (compile {} "Verse\nC\n--\nLa _2\nLo _3").result =
      .error (.diagnostic ((Problem.timing "Verse" 5 1).on 4)) := by decide +kernel
  have hw : Settings.IsWritable {} := ⟨by decide +kernel, by decide +kernel⟩
  have hdigits : "Verse\nC\n--\nLa _2\nLo _3".toList.countP isDigit ≤ digitLimit := by decide +kernel
  have hlines : (Line.scan "Verse\nC\n--\nLa _2\nLo _3").length < 10 ^ digitLimit := by
    decide +kernel
  rcases compile_below_limit hw hdigits hlines with ⟨document, hok, _⟩ | ⟨d, herror, hattempt⟩
  · rw [hd] at hok
    cases hok
  · rw [hd] at herror
    cases herror
    exact hattempt

end SongSheet
