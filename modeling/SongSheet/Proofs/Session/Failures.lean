import SongSheet.Proofs.Line.Refusal
import SongSheet.Proofs.Session.Invariant

/-!
# Where a batch stops

A batch that gives no song has stopped at a line that a rule refuses, or at its end: the open section
does not come out even there, or there is no section at all. `Session.Stops` has a rule for each, and
`Session.feed_eq_error_iff` says that there is no other way.

A failure may be about a line that was read long before. Two things are remembered for that: the
number of a blank line whose meaning is open (`Session.BlankBehind`), and the lyrics of the open
section, of which the first is pointed at when the timing is wrong.
-/

namespace SongSheet

/-! ## 1. Timing -/

theorem Section.checkTiming_eq_error {s : Section} {e : Failure} (h : s.checkTiming = .error e) :
    ∃ first rest, s.lyrics = first :: rest ∧
      (e.IsProblem [.lyricTimingMismatch] first.line ∨
        (e.IsNumeral ∧ ¬ (Text.isWritable s.claimed = true ∧
          Text.isWritable s.measures.length = true))) := by
  unfold Section.checkTiming at h
  split at h
  · cases h
  · rename_i first rest hlyrics
    refine ⟨first, rest, hlyrics, ?_⟩
    split at h
    · cases h
    · split at h
      · exact Or.inl (.of_raise (by simp [Problem.code]) h)
      · rename_i hw
        cases h
        rw [Bool.and_eq_true] at hw
        exact Or.inr ⟨⟨_, rfl⟩, hw⟩

namespace Session

variable {settings : Settings} {σ σ' : Session} {l : Line} {ls : List Line} {e : Failure}

/-! ## 2. Why a batch gives no song -/

/-- **The batch stops with `e`**: one rule for each place where it can. -/
inductive Stops (settings : Settings) (σ : Session) : List Line → Failure → Prop where
  /-- A line is refused, after others were read. -/
  | line {before after : List Line} {l : Line} {τ τ' : Session} {e : Failure}
      (hr : Runs settings σ before τ) (hf : Fails settings l e τ τ') :
      Stops settings σ (before ++ l :: after) e
  /-- The section still open at the end does not come out even. -/
  | timing {ls : List Line} {τ : Session} {s : Section} {e : Failure} (hr : Runs settings σ ls τ)
      (hs : τ.stage.open? = some s) (ht : s.checkTiming = .error e) : Stops settings σ ls e
  | noSections {ls : List Line} {τ : Session} (hr : Runs settings σ ls τ)
      (hs : ∀ s, τ.stage.open? = some s → s.IsBalanced) (hseen : τ.seenSection = false) :
      Stops settings σ ls (.diagnostic Problem.noSections.overall)

/-- Every refusal is one the function finds. -/
theorem read_of_fails (h : Fails settings l e σ σ') :
    (σ.read settings l).failure = some e ∧ (σ.read settings l).session = σ' := by
  induction h with
  | directive hs hc hl hd =>
    have hb := Line.isBlank_eq_false_of_isDirectiveLine hl
    rw [read_outside (skips_eq_false_of_not_isComment hc) hs, await]
    simp [hb, hl, hd, fail]
  | unexpected hs hc hb hl he =>
    rw [startsNext, Bool.or_eq_false_iff] at hl
    rw [read_outside (skips_eq_false_of_not_isComment hc) hs, await]
    simp [hb, hl.1, hl.2, refuse, fail, he]
  | @emptyLine σ block number hs hc hb hl he =>
    have hcond : (!block.measures.isEmpty && startsNext settings l) = false := by
      rcases hl with hl | hl
      · rw [List.isEmpty_iff.mpr hl]
        rfl
      · rw [hl, Bool.and_false]
    rw [read_chords (skips_eq_false_of_not_isComment hc) hs, readChords, hb]
    simp only [Bool.false_eq_true, if_false, hcond]
    exact ⟨by rw [he]; rfl, rfl⟩
  | next hs hm hc hl _ ih =>
    rw [read_next hs hm hc hl]
    exact ih
  | measure hs hc hb hl hm =>
    rw [read_chords (skips_eq_false_of_not_isComment hc) hs, readChords, hb]
    simp [hl, hm, fail]
  | lyric hs hk hb hy =>
    rw [read_lyrics hk hs, readLyrics, hb]
    simp [hy, fail]
  | timing hs hb ht =>
    rw [read_lyrics (skips_eq_false_of_isBlank hb) hs, readLyrics, if_pos hb, close, ht]
    exact ⟨rfl, rfl⟩

/-- Lines of which one is refused. -/
theorem readAll_eq_some_iff :
    (σ.readAll settings ls).failure = some e ↔
      ∃ before l after τ τ', ls = before ++ l :: after ∧ Runs settings σ before τ ∧
        Fails settings l e τ τ' := by
  constructor
  · intro h
    induction ls generalizing σ with
    | nil => cases h
    | cons x ls ih =>
      rcases read_follows settings σ x with ⟨hf, hr⟩ | ⟨e', hf, hr⟩
      · rw [readAll, Step.andThen_of_none hf] at h
        obtain ⟨before, l, after, τ, τ', rfl, hruns, hfails⟩ := ih h
        exact ⟨x :: before, l, after, τ, τ', rfl, .cons hr hruns, hfails⟩
      · rw [readAll, Step.andThen_of_failure hf, hf] at h
        cases h
        exact ⟨[], x, ls, σ, _, rfl, .nil, hr⟩
  · rintro ⟨before, l, after, τ, τ', rfl, hr, hf⟩
    rw [hr.failure_append, readAll, Step.andThen_of_failure (read_of_fails hf).1]
    exact (read_of_fails hf).1

/-- What the end of a batch makes of a session. -/
theorem closeOpen_finish_eq_some_iff :
    (σ.closeOpen.andThen finish).failure = some e ↔
      (∃ s, σ.stage.open? = some s ∧ s.checkTiming = .error e) ∨
        ((∀ s, σ.stage.open? = some s → s.IsBalanced) ∧ σ.seenSection = false ∧
          e = .diagnostic Problem.noSections.overall) := by
  have hfinish : ∀ τ : Session, τ.finish.failure = some e ↔
      τ.seenSection = false ∧ e = .diagnostic Problem.noSections.overall := by
    intro τ
    unfold finish
    cases τ.seenSection <;> simp [eq_comm]
  unfold closeOpen
  cases ho : σ.stage.open? with
  | none =>
    rw [stay_andThen, hfinish]
    simp
  | some s =>
    cases ht : s.checkTiming with
    | error e' =>
      have hbal : ¬ s.IsBalanced := by
        intro hbal
        rw [Section.checkTiming_of_isBalanced hbal] at ht
        cases ht
      simp [close, ht, Step.andThen, fail, hbal]
    | ok t =>
      have hbal := (Section.isBalanced_of_checkTiming ht).2
      simp only [close_of_isBalanced σ hbal]
      rw [Step.andThen_of_none rfl, hfinish]
      simp [ht, hbal, closed]

/-- **A batch stops by one of the rules, or not at all.** -/
theorem feed_eq_error_iff :
    (σ.feed settings ls).report.result = .error e ↔ Stops settings σ ls e := by
  have hreport : ∀ r : Step, r.report.result = .error e ↔ r.failure = some e := by
    intro r
    unfold Step.report
    cases r.failure <;> simp
  rw [hreport, feed, Step.andThen_assoc]
  constructor
  · intro h
    cases hf : (σ.readAll settings ls).failure with
    | some e' =>
      rw [Step.andThen_of_failure hf, hf] at h
      cases h
      obtain ⟨before, l, after, τ, τ', rfl, hr, hfails⟩ := readAll_eq_some_iff.mp hf
      exact .line hr hfails
    | none =>
      rw [Step.andThen_of_none hf] at h
      rcases closeOpen_finish_eq_some_iff.mp h with ⟨s, hs, ht⟩ | ⟨hs, hseen, rfl⟩
      · exact .timing (runs_of_readAll hf) hs ht
      · exact .noSections (runs_of_readAll hf) hs hseen
  · intro h
    cases h with
    | @line before after l τ τ' _ hr hfails =>
      have hf := readAll_eq_some_iff.mpr ⟨before, l, after, τ, τ', rfl, hr, hfails⟩
      rw [Step.andThen_of_failure hf]
      exact hf
    | timing hr hs ht =>
      obtain ⟨hf, hτ⟩ := runs_iff.mp hr
      rw [Step.andThen_of_none hf, hτ]
      exact closeOpen_finish_eq_some_iff.mpr (Or.inl ⟨_, hs, ht⟩)
    | noSections hr hs hseen =>
      obtain ⟨hf, hτ⟩ := runs_iff.mp hr
      rw [Step.andThen_of_none hf, hτ]
      exact closeOpen_finish_eq_some_iff.mpr (Or.inr ⟨hs, hseen, rfl⟩)

/-! ## 3. What a failure may look back at -/

/-- The blank line whose meaning is open is one of the lines read. -/
def BlankBehind (ls : List Line) (σ : Session) : Prop :=
  ∀ number, σ.stage.pendingBlank? = some number → ∃ z ∈ ls, z.isBlank = true ∧ z.number = number

theorem BlankBehind.of_none {ls : List Line} (h : σ.stage.pendingBlank? = none) :
    BlankBehind ls σ := by
  intro number hn
  rw [h] at hn
  cases hn

theorem BlankBehind.snoc {ls : List Line} (h : BlankBehind ls σ)
    (hp : σ'.stage.pendingBlank? = σ.stage.pendingBlank?) (l : Line) :
    BlankBehind (ls ++ [l]) σ' := by
  intro number hn
  rw [hp] at hn
  obtain ⟨z, hz, hb, hnumber⟩ := h number hn
  exact ⟨z, List.mem_append_left _ hz, hb, hnumber⟩

/-- **Every rule keeps it**: a pause remembers its own line, unless it comes after another. -/
theorem BlankBehind.reads {ls : List Line} (hr : Reads settings l σ σ') (h : BlankBehind ls σ) :
    BlankBehind (ls ++ [l]) σ' := by
  induction hr with
  | comment _ => exact h.snoc rfl l
  | blank _ _ => exact h.snoc rfl l
  | directive _ _ _ _ => exact h.snoc (by rw [take_stage]) l
  | header _ _ _ => exact .of_none rfl
  | @pause σ block blank hs hb =>
    cases blank with
    | some number => exact h.snoc (by rw [hs]; rfl) l
    | none =>
      intro number hn
      cases hn
      exact ⟨l, List.mem_append_right _ List.mem_cons_self, hb, rfl⟩
  | next _ _ _ _ _ ih => exact ih (.of_none rfl)
  | mark _ _ _ => exact .of_none rfl
  | measure _ _ _ _ _ => exact .of_none rfl
  | lyric _ _ => exact .of_none rfl
  | rest _ _ _ => exact .of_none rfl

theorem blankBehind_of_runs (hr : Runs settings {} ls σ) : BlankBehind ls σ :=
  runs_keeps (P := BlankBehind) (.of_none rfl) (fun _ hl h => h.reads hl) hr

end Session

end SongSheet
