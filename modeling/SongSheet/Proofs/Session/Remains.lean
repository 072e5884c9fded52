import SongSheet.Proofs.Session.Failures

/-!
# What a failed batch leaves

A session that a batch has failed on can be fed again, so it matters where the failure left it. A refused
line leaves it at the lines before it. There is one exception (`Session.RefusedAfter`): a directive line
after a pause has already ended the section before it when its value turns out wrong. A section that does
not come out even at the end of the batch stays open, and a batch without any section only comes to its
end.
-/

namespace SongSheet.Session

variable {settings : Settings} {σ τ τ' : Session} {l : Line} {ls : List Line} {e : Failure}

/-- The line is a directive that cannot be read, and it comes after a pause in the chords of `block`. -/
def RefusedAfter (settings : Settings) (τ : Session) (l : Line) (block : Block) : Prop :=
  (∃ number, τ.stage = .chords block (some number)) ∧ block.measures ≠ [] ∧
    Directive.isDirectiveLine l.text = true ∧ ∃ e, Directive.read settings l = .error e

/-- There is no pause outside a chord block, and none before the first blank line in one. -/
theorem RefusedAfter.pendingBlank?_ne_none {block : Block} (h : RefusedAfter settings τ l block) :
    τ.stage.pendingBlank? ≠ none := by
  obtain ⟨⟨number, hs⟩, _⟩ := h
  rw [hs]
  exact Option.some_ne_none number

/-- Only one block can be the one with the pause. -/
theorem RefusedAfter.eq_of_stage {block block' : Block} {number : Int}
    (h : RefusedAfter settings τ l block) (hs : τ.stage = .chords block' (some number)) :
    block = block' := by
  obtain ⟨⟨number', hs'⟩, _⟩ := h
  rw [hs] at hs'
  cases hs'
  rfl

/-! ## 1. One line -/

/-- Where a refused line leaves the session, if it was read at `τ`. -/
def LeftAt (settings : Settings) (l : Line) (τ τ' : Session) : Prop :=
  (∀ block, RefusedAfter settings τ l block → τ' = τ.closed (block.close [])) ∧
    ((∀ block, ¬ RefusedAfter settings τ l block) → τ' = τ)

theorem leftAt_self (h : ∀ block, ¬ RefusedAfter settings τ l block) : LeftAt settings l τ τ :=
  ⟨fun block hr => absurd hr (h block), fun _ => rfl⟩

theorem leftAt_self_of_pendingBlank? (h : τ.stage.pendingBlank? = none) :
    LeftAt settings l τ τ :=
  leftAt_self fun _ hr => hr.pendingBlank?_ne_none h

/-- **A refused line leaves the session as it found it**, or with the section ended that it found to be
    over. -/
theorem Fails.leftAt (h : Fails settings l e τ τ') : LeftAt settings l τ τ' := by
  cases h with
  | directive hs | unexpected hs =>
    apply leftAt_self_of_pendingBlank?
    cases hst : τ.stage with
    | chords block blank => rw [hst] at hs; cases hs
    | awaiting | lyrics | done => rfl
  | emptyLine hs hc hb hl he =>
    refine leftAt_self fun block' hr => ?_
    obtain rfl := hr.eq_of_stage hs
    obtain ⟨_, hm, hd, _⟩ := hr
    rcases hl with hl | hl
    · exact hm hl
    · rw [startsNext, hd] at hl
      cases hl
  | @next _ _ block number hs hm hc hl h =>
    cases h with
    | directive _ _ hd he =>
      refine ⟨fun block' hr => ?_, fun hno => ?_⟩
      · rw [hr.eq_of_stage hs]
      · exact absurd ⟨⟨number, hs⟩, hm, hd, e, he⟩ (hno block)
    | unexpected _ _ _ hl' =>
      rw [hl] at hl'
      cases hl'
    | emptyLine hs' | next hs' | measure hs' | lyric hs' | timing hs' => cases hs'
  | measure hs | lyric hs | timing hs =>
    apply leftAt_self_of_pendingBlank?
    rw [hs]
    rfl

/-! ## 2. Batches -/

/-- Lines of which one is refused leave the session where that line left it. -/
theorem readAll_session_of_fails {before after : List Line} (hr : Runs settings σ before τ)
    (hf : Fails settings l e τ τ') :
    (σ.readAll settings (before ++ l :: after)).session = τ' := by
  obtain ⟨hread, hτ'⟩ := read_of_fails hf
  obtain ⟨hbefore, hτ⟩ := runs_iff.mp hr
  rw [readAll_append, Step.andThen_of_none hbefore, hτ, readAll, Step.andThen_of_failure hread]
  exact hτ'

/-- A section that does not come out even stays open. -/
theorem closeOpen_finish_of_timing {s : Section} (hs : τ.stage.open? = some s)
    (ht : s.checkTiming = .error e) : (τ.closeOpen.andThen finish).session = τ := by
  have hclose : τ.closeOpen = τ.fail e := by
    rw [closeOpen, hs]
    dsimp only
    rw [close, ht]
  rw [hclose, Step.andThen_of_failure rfl]
  rfl

theorem closeOpen_finish_of_none (hs : τ.stage.open? = none) :
    (τ.closeOpen.andThen finish).session = { τ with stage := .done } := by
  have hclose : τ.closeOpen = τ.stay := by rw [closeOpen, hs]
  rw [hclose, stay_andThen]
  rfl

/-- **What a failed batch leaves**, whatever the session was fed before. Where a line is refused, it is the
    session after the lines before it, and at most the section the line found to be over has been ended.
    Where the open section does not come out even, it is the session after the last line. Where there is
    no section, it is that session with nothing but its stage changed. -/
theorem failed_batch_leaves {batches : List (List Line)}
    (h : ((after settings batches).feed settings ls).failure = some e) :
    (∃ before l rest τ, ls = before ++ l :: rest ∧
        ((after settings batches).readAll settings before).failure = none ∧
        ((after settings batches).readAll settings before).session = τ ∧
        (τ.read settings l).failure = some e ∧
        (∀ block, RefusedAfter settings τ l block →
          ((after settings batches).feed settings ls).session = τ.closed (block.close [])) ∧
        ((∀ block, ¬ RefusedAfter settings τ l block) →
          ((after settings batches).feed settings ls).session = τ)) ∨
      ∃ τ, ((after settings batches).readAll settings ls).failure = none ∧
        ((after settings batches).readAll settings ls).session = τ ∧
        ((∃ s, τ.stage.open? = some s ∧ s.checkTiming = .error e ∧
            ((after settings batches).feed settings ls).session = τ) ∨
          (e = .diagnostic Problem.noSections.overall ∧ τ.stage.open? = none ∧
            ((after settings batches).feed settings ls).session = { τ with stage := .done })) := by
  have hsound := sound_after settings batches
  generalize after settings batches = σ at h hsound ⊢
  have hfeed : σ.feed settings ls =
      (σ.readAll settings ls).andThen fun τ => τ.closeOpen.andThen finish :=
    Step.andThen_assoc _ _ _
  rw [hfeed] at h ⊢
  cases hf : (σ.readAll settings ls).failure with
  | some e' =>
    rw [Step.andThen_of_failure hf] at h ⊢
    rw [h] at hf
    cases hf
    obtain ⟨before, l, rest, τ, τ', rfl, hr, hfails⟩ := readAll_eq_some_iff.mp h
    rw [readAll_session_of_fails hr hfails]
    obtain ⟨hbefore, hτ⟩ := runs_iff.mp hr
    exact Or.inl ⟨before, l, rest, τ, rfl, hbefore, hτ, (read_of_fails hfails).1, hfails.leftAt⟩
  | none =>
    have hτ : Sound settings (σ.readAll settings ls).session := hsound.runs (runs_of_readAll hf)
    rw [Step.andThen_of_none hf] at h ⊢
    refine Or.inr ⟨_, rfl, rfl, ?_⟩
    rcases closeOpen_finish_eq_some_iff.mp h with ⟨s, hs, ht⟩ | ⟨_, hseen, rfl⟩
    · exact Or.inl ⟨s, hs, ht, closeOpen_finish_of_timing hs ht⟩
    · -- an open section would have been seen
      have hnone : (σ.readAll settings ls).session.stage.open? = none := by
        cases hs : (σ.readAll settings ls).session.stage.open? with
        | none => rfl
        | some s =>
          rw [hτ.seen.mpr (Or.inl (by rw [hs]; rfl))] at hseen
          cases hseen
      exact Or.inr ⟨rfl, hnone, closeOpen_finish_of_none hnone⟩

/-- A session was left with a pause in its chords by a line that may not follow one, and is fed again. The
    tempo out of range ends the section before it is refused, and the line after it is not looked at. -/
theorem failed_batch_leaves_short :
    ((after {} [[⟨1, "Verse"⟩, ⟨2, "C"⟩, ⟨3, ""⟩, ⟨4, "G;C"⟩]]).feed {}
        [⟨5, "@bpm 999"⟩, ⟨6, "Coda"⟩]).session =
      (after {} [[⟨1, "Verse"⟩, ⟨2, "C"⟩, ⟨3, ""⟩, ⟨4, "G;C"⟩]]).closed
        ⟨"Verse", [⟨[⟨"C", ⟨"C", "maj", none⟩, 2⟩], 2⟩], [], 1⟩ := by
  have hstage : (after {} [[⟨1, "Verse"⟩, ⟨2, "C"⟩, ⟨3, ""⟩, ⟨4, "G;C"⟩]]).stage =
      .chords ⟨"Verse", 1, [⟨[⟨"C", ⟨"C", "maj", none⟩, 2⟩], 2⟩]⟩ (some 3) := by decide +kernel
  have hread : Directive.read {} ⟨5, "@bpm 999"⟩ = .error (.diagnostic
      ((Problem.invalidValue "bpm" "999" "an integer between 40 and 300").on 5)) := by decide +kernel
  have hfirst : ((after {} [[⟨1, "Verse"⟩, ⟨2, "C"⟩, ⟨3, ""⟩, ⟨4, "G;C"⟩]]).readAll {}
      [⟨5, "@bpm 999"⟩]).failure ≠ none := by decide +kernel
  have h : ((after {} [[⟨1, "Verse"⟩, ⟨2, "C"⟩, ⟨3, ""⟩, ⟨4, "G;C"⟩]]).feed {}
      [⟨5, "@bpm 999"⟩, ⟨6, "Coda"⟩]).failure = some (.diagnostic
      ((Problem.invalidValue "bpm" "999" "an integer between 40 and 300").on 5)) := by decide +kernel
  have hlines : ((after {} [[⟨1, "Verse"⟩, ⟨2, "C"⟩, ⟨3, ""⟩, ⟨4, "G;C"⟩]]).readAll {}
      [⟨5, "@bpm 999"⟩, ⟨6, "Coda"⟩]).failure ≠ none := by decide +kernel
  have hleft := failed_batch_leaves h
  generalize after {} [[⟨1, "Verse"⟩, ⟨2, "C"⟩, ⟨3, ""⟩, ⟨4, "G;C"⟩]] = σ at hstage hfirst hlines hleft ⊢
  rcases hleft with ⟨before, l, rest, τ, hls, hbefore, rfl, _, hended, _⟩ | ⟨τ, hall, _⟩
  · rcases before with _ | ⟨x, _ | ⟨y, before⟩⟩
    · obtain ⟨rfl, rfl⟩ := List.cons.inj hls
      exact hended _ ⟨⟨3, hstage⟩, by simp, by decide, _, hread⟩
    · obtain ⟨rfl, _⟩ := List.cons.inj hls
      exact absurd hbefore hfirst
    · simp at hls
  · exact absurd hall hlines

end SongSheet.Session
