import SongSheet.Proofs.Session.Failures

/-!
# Failures are final

Lines that were refused stay refused, whatever comes after them. Where a line is refused this is
plain, since no line after it is looked at. What fails at the end of a batch is another matter: more
lines might still have made a song of it. There are two such failures. Lines without a section may go
on with one. Lyrics that do not come out even may go on with more lyrics, but not after a blank line,
which ends their section just as the end of the batch does (`Stops.append_blank`).
-/

namespace SongSheet

/-- The code of the diagnostic, if the failure is one. -/
def Failure.code? : Failure → Option Code
  | .diagnostic d => some d.code
  | .numeral _ | .unknownKey _ => none

namespace Session

variable {settings : Settings} {σ : Session} {ls : List Line} {e : Failure}

/-- Only a section with lyrics can come out uneven, so the lyrics are being read. -/
theorem stage_of_checkTiming_eq_error {s : Section} (hs : σ.stage.open? = some s)
    (ht : s.checkTiming = .error e) :
    ∃ block sung, σ.stage = .lyrics block sung ∧ s = block.close sung := by
  obtain ⟨first, rest, hlyrics, _⟩ := Section.checkTiming_eq_error ht
  cases hst : σ.stage with
  | awaiting => rw [hst] at hs; cases hs
  | done => rw [hst] at hs; cases hs
  | chords block blank =>
    rw [hst] at hs
    cases hs
    cases hlyrics
  | lyrics block sung =>
    rw [hst] at hs
    cases hs
    exact ⟨block, sung, rfl, rfl⟩

/-- A failure of timing has the code of one, unless a number is too long to be written. -/
theorem code?_of_checkTiming_eq_error {s : Section} (ht : s.checkTiming = .error e) :
    e.code? = none ∨ e.code? = some .lyricTimingMismatch := by
  obtain ⟨first, rest, _, ⟨p, hp, rfl⟩ | ⟨⟨limit, rfl⟩, _⟩⟩ := Section.checkTiming_eq_error ht
  · exact Or.inr (congrArg some (List.mem_singleton.mp hp))
  · exact Or.inl rfl

/-- A line that is refused is refused whatever comes after it. -/
theorem stops_append_of_line {before after : List Line} {l : Line} {τ τ' : Session}
    (hr : Runs settings σ before τ) (hf : Fails settings l e τ τ') (more : List Line) :
    Stops settings σ ((before ++ l :: after) ++ more) e := by
  have happ : (before ++ l :: after) ++ more = before ++ l :: (after ++ more) := by simp
  rw [happ]
  exact .line hr hf

/-- **After a blank line nothing helps**, unless there was no section at all. -/
theorem Stops.append_blank (h : Stops settings σ ls e) (hcode : e.code? ≠ some .noSections)
    {z : Line} (hz : z.isBlank = true) (more : List Line) :
    Stops settings σ (ls ++ z :: more) e := by
  cases h with
  | line hr hf => exact stops_append_of_line hr hf (z :: more)
  | timing hr hs ht =>
    obtain ⟨block, sung, hst, rfl⟩ := stage_of_checkTiming_eq_error hs ht
    exact .line hr (.timing hst hz ht)
  | noSections _ _ _ => exact absurd rfl hcode

/-- **Any line may come after a diagnostic** that is neither about timing nor about the song as a
    whole. -/
theorem Stops.append {d : Diagnostic} (h : Stops settings σ ls (.diagnostic d))
    (hsections : d.code ≠ .noSections) (htiming : d.code ≠ .lyricTimingMismatch)
    (more : List Line) : Stops settings σ (ls ++ more) (.diagnostic d) := by
  cases h with
  | line hr hf => exact stops_append_of_line hr hf more
  | timing _ _ ht =>
    rcases code?_of_checkTiming_eq_error ht with hnone | hcode
    · cases hnone
    · exact absurd (Option.some.inj hcode) htiming
  | noSections _ _ _ => exact absurd rfl hsections

end Session

/-- **Lines that were refused stay refused.** After a blank line this holds of every failure but the one
    of lines without a section; of a diagnostic that is not about timing it holds without the blank
    line. -/
theorem refused_lines_stay_refused {settings : Settings} {ls : List Line} {e : Failure}
    (h : (Song.read settings ls).result = .error e) (hcode : e.code? ≠ some .noSections) :
    (∀ z more, z.isBlank = true → (Song.read settings (ls ++ [z] ++ more)).result = .error e) ∧
      ∀ d, e = .diagnostic d → d.code ≠ .lyricTimingMismatch →
        ∀ more, (Song.read settings (ls ++ more)).result = .error e := by
  have hstops : Session.Stops settings {} ls e := Session.feed_eq_error_iff.mp h
  refine ⟨fun z more hz => ?_, ?_⟩
  · rw [List.append_assoc, List.singleton_append]
    exact Session.feed_eq_error_iff.mpr (hstops.append_blank hcode hz more)
  · rintro d rfl htiming more
    have hsections : d.code ≠ .noSections := fun hc => hcode (congrArg some hc)
    exact Session.feed_eq_error_iff.mpr (hstops.append hsections htiming more)

/-- Lyrics that claim too little are refused for good once a blank line has come, though one more lyric
    line before it would have made them even. A chord that cannot be read is refused at once. -/
theorem refused_lines_stay_refused_short :
    (Song.read {} [⟨1, "Verse"⟩, ⟨2, "C"⟩, ⟨3, "G"⟩, ⟨4, "--"⟩, ⟨5, "La _1"⟩, ⟨6, " "⟩,
        ⟨7, "Lo _1"⟩]).result = .error (.diagnostic ((Problem.timing "Verse" 1 2).on 5)) ∧
      (Song.read {} [⟨1, "Verse"⟩, ⟨2, "H"⟩, ⟨3, "--"⟩]).result =
        .error (.diagnostic ((Problem.chordRoot "H").on 2)) := by
  constructor
  · have h : (Song.read {} [⟨1, "Verse"⟩, ⟨2, "C"⟩, ⟨3, "G"⟩, ⟨4, "--"⟩, ⟨5, "La _1"⟩]).result =
        .error (.diagnostic ((Problem.timing "Verse" 1 2).on 5)) := by decide +kernel
    exact (refused_lines_stay_refused h (by decide)).1 ⟨6, " "⟩ [⟨7, "Lo _1"⟩] (by decide)
  · have h : (Song.read {} [⟨1, "Verse"⟩, ⟨2, "H"⟩]).result =
        .error (.diagnostic ((Problem.chordRoot "H").on 2)) := by decide +kernel
    exact (refused_lines_stay_refused h (by decide)).2 _ rfl (by decide) [⟨3, "--"⟩]

end SongSheet
