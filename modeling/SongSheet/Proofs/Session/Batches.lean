import SongSheet.Proofs.Session.Settled

/-!
# The end of a batch is a blank line

A session may be fed a song in batches. The end of a batch ends the open section, as a blank line
would, so that the batches come to the same song as their lines in one run with a blank line at each
end of a batch (`feed_iff_read_joined`). The one exception is a header alone: the end of a batch makes
it a section without chords, and a blank line does not.

The two readers are not in the same state. After chords, the one that reads batches has closed the
section and the other has not, and this lasts for as long as blank lines, comments and directives
are all that follows. `Session.Tracks` is what they share all the while: it holds at every end of a
batch (`Ends.settles`), every line keeps it (`Tracks.reads`, `Tracks.reads_back`), and the next
header brings them together again.
-/

namespace SongSheet

/-- A header alone: a chord block without chords. -/
def Stage.isBare : Stage → Bool
  | .chords block _ => block.measures.isEmpty
  | .awaiting | .lyrics _ _ | .done => false

namespace Session

variable {settings : Settings} {σ σ' τ ρ ρ' : Session} {l : Line} {song : Song}

theorem isBare_of_open?_eq_none (hs : σ.stage.open? = none) : σ.stage.isBare = false := by
  cases hst : σ.stage with
  | awaiting => rfl
  | done => rfl
  | chords block blank => rw [hst] at hs; cases hs
  | lyrics block sung => rw [hst] at hs; cases hs

/-! ## 1. Two sessions in step -/

/-- **Two sessions between which no line tells apart**: they are the same, or both are ready for a
    directive or a header, `ρ` perhaps with its last section still to be closed. -/
inductive Tracks : Session → Session → Prop where
  | same {σ : Session} : Tracks σ σ
  | between {σ ρ τ : Session} (hσ : σ.stage.open? = none) (h : Settles ρ τ)
      (hsong : τ.song = σ.song) (hseen : τ.seenSection = σ.seenSection) : Tracks σ ρ

/-- What a directive does depends on the stage in no way. -/
theorem take_congr (hsong : τ.song = σ.song) (hseen : τ.seenSection = σ.seenSection)
    (d : Directive) :
    (τ.take d).session.song = (σ.take d).session.song ∧
      (τ.take d).session.seenSection = (σ.take d).session.seenSection := by
  have hτ : τ = { σ with stage := τ.stage } := by
    obtain ⟨stage, preamble, events, seen⟩ := τ
    cases hsong
    cases hseen
    rfl
  rw [hτ]
  rcases take_cases σ d with ⟨hs, _⟩ | ⟨hs, hkey, _⟩ | ⟨hs, hkey, _⟩
  · simp [take, hs, song]
  · simp [take, hs, hkey, song]
  · cases hk : d.known <;> simp [take, hs, hkey, hk, song]

/-- After a directive, both are ready again. -/
theorem Tracks.take (hσ : σ.stage.open? = none) (h : Settles ρ τ) (hsong : τ.song = σ.song)
    (hseen : τ.seenSection = σ.seenSection) (d : Directive) :
    Tracks (σ.take d).session (τ.take d).session := by
  obtain ⟨hsong', hseen'⟩ := take_congr hsong hseen d
  have hτ : (τ.take d).session.stage.open? = none := by rw [take_stage, h.open?_eq_none]
  exact .between (by rw [take_stage, hσ]) (.outside hτ) hsong' hseen'

/-- A header brings them together. -/
theorem opened_congr (hsong : τ.song = σ.song) (l : Line) : τ.opened l = σ.opened l := by
  rw [opened_eq_within, opened_eq_within, hsong]

/-- **A line that the first reads, the second reads too.** -/
theorem Tracks.reads (h : Tracks σ ρ) (hr : Reads settings l σ σ') :
    ∃ ρ', Reads settings l ρ ρ' ∧ Tracks σ' ρ' := by
  cases h with
  | same => exact ⟨σ', hr, .same⟩
  | between hσ h hsong hseen =>
    rcases reads_outside_cases hσ hr with ⟨hb, rfl⟩ | ⟨hc, rfl⟩ | ⟨hc, hl, d, hd, rfl⟩ |
      ⟨hc, hl, rfl⟩
    · obtain ⟨ρ', hr', h'⟩ := h.blank hb
      exact ⟨ρ', hr', .between hσ h' hsong hseen⟩
    · exact ⟨ρ, h.comment hc, .between hσ h hsong hseen⟩
    · exact ⟨_, h.directive hc hl hd, .take hσ h hsong hseen d⟩
    · refine ⟨_, h.header hc hl, ?_⟩
      rw [opened_congr hsong]
      exact .same

/-- **A line that the second reads, the first reads too.** -/
theorem Tracks.reads_back (h : Tracks σ ρ) (hr : Reads settings l ρ ρ') :
    ∃ σ', Reads settings l σ σ' ∧ Tracks σ' ρ' := by
  cases h with
  | same => exact ⟨ρ', hr, .same⟩
  | between hσ h hsong hseen =>
    rcases h.reads_cases hr with ⟨hl, h'⟩ | ⟨hc, hl, d, hd, rfl⟩ | ⟨hc, hl, rfl⟩
    · refine ⟨σ, ?_, .between hσ h' hsong hseen⟩
      rcases hl with hb | hc
      · exact .blank hσ hb
      · exact (Settles.outside hσ).comment hc
    · exact ⟨_, .directive hσ hc hl hd, .take hσ h hsong hseen d⟩
    · refine ⟨_, .header hσ hc hl, ?_⟩
      rw [opened_congr hsong]
      exact .same

theorem Tracks.runs {ls : List Line} (h : Tracks σ ρ) (hr : Runs settings σ ls σ') :
    ∃ ρ', Runs settings ρ ls ρ' ∧ Tracks σ' ρ' := by
  induction hr generalizing ρ with
  | nil => exact ⟨ρ, .nil, h⟩
  | cons hr _ ih =>
    obtain ⟨ρ₁, hr₁, h₁⟩ := h.reads hr
    obtain ⟨ρ₂, hr₂, h₂⟩ := ih h₁
    exact ⟨ρ₂, .cons hr₁ hr₂, h₂⟩

theorem Tracks.runs_back {ls : List Line} (h : Tracks σ ρ) (hr : Runs settings ρ ls ρ') :
    ∃ σ', Runs settings σ ls σ' ∧ Tracks σ' ρ' := by
  induction hr generalizing σ with
  | nil => exact ⟨σ, .nil, h⟩
  | cons hr _ ih =>
    obtain ⟨σ₁, hr₁, h₁⟩ := h.reads_back hr
    obtain ⟨σ₂, hr₂, h₂⟩ := ih h₁
    exact ⟨σ₂, .cons hr₁ hr₂, h₂⟩

theorem Tracks.isBare_eq (h : Tracks σ ρ) : ρ.stage.isBare = σ.stage.isBare := by
  cases h with
  | same => rfl
  | between hσ h =>
    have hσ' : σ.stage.isBare = false := isBare_of_open?_eq_none hσ
    rw [hσ']
    cases h with
    | outside hρ => exact isBare_of_open?_eq_none hρ
    | pending hs hm =>
      rw [hs]
      exact List.isEmpty_eq_false_iff.mpr hm

/-- Both end with the same song, or neither can. -/
theorem Tracks.ends_iff (h : Tracks σ ρ) : Ends σ song ↔ Ends ρ song := by
  cases h with
  | same => exact Iff.rfl
  | between hσ h hsong hseen =>
    constructor
    · intro he
      obtain ⟨hseen', rfl⟩ := (Settles.outside hσ).song_eq he
      rw [← hsong]
      exact h.ends (hseen.trans hseen')
    · intro he
      obtain ⟨hseen', rfl⟩ := h.song_eq he
      rw [hsong]
      exact .outside hσ (hseen.symm.trans hseen')

/-- **The next batch gives a song to both or to neither.** -/
theorem Tracks.feed_iff (h : Tracks σ ρ) (ls : List Line) :
    (σ.feed settings ls).report.result = .ok song ↔
      (ρ.feed settings ls).report.result = .ok song := by
  rw [feed_eq_ok_iff, feed_eq_ok_iff]
  constructor
  · rintro ⟨σ', hr, he⟩
    obtain ⟨ρ', hr', h'⟩ := h.runs hr
    exact ⟨ρ', hr', h'.ends_iff.mp he⟩
  · rintro ⟨ρ', hr, he⟩
    obtain ⟨σ', hr', h'⟩ := h.runs_back hr
    exact ⟨σ', hr', h'.ends_iff.mpr he⟩

/-! ## 2. Ends of batches -/

/-- **A blank line does what the end of a batch does**, unless the open section is a header
    alone. -/
theorem Ends.settles (he : Ends σ song) (hbare : σ.stage.isBare = false) (hb : l.isBlank = true) :
    ∃ σ' τ, Reads settings l σ σ' ∧ Settles σ' τ ∧ τ.song = song ∧ τ.seenSection = true := by
  cases he with
  | outside hs hseen => exact ⟨σ, σ, .blank hs hb, .outside hs, rfl, hseen⟩
  | inside hs ht hseen =>
    cases hst : σ.stage with
    | awaiting => rw [hst] at hs; cases hs
    | done => rw [hst] at hs; cases hs
    | chords block blank =>
      have hm : block.measures ≠ [] := by
        rw [hst] at hbare
        exact List.isEmpty_eq_false_iff.mp hbare
      rw [hst] at hs
      cases hs
      -- a pause: from here on the number of the first blank line is known, whichever it is
      obtain ⟨number, hnumber⟩ : ∃ number, blank.or (some l.number) = some number := by
        cases blank with
        | none => exact ⟨_, rfl⟩
        | some number => exact ⟨number, rfl⟩
      have hr : Reads settings l σ { σ with stage := .chords block (some number) } := by
        rw [← hnumber]
        exact .pause hst hb
      exact ⟨_, _, hr, .pending rfl hm, rfl, hseen⟩
    | lyrics block sung =>
      rw [hst] at hs
      cases hs
      exact ⟨_, _, .rest hst hb ht, .outside rfl, rfl, hseen⟩

/-- The session after a batch that gave a song: nothing is open, and the song is all there is. -/
theorem session_of_feed {ls : List Line} (h : (σ.feed settings ls).failure = none) :
    ∃ song, (σ.feed settings ls).report.result = .ok song ∧
      (σ.feed settings ls).session = within song .done := by
  refine ⟨(σ.feed settings ls).session.song, by rw [Step.report, h], ?_⟩
  have hstep : ∃ τ : Session, σ.feed settings ls =
      ⟨τ.finish.session, (σ.feed settings ls).notices, τ.finish.failure⟩ := by
    cases hf : ((σ.readAll settings ls).andThen closeOpen).failure with
    | some e =>
      rw [feed, Step.andThen_of_failure hf, hf] at h
      cases h
    | none => exact ⟨_, by rw [feed, Step.andThen_of_none hf]⟩
  obtain ⟨τ, hτ⟩ := hstep
  rw [hτ] at h ⊢
  have hseen : τ.seenSection = true := τ.finish_failure.mp h
  simp [finish, within, song, hseen]

/-! ## 3. Batches and their lines in one run -/

/-- **Batches that are read to their ends**, one after the other, and none of them leaves a header
    alone at its end. Each comes with the blank line that is to stand for its end. -/
def AllRead (settings : Settings) (σ : Session) : List (List Line × Line) → Prop
  | [] => True
  | (ls, z) :: rest =>
    (σ.feed settings ls).failure = none ∧
      (σ.readAll settings ls).session.stage.isBare = false ∧ z.isBlank = true ∧
      AllRead settings (σ.feed settings ls).session rest

/-- The lines of batches in one run, a blank line after each. -/
def joined (batches : List (List Line × Line)) : List Line :=
  batches.flatMap fun b => b.1 ++ [b.2]

/-- The lines that were read leave it to the rest of the batch which song it gives. -/
theorem Runs.feed_append_iff {ls ls' : List Line} (hr : Runs settings σ ls σ') :
    (σ.feed settings (ls ++ ls')).report.result = .ok song ↔
      (σ'.feed settings ls').report.result = .ok song := by
  rw [feed_eq_ok_iff, feed_eq_ok_iff]
  constructor
  · rintro ⟨τ, hr', he⟩
    obtain ⟨σ₁, hr₁, hr₂⟩ := hr'.of_append
    have hσ : σ₁ = σ' := (runs_iff.mp hr₁).2.symm.trans (runs_iff.mp hr).2
    rw [hσ] at hr₂
    exact ⟨τ, hr₂, he⟩
  · rintro ⟨τ, hr', he⟩
    exact ⟨τ, hr.append hr', he⟩

/-- **One batch more**: its end for the first session, a blank line for the second. -/
theorem Tracks.boundary {ls : List Line} {z : Line} (h : Tracks σ ρ)
    (hread : (σ.feed settings ls).failure = none)
    (hbare : (σ.readAll settings ls).session.stage.isBare = false) (hz : z.isBlank = true) :
    ∃ ρ', Runs settings ρ (ls ++ [z]) ρ' ∧ Tracks (σ.feed settings ls).session ρ' := by
  obtain ⟨song, hsong, hsession⟩ := session_of_feed hread
  obtain ⟨σ₁, hr₁, he⟩ := feed_eq_ok_iff.mp hsong
  rw [(runs_iff.mp hr₁).2] at hbare
  obtain ⟨ρ₁, hr₂, h₁⟩ := h.runs hr₁
  rw [← h₁.isBare_eq] at hbare
  obtain ⟨ρ', τ, hr₃, hs, hτ, hseen⟩ := (h₁.ends_iff.mp he).settles hbare hz
  refine ⟨ρ', hr₂.snoc hr₃, ?_⟩
  rw [hsession]
  exact .between rfl hs hτ hseen

theorem Tracks.feed_joined_iff {batches : List (List Line × Line)} (h : Tracks σ ρ)
    (hall : AllRead settings σ batches) (ls : List Line) :
    ((σ.fed settings (batches.map Prod.fst)).feed settings ls).report.result = .ok song ↔
      (ρ.feed settings (joined batches ++ ls)).report.result = .ok song := by
  induction batches generalizing σ ρ with
  | nil => exact h.feed_iff ls
  | cons b batches ih =>
    obtain ⟨hread, hbare, hz, hrest⟩ := hall
    obtain ⟨ρ', hr, h'⟩ := h.boundary hread hbare hz
    have hjoined : joined (b :: batches) ++ ls = (b.1 ++ [b.2]) ++ (joined batches ++ ls) := by
      simp [joined]
    rw [hjoined, hr.feed_append_iff, List.map_cons, fed_cons]
    exact ih h' hrest

end Session

/-- **A song may be read in batches**: after batches that were read to their ends, the next one gives
    a song exactly if all the lines in one run, with a blank line where a batch ended, give it. No
    batch before the last may end with a header alone. -/
theorem feed_iff_read_joined {settings : Settings} {batches : List (List Line × Line)}
    (hall : Session.AllRead settings {} batches) (ls : List Line) (song : Song) :
    ((Session.after settings (batches.map Prod.fst)).feed settings ls).report.result = .ok song ↔
      (Song.read settings (Session.joined batches ++ ls)).result = .ok song :=
  Session.Tracks.same.feed_joined_iff hall ls

/-- The first batch leaves a section open, the second has none at all, and the tempo it sets comes
    between the two sections. -/
theorem feed_iff_read_joined_short :
    Session.AllRead {} {} [([⟨1, "Verse"⟩, ⟨2, "C"⟩], ⟨3, ""⟩), ([⟨4, "@bpm 90"⟩], ⟨5, " "⟩)] ∧
      (Song.read {} [⟨1, "Verse"⟩, ⟨2, "C"⟩, ⟨3, ""⟩, ⟨4, "@bpm 90"⟩, ⟨5, " "⟩, ⟨6, "Coda"⟩]).result =
        .ok ⟨[], [.part ⟨"Verse", [⟨[⟨"C", ⟨"C", "maj", none⟩, 2⟩], 2⟩], [], 1⟩,
          .directive ⟨"bpm", .number 90, 4, true⟩, .part ⟨"Coda", [], [], 6⟩]⟩ := by
  have hall : Session.AllRead {} {}
      [([⟨1, "Verse"⟩, ⟨2, "C"⟩], ⟨3, ""⟩), ([⟨4, "@bpm 90"⟩], ⟨5, " "⟩)] :=
    ⟨by decide +kernel, by decide +kernel, by decide +kernel, by decide +kernel, by decide +kernel,
      by decide +kernel, trivial⟩
  refine ⟨hall, (feed_iff_read_joined hall [⟨6, "Coda"⟩] _).mp ?_⟩
  decide +kernel

end SongSheet
