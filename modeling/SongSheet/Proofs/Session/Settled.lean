import SongSheet.Proofs.Session.Invariant

/-!
# Sections that are over but not closed

After chords and a blank line the section stays open until the next line says what the blank line
was. To every line that may stand there, though, it is over: `Settles σ τ` says that a session `σ`
is outside any section, or at such a place, and that `τ` is what it comes to without the wait. A
session and what it settles to read the same lines in the same way, but for the moment when the
section is put among the events (`Settles.reads_cases`); a batch may end at either (`Settles.ends`).
-/

namespace SongSheet.Session

variable {settings : Settings} {σ σ' τ : Session} {l : Line}

/-- The session is ready for a directive or a header, and is `τ` when it reads one. -/
inductive Settles : Session → Session → Prop where
  | outside {σ : Session} (hs : σ.stage.open? = none) : Settles σ σ
  | pending {σ : Session} {block : Block} {number : Int}
      (hs : σ.stage = .chords block (some number)) (hm : block.measures ≠ []) :
      Settles σ (σ.closed (block.close []))

/-! ## 1. The two sessions -/

theorem Settles.open?_eq_none (h : Settles σ τ) : τ.stage.open? = none := by
  cases h with
  | outside hs => exact hs
  | pending => rfl

theorem Settles.inLyrics (h : Settles σ τ) : σ.stage.inLyrics = false := by
  cases h with
  | outside hs => exact inLyrics_of_open?_eq_none hs
  | pending hs _ => rw [hs]; rfl

theorem Settles.seenSection_eq (h : Settles σ τ) : τ.seenSection = σ.seenSection := by
  cases h <;> rfl

theorem Settles.sound (h : Settles σ τ) (hσ : Sound settings σ) : Sound settings τ := by
  cases h with
  | outside => exact hσ
  | pending hs _ => exact hσ.closed (by rw [hs]; rfl) (Block.isBalanced_close_nil _)

/-- Outside any section, a header has been seen exactly if there are events. -/
theorem Sound.seenSection_iff (h : Sound settings σ) (hs : σ.stage.open? = none) :
    σ.seenSection = true ↔ σ.events ≠ [] := by
  rw [h.seen, hs]
  constructor
  · rintro (ho | ⟨s, hmem⟩)
    · cases ho
    · exact List.ne_nil_of_mem hmem
  · intro hne
    rcases h.starts with hnil | ⟨s, rest, hcons⟩
    · exact absurd hnil hne
    · exact Or.inr ⟨s, by rw [hcons]; exact List.mem_cons_self⟩

/-- **A batch may end at a settled session**, with the song it settles to and no other. -/
theorem Settles.ends (h : Settles σ τ) (hseen : τ.seenSection = true) : Ends σ τ.song := by
  rw [h.seenSection_eq] at hseen
  cases h with
  | outside hs => exact .outside hs hseen
  | pending hs _ => exact .inside (by rw [hs]; rfl) (Block.isBalanced_close_nil _) hseen

theorem Settles.song_eq {song : Song} (h : Settles σ τ) (he : Ends σ song) :
    τ.seenSection = true ∧ song = τ.song := by
  rw [h.seenSection_eq]
  cases h with
  | outside hs =>
    cases he with
    | outside _ hseen => exact ⟨hseen, rfl⟩
    | inside hs' => rw [hs] at hs'; cases hs'
  | pending hs _ =>
    cases he with
    | outside hs' => rw [hs] at hs'; cases hs'
    | inside hs' _ hseen =>
      rw [hs] at hs'
      cases hs'
      exact ⟨hseen, rfl⟩

/-- A session that stands at `stage` of a song. -/
def within (song : Song) (stage : Stage) : Session := ⟨stage, song.preamble, song.events, true⟩

theorem opened_eq_within (τ : Session) (l : Line) :
    τ.opened l = within τ.song (.chords ⟨l.trimmed, l.number, []⟩ none) := rfl

/-! ## 2. Lines at a settled session -/

/-- A blank line changes nothing. -/
theorem Settles.blank (h : Settles σ τ) (hb : l.isBlank = true) :
    ∃ σ', Reads settings l σ σ' ∧ Settles σ' τ := by
  cases h with
  | outside hs => exact ⟨σ, .blank hs hb, .outside hs⟩
  | pending hs hm => exact ⟨_, .pause hs hb, .pending rfl hm⟩

theorem Settles.comment (h : Settles σ τ) (hc : l.isComment settings.commentMark = true) :
    Reads settings l σ σ := by
  apply Reads.comment
  rw [skips_of_not_inLyrics h.inLyrics, hc]

/-- A line that starts something new is read as by the other session. -/
theorem Settles.next (h : Settles σ τ) (hc : l.isComment settings.commentMark = false)
    (hl : startsNext settings l = true) (hr : Reads settings l τ σ') : Reads settings l σ σ' := by
  cases h with
  | outside => exact hr
  | pending hs hm => exact .next hs hm hc hl hr

theorem Settles.directive (h : Settles σ τ) {d : Directive}
    (hc : l.isComment settings.commentMark = false)
    (hl : Directive.isDirectiveLine l.text = true) (hd : Directive.read settings l = .ok d) :
    Reads settings l σ (τ.take d).session :=
  h.next hc (by rw [startsNext, hl, Bool.true_or]) (.directive h.open?_eq_none hc hl hd)

theorem Settles.header (h : Settles σ τ) (hc : l.isComment settings.commentMark = false)
    (hl : Section.isHeader settings l.text = true) : Reads settings l σ (τ.opened l) :=
  h.next hc (by rw [startsNext, hl, Bool.or_true]) (.header h.open?_eq_none hc hl)

/-- **What a line can do at a settled session**: leave it as it is, or go on from what it settles
    to. -/
theorem Settles.reads_cases (h : Settles σ τ) (hr : Reads settings l σ σ') :
    ((l.isBlank = true ∨ l.isComment settings.commentMark = true) ∧ Settles σ' τ) ∨
      (l.isComment settings.commentMark = false ∧ Directive.isDirectiveLine l.text = true ∧
        ∃ d, Directive.read settings l = .ok d ∧ σ' = (τ.take d).session) ∨
      (l.isComment settings.commentMark = false ∧ Section.isHeader settings l.text = true ∧
        σ' = τ.opened l) := by
  cases h with
  | outside hs =>
    rcases reads_outside_cases hs hr with ⟨hb, rfl⟩ | ⟨hc, rfl⟩ | hd | hh
    · exact Or.inl ⟨Or.inl hb, .outside hs⟩
    · exact Or.inl ⟨Or.inr hc, .outside hs⟩
    · exact Or.inr (Or.inl hd)
    · exact Or.inr (Or.inr hh)
  | pending hs hm =>
    rcases reads_pending_cases hs hr with ⟨hl, rfl⟩ | ⟨_, hc, hl, hr'⟩
    · exact Or.inl ⟨hl, .pending hs hm⟩
    · -- the line is neither blank nor a comment, so it is one of the other two
      rcases reads_outside_cases rfl hr' with ⟨hb, _⟩ | ⟨hc', _⟩ | hd | hh
      · rw [isBlank_eq_false_of_startsNext hl] at hb
        cases hb
      · rw [hc] at hc'
        cases hc'
      · exact Or.inr (Or.inl hd)
      · exact Or.inr (Or.inr hh)

end SongSheet.Session
