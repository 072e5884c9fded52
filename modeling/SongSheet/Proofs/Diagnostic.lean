import SongSheet.Proofs.Compile
import SongSheet.Proofs.Session.Failures
import SongSheet.Proofs.Sheet.Reading

/-!
# Diagnostics point at their lines

A text that is refused is refused for one of its lines, and the diagnostic names it: `IsAbout` says
for each code what is wrong with the line that is pointed at. Mostly that is the line at which reading
stopped. Two codes look back: a blank line among chords is only known for what it is when the next
line comes, and lyrics are only added up when their section ends. The one diagnostic without a line is
that of a text without a section, and this is exactly a text of blank lines, comments and directives
that can be read (`diagnostics_point_at_lines`).
-/

namespace SongSheet

/-! ## 1. What a diagnostic says of a line -/

/-- A line that may stand before the first section. -/
def Line.IsPrelude (settings : Settings) (l : Line) : Prop :=
  l.isBlank = true ∨ l.isComment settings.commentMark = true ∨
    (Directive.isDirectiveLine l.text = true ∧ ∃ d, Directive.read settings l = .ok d)

/-- **The first lyric line after a `--` line**: it can be read as one, and what stands between the
    two is comments without a span. -/
def Line.IsFirstLyric (settings : Settings) (ls : List Line) (x : Line) : Prop :=
  ∃ before mark between after, ls = before ++ mark :: (between ++ x :: after) ∧
    mark.isComment settings.commentMark = false ∧ mark.trimmed = Section.lyricMark ∧
    (∀ c ∈ between, c.isComment settings.commentMark = true ∧ Lyric.hasSpan c.trimmed = false) ∧
    ∃ y, Lyric.read x = .ok y

/-- **What is wrong with the line `x`**, by the code of the diagnostic that points at it. -/
def Diagnostic.IsAbout (settings : Settings) (ls : List Line) (d : Diagnostic) (x : Line) : Prop :=
  match d.code with
  | .invalidDirectiveValue => Directive.read settings x = .error (.diagnostic d)
  | .invalidChordNotation => Measure.read x = .error (.diagnostic d)
  | .missingLyricSpan => Lyric.read x = .error (.diagnostic d)
  | .unexpectedToken =>
    x.isBlank = false ∧ x.isComment settings.commentMark = false ∧
      (Directive.read settings x = .error (.diagnostic d) ∨
        (Directive.isDirectiveLine x.text = false ∧ Section.isHeader settings x.text = false))
  | .emptyMeasureLine => x.isBlank = true ∨ Measure.read x = .error (.diagnostic d)
  | .lyricTimingMismatch => x.IsFirstLyric settings ls
  | .noSections => False

variable {settings : Settings} {d : Diagnostic} {ls : List Line} {x : Line}

theorem Line.IsFirstLyric.append (h : x.IsFirstLyric settings ls) (ls' : List Line) :
    x.IsFirstLyric settings (ls ++ ls') := by
  obtain ⟨before, mark, between, after, rfl, hc, hm, hbetween, hy⟩ := h
  exact ⟨before, mark, between, after ++ ls', by simp, hc, hm, hbetween, hy⟩

theorem Line.IsFirstLyric.mem (h : x.IsFirstLyric settings ls) : x ∈ ls := by
  obtain ⟨before, mark, between, after, rfl, _⟩ := h
  simp

/-- More lines after those read change nothing. -/
theorem Diagnostic.IsAbout.append (h : d.IsAbout settings ls x) (ls' : List Line) :
    d.IsAbout settings (ls ++ ls') x := by
  unfold Diagnostic.IsAbout at h ⊢
  cases hc : d.code with
  | lyricTimingMismatch =>
    rw [hc] at h
    exact Line.IsFirstLyric.append h ls'
  | _ =>
    rw [hc] at h
    exact h

theorem Diagnostic.IsAbout.code_ne_noSections (h : d.IsAbout settings ls x) :
    d.code ≠ .noSections := by
  intro hc
  unfold Diagnostic.IsAbout at h
  rw [hc] at h
  exact h

/-! ## 2. Lyrics and where they started -/

namespace Sheet

theorem Lyrics.isFirstLyric {y : Lyric} {ys ys' : List Lyric} (h : Lyrics settings ls ys')
    (hys : ys' = y :: ys) :
    ∃ between x after, ls = between ++ x :: after ∧
      (∀ c ∈ between, c.isComment settings.commentMark = true ∧ Lyric.hasSpan c.trimmed = false) ∧
      Lyric.read x = .ok y := by
  induction h with
  | nil => cases hys
  | @comment l ls ys' hc hs _ ih =>
    obtain ⟨between, x, after, rfl, hbetween, hy⟩ := ih hys
    exact ⟨l :: between, x, after, rfl, List.forall_mem_cons.mpr ⟨⟨hc, hs⟩, hbetween⟩, hy⟩
  | @lyric l ls y' ys' hy _ _ =>
    cases hys
    exact ⟨[], l, ls, rfl, fun c hmem => absurd hmem List.not_mem_nil, hy⟩

/-- The first lyric of the open section stands on the first lyric line after a `--` line. -/
theorem Derived.isFirstLyric {σ : Session} {s : Section} {y : Lyric} {ys : List Lyric}
    (h : Derived settings ls σ) (hs : σ.stage.open? = some s) (hys : s.lyrics = y :: ys) :
    ∃ x : Line, x.IsFirstLyric settings ls ∧ y.line = x.number := by
  cases h with
  | settled _ hset =>
    cases hset with
    | outside ho => rw [ho] at hs; cases hs
    | pending ho _ =>
      rw [ho] at hs
      cases hs
      cases hys
  | chords =>
    cases hs
    cases hys
  | bare =>
    cases hs
    cases hys
  | @lyrics before cs ls' l mark song ms ys' _ _ _ hc hm hl =>
    cases hs
    obtain ⟨between, x, after, rfl, hbetween, hy⟩ := hl.isFirstLyric hys
    refine ⟨x, ⟨before ++ l :: cs, mark, between, after, by simp, hc, hm, hbetween, y, hy⟩, ?_⟩
    exact (Lyric.read_eq_ok hy).2.2

end Sheet

/-! ## 3. Failing lines -/

namespace Session

variable {σ σ' : Session} {l : Line}

/-- **What a failure after these lines may look back at** is among them: the blank line whose meaning
    is open, and the line of the first lyric. -/
structure Traced (settings : Settings) (ls : List Line) (σ : Session) : Prop where
  blank : BlankBehind ls σ
  lyric : ∀ {s y ys}, σ.stage.open? = some s → s.lyrics = y :: ys →
    ∃ x : Line, x.IsFirstLyric settings ls ∧ y.line = x.number

theorem traced_of_runs (hr : Runs settings {} ls σ) : Traced settings ls σ where
  blank := blankBehind_of_runs hr
  lyric hs hys := (Sheet.derived_of_runs hr).isFirstLyric hs hys

theorem traced_closed (settings : Settings) (ls : List Line) (σ : Session) (s : Section) :
    Traced settings ls (σ.closed s) where
  blank := .of_none rfl
  lyric hs := by cases hs

/-- A section that does not come out even is blamed on its first lyric line. -/
theorem Traced.isAbout_of_timing {s : Section} (h : Traced settings ls σ)
    (hs : σ.stage.open? = some s) (ht : s.checkTiming = .error (.diagnostic d)) :
    ∃ x ∈ ls, d.line = some x.number ∧ d.IsAbout settings ls x := by
  obtain ⟨y, ys, hys, hp | ⟨⟨limit, hlimit⟩, _⟩⟩ := Section.checkTiming_eq_error ht
  · obtain ⟨hline, hcode⟩ := hp.diagnostic
    obtain ⟨x, hx, hnumber⟩ := h.lyric hs hys
    refine ⟨x, hx.mem, by rw [hline, hnumber], ?_⟩
    unfold Diagnostic.IsAbout
    rw [List.mem_singleton.mp hcode]
    exact hx
  · cases hlimit

/-- **A line that is refused is pointed at, or the line it makes known for what it is.** -/
theorem Fails.isAbout (h : Fails settings l (.diagnostic d) σ σ') (ht : Traced settings ls σ) :
    ∃ x ∈ ls ++ [l], d.line = some x.number ∧ d.IsAbout settings (ls ++ [l]) x := by
  have hl : l ∈ ls ++ [l] := List.mem_append_right _ List.mem_cons_self
  induction h with
  | directive hs hc hdl hd =>
    rcases Directive.read_eq_error hd with ⟨⟨limit, hlimit⟩, _⟩ | hp
    · cases hlimit
    · obtain ⟨hline, hcode⟩ := hp.diagnostic
      refine ⟨l, hl, hline, ?_⟩
      unfold Diagnostic.IsAbout
      rcases List.mem_cons.mp hcode with hcode | hcode
      · rw [hcode]
        exact hd
      · rw [List.mem_singleton.mp hcode]
        exact ⟨Line.isBlank_eq_false_of_isDirectiveLine hdl, hc, Or.inl hd⟩
  | unexpected hs hc hb hnext he =>
    cases he
    rw [startsNext, Bool.or_eq_false_iff] at hnext
    exact ⟨l, hl, rfl, hb, hc, Or.inr hnext⟩
  | emptyLine hs hc hb hm he =>
    cases he
    obtain ⟨z, hz, hzb, hnumber⟩ := ht.blank _ (by rw [hs]; rfl)
    refine ⟨z, List.mem_append_left _ hz, ?_, Or.inl hzb⟩
    rw [hnumber]
    rfl
  | next hs hm hc hnext _ ih => exact ih (traced_closed settings ls _ _)
  | measure hs hc hb hmark hm =>
    obtain ⟨hline, hcode⟩ := (Measure.read_eq_error hm).diagnostic
    refine ⟨l, hl, hline, ?_⟩
    unfold Diagnostic.IsAbout
    rcases List.mem_cons.mp hcode with hcode | hcode
    · rw [hcode]
      exact Or.inr hm
    · rw [List.mem_singleton.mp hcode]
      exact hm
  | lyric hs hk hb hy =>
    rcases Lyric.read_eq_error hy with ⟨⟨limit, hlimit⟩, _⟩ | hp
    · cases hlimit
    · obtain ⟨hline, hcode⟩ := hp.diagnostic
      refine ⟨l, hl, hline, ?_⟩
      unfold Diagnostic.IsAbout
      rw [List.mem_singleton.mp hcode]
      exact hy
  | timing hs hb htiming =>
    obtain ⟨x, hx, hline, habout⟩ := ht.isAbout_of_timing (by rw [hs]; rfl) htiming
    exact ⟨x, List.mem_append_left _ hx, hline, habout.append [l]⟩

/-! ## 4. Texts without a section -/

theorem isPrelude_of_interlude {ds : List Directive} (h : Sheet.Interlude settings ls ds) :
    ∀ l ∈ ls, l.IsPrelude settings := by
  induction h with
  | nil => exact fun l hl => absurd hl List.not_mem_nil
  | blank hb _ ih => exact List.forall_mem_cons.mpr ⟨Or.inl hb, ih⟩
  | comment hc _ ih => exact List.forall_mem_cons.mpr ⟨Or.inr (Or.inl hc), ih⟩
  | directive _ hdl hd _ ih =>
    exact List.forall_mem_cons.mpr ⟨Or.inr (Or.inr ⟨hdl, _, hd⟩), ih⟩

theorem exists_interlude : ∀ {ls : List Line}, (∀ l ∈ ls, l.IsPrelude settings) →
    ∃ ds, Sheet.Interlude settings ls ds
  | [], _ => ⟨[], .nil⟩
  | l :: ls, h => by
      obtain ⟨ds, hds⟩ := exists_interlude fun x hx => h x (List.mem_cons_of_mem _ hx)
      cases hc : l.isComment settings.commentMark with
      | true => exact ⟨ds, .comment hc hds⟩
      | false =>
        rcases h l List.mem_cons_self with hb | hc' | ⟨hdl, d, hd⟩
        · exact ⟨ds, .blank hb hds⟩
        · rw [hc] at hc'
          cases hc'
        · exact ⟨d :: ds, .directive hc hdl hd hds⟩

/-- Lines that were read without a header among them. -/
theorem isPrelude_of_runs (hr : Runs settings {} ls σ) (hseen : σ.seenSection = false) :
    ∀ l ∈ ls, l.IsPrelude settings := by
  have hσ := (sound_start settings).runs hr
  cases Sheet.derived_of_runs hr with
  | @settled _ _ τ h hs =>
    have hevents : τ.song.events = [] := by
      by_contra hne
      have hτ := ((hs.sound hσ).seenSection_iff hs.open?_eq_none).mpr hne
      rw [hs.seenSection_eq, hseen] at hτ
      cases hτ
    generalize τ.song = song at h hevents
    cases h with
    | preamble h => exact isPrelude_of_interlude h
    | @block ls' body gap z song s ds _ _ _ _ =>
      exact absurd hevents (Song.events_addTempos_ne_nil (song.events_addPart_ne_nil s) ds)
  | chords => cases hseen
  | bare => cases hseen
  | lyrics => cases hseen

/-- Blank lines, comments and directives alone are read to their end, and no section is seen. -/
theorem stops_of_isPrelude (h : ∀ l ∈ ls, l.IsPrelude settings) :
    Stops settings {} ls (.diagnostic Problem.noSections.overall) := by
  obtain ⟨ds, hds⟩ := exists_interlude h
  obtain ⟨σ, τ, hr, hs, hsong⟩ := hds.runs (.outside rfl) (sound_start settings)
  have hτ := hs.sound ((sound_start settings).runs hr)
  have hseen : τ.seenSection = false := by
    rw [← Bool.not_eq_true, hτ.seenSection_iff hs.open?_eq_none, not_not]
    have hevents : τ.song.events = [] := by
      rw [hsong]
      rfl
    exact hevents
  refine .noSections hr (fun s ho => ?_) (by rw [← hs.seenSection_eq, hseen])
  cases hs with
  | outside hs => rw [hs] at ho; cases ho
  | pending hs _ =>
    rw [hs] at ho
    cases ho
    exact Block.isBalanced_close_nil _

/-- **Why lines are refused with a diagnostic**: there is no section among them, or one of them is
    what the diagnostic says. -/
theorem Stops.diagnostic_cases (h : Stops settings {} ls (.diagnostic d)) :
    (d = Problem.noSections.overall ∧ ∀ l ∈ ls, l.IsPrelude settings) ∨
      ∃ x ∈ ls, d.line = some x.number ∧ d.IsAbout settings ls x := by
  cases h with
  | @line before after l τ τ' _ hr hf =>
    obtain ⟨x, hx, hline, habout⟩ := hf.isAbout (traced_of_runs hr)
    have happ : before ++ l :: after = (before ++ [l]) ++ after := by simp
    rw [happ]
    exact Or.inr ⟨x, List.mem_append_left _ hx, hline, habout.append after⟩
  | timing hr hs ht => exact Or.inr ((traced_of_runs hr).isAbout_of_timing hs ht)
  | noSections hr hs hseen => exact Or.inl ⟨rfl, isPrelude_of_runs hr hseen⟩

end Session

/-! ## 5. Texts -/

/-- **Every diagnostic of a text points at the line it is about.** The one code without a line is that
    of a text without a section, which is a text of blank lines, comments and directives that can be
    read. -/
theorem diagnostics_point_at_lines (settings : Settings) (text : String) :
    ((∃ d, (compile settings text).result = .error (.diagnostic d) ∧ d.code = .noSections) ↔
        ∀ l ∈ Line.scan text, l.IsPrelude settings) ∧
      ∀ d, (compile settings text).result = .error (.diagnostic d) →
        (d.line = none ↔ d.code = .noSections) ∧
        ∀ n, d.line = some n → 1 ≤ n ∧ n ≤ (Line.scan text).length ∧
          ∃ x ∈ Line.scan text, x.number = n ∧ d.IsAbout settings (Line.scan text) x := by
  have hstops : ∀ d, (compile settings text).result = .error (.diagnostic d) ↔
      Session.Stops settings {} (Line.scan text) (.diagnostic d) := by
    intro d
    rw [compile_eq_error_iff]
    exact Session.feed_eq_error_iff
  refine ⟨⟨?_, fun h => ?_⟩, fun d h => ?_⟩
  · rintro ⟨d, h, hcode⟩
    rcases ((hstops d).mp h).diagnostic_cases with ⟨_, hall⟩ | ⟨x, _, _, habout⟩
    · exact hall
    · exact absurd hcode habout.code_ne_noSections
  · exact ⟨_, (hstops _).mpr (Session.stops_of_isPrelude h), rfl⟩
  · rcases ((hstops d).mp h).diagnostic_cases with ⟨rfl, _⟩ | ⟨x, hx, hline, habout⟩
    · exact ⟨⟨fun _ => rfl, fun _ => rfl⟩, fun n hn => by cases hn⟩
    · refine ⟨⟨fun hnone => ?_, fun hcode => absurd hcode habout.code_ne_noSections⟩, fun n hn => ?_⟩
      · rw [hline] at hnone
        cases hnone
      · rw [hline] at hn
        cases hn
        obtain ⟨hlow, hhigh⟩ := Line.number_of_mem_scan hx
        exact ⟨hlow, hhigh, x, hx, rfl, habout⟩

/-- The lyrics are added up at the end of the text, and the first of them is pointed at. -/
theorem diagnostic_of_uneven_lyrics :
    (compile {} "Verse\nC\n--\n# soft\nLa _1\nLo _2").result =
        .error (.diagnostic ((Problem.timing "Verse" 3 1).on 5)) ∧
      Line.IsFirstLyric {} (Line.scan "Verse\nC\n--\n# soft\nLa _1\nLo _2") ⟨5, "La _1"⟩ := by
  have h : (compile {} "Verse\nC\n--\n# soft\nLa _1\nLo _2").result =
      .error (.diagnostic ((Problem.timing "Verse" 3 1).on 5)) := by decide +kernel
  obtain ⟨_, _, x, hx, hnumber, habout⟩ :=
    ((diagnostics_point_at_lines {} _).2 _ h).2 5 rfl
  have hmem : ∀ x ∈ Line.scan "Verse\nC\n--\n# soft\nLa _1\nLo _2", x.number = 5 →
      x = ⟨5, "La _1"⟩ := by decide +kernel
  rw [hmem x hx hnumber] at habout
  exact ⟨h, habout⟩

end SongSheet
