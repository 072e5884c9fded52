import SongSheet.Proofs.Session.Settled
import SongSheet.Proofs.Sheet

/-!
# Sessions read the grammar

A session reads exactly the sheets of the grammar, each as its song (`read_eq_ok_iff_sheet`).

One direction runs the session over a derivation, region by region: after an interlude it is
settled again (`Interlude.runs`), after a block it holds the block's section and a blank line
settles it (`Block.runs`). The other direction keeps a derivation of the lines read so far beside
the session: `Sheet.Derived` is that derivation, unfinished blocks included, and every rule extends
it by its line (`Derived.reads`).
-/

namespace SongSheet

variable {settings : Settings}

namespace Session

variable {σ σ' τ : Session} {l : Line}

/-- Outside any section, a directive goes where the grammar puts it. -/
theorem Sound.take_song (h : Sound settings τ) (hs : τ.stage.open? = none) (d : Directive) :
    (τ.take d).session.song = τ.song.addDirectives [d] := by
  have hseen := h.seenSection_iff hs
  rcases take_cases τ d with ⟨hs', he⟩ | ⟨hs', hkey, he⟩ | ⟨hs', hkey, he⟩
  · have hnil : τ.song.events = [] := by
      by_contra hne
      rw [hseen.mpr hne] at hs'
      cases hs'
    rw [he, Song.addDirectives, if_pos hnil]
    rfl
  · rw [he, Song.addDirectives_of_ne_nil (hseen.mp hs')]
    simp [song, Song.addTempos, Directive.tempos, hkey]
  · rw [he, Song.addDirectives_of_ne_nil (hseen.mp hs')]
    simp [song, Song.addTempos, Directive.tempos, hkey]

theorem closed_within (song : Song) (stage : Stage) (s : Section) :
    (within song stage).closed s = within (song.addPart s) .awaiting := rfl

/-- A pause after chords settles the section. -/
theorem settles_within (song : Song) {block : Block} (number : Int) (h : block.measures ≠ []) :
    Settles (within song (.chords block (some number)))
      (within (song.addPart (block.close [])) .awaiting) := by
  rw [← closed_within song (.chords block (some number))]
  exact .pending rfl h

end Session

namespace Sheet

open Session (Reads Runs Settles Sound Ends within)

variable {σ σ' τ : Session} {l : Line}

/-! ## 1. From the grammar to the session -/

theorem Interlude.runs {ls : List Line} {ds : List Directive} (hi : Interlude settings ls ds)
    (h : Settles σ τ) (hσ : Sound settings σ) :
    ∃ σ' τ', Runs settings σ ls σ' ∧ Settles σ' τ' ∧ τ'.song = τ.song.addDirectives ds := by
  induction hi generalizing σ τ with
  | nil => exact ⟨σ, τ, .nil, h, (Song.addDirectives_nil _).symm⟩
  | blank hb _ ih =>
    obtain ⟨σ₁, hr, h₁⟩ := h.blank hb
    obtain ⟨σ', τ', hr', h', he⟩ := ih h₁ (hσ.reads hr)
    exact ⟨σ', τ', .cons hr hr', h', he⟩
  | comment hc _ ih =>
    obtain ⟨σ', τ', hr', h', he⟩ := ih h hσ
    exact ⟨σ', τ', .cons (h.comment hc) hr', h', he⟩
  | @directive l ls d ds hc hl hd _ ih =>
    have hτ := h.sound hσ
    have hr := h.directive hc hl hd
    have hs : (τ.take d).session.stage.open? = none := by
      rw [Session.take_stage, h.open?_eq_none]
    obtain ⟨σ', τ', hr', h', he⟩ := ih (.outside hs) (hσ.reads hr)
    refine ⟨σ', τ', .cons hr hr', h', ?_⟩
    rw [he, hτ.take_song h.open?_eq_none, Song.addDirectives_addDirectives]
    rfl

theorem Chords.runs {ls : List Line} {ms : List Measure} (hcs : Chords settings ls ms)
    (song : Song) (name : String) (line : Int) (before : List Measure) :
    Runs settings (within song (.chords ⟨name, line, before⟩ none)) ls
      (within song (.chords ⟨name, line, before ++ ms⟩ none)) := by
  induction hcs generalizing before with
  | nil =>
    rw [List.append_nil]
    exact .nil
  | comment hc _ ih =>
    refine .cons (.comment ?_) (ih before)
    rw [Session.skips_of_not_inLyrics rfl, hc]
  | @measure l ls m ms hc hb hl hm _ ih =>
    have ih' := ih (before ++ [m])
    rw [List.append_assoc] at ih'
    exact .cons (.measure rfl hc hb hl hm) ih'

theorem Lyrics.runs {ls : List Line} {ys : List Lyric} (hys : Lyrics settings ls ys)
    (song : Song) (block : SongSheet.Block) (before : List Lyric) :
    Runs settings (within song (.lyrics block before)) ls
      (within song (.lyrics block (before ++ ys))) := by
  induction hys generalizing before with
  | nil =>
    rw [List.append_nil]
    exact .nil
  | comment hc hs _ ih =>
    refine .cons (.comment ?_) (ih before)
    simp [Session.skips, hc, hs]
  | @lyric l ls y ys hy _ ih =>
    have ih' := ih (before ++ [y])
    rw [List.append_assoc] at ih'
    exact .cons (.lyric rfl hy) ih'

/-- **A block is read up to its end**: its section is open, and both the end of the text and a
    blank line end it. -/
theorem Block.runs {body : List Line} {s : Section} (hb : Block settings body s)
    (h : Settles σ τ) :
    ∃ stage, Runs settings σ body (within τ.song stage) ∧ stage.open? = some s ∧ s.IsBalanced ∧
      ∀ z : Line, z.isBlank = true → ∃ σ', Reads settings z (within τ.song stage) σ' ∧
        Settles σ' (within (τ.song.addPart s) .awaiting) := by
  cases hb with
  | @instrumental l cs ms hh hcs hne =>
    have hr := h.header hh.notComment hh.header
    have hchords := hcs.runs τ.song l.trimmed l.number []
    refine ⟨.chords ⟨l.trimmed, l.number, ms⟩ none, .cons hr hchords, rfl, Or.inl rfl, ?_⟩
    intro z hz
    exact ⟨_, .pause rfl hz, Session.settles_within τ.song z.number hne⟩
  | @sung l mark cs ls ms ys hh hcs hc hm hys ht =>
    have hr := h.header hh.notComment hh.header
    have hchords := hcs.runs τ.song l.trimmed l.number []
    have hlyrics := hys.runs τ.song ⟨l.trimmed, l.number, ms⟩ []
    have hmark : Reads settings mark (within τ.song (.chords ⟨l.trimmed, l.number, ms⟩ none))
        (within τ.song (.lyrics ⟨l.trimmed, l.number, ms⟩ [])) := .mark rfl hc hm
    refine ⟨.lyrics ⟨l.trimmed, l.number, ms⟩ ys, ?_, rfl, ht, ?_⟩
    · exact .cons hr (hchords.append (.cons hmark hlyrics))
    · intro z hz
      exact ⟨_, .rest rfl hz ht, .outside rfl⟩

/-- Lines that leave no block open leave the session settled. -/
theorem Closed.runs {ls : List Line} {song : Song} (h : Closed settings ls song) :
    ∃ σ τ, Runs settings {} ls σ ∧ Settles σ τ ∧ τ.song = song := by
  induction h with
  | preamble hi => exact hi.runs (.outside rfl) (Session.sound_start settings)
  | @block ls body gap z song s ds _ hb hz hi ih =>
    obtain ⟨σ, τ, hr, hs, rfl⟩ := ih
    obtain ⟨stage, hr₁, ho, _, hend⟩ := hb.runs hs
    obtain ⟨σ₂, hr₂, hs₂⟩ := hend z hz
    have hrun := (hr.append hr₁).snoc hr₂
    obtain ⟨σ', τ', hr₃, hs₃, he⟩ := hi.runs hs₂ ((Session.sound_start settings).runs hrun)
    refine ⟨σ', τ', ?_, hs₃, ?_⟩
    · have hall := hrun.append hr₃
      simpa using hall
    · rw [he]
      exact Song.addDirectives_of_ne_nil (τ.song.events_addPart_ne_nil s) ds

/-- After a header alone, lines that are passed over leave it open; the first blank one is
    remembered. -/
theorem runs_bare {rest : List Line} (hr : ∀ x ∈ rest, IsPassed settings x) (song : Song)
    (block : SongSheet.Block) (blank : Option Int) :
    Runs settings (within song (.chords block blank)) rest
      (within song (.chords block (blank.or ((rest.find? Line.isBlank).map Line.number)))) := by
  induction rest generalizing blank with
  | nil =>
    rw [List.find?_nil, Option.map_none, Option.or_none]
    exact .nil
  | cons x rest ih =>
    have hrest : ∀ x ∈ rest, IsPassed settings x := fun y hy => hr y (List.mem_cons_of_mem _ hy)
    rcases hr x List.mem_cons_self with hb | hc
    · have ih' := ih hrest (blank.or (some x.number))
      rw [Option.or_assoc, Option.some_or] at ih'
      rw [List.find?_cons_of_pos hb]
      exact .cons (.pause rfl hb) ih'
    · have hb := Line.isBlank_eq_false_of_isComment settings hc
      rw [List.find?_cons_of_neg (by rw [hb]; exact Bool.false_ne_true)]
      refine .cons (.comment ?_) (ih hrest blank)
      rw [Session.skips_of_not_inLyrics rfl, hc]

/-- **A sheet is read to its end, and ends as its song.** -/
theorem ends {ls : List Line} {song : Song} (h : Sheet settings ls song) :
    ∃ σ, Runs settings {} ls σ ∧ Ends σ song := by
  cases h with
  | closed h hne =>
    obtain ⟨σ, τ, hr, hs, rfl⟩ := h.runs
    have hτ := hs.sound ((Session.sound_start settings).runs hr)
    exact ⟨σ, hr, hs.ends ((hτ.seenSection_iff hs.open?_eq_none).mpr hne)⟩
  | @unended ls body song s h hb =>
    obtain ⟨σ, τ, hr, hs, rfl⟩ := h.runs
    obtain ⟨stage, hr', ho, hbal, _⟩ := hb.runs hs
    exact ⟨within τ.song stage, hr.append hr', .inside ho hbal rfl⟩
  | @bare l ls rest song h hh hr =>
    obtain ⟨σ, τ, hr₀, hs, rfl⟩ := h.runs
    have hr₁ := hs.header hh.notComment hh.header
    have hr₂ := runs_bare hr τ.song ⟨l.trimmed, l.number, []⟩ none
    exact ⟨_, hr₀.append (.cons hr₁ hr₂), .inside rfl (Or.inl rfl) rfl⟩

/-! ## 2. From the session to the grammar -/

/-- **The lines read so far, as a derivation that the session stands in.** -/
inductive Derived (settings : Settings) : List Line → Session → Prop where
  | settled {ls : List Line} {σ τ : Session} (h : Closed settings ls τ.song) (hs : Settles σ τ) :
      Derived settings ls σ
  | chords {before cs : List Line} {l : Line} {song : Song} {ms : List Measure}
      (h : Closed settings before song) (hh : IsHeader settings l) (hcs : Chords settings cs ms) :
      Derived settings (before ++ l :: cs)
        (within song (.chords ⟨l.trimmed, l.number, ms⟩ none))
  /-- A header alone, and a blank line among those after it. -/
  | bare {before rest : List Line} {l : Line} {song : Song} {number : Int}
      (h : Closed settings before song) (hh : IsHeader settings l)
      (hr : ∀ x ∈ rest, IsPassed settings x) :
      Derived settings (before ++ l :: rest)
        (within song (.chords ⟨l.trimmed, l.number, []⟩ (some number)))
  | lyrics {before cs ls : List Line} {l mark : Line} {song : Song} {ms : List Measure}
      {ys : List Lyric} (h : Closed settings before song) (hh : IsHeader settings l)
      (hcs : Chords settings cs ms) (hc : mark.isComment settings.commentMark = false)
      (hm : mark.trimmed = Section.lyricMark) (hys : Lyrics settings ls ys) :
      Derived settings (before ++ l :: (cs ++ mark :: ls))
        (within song (.lyrics ⟨l.trimmed, l.number, ms⟩ ys))

theorem Derived.of_settled {ls : List Line} (h : Closed settings ls τ.song) (hs : Settles σ τ)
    (hσ : Sound settings σ) (hr : Reads settings l σ σ') : Derived settings (ls ++ [l]) σ' := by
  have hτ := hs.sound hσ
  rcases hs.reads_cases hr with ⟨hl, hs'⟩ | ⟨hc, hl, d, hd, rfl⟩ | ⟨hc, hl, rfl⟩
  · exact .settled (h.passed hl) hs'
  · refine .settled (τ := (τ.take d).session) ?_ (.outside ?_)
    · rw [hτ.take_song hs.open?_eq_none]
      exact h.interlude (.directive hc hl hd .nil)
    · rw [Session.take_stage, hs.open?_eq_none]
  · rw [Session.opened_eq_within]
    exact .chords h ⟨hc, hl⟩ .nil

theorem Derived.of_chords {before cs : List Line} {x : Line} {song : Song} {ms : List Measure}
    (h : Closed settings before song) (hh : IsHeader settings x) (hcs : Chords settings cs ms)
    (hr : Reads settings l (within song (.chords ⟨x.trimmed, x.number, ms⟩ none)) σ') :
    Derived settings (before ++ x :: (cs ++ [l])) σ' := by
  rcases Session.reads_chords_cases rfl hr with
    ⟨hc, rfl⟩ | ⟨hb, rfl⟩ | ⟨hc, hl, rfl⟩ | ⟨hc, hb, hl, m, hm, rfl⟩
  · have hcs' := hcs.append (.comment hc .nil)
    rw [List.append_nil] at hcs'
    exact .chords h hh hcs'
  · -- the first blank line: it settles a block with chords, and leaves a header alone
    by_cases hne : ms = []
    · rw [hne]
      refine .bare h hh fun y hy => ?_
      rcases List.mem_append.mp hy with hy | hy
      · exact Or.inr (hcs.isComment_of_nil hne y hy)
      · rw [List.mem_singleton.mp hy]
        exact Or.inl hb
    · have hclosed := Closed.block h (.instrumental hh hcs hne) hb .nil
      rw [Song.addTempos_nil, List.cons_append] at hclosed
      exact .settled (τ := within (song.addPart ⟨x.trimmed, ms, [], x.number⟩) .awaiting) hclosed
        (Session.settles_within song l.number hne)
  · exact .lyrics h hh hcs hc hl .nil
  · exact .chords h hh (hcs.append (.measure hc hb hl hm .nil))

theorem Derived.of_bare {before rest : List Line} {x : Line} {song : Song} {number : Int}
    (h : Closed settings before song) (hh : IsHeader settings x)
    (hp : ∀ y ∈ rest, IsPassed settings y)
    (hr : Reads settings l (within song (.chords ⟨x.trimmed, x.number, []⟩ (some number))) σ') :
    Derived settings (before ++ x :: (rest ++ [l])) σ' := by
  rcases Session.reads_pending_cases rfl hr with ⟨hl, rfl⟩ | ⟨hne, _⟩
  · refine .bare h hh fun y hy => ?_
    rcases List.mem_append.mp hy with hy | hy
    · exact hp y hy
    · rw [List.mem_singleton.mp hy]
      exact hl
  · exact absurd rfl hne

theorem Derived.of_lyrics {before cs ls : List Line} {x mark : Line} {song : Song}
    {ms : List Measure} {ys : List Lyric} (h : Closed settings before song)
    (hh : IsHeader settings x) (hcs : Chords settings cs ms)
    (hc : mark.isComment settings.commentMark = false) (hm : mark.trimmed = Section.lyricMark)
    (hys : Lyrics settings ls ys)
    (hr : Reads settings l (within song (.lyrics ⟨x.trimmed, x.number, ms⟩ ys)) σ') :
    Derived settings (before ++ x :: (cs ++ mark :: (ls ++ [l]))) σ' := by
  rcases Session.reads_lyrics_cases rfl hr with ⟨hc', hs, rfl⟩ | ⟨y, hy, rfl⟩ | ⟨hb, ht, rfl⟩
  · have hys' := hys.append (.comment hc' hs .nil)
    rw [List.append_nil] at hys'
    exact .lyrics h hh hcs hc hm hys'
  · exact .lyrics h hh hcs hc hm (hys.append (.lyric hy .nil))
  · have hclosed := Closed.block h (.sung hh hcs hc hm hys ht) hb .nil
    rw [Song.addTempos_nil, List.cons_append, List.append_assoc, List.cons_append] at hclosed
    rw [Session.closed_within]
    exact .settled (τ := within (song.addPart ⟨x.trimmed, ms, ys, x.number⟩) .awaiting) hclosed
      (.outside rfl)

/-- **Every rule extends the derivation by its line.** -/
theorem Derived.reads {ls : List Line} (h : Derived settings ls σ) (hσ : Sound settings σ)
    (hr : Reads settings l σ σ') : Derived settings (ls ++ [l]) σ' := by
  cases h with
  | settled h hs => exact .of_settled h hs hσ hr
  | chords h hh hcs =>
    rw [List.append_assoc, List.cons_append]
    exact .of_chords h hh hcs hr
  | bare h hh hp =>
    rw [List.append_assoc, List.cons_append]
    exact .of_bare h hh hp hr
  | lyrics h hh hcs hc hm hys =>
    rw [List.append_assoc, List.cons_append, List.append_assoc, List.cons_append]
    exact .of_lyrics h hh hcs hc hm hys hr

theorem derived_of_runs {ls : List Line} (hr : Runs settings {} ls σ) : Derived settings ls σ := by
  refine Session.runs_keeps (P := Derived settings) (.settled (.preamble .nil) (.outside rfl)) ?_ hr
  intro ls l σ σ' hr₁ hl h
  exact h.reads ((Session.sound_start settings).runs hr₁) hl

/-- A derivation that ends is a sheet. -/
theorem Derived.sheet {ls : List Line} {song : Song} (h : Derived settings ls σ)
    (hσ : Sound settings σ) (he : Ends σ song) : Sheet settings ls song := by
  cases h with
  | settled h hs =>
    obtain ⟨hseen, rfl⟩ := hs.song_eq he
    exact .closed h (((hs.sound hσ).seenSection_iff hs.open?_eq_none).mp hseen)
  | @chords before cs l song₀ ms h hh hcs =>
    cases he with
    | outside ho => cases ho
    | inside ho =>
      cases ho
      by_cases hne : ms = []
      · subst hne
        exact .bare h hh fun y hy => Or.inr (hcs.isComment_of_nil rfl y hy)
      · exact .unended h (.instrumental hh hcs hne)
  | bare h hh hp =>
    cases he with
    | outside ho => cases ho
    | inside ho =>
      cases ho
      exact .bare h hh hp
  | lyrics h hh hcs hc hm hys =>
    cases he with
    | outside ho => cases ho
    | inside ho ht =>
      cases ho
      exact .unended h (.sung hh hcs hc hm hys ht)

/-! ## 3. Both directions -/

/-- **Lines are read as a song exactly if the grammar says that they are this song.** -/
theorem read_eq_ok_iff_sheet {ls : List Line} {song : Song} :
    (Song.read settings ls).result = .ok song ↔ Sheet settings ls song := by
  rw [Session.songRead_eq_ok_iff]
  constructor
  · rintro ⟨σ, hr, he⟩
    exact (derived_of_runs hr).sheet ((Session.sound_start settings).runs hr) he
  · exact ends

end Sheet

/-- **Lines are read as a song exactly if they are a sheet of the grammar.** Where no line has a
    line end inside, the comments that count among lyrics are those that end in an underscore and
    digits. -/
theorem readable_iff_sheet (settings : Settings) (ls : List Line)
    (hls : ∀ l ∈ ls, '\n' ∉ l.text.toList) :
    ((∃ song, (Song.read settings ls).result = .ok song) ↔ ∃ song, Sheet settings ls song) ∧
      ∀ l ∈ ls, Lyric.hasSpan l.trimmed = true ↔ Lyric.EndsInSpan l.trimmed := by
  constructor
  · exact exists_congr fun song => Sheet.read_eq_ok_iff_sheet
  · intro l hl
    have hn : '\n' ∉ l.trimmed.toList := by
      rw [Line.toList_trimmed]
      exact fun hmem => hls l hl (Text.trimBoth_subset _ hmem)
    exact Lyric.hasSpan_iff hn

/-- A comment that ends in a span is sung, and the last header stands alone. -/
theorem sheet_of_short_song : ∃ song,
    Sheet {} (Line.scan "@bpm 90\nVerse\nC\n--\n# Ah _1\n\n# over\nOutro\n") song := by
  have h := readable_iff_sheet {}
    (Line.scan "@bpm 90\nVerse\nC\n--\n# Ah _1\n\n# over\nOutro\n") (by decide +kernel)
  refine h.1.mp ⟨⟨[⟨"bpm", .number 90, 1, true⟩], [.part ?_, .part ⟨"Outro", [], [], 8⟩]⟩, ?_⟩
  · exact ⟨"Verse", [⟨[⟨"C", ⟨"C", "maj", none⟩, 3⟩], 3⟩], [⟨"# Ah", 1, 5⟩], 2⟩
  · decide +kernel

end SongSheet
