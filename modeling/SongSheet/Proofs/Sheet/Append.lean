import SongSheet.Proofs.Sheet.Reading

/-!
# One song after another

Two texts that are songs, with a blank line between them, are one song: the sections of the first,
then those of the second. The preamble of the second is no preamble any more, so that of its
directives only the changes of tempo count (`Song.followedBy`).

The exception is a first text whose last header stands alone. At the end of a text such a header is
a section without chords. With more lines after it, the blank line that follows it stands where
chords should be, and reading fails there, whatever the second text is.
-/

namespace SongSheet

namespace Song

/-- The song of two texts one after the other. -/
def followedBy (a b : Song) : Song :=
  ⟨a.preamble, a.events ++ Directive.tempos b.preamble ++ b.events⟩

theorem followedBy_of_preamble (a : Song) (ds : List Directive) :
    a.followedBy ⟨ds, []⟩ = a.addTempos ds := by
  simp [followedBy, addTempos]

theorem followedBy_addPart (a b : Song) (s : Section) :
    a.followedBy (b.addPart s) = (a.followedBy b).addPart s := by
  simp [followedBy, addPart]

theorem followedBy_addTempos (a b : Song) (ds : List Directive) :
    a.followedBy (b.addTempos ds) = (a.followedBy b).addTempos ds := by
  simp [followedBy, addTempos]

end Song

namespace Session

variable {settings : Settings} {σ σ' : Session} {l : Line}

/-- Where the chords of a section are missing, it is the blank line that is wrong. -/
theorem Fails.eq_of_bare {e : Failure} {block : Block} {number : Int}
    (h : Fails settings l e σ σ') (hs : σ.stage = .chords block (some number))
    (hm : block.measures = []) : e = .diagnostic ((Problem.emptyLine block.name).on number) := by
  cases h with
  | emptyLine hs' _ _ _ he =>
    rw [hs] at hs'
    cases hs'
    exact he
  | next hs' hm' =>
    rw [hs] at hs'
    cases hs'
    exact absurd hm hm'
  | directive hs' | unexpected hs' | measure hs' | lyric hs' | timing hs' =>
    rw [hs] at hs'
    cases hs'

end Session

namespace Sheet

open Session (Runs within)

variable {settings : Settings} {ls ls' : List Line} {z : Line} {a b : Song}

/-- **The last block is a header alone**: no block is open where it stands, and only blank lines and
    comments come after it. -/
def EndsBare (settings : Settings) (ls : List Line) (header : Line) (rest : List Line) : Prop :=
  ∃ before song, ls = before ++ header :: rest ∧ Closed settings before song ∧
    IsHeader settings header ∧ ∀ x ∈ rest, IsPassed settings x

/-! ## 1. After a block that has ended -/

theorem events_ne_nil (h : Sheet settings ls a) : a.events ≠ [] := by
  cases h with
  | closed _ hne => exact hne
  | unended => exact Song.events_addPart_ne_nil _ _
  | bare => exact Song.events_addPart_ne_nil _ _

/-- A blank line ends the last block, unless that is a header alone. -/
theorem closed_snoc (h : Sheet settings ls a) (hz : z.isBlank = true)
    (hbare : ¬ ∃ header rest, EndsBare settings ls header rest) :
    Closed settings (ls ++ [z]) a := by
  cases h with
  | closed h _ => exact h.passed (Or.inl hz)
  | unended h hb =>
    have h' := Closed.block h hb hz .nil
    rw [Song.addTempos_nil, ← List.append_assoc] at h'
    exact h'
  | bare h hh hr => exact absurd ⟨_, _, _, _, rfl, h, hh, hr⟩ hbare

/-- After the first section, what was a preamble is an interlude like any other. -/
theorem Closed.append (h : Closed settings ls a) (hne : a.events ≠ [])
    (h' : Closed settings ls' b) : Closed settings (ls ++ ls') (a.followedBy b) := by
  induction h' with
  | preamble hi =>
    rw [Song.followedBy_of_preamble, ← Song.addDirectives_of_ne_nil hne]
    exact h.interlude hi
  | block _ hb hz hi ih =>
    rw [Song.followedBy_addTempos, Song.followedBy_addPart, ← List.append_assoc]
    exact .block ih hb hz hi

theorem Closed.append_sheet (h : Closed settings ls a) (hne : a.events ≠ [])
    (h' : Sheet settings ls' b) : Sheet settings (ls ++ ls') (a.followedBy b) := by
  cases h' with
  | closed h' hne' =>
    refine .closed (h.append hne h') ?_
    simp [Song.followedBy, hne']
  | unended h' hb =>
    rw [Song.followedBy_addPart, ← List.append_assoc]
    exact .unended (h.append hne h') hb
  | bare h' hh hr =>
    rw [Song.followedBy_addPart, ← List.append_assoc]
    exact .bare (h.append hne h') hh hr

/-! ## 2. After a header alone -/

theorem Block.exists_header {body : List Line} {s : Section} (h : Block settings body s) :
    ∃ l ∈ body, IsHeader settings l := by
  cases h with
  | instrumental hh => exact ⟨_, List.mem_cons_self, hh⟩
  | sung hh => exact ⟨_, List.mem_cons_self, hh⟩

/-- A song has a header. -/
theorem exists_header (h : Sheet settings ls a) : ∃ l ∈ ls, IsHeader settings l := by
  cases h with
  | closed h hne =>
    cases h with
    | preamble => exact absurd rfl hne
    | block _ hb =>
      obtain ⟨l, hl, hh⟩ := hb.exists_header
      exact ⟨l, List.mem_append_right _ (List.mem_append_left _ hl), hh⟩
  | unended _ hb =>
    obtain ⟨l, hl, hh⟩ := hb.exists_header
    exact ⟨l, List.mem_append_right _ hl, hh⟩
  | bare _ hh => exact ⟨_, List.mem_append_right _ List.mem_cons_self, hh⟩

/-- **A header and a blank line bear no line that says something**: the first one fails, and the
    blank line is blamed. -/
theorem readAll_of_bare {σ : Session} {block : SongSheet.Block} {number : Int}
    (hs : σ.stage = .chords block (some number)) (hm : block.measures = [])
    (hl : ∃ l ∈ ls, ¬ IsPassed settings l) :
    (σ.readAll settings ls).failure =
      some (.diagnostic ((Problem.emptyLine block.name).on number)) := by
  induction ls with
  | nil =>
    obtain ⟨l, hmem, _⟩ := hl
    cases hmem
  | cons x rest ih =>
    rcases Session.read_follows settings σ x with ⟨hf, hr⟩ | ⟨e, hf, hr⟩
    · rcases Session.reads_pending_cases hs hr with ⟨hx, hσ⟩ | ⟨hne, _⟩
      · have hrest : ∃ l ∈ rest, ¬ IsPassed settings l := by
          obtain ⟨l, hmem, hl⟩ := hl
          rcases List.mem_cons.mp hmem with rfl | hmem
          · exact absurd hx hl
          · exact ⟨l, hmem, hl⟩
        rw [Session.readAll, Step.andThen_of_none hf, hσ]
        exact ih hrest
      · exact absurd hm hne
    · rw [Session.readAll, Step.andThen_of_failure hf, hf, hr.eq_of_bare hs hm]

/-- The run up to the second text leaves the header open. -/
theorem EndsBare.runs {header : Line} {rest : List Line} (h : EndsBare settings ls header rest)
    (hz : z.isBlank = true) :
    ∃ w song, (rest ++ [z]).find? Line.isBlank = some w ∧
      Runs settings {} (ls ++ [z])
        (within song (.chords ⟨header.trimmed, header.number, []⟩ (some w.number))) := by
  obtain ⟨before, song, rfl, hclosed, hh, hrest⟩ := h
  obtain ⟨σ, τ, hr₀, hs, rfl⟩ := hclosed.runs
  have hpassed : ∀ x ∈ rest ++ [z], IsPassed settings x := by
    intro x hx
    rcases List.mem_append.mp hx with hx | hx
    · exact hrest x hx
    · rw [List.mem_singleton.mp hx]
      exact Or.inl hz
  have hsome : ((rest ++ [z]).find? Line.isBlank).isSome = true := by
    rw [List.find?_isSome]
    exact ⟨z, List.mem_append_right _ List.mem_cons_self, hz⟩
  obtain ⟨w, hw⟩ := Option.isSome_iff_exists.mp hsome
  refine ⟨w, τ.song, hw, ?_⟩
  have hr₁ := hs.header hh.notComment hh.header
  have hr₂ := runs_bare hpassed τ.song ⟨header.trimmed, header.number, []⟩ none
  rw [hw] at hr₂
  rw [List.append_assoc, List.cons_append]
  exact hr₀.append (.cons hr₁ hr₂)

/-! ## 3. Both cases -/

theorem read_append_of_bare {header : Line} {rest : List Line}
    (h : EndsBare settings ls header rest) (h' : Sheet settings ls' b) (hz : z.isBlank = true) :
    ∃ w, (rest ++ [z]).find? Line.isBlank = some w ∧
      (Song.read settings (ls ++ z :: ls')).result =
        .error (.diagnostic ((Problem.emptyLine header.trimmed).on w.number)) := by
  obtain ⟨w, song, hw, hr⟩ := h.runs hz
  obtain ⟨l, hl, hh⟩ := h'.exists_header
  have hfail := readAll_of_bare (σ := within song
    (.chords ⟨header.trimmed, header.number, []⟩ (some w.number))) rfl rfl ⟨l, hl, hh.not_isPassed⟩
  refine ⟨w, hw, Session.songRead_eq_error ?_⟩
  rw [← List.singleton_append, ← List.append_assoc, hr.failure_append, hfail]

end Sheet

/-- **Two songs with a blank line between them are one song**, with the preamble of the first, and
    of the second preamble the changes of tempo. If the last header of the first stands alone,
    reading fails at the first blank line after it. -/
theorem read_append_of_blank {settings : Settings} {ls ls' : List Line} {z : Line} {a b : Song}
    (ha : (Song.read settings ls).result = .ok a) (hb : (Song.read settings ls').result = .ok b)
    (hz : z.isBlank = true) :
    ((¬ ∃ header rest, Sheet.EndsBare settings ls header rest) →
        (Song.read settings (ls ++ z :: ls')).result =
          .ok ⟨a.preamble, a.events ++ Directive.tempos b.preamble ++ b.events⟩) ∧
      ∀ header rest, Sheet.EndsBare settings ls header rest →
        ∃ w, (rest ++ [z]).find? Line.isBlank = some w ∧
          (Song.read settings (ls ++ z :: ls')).result =
            .error (.diagnostic ((Problem.emptyLine header.trimmed).on w.number)) := by
  have hsheet : Sheet settings ls a := Sheet.read_eq_ok_iff_sheet.mp ha
  have hsheet' : Sheet settings ls' b := Sheet.read_eq_ok_iff_sheet.mp hb
  constructor
  · intro hbare
    have hall := (hsheet.closed_snoc hz hbare).append_sheet hsheet.events_ne_nil hsheet'
    rw [List.append_assoc, List.singleton_append] at hall
    exact Sheet.read_eq_ok_iff_sheet.mpr hall
  · intro header rest h
    exact Sheet.read_append_of_bare h hsheet' hz

/-- A tempo set in the second preamble stays, and a header alone before it is refused. -/
theorem read_append_of_blank_short :
    (Song.read {} [⟨1, "Verse"⟩, ⟨2, "--"⟩, ⟨3, ""⟩, ⟨4, "@bpm 90"⟩, ⟨5, "Coda"⟩]).result =
        .ok ⟨[], [.part ⟨"Verse", [], [], 1⟩, .directive ⟨"bpm", .number 90, 4, true⟩,
          .part ⟨"Coda", [], [], 5⟩]⟩ ∧
      (Song.read {} [⟨1, "Verse"⟩, ⟨3, ""⟩, ⟨4, "@bpm 90"⟩, ⟨5, "Coda"⟩]).result =
        .error (.diagnostic ((Problem.emptyLine "Verse").on 3)) := by
  have hb : (Song.read {} [⟨4, "@bpm 90"⟩, ⟨5, "Coda"⟩]).result =
      .ok ⟨[⟨"bpm", .number 90, 4, true⟩], [.part ⟨"Coda", [], [], 5⟩]⟩ := by decide +kernel
  have hz : (⟨3, ""⟩ : Line).isBlank = true := by decide
  constructor
  · have ha : (Song.read {} [⟨1, "Verse"⟩, ⟨2, "--"⟩]).result =
        .ok ⟨[], [.part ⟨"Verse", [], [], 1⟩]⟩ := by decide +kernel
    refine (read_append_of_blank ha hb hz).1 ?_
    rintro ⟨header, rest, before, song, hls, _, hh, hr⟩
    rcases before with _ | ⟨x, _ | ⟨y, before⟩⟩
    · cases hls
      have hmark : Sheet.IsPassed {} ⟨2, "--"⟩ := hr _ List.mem_cons_self
      rw [Sheet.IsPassed] at hmark
      revert hmark
      decide +kernel
    · cases hls
      exact absurd hh.header (by decide +kernel)
    · simp at hls
  · have ha : (Song.read {} [⟨1, "Verse"⟩]).result =
        .ok ⟨[], [.part ⟨"Verse", [], [], 1⟩]⟩ := by decide +kernel
    have hbare : Sheet.EndsBare {} [⟨1, "Verse"⟩] ⟨1, "Verse"⟩ [] :=
      ⟨[], ⟨[], []⟩, rfl, .preamble .nil, ⟨by decide +kernel, by decide +kernel⟩, by simp⟩
    obtain ⟨w, hw, he⟩ := (read_append_of_blank ha hb hz).2 _ _ hbare
    cases hw
    exact he

end SongSheet
