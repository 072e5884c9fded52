import SongSheet.Proofs.Session.Remains

/-!
# Lyrics that cover too much

A section ends only with lyrics that cover its measures exactly. Lyrics that cover too little can be made up
for by more of them; lyrics that cover too much cannot. Among lyrics the measures stand still, and each
lyric line covers at least one, so what is too much stays too much (`reads_singing`). A blank line and the
end of a batch both ask for the same check, so neither ends the section (`feed_singing`): whatever the
session is fed, every batch is refused, and lyrics are all that is ever added
(`overrun_section_never_ends`).
-/

namespace SongSheet

/-! ## 1. Too much -/

/-- The lyrics cover more measures than there are. -/
def Section.IsOverrun (s : Section) : Prop := (s.measures.length : Int) < s.claimed

theorem Section.IsOverrun.not_isBalanced {s : Section} (h : s.IsOverrun) : ¬ s.IsBalanced := by
  unfold IsOverrun at h
  intro hbal
  rcases hbal with hnil | hsum
  · -- no lyrics cover nothing
    have hzero : s.claimed = 0 := by
      rw [Section.claimed, hnil]
      rfl
    omega
  · omega

/-- The check refuses it. -/
theorem Section.IsOverrun.exists_checkTiming {s : Section} (h : s.IsOverrun) :
    ∃ e, s.checkTiming = .error e := by
  cases ht : s.checkTiming with
  | error e => exact ⟨e, rfl⟩
  | ok t => exact absurd (Section.isBalanced_of_checkTiming ht).2 h.not_isBalanced

/-- One more lyric makes it worse. -/
theorem Block.isOverrun_snoc {block : Block} {sung : List Lyric} {l : Line} {y : Lyric}
    (h : (block.close sung).IsOverrun) (hy : Lyric.read l = .ok y) :
    (block.close (sung ++ [y])).IsOverrun := by
  have hspan : 1 ≤ y.span := (Lyric.read_eq_ok hy).2.1
  have hsung : (block.measures.length : Int) < (block.close sung).claimed := h
  show (block.measures.length : Int) < (block.close (sung ++ [y])).claimed
  rw [Block.claimed_snoc]
  omega

namespace Session

variable {settings : Settings} {σ σ' τ : Session} {l : Line} {ls : List Line} {e : Failure}
  {block : Block} {sung : List Lyric}

/-! ## 2. Among lyrics -/

/-- The session among the lyrics of `block`, those sung so far being `sung`. -/
def singing (σ : Session) (block : Block) (sung : List Lyric) : Session :=
  { σ with stage := .lyrics block sung }

theorem eq_singing (hs : σ.stage = .lyrics block sung) : σ = σ.singing block sung := by
  rw [singing, ← hs]

/-- `τ` has more sung than that, still too much, and is otherwise as `σ`. -/
def SingsOn (σ : Session) (block : Block) (sung : List Lyric) (τ : Session) : Prop :=
  ∃ more, τ = σ.singing block (sung ++ more) ∧ (block.close (sung ++ more)).IsOverrun

theorem SingsOn.refl (ho : (block.close sung).IsOverrun) :
    SingsOn σ block sung (σ.singing block sung) := by
  refine ⟨[], ?_, ?_⟩
  · rw [List.append_nil]
  · rw [List.append_nil]
    exact ho

theorem SingsOn.of_append {first : List Lyric} (h : SingsOn σ block (sung ++ first) τ) :
    SingsOn σ block sung τ := by
  obtain ⟨more, hτ, ho⟩ := h
  rw [List.append_assoc] at hτ ho
  exact ⟨first ++ more, hτ, ho⟩

/-- **A line that is read adds at most a lyric**, and too much stays too much. -/
theorem reads_singing (ho : (block.close sung).IsOverrun)
    (hr : Reads settings l (σ.singing block sung) τ) : SingsOn σ block sung τ := by
  rcases reads_lyrics_cases rfl hr with ⟨_, _, rfl⟩ | ⟨y, hy, rfl⟩ | ⟨_, hbal, _⟩
  · exact .refl ho
  · exact ⟨[y], rfl, Block.isOverrun_snoc ho hy⟩
  · exact absurd hbal ho.not_isBalanced

theorem runs_singing (ho : (block.close sung).IsOverrun)
    (hr : Runs settings (σ.singing block sung) ls τ) : SingsOn σ block sung τ := by
  induction ls generalizing sung with
  | nil =>
    cases hr
    exact .refl ho
  | cons l ls ih =>
    cases hr with
    | cons hl hls =>
      obtain ⟨first, rfl, hfirst⟩ := reads_singing ho hl
      exact (ih hfirst hls).of_append

/-- A line among lyrics is refused as a lyric, or as the end of the section. -/
theorem fails_lyrics_cases (hs : σ.stage = .lyrics block sung) (hf : Fails settings l e σ σ') :
    σ' = σ ∧ (Lyric.read l = .error e ∨ (block.close sung).checkTiming = .error e) := by
  cases hf with
  | lyric _ _ _ hy => exact ⟨rfl, Or.inl hy⟩
  | timing hs' _ ht =>
    rw [hs] at hs'
    cases hs'
    exact ⟨rfl, Or.inr ht⟩
  | directive hs' | unexpected hs' | emptyLine hs' | next hs' | measure hs' =>
    rw [hs] at hs'
    cases hs'

/-! ## 3. Batches -/

/-- **A batch is refused**, at a line that is no lyric or where the section was to end, and adds nothing but
    lyrics. -/
theorem feed_singing (settings : Settings) (σ : Session) (ho : (block.close sung).IsOverrun)
    (ls : List Line) :
    ∃ more e, ((σ.singing block sung).feed settings ls).session = σ.singing block (sung ++ more) ∧
      (block.close (sung ++ more)).IsOverrun ∧
      ((σ.singing block sung).feed settings ls).failure = some e ∧
      ((∃ l ∈ ls, Lyric.read l = .error e) ∨
        (block.close (sung ++ more)).checkTiming = .error e) := by
  have hfeed : (σ.singing block sung).feed settings ls =
      ((σ.singing block sung).readAll settings ls).andThen fun τ => τ.closeOpen.andThen finish :=
    Step.andThen_assoc _ _ _
  rw [hfeed]
  cases hf : ((σ.singing block sung).readAll settings ls).failure with
  | some e =>
    obtain ⟨before, l, after, τ, τ', rfl, hr, hfails⟩ := readAll_eq_some_iff.mp hf
    obtain ⟨more, rfl, hmore⟩ := runs_singing ho hr
    obtain ⟨rfl, hwhy⟩ := fails_lyrics_cases rfl hfails
    rw [Step.andThen_of_failure hf]
    refine ⟨more, e, readAll_session_of_fails hr hfails, hmore, hf, ?_⟩
    rcases hwhy with hy | ht
    · exact Or.inl ⟨l, List.mem_append_right _ List.mem_cons_self, hy⟩
    · exact Or.inr ht
  | none =>
    -- all lines were read, and the end of the batch is where the section was to end
    obtain ⟨more, hτ, hmore⟩ := runs_singing ho (runs_of_readAll hf)
    obtain ⟨e, ht⟩ := hmore.exists_checkTiming
    rw [Step.andThen_of_none hf, hτ]
    exact ⟨more, e, closeOpen_finish_of_timing rfl ht, hmore,
      closeOpen_finish_eq_some_iff.mpr (Or.inl ⟨_, rfl, ht⟩), Or.inr ht⟩

/-- From the start, these are batches after batches. -/
theorem fed_after (settings : Settings) (batches more : List (List Line)) :
    (after settings batches).fed settings more = after settings (batches ++ more) :=
  List.foldl_append.symm

theorem fed_singing (settings : Settings) (σ : Session) (ho : (block.close sung).IsOverrun)
    (batches : List (List Line)) :
    SingsOn σ block sung ((σ.singing block sung).fed settings batches) := by
  induction batches using List.reverseRecOn with
  | nil => exact .refl ho
  | append_singleton batches ls ih =>
    obtain ⟨added, hadded, hov⟩ := ih
    obtain ⟨more, _, hsession, hmore, _⟩ := feed_singing settings σ hov ls
    rw [fed_snoc, hadded, hsession]
    exact SingsOn.of_append ⟨more, rfl, hmore⟩

/-- **A section with too much sung in it never ends.** From a session among its lyrics, and after any batches
    more, nothing has changed but that lyrics were added; and the next batch is refused, because one of its
    lines is no lyric line or because the section does not come out even, and again adds lyrics at most. -/
theorem overrun_section_never_ends (settings : Settings) {σ : Session} {block : Block}
    {sung : List Lyric} (hs : σ.stage = .lyrics block sung) (ho : (block.close sung).IsOverrun)
    (batches : List (List Line)) (ls : List Line) :
    ∃ added more e,
      σ.fed settings batches = { σ with stage := .lyrics block (sung ++ added) } ∧
      ((σ.fed settings batches).feed settings ls).session =
        { σ with stage := .lyrics block (sung ++ added ++ more) } ∧
      ((σ.fed settings batches).feed settings ls).failure = some e ∧
      ((∃ l ∈ ls, Lyric.read l = .error e) ∨
        (block.close (sung ++ added ++ more)).checkTiming = .error e) := by
  rw [eq_singing hs]
  obtain ⟨added, hadded, hov⟩ := fed_singing settings σ ho batches
  obtain ⟨more, e, hsession, _, hfailure, hwhy⟩ := feed_singing settings σ hov ls
  rw [hadded]
  exact ⟨added, more, e, rfl, hsession, hfailure, hwhy⟩

/-- One measure, and a lyric for two. A lyric more, a blank line and a header are tried in three batches after
    it; there is no section at the end, and the header is refused. -/
theorem overrun_section_never_ends_short :
    (after {} [[⟨1, "Verse"⟩, ⟨2, "C"⟩, ⟨3, "--"⟩, ⟨4, "La _2"⟩], [⟨5, "# on"⟩, ⟨6, "#1 fan _1"⟩],
        [⟨7, ""⟩, ⟨8, "Coda"⟩]]).events = [] ∧
      ((after {} [[⟨1, "Verse"⟩, ⟨2, "C"⟩, ⟨3, "--"⟩, ⟨4, "La _2"⟩], [⟨5, "# on"⟩, ⟨6, "#1 fan _1"⟩],
        [⟨7, ""⟩, ⟨8, "Coda"⟩]]).feed {} [⟨9, "Coda"⟩]).failure ≠ none := by
  have hstage : (after {} [[⟨1, "Verse"⟩, ⟨2, "C"⟩, ⟨3, "--"⟩, ⟨4, "La _2"⟩]]).stage =
      .lyrics ⟨"Verse", 1, [⟨[⟨"C", ⟨"C", "maj", none⟩, 2⟩], 2⟩]⟩ [⟨"La", 2, 4⟩] := by decide +kernel
  have hevents : (after {} [[⟨1, "Verse"⟩, ⟨2, "C"⟩, ⟨3, "--"⟩, ⟨4, "La _2"⟩]]).events = [] := by
    decide +kernel
  have hover : (Block.close ⟨"Verse", 1, [⟨[⟨"C", ⟨"C", "maj", none⟩, 2⟩], 2⟩]⟩
      [⟨"La", 2, 4⟩]).IsOverrun := by
    unfold Section.IsOverrun
    decide
  have hafter := fed_after {} [[⟨1, "Verse"⟩, ⟨2, "C"⟩, ⟨3, "--"⟩, ⟨4, "La _2"⟩]]
    [[⟨5, "# on"⟩, ⟨6, "#1 fan _1"⟩], [⟨7, ""⟩, ⟨8, "Coda"⟩]]
  rw [List.singleton_append] at hafter
  rw [← hafter]
  generalize after {} [[⟨1, "Verse"⟩, ⟨2, "C"⟩, ⟨3, "--"⟩, ⟨4, "La _2"⟩]] = σ at hstage hevents ⊢
  obtain ⟨added, more, e, hfed, _, hfailure, _⟩ := overrun_section_never_ends {} hstage hover
    [[⟨5, "# on"⟩, ⟨6, "#1 fan _1"⟩], [⟨7, ""⟩, ⟨8, "Coda"⟩]] [⟨9, "Coda"⟩]
  refine ⟨?_, ?_⟩
  · rw [hfed]
    exact hevents
  · rw [hfailure]
    exact Option.some_ne_none e

end Session

end SongSheet
