import SongSheet.Proofs.Sheet.Omission

/-!
# The log tells the same story

What is said while a text is read is said by three parties, and about a section only once it has ended:
at the blank line behind its lyrics; or, if it has none, at the first line after a blank line that starts
something new, which may have something of its own to say; or at the end of the text. `script` finds
these cues in the lines of a text, counting chord lines and lyrics as it goes, and each cue fixes what is
said (`Cue.notices`). Which line is such a cue is a matter of where it stands (`Place`).

A session that reads the lines says exactly this, each notice on the line of its cue
(`Session.log_of_runs`), because each rule of reading keeps in step with the script (`Session.InStep`).
From the same steps, what is said about sections and tempos are the events of the song. A compilation
adds the override warnings of the preamble and one notice of its own (`log_tells_the_song`).
-/

namespace SongSheet

variable {settings : Settings} {l : Line}

/-! ## 1. Cues -/

/-- One thing there is to tell about a text. -/
inductive Cue where
  /-- A section has come to its end. -/
  | ended (name : String) (measures lyrics : Nat)
  /-- A directive stands outside any block, `late` if a header stands before it. -/
  | directive (late : Bool) (d : Directive)
  deriving DecidableEq, Repr

/-- What is said about a directive: that no topic has its key; or, behind the first header, which tempo it
    changes to or that it comes too late. -/
def Directive.remarks (late : Bool) (d : Directive) : List Notice :=
  if d.key ∉ ["bpm", "original", "time"] then [.unknownDirective d.key d.line]
  else if !late then []
  else if d.key = "bpm" then [.tempoChange d.value d.line]
  else [.lateDirective d.key d.line]

/-- What a cue fixes to be said. -/
def Cue.notices : Cue → List Notice
  | .ended name measures lyrics => [.sectionRead name measures lyrics]
  | .directive late d => d.remarks late

/-- What a line outside any block gives to tell. -/
def Line.spoken (settings : Settings) (late : Bool) (l : Line) : List Cue :=
  (l.directive? settings).toList.map (.directive late)

theorem Line.spoken_of_isPassed (h : Sheet.IsPassed settings l) (late : Bool) :
    l.spoken settings late = [] := by
  rw [spoken, directive?_of_isPassed h]
  rfl

namespace Place

/-- What the line `l` gives to tell. -/
def cues (settings : Settings) (l : Line) : Place → List Cue
  | .outside late => l.spoken settings late
  | .chords _ _ => []
  | .pause name measures =>
    if l.isBlank || l.isComment settings.commentMark then []
    else .ended name measures 0 :: l.spoken settings true
  | .lyrics name measures sung => if l.isBlank then [.ended name measures sung] else []

/-- What the end of the text gives to tell. -/
def lastCues : Place → List Cue
  | .outside _ => []
  | .chords name measures | .pause name measures => [.ended name measures 0]
  | .lyrics name measures sung => [.ended name measures sung]

end Place

/-- **The cues of a text**, each with the line that gives it, or with none at the end of the text. -/
def script (settings : Settings) : Place → List Line → List (Option Line × Cue)
  | p, [] => p.lastCues.map (none, ·)
  | p, l :: ls => (p.cues settings l).map (some l, ·) ++ script settings (p.next settings l) ls

/-- The notices that a script fixes, each on the line of its cue. -/
def told (cs : List (Option Line × Cue)) : List (Option Line × Notice) :=
  cs.flatMap fun c => c.2.notices.map (c.1, ·)

/-! ## 2. What a session says -/

/-- What is said about an event. -/
def Event.notice : Event → Notice
  | .part s => s.notice
  | .directive d => .tempoChange d.value d.line

/-- The notice is about an event. -/
def Notice.isOfEvent : Notice → Bool
  | .sectionRead _ _ _ | .tempoChange _ _ => true
  | _ => false

namespace Session

/-- **What a session says**, each notice with the line on whose reading it was said, or with none at
    the end of the text. -/
def log (settings : Settings) (σ : Session) : List Line → List (Option Line × Notice)
  | [] => σ.closeOpen.notices.map (none, ·)
  | l :: ls =>
    (σ.read settings l).notices.map (some l, ·) ++ log settings (σ.read settings l).session ls

variable {σ σ' τ : Session} {ls : List Line} {song : Song}

/-- **A line read keeps in step with the script**: it says what its cues fix, and adds the events that this
    is about. -/
structure InStep (settings : Settings) (l : Line) (σ σ' : Session) : Prop where
  notices : (σ.read settings l).notices = (σ.place.cues settings l).flatMap Cue.notices
  events : σ'.events.map Event.notice =
    σ.events.map Event.notice ++ (σ.read settings l).notices.filter Notice.isOfEvent

theorem inStep_of_silent (hn : (σ.read settings l).notices = [])
    (hc : σ.place.cues settings l = []) (he : σ'.events = σ.events) : InStep settings l σ σ' := by
  refine ⟨?_, ?_⟩
  · rw [hn, hc]
    rfl
  · rw [hn, he]
    exact (List.append_nil _).symm

/-! ## 3. Steps -/

/-- A line that is passed over outside any block. -/
theorem inStep_passed (hs : σ.stage.open? = none) (hl : Sheet.IsPassed settings l)
    (hn : (σ.read settings l).notices = []) : InStep settings l σ σ := by
  refine inStep_of_silent hn ?_ rfl
  rw [place_outside hs]
  exact Line.spoken_of_isPassed hl _

theorem inStep_comment (hk : σ.skips settings l = true) : InStep settings l σ σ := by
  have hn : (σ.read settings l).notices = [] := by
    rw [read_of_skips hk]
    rfl
  have hc : l.isComment settings.commentMark = true := by
    rw [skips, Bool.and_eq_true] at hk
    exact hk.1
  have hb := Line.isBlank_eq_false_of_isComment settings hc
  cases hst : σ.stage with
  | awaiting | done => exact inStep_passed (by rw [hst]; rfl) (Or.inr hc) hn
  | chords block blank =>
    cases blank with
    | none => exact inStep_of_silent hn (by rw [place_chords hst]; rfl) rfl
    | some number =>
      exact inStep_of_silent hn (by rw [place_pause hst]; simp [Place.cues, hc]) rfl
  | lyrics block sung =>
    exact inStep_of_silent hn (by rw [place_lyrics hst]; simp [Place.cues, hb]) rfl

theorem inStep_blank (hs : σ.stage.open? = none) (hb : l.isBlank = true) :
    InStep settings l σ σ := by
  have hn : (σ.read settings l).notices = [] := by
    rw [read_outside (skips_eq_false_of_isBlank hb) hs, await, if_pos hb]
    rfl
  exact inStep_passed hs (Or.inl hb) hn

/-- What is said on taking a directive, by its key alone. -/
theorem notices_take {d : Directive} (σ : Session) (hd : Directive.read settings l = .ok d) :
    (σ.take d).notices = d.remarks σ.seenSection := by
  have hknown : d.known = decide (d.key ∈ ["bpm", "original", "time"]) := by
    rw [Directive.known_of_read hd, Bool.eq_iff_iff, Option.isSome_iff_ne_none,
      Directive.ofKey?_ne_none_iff, decide_eq_true_iff]
  have hbpm : Topic.tempo.key = "bpm" := rfl
  unfold take Directive.remarks Directive.notices
  rw [hknown, hbpm]
  cases σ.seenSection with
  | false => by_cases hmem : d.key ∈ ["bpm", "original", "time"] <;> simp [hmem]
  | true =>
    by_cases hkey : d.key = "bpm"
    · simp [hkey]
    · by_cases hmem : d.key ∈ ["bpm", "original", "time"] <;> simp [hmem, hkey]

/-- What is said about a directive is about an event exactly if it is a change of tempo. -/
theorem filter_remarks (late : Bool) (d : Directive) :
    (d.remarks late).filter Notice.isOfEvent =
      if late = true ∧ d.key = "bpm" then [.tempoChange d.value d.line] else [] := by
  unfold Directive.remarks
  by_cases hmem : d.key ∈ ["bpm", "original", "time"]
  · cases late with
    | false => simp [hmem]
    | true => by_cases hkey : d.key = "bpm" <;> simp [hmem, hkey, Notice.isOfEvent]
  · have hkey : d.key ≠ "bpm" := fun h => hmem (h ▸ List.mem_cons_self)
    simp [hmem, hkey, Notice.isOfEvent]

theorem inStep_directive {d : Directive} (hs : σ.stage.open? = none)
    (hc : l.isComment settings.commentMark = false) (hl : Directive.isDirectiveLine l.text = true)
    (hd : Directive.read settings l = .ok d) : InStep settings l σ (σ.take d).session := by
  have hread : (σ.read settings l).notices = d.remarks σ.seenSection := by
    rw [read_outside (skips_eq_false_of_not_isComment hc) hs, await_directive hl hd,
      notices_take σ hd]
  have hspoken : l.spoken settings σ.seenSection = [.directive σ.seenSection d] := by
    rw [Line.spoken, Line.directive?_of_read hc hl hd]
    rfl
  refine ⟨?_, ?_⟩
  · rw [hread, place_outside hs]
    show _ = (l.spoken settings σ.seenSection).flatMap Cue.notices
    rw [hspoken]
    exact (List.append_nil _).symm
  · rw [hread, filter_remarks]
    rcases take_cases σ d with ⟨hseen, he⟩ | ⟨hseen, hkey, he⟩ | ⟨hseen, hkey, he⟩
    · rw [he, if_neg (fun h => Bool.false_ne_true (hseen.symm.trans h.1)), List.append_nil]
    · rw [he, if_pos ⟨hseen, hkey⟩, List.map_append]
      rfl
    · rw [he, if_neg (fun h => hkey h.2), List.append_nil]

theorem inStep_header (hs : σ.stage.open? = none) (hc : l.isComment settings.commentMark = false)
    (hl : Section.isHeader settings l.text = true) : InStep settings l σ (σ.opened l) := by
  have hn : (σ.read settings l).notices = [] := by
    rw [read_outside (skips_eq_false_of_not_isComment hc) hs, await_header hl]
  refine inStep_of_silent hn ?_ rfl
  rw [place_outside hs, Place.cues, Line.spoken, Line.directive?_of_isHeader hl]
  rfl

theorem inStep_pause {block : Block} {blank : Option Int} (hs : σ.stage = .chords block blank)
    (hb : l.isBlank = true) :
    InStep settings l σ { σ with stage := .chords block (blank.or (some l.number)) } := by
  have hn : (σ.read settings l).notices = [] := by
    rw [read_chords (skips_eq_false_of_isBlank hb) hs, readChords_blank _ _ _ hb]
  cases blank with
  | none => exact inStep_of_silent hn (by rw [place_chords hs]; rfl) rfl
  | some number => exact inStep_of_silent hn (by rw [place_pause hs]; simp [Place.cues, hb]) rfl

/-- The end of a section is an event, and is told as one. -/
theorem map_notice_closed (σ : Session) (s : Section) (ns : List Notice) :
    (σ.closed s).events.map Event.notice ++ ns.filter Notice.isOfEvent =
      σ.events.map Event.notice ++ (s.notice :: ns).filter Notice.isOfEvent := by
  have hkeep : (s.notice :: ns).filter Notice.isOfEvent = s.notice :: ns.filter Notice.isOfEvent :=
    List.filter_cons_of_pos rfl
  rw [hkeep]
  simp [closed, Event.notice]

/-- The line that starts something new ends the section first, and is then read as outside any. -/
theorem inStep_next {block : Block} {number : Int} (h : Sound settings σ)
    (hs : σ.stage = .chords block (some number)) (hm : block.measures ≠ [])
    (hc : l.isComment settings.commentMark = false) (hl : startsNext settings l = true)
    (hstep : InStep settings l (σ.closed (block.close [])) σ') : InStep settings l σ σ' := by
  have hb := isBlank_eq_false_of_startsNext hl
  have hn : (σ.read settings l).notices =
      (block.close []).notice :: ((σ.closed (block.close [])).read settings l).notices := by
    rw [read_next hs hm hc hl]
  obtain ⟨hnotices, hevents⟩ := hstep
  rw [place_closed h (congrArg Stage.open? hs)] at hnotices
  refine ⟨?_, ?_⟩
  · rw [hn, hnotices, place_pause hs]
    simp only [Place.cues, hb, hc, Bool.or_self, Bool.false_eq_true, if_false, List.flatMap_cons]
    rfl
  · rw [hevents, hn, map_notice_closed]

theorem inStep_mark {block : Block} (hs : σ.stage = .chords block none)
    (hc : l.isComment settings.commentMark = false) (hl : l.trimmed = Section.lyricMark) :
    InStep settings l σ { σ with stage := .lyrics block [] } := by
  have hb : l.isBlank = false := by
    apply Line.isBlank_eq_false_of_trimmed
    rw [hl]
    decide
  have hn : (σ.read settings l).notices = [] := by
    rw [read_chords (skips_eq_false_of_not_isComment hc) hs, readChords, hb]
    simp [hl]
  exact inStep_of_silent hn (by rw [place_chords hs]; rfl) rfl

theorem inStep_measure {block : Block} {m : Measure} (hs : σ.stage = .chords block none)
    (hc : l.isComment settings.commentMark = false) (hb : l.isBlank = false)
    (hl : l.trimmed ≠ Section.lyricMark) (hm : Measure.read l = .ok m) :
    InStep settings l σ
      { σ with stage := .chords { block with measures := block.measures ++ [m] } none } := by
  have hn : (σ.read settings l).notices = [] := by
    rw [read_chords (skips_eq_false_of_not_isComment hc) hs, readChords, hb]
    simp [hl, hm]
  exact inStep_of_silent hn (by rw [place_chords hs]; rfl) rfl

theorem inStep_lyric {block : Block} {sung : List Lyric} {y : Lyric}
    (hs : σ.stage = .lyrics block sung) (hy : Lyric.read l = .ok y) :
    InStep settings l σ { σ with stage := .lyrics block (sung ++ [y]) } := by
  obtain ⟨hspan, _⟩ := Lyric.read_eq_ok hy
  have hb := Lyric.isBlank_eq_false_of_hasSpan hspan
  have hn : (σ.read settings l).notices = [] := by
    rw [read_lyrics (skips_eq_false_of_hasSpan hs hspan) hs, readLyrics, hb]
    simp [hy]
  exact inStep_of_silent hn (by rw [place_lyrics hs]; simp [Place.cues, hb]) rfl

theorem inStep_rest {block : Block} {sung : List Lyric} (hs : σ.stage = .lyrics block sung)
    (hb : l.isBlank = true) (ht : (block.close sung).IsBalanced) :
    InStep settings l σ (σ.closed (block.close sung)) := by
  have hn : (σ.read settings l).notices = [(block.close sung).notice] := by
    rw [read_lyrics (skips_eq_false_of_isBlank hb) hs, readLyrics, if_pos hb,
      close_of_isBalanced _ ht]
  refine ⟨?_, ?_⟩
  · rw [hn, place_lyrics hs]
    simp [Place.cues, hb, Cue.notices, Section.notice, Block.close]
  · rw [hn, ← map_notice_closed]
    exact (List.append_nil _).symm

/-- **Every rule keeps in step with the script.** -/
theorem inStep_of_reads (hr : Reads settings l σ σ') (h : Sound settings σ) :
    InStep settings l σ σ' := by
  induction hr with
  | comment hk => exact inStep_comment hk
  | blank hs hb => exact inStep_blank hs hb
  | directive hs hc hl hd => exact inStep_directive hs hc hl hd
  | header hs hc hl => exact inStep_header hs hc hl
  | pause hs hb => exact inStep_pause hs hb
  | next hs hm hc hl _ ih =>
    have hclosed := h.closed (congrArg Stage.open? hs) (Block.isBalanced_close_nil _)
    exact inStep_next h hs hm hc hl (ih hclosed)
  | mark hs hc hl => exact inStep_mark hs hc hl
  | measure hs hc hb hl hm => exact inStep_measure hs hc hb hl hm
  | lyric hs hy => exact inStep_lyric hs hy
  | rest hs hb ht => exact inStep_rest hs hb ht

/-! ## 4. Runs -/

theorem closeOpen_of_ends (h : Ends σ song) :
    σ.closeOpen.failure = none ∧
      σ.closeOpen.notices = σ.place.lastCues.flatMap Cue.notices ∧
      song.events.map Event.notice =
        σ.events.map Event.notice ++ σ.closeOpen.notices.filter Notice.isOfEvent := by
  cases h with
  | outside hs hseen =>
    have hstay : σ.closeOpen = σ.stay := by rw [closeOpen, hs]
    rw [hstay, place_outside hs]
    exact ⟨rfl, rfl, (List.append_nil _).symm⟩
  | @inside s hs ht hseen =>
    have hclose : σ.closeOpen = { session := σ.closed s, notices := [s.notice] } := by
      rw [closeOpen, hs]
      exact close_of_isBalanced σ ht
    rw [hclose]
    refine ⟨rfl, ?_, ?_⟩
    · cases hst : σ.stage with
      | awaiting | done => rw [hst] at hs; cases hs
      | chords block blank =>
        rw [hst] at hs
        cases hs
        cases blank with
        | none => rw [place_chords hst]; rfl
        | some number => rw [place_pause hst]; rfl
      | lyrics block sung =>
        rw [hst] at hs
        cases hs
        rw [place_lyrics hst]
        rfl
    · rw [← map_notice_closed]
      exact (List.append_nil _).symm

/-- **A session that reads all lines says what the script fixes, on the lines of the cues.** -/
theorem log_of_runs (hr : Runs settings σ ls τ) (h : Sound settings σ) (he : Ends τ song) :
    log settings σ ls = told (script settings σ.place ls) := by
  induction hr with
  | nil =>
    rw [log, (closeOpen_of_ends he).2.1, told, script, List.map_flatMap, List.flatMap_map]
  | @cons σ σ₁ τ l ls hl _ ih =>
    have hstep := inStep_of_reads hl h
    have htold := ih (h.reads hl) he
    rw [log, (reads_iff.mp hl).2, htold, hstep.notices, place_of_reads hl h, script, told, told,
      List.flatMap_append, List.map_flatMap, List.flatMap_map]

theorem map_snd_on (x : Option Line) (ns : List Notice) : (ns.map (x, ·)).map Prod.snd = ns := by
  simp

/-- **What is said about events are the events**, in order. -/
theorem events_of_runs (hr : Runs settings σ ls τ) (h : Sound settings σ) (he : Ends τ song) :
    song.events.map Event.notice =
      σ.events.map Event.notice ++ ((log settings σ ls).map Prod.snd).filter Notice.isOfEvent := by
  induction hr with
  | nil => rw [log, map_snd_on, (closeOpen_of_ends he).2.2]
  | @cons σ σ₁ τ l ls hl _ ih =>
    have hstep := inStep_of_reads hl h
    rw [ih (h.reads hl) he, hstep.events, log, (reads_iff.mp hl).2, List.map_append, map_snd_on,
      List.filter_append, List.append_assoc]

/-- The log is all that is said while the lines are read. -/
theorem notices_of_runs (hr : Runs settings σ ls τ) :
    (log settings σ ls).map Prod.snd =
      (σ.readAll settings ls).notices ++ τ.closeOpen.notices := by
  induction hr with
  | nil =>
    rw [log, readAll, map_snd_on]
    rfl
  | @cons σ σ₁ τ l ls hl _ ih =>
    obtain ⟨hf, hσ⟩ := reads_iff.mp hl
    rw [log, readAll, Step.andThen_of_none hf, hσ, List.map_append, map_snd_on, ih,
      List.append_assoc]

/-- **All that is said in reading lines as a song.** -/
theorem notices_songRead (hr : Runs settings {} ls τ) (he : Ends τ song) :
    (Song.read settings ls).notices = (log settings {} ls).map Prod.snd := by
  obtain ⟨hf, hτ⟩ := readAll_of_runs hr
  have hopen := (closeOpen_of_ends he).1
  rw [notices_of_runs hr, Song.read, feed, Step.report, Step.andThen_assoc, Step.andThen_of_none hf,
    hτ, Step.andThen_of_none hopen]
  exact congrArg _ (List.append_nil _)

/-- Each notice is on one of the lines, or at the end. -/
theorem mem_of_mem_log {p : Option Line × Notice} (h : p ∈ log settings σ ls) :
    p.1 = none ∨ ∃ l ∈ ls, p.1 = some l := by
  induction ls generalizing σ with
  | nil =>
    obtain ⟨n, _, rfl⟩ := List.mem_map.mp h
    exact Or.inl rfl
  | cons l ls ih =>
    rcases List.mem_append.mp h with hmem | hmem
    · obtain ⟨n, _, rfl⟩ := List.mem_map.mp hmem
      exact Or.inr ⟨l, List.mem_cons_self, rfl⟩
    · rcases ih hmem with hnone | ⟨x, hx, hsome⟩
      · exact Or.inl hnone
      · exact Or.inr ⟨x, List.mem_cons_of_mem l hx, hsome⟩

end Session

/-- One line is not after the other; the end of the text is after all of them. -/
def Line.NotAfter : Option Line → Option Line → Prop
  | _, none => True
  | none, some _ => False
  | some l, some l' => l.number ≤ l'.number

/-- **Notices come in the order of the lines.** -/
theorem Session.pairwise_log {σ : Session} {ls : List Line}
    (h : ls.Pairwise fun l l' => l.number < l'.number) :
    (log settings σ ls).Pairwise fun p q => Line.NotAfter p.1 q.1 := by
  induction ls generalizing σ with
  | nil =>
    refine List.pairwise_map.mpr (List.pairwise_of_forall fun _ _ => ?_)
    trivial
  | cons l ls ih =>
    obtain ⟨hl, hls⟩ := List.pairwise_cons.mp h
    refine List.pairwise_append.mpr ⟨?_, ih hls, fun p hp q hq => ?_⟩
    · exact List.pairwise_map.mpr (List.pairwise_of_forall fun _ _ => Int.le_refl _)
    · obtain ⟨n, _, rfl⟩ := List.mem_map.mp hp
      rcases mem_of_mem_log hq with hnone | ⟨x, hx, hsome⟩
      · rw [hnone]
        trivial
      · rw [hsome]
        exact Int.le_of_lt (hl x hx)

/-! ## 5. Compilations -/

/-- What is said while a text is read is either for the record or a warning. -/
theorem level_of_mem_told {cs : List (Option Line × Cue)} {n : Notice}
    (h : n ∈ (told cs).map Prod.snd) : n.level = .debug ∨ n.level = .warning := by
  obtain ⟨p, hp, rfl⟩ := List.mem_map.mp h
  obtain ⟨⟨l, c⟩, _, hc⟩ := List.mem_flatMap.mp hp
  obtain ⟨n, hn, rfl⟩ := List.mem_map.mp hc
  cases c with
  | ended name measures sung =>
    obtain rfl := List.mem_singleton.mp hn
    exact Or.inl rfl
  | directive late d =>
    have hremark : n ∈ d.remarks late := hn
    unfold Directive.remarks at hremark
    split at hremark
    · obtain rfl := List.mem_singleton.mp hremark
      exact Or.inl rfl
    · split at hremark
      · exact absurd hremark List.not_mem_nil
      · split at hremark
        · obtain rfl := List.mem_singleton.mp hremark
          exact Or.inl rfl
        · obtain rfl := List.mem_singleton.mp hremark
          exact Or.inr rfl

/-- Warnings are about directives that come too late or take the place of another. -/
theorem Notice.level_eq_warning_iff {n : Notice} :
    n.level = .warning ↔ ∃ key line, n = .lateDirective key line ∨ n = .overridden key line := by
  cases n <;> simp [level]

/-- What is said once the lines are read. -/
theorem Song.notices_compile {ls : List Line} {song : Song} {document : Document}
    (hread : (Song.read settings ls).result = .ok song)
    (h : (song.compile settings).result = .ok document) :
    (song.compile settings).notices =
      (Metadata.overriding [] song.preamble).map (fun d => .overridden d.key d.line) ++
        [.compiled document.sections.length document.prompter.length] := by
  obtain ⟨m, hm, _⟩ := Metadata.result_ofDirectives (Song.not_isStray_of_read hread)
  have hdocument : (song.compile settings).result = .ok (Document.build settings m song.events) :=
    Song.compile_of_metadata hm
  rw [h] at hdocument
  cases hdocument
  have hnotices := Metadata.notices_ofDirectives (Song.not_isStray_of_read hread)
  unfold Song.compile Report.andThen
  rw [hm, hnotices]
  rfl

/-- The lines come first, and then the song. -/
theorem compile_of_songRead {text : String} {song : Song}
    (h : (Song.read settings (Line.scan text)).result = .ok song) :
    compile settings text =
      ⟨(Song.read settings (Line.scan text)).notices ++ (song.compile settings).notices,
        (song.compile settings).result⟩ := by
  unfold compile Report.andThen
  rw [h]

/-- **The log tells the same story as the document.** Of a text that compiles, everything is said in this
    order: what its lines give to tell, each notice on the line of its cue and so in the order of the
    lines; the directives of the preamble that take the place of others; how many sections and items
    there are. Among what the lines give to tell, the notices about sections and changes of tempo are the
    events of the song, one for one. Late and overriding directives are warned about, and all else is for
    the record. -/
theorem log_tells_the_song {text : String} {document : Document}
    (h : (compile settings text).result = .ok document) :
    ∃ song, (Song.read settings (Line.scan text)).result = .ok song ∧
      (compile settings text).notices =
        (Session.log settings {} (Line.scan text)).map Prod.snd ++
          ((Metadata.overriding [] song.preamble).map (fun d => .overridden d.key d.line) ++
            [.compiled document.sections.length document.prompter.length]) ∧
      Session.log settings {} (Line.scan text) =
        told (script settings (.outside false) (Line.scan text)) ∧
      (Session.log settings {} (Line.scan text)).Pairwise (fun p q => Line.NotAfter p.1 q.1) ∧
      ((Session.log settings {} (Line.scan text)).map Prod.snd).filter Notice.isOfEvent =
        song.events.map Event.notice ∧
      ∀ n ∈ (compile settings text).notices, (n.level = .debug ∨ n.level = .warning) ∧
        (n.level = .warning ↔
          ∃ key line, n = .lateDirective key line ∨ n = .overridden key line) := by
  obtain ⟨song, _, hread, _, _⟩ := compile_eq_ok_iff.mp h
  obtain ⟨τ, hr, he⟩ := Session.songRead_eq_ok_iff.mp hread
  have hstart := Session.sound_start settings
  have hlog := Session.log_of_runs hr hstart he
  have hplace : ({} : Session).place = .outside false := rfl
  rw [hplace] at hlog
  have hevents := Session.events_of_runs hr hstart he
  rw [List.map_nil, List.nil_append] at hevents
  have hsorted : (Line.scan text).Pairwise fun l l' => l.number < l'.number :=
    List.pairwise_map.mp (Line.pairwise_number_numbered 1 _)
  have hcompile : (song.compile settings).result = .ok document := by
    rw [compile_of_songRead hread] at h
    exact h
  have hnotices : (compile settings text).notices =
      (Session.log settings {} (Line.scan text)).map Prod.snd ++
        ((Metadata.overriding [] song.preamble).map (fun d => .overridden d.key d.line) ++
          [.compiled document.sections.length document.prompter.length]) := by
    rw [compile_of_songRead hread, Session.notices_songRead hr he, Song.notices_compile hread hcompile]
  refine ⟨song, hread, hnotices, hlog, Session.pairwise_log hsorted,
    hevents.symm, fun n hn => ⟨?_, Notice.level_eq_warning_iff⟩⟩
  rw [hnotices, hlog] at hn
  rcases List.mem_append.mp hn with hlines | hdone
  · exact level_of_mem_told hlines
  · rcases List.mem_append.mp hdone with hover | hlast
    · obtain ⟨d, _, rfl⟩ := List.mem_map.mp hover
      exact Or.inr rfl
    · obtain rfl := List.mem_singleton.mp hlast
      exact Or.inl rfl

/-- The sections end at a blank line, at a late metre that is warned about on the same line, and with the
    text. -/
theorem log_tells_the_song_short : ∃ document,
    (compile {} "@capo 2\nA\nC\n--\nLa_1\n\nB\nG\n\n@time 3/4\n@bpm 100\nEnd").result = .ok document ∧
      (Session.log {} {} (Line.scan
          "@capo 2\nA\nC\n--\nLa_1\n\nB\nG\n\n@time 3/4\n@bpm 100\nEnd")).map
          (fun p => (p.1.map Line.number, p.2)) =
        [(some 1, .unknownDirective "capo" 1), (some 6, .sectionRead "A" 1 1),
          (some 10, .sectionRead "B" 1 0), (some 10, .lateDirective "time" 10),
          (some 11, .tempoChange (.number 100) 11), (none, .sectionRead "End" 0 0)] := by
  cases h : (compile {} "@capo 2\nA\nC\n--\nLa_1\n\nB\nG\n\n@time 3/4\n@bpm 100\nEnd").result with
  | error e =>
    have hok : (compile {} "@capo 2\nA\nC\n--\nLa_1\n\nB\nG\n\n@time 3/4\n@bpm 100\nEnd").result.isOk =
        true := by decide +kernel
    rw [h] at hok
    cases hok
  | ok document =>
    obtain ⟨_, _, _, hlog, _⟩ := log_tells_the_song h
    refine ⟨document, rfl, ?_⟩
    rw [hlog]
    decide +kernel

end SongSheet
