import SongSheet.Proofs.Compile
import SongSheet.Proofs.Sheet.Reading

/-!
# The prompter follows the text

What shows on the prompter stands on the lines outside blocks: headers and changes of tempo. `marks`
finds these lines in a text, with no more to go by than that a block goes from its header to the next
blank line. For a text that compiles, the prompter has the last tempo before the first header, if
there is one, and from there on one item for each mark, in order (`prompter_follows_text`).

The marks of a text are found along its grammar. Each region is read with the lines after it still to
come, so that regions can be put together: an interlude gives its tempos and leaves the reader outside
(`Sheet.Interlude.marks_append`), a block gives its header and leaves the reader inside until a blank
line comes (`Sheet.Block.marks_append`).
-/

namespace SongSheet

/-! ## 1. Marks -/

/-- A line that shows on the prompter. -/
inductive Mark where
  | tempo (d : Directive)
  | header (l : Line)
  deriving DecidableEq

/-- What a line shows that stands outside any block. -/
def Line.mark? (settings : Settings) (l : Line) : Option Mark :=
  if l.isComment settings.commentMark then none
  else if Directive.isDirectiveLine l.text then
    match Directive.read settings l with
    | .ok d => if d.key = Topic.tempo.key then some (.tempo d) else none
    | .error _ => none
  else if Section.isHeader settings l.text then some (.header l)
  else none

/-- **The marks of lines**, from inside a block on or from outside any. A block goes from its header
    to the next blank line. -/
def marks (settings : Settings) : Bool → List Line → List Mark
  | _, [] => []
  | true, l :: ls => marks settings (!l.isBlank) ls
  | false, l :: ls =>
    match l.mark? settings with
    | none => marks settings false ls
    | some (.tempo d) => .tempo d :: marks settings false ls
    | some (.header h) => .header h :: marks settings true ls

/-- The changes of tempo among directives, as marks. -/
def tempoMarks (ds : List Directive) : List Mark :=
  (ds.filter fun d => d.key = Topic.tempo.key).map .tempo

variable {settings : Settings} {ls : List Line} {l : Line}

theorem marks_of_mark?_eq_none (h : l.mark? settings = none) (ls : List Line) :
    marks settings false (l :: ls) = marks settings false ls := by
  rw [marks, h]

theorem Line.mark?_of_isComment (h : l.isComment settings.commentMark = true) :
    l.mark? settings = none := by
  rw [mark?, if_pos h]

theorem Line.mark?_of_isBlank (h : l.isBlank = true) : l.mark? settings = none := by
  have hd : Directive.isDirectiveLine l.text = false := by
    cases hd : Directive.isDirectiveLine l.text with
    | false => rfl
    | true => rw [isBlank_eq_false_of_isDirectiveLine hd] at h; cases h
  have hh : Section.isHeader settings l.text = false := by
    cases hh : Section.isHeader settings l.text with
    | false => rfl
    | true => rw [isBlank_eq_false_of_isHeader hh] at h; cases h
  simp [mark?, hd, hh]

theorem Line.mark?_of_header (h : Sheet.IsHeader settings l) :
    l.mark? settings = some (.header l) := by
  simp [mark?, h.notComment, h.header, isDirectiveLine_eq_false_of_isHeader h.header]

/-- A change of tempo is the reading of its line. -/
theorem Line.mark?_eq_tempo {d : Directive} (h : l.mark? settings = some (.tempo d)) :
    Directive.read settings l = .ok d ∧ d.key = Topic.tempo.key := by
  unfold mark? at h
  split at h
  · cases h
  · split at h
    · split at h
      · rename_i d' hread
        split at h
        · rename_i hkey
          cases h
          exact ⟨hread, hkey⟩
        · cases h
      · cases h
    · split at h <;> cases h

/-- Inside a block nothing shows as long as no blank line comes. -/
theorem marks_inside (h : ∀ l ∈ ls, l.isBlank = false) (rest : List Line) :
    marks settings true (ls ++ rest) = marks settings true rest := by
  induction ls with
  | nil => rfl
  | cons l ls ih =>
    rw [List.cons_append, marks, h l List.mem_cons_self]
    exact ih fun x hx => h x (List.mem_cons_of_mem _ hx)

theorem marks_of_isBlank (h : l.isBlank = true) (rest : List Line) :
    marks settings true (l :: rest) = marks settings false rest := by
  rw [marks, h]
  rfl

/-- Lines that are passed over show nothing, wherever they stand. -/
theorem marks_of_isPassed : ∀ {ls : List Line} (inside : Bool),
    (∀ l ∈ ls, Sheet.IsPassed settings l) → marks settings inside ls = []
  | [], inside, _ => by cases inside <;> rfl
  | l :: ls, true, h => by
      rw [marks]
      exact marks_of_isPassed _ fun x hx => h x (List.mem_cons_of_mem _ hx)
  | l :: ls, false, h => by
      have hnone : l.mark? settings = none := by
        rcases h l List.mem_cons_self with hb | hc
        · exact Line.mark?_of_isBlank hb
        · exact Line.mark?_of_isComment hc
      rw [marks_of_mark?_eq_none hnone]
      exact marks_of_isPassed _ fun x hx => h x (List.mem_cons_of_mem _ hx)

/-- **Every tempo that is marked lies within the bounds.** -/
theorem isTempo_of_mem_marks {d : Directive} : ∀ {ls : List Line} {inside : Bool},
    Mark.tempo d ∈ marks settings inside ls → d.IsTempo settings
  | [], true, h => by cases h
  | [], false, h => by cases h
  | l :: ls, true, h => by
      rw [marks] at h
      exact isTempo_of_mem_marks h
  | l :: ls, false, h => by
      rw [marks] at h
      split at h
      · exact isTempo_of_mem_marks h
      · rename_i d' hmark
        rcases List.mem_cons.mp h with heq | h
        · cases heq
          obtain ⟨hread, hkey⟩ := Line.mark?_eq_tempo hmark
          exact (Directive.read_eq_ok hread).2 hkey
        · exact isTempo_of_mem_marks h
      · rcases List.mem_cons.mp h with heq | h
        · cases heq
        · exact isTempo_of_mem_marks h

/-! ## 2. Marks along the grammar -/

/-- An item shows what its mark says. -/
def Item.IsOf : Item → Mark → Prop
  | .content name _, .header l => name = l.trimmed
  | .tempo v, .tempo d => v = d.value
  | .content _ _, .tempo _ => False
  | .tempo _, .header _ => False

/-- The items of events, one for each mark. -/
def Event.Show (es : List Event) (ms : List Mark) : Prop :=
  List.Forall₂ Item.IsOf (es.map Event.item) ms

theorem Event.show_tempos (ds : List Directive) : Show (Directive.tempos ds) (tempoMarks ds) := by
  unfold Show Directive.tempos tempoMarks
  generalize ds.filter _ = ds'
  induction ds' with
  | nil => exact .nil
  | cons d ds' ih => exact .cons rfl ih

theorem Event.Show.append {es es' : List Event} {ms ms' : List Mark} (h : Show es ms)
    (h' : Show es' ms') : Show (es ++ es') (ms ++ ms') := by
  unfold Show
  rw [List.map_append]
  exact List.rel_append h h'

/-- A section shows at its header. -/
theorem Event.show_part {s : Section} (h : s.name = l.trimmed) : Show [.part s] [.header l] :=
  .cons h .nil

namespace Sheet

theorem Interlude.marks_append {ds : List Directive} (h : Interlude settings ls ds)
    (rest : List Line) :
    marks settings false (ls ++ rest) = tempoMarks ds ++ marks settings false rest := by
  induction h with
  | nil => rfl
  | blank hb _ ih => rw [List.cons_append, marks_of_mark?_eq_none (Line.mark?_of_isBlank hb), ih]
  | comment hc _ ih => rw [List.cons_append, marks_of_mark?_eq_none (Line.mark?_of_isComment hc), ih]
  | @directive l ls d ds hc hl hd _ ih =>
    by_cases hkey : d.key = Topic.tempo.key
    · have hmark : l.mark? settings = some (.tempo d) := by simp [Line.mark?, hc, hl, hd, hkey]
      rw [List.cons_append, marks, hmark, ih]
      simp [tempoMarks, hkey]
    · have hmark : l.mark? settings = none := by simp [Line.mark?, hc, hl, hd, hkey]
      rw [List.cons_append, marks_of_mark?_eq_none hmark, ih]
      simp [tempoMarks, hkey]

theorem Chords.isBlank_eq_false {ms : List Measure} (h : Chords settings ls ms) :
    ∀ l ∈ ls, l.isBlank = false := by
  induction h with
  | nil => exact fun l hl => absurd hl List.not_mem_nil
  | comment hc _ ih =>
    exact List.forall_mem_cons.mpr ⟨Line.isBlank_eq_false_of_isComment settings hc, ih⟩
  | measure _ hb _ _ _ ih => exact List.forall_mem_cons.mpr ⟨hb, ih⟩

theorem Lyrics.isBlank_eq_false {ys : List Lyric} (h : Lyrics settings ls ys) :
    ∀ l ∈ ls, l.isBlank = false := by
  induction h with
  | nil => exact fun l hl => absurd hl List.not_mem_nil
  | comment hc _ _ ih =>
    exact List.forall_mem_cons.mpr ⟨Line.isBlank_eq_false_of_isComment settings hc, ih⟩
  | lyric hy _ ih =>
    have hspan := (Lyric.read_eq_ok hy).1
    exact List.forall_mem_cons.mpr ⟨Lyric.isBlank_eq_false_of_hasSpan hspan, ih⟩

/-- A block is a header and lines of which none is blank. -/
theorem Block.exists_eq_cons {body : List Line} {s : Section} (h : Block settings body s) :
    ∃ l tail, body = l :: tail ∧ IsHeader settings l ∧ s.name = l.trimmed ∧
      ∀ x ∈ tail, x.isBlank = false := by
  cases h with
  | instrumental hh hcs _ => exact ⟨_, _, rfl, hh, rfl, hcs.isBlank_eq_false⟩
  | @sung l mark cs ls ms ys hh hcs _ hm hys _ =>
    have hmark : mark.isBlank = false := by
      apply Line.isBlank_eq_false_of_trimmed
      rw [hm]
      decide
    refine ⟨_, _, rfl, hh, rfl, List.forall_mem_append.mpr ⟨hcs.isBlank_eq_false, ?_⟩⟩
    exact List.forall_mem_cons.mpr ⟨hmark, hys.isBlank_eq_false⟩

theorem marks_header (h : IsHeader settings l) (rest : List Line) :
    marks settings false (l :: rest) = .header l :: marks settings true rest := by
  rw [marks, Line.mark?_of_header h]

theorem Block.marks_append {body : List Line} {s : Section} (h : Block settings body s) :
    ∃ l : Line, s.name = l.trimmed ∧ ∀ rest,
      marks settings false (body ++ rest) = .header l :: marks settings true rest := by
  obtain ⟨l, tail, rfl, hh, hname, htail⟩ := h.exists_eq_cons
  refine ⟨l, hname, fun rest => ?_⟩
  rw [List.cons_append, marks_header hh, marks_inside htail]

/-- **No block is open**: the marks so far are the tempos of the preamble and then the events. -/
theorem Closed.marks_append {song : Song} (h : Closed settings ls song) :
    ∃ body, Event.Show song.events body ∧ ∀ rest,
      marks settings false (ls ++ rest) =
        tempoMarks song.preamble ++ (body ++ marks settings false rest) := by
  induction h with
  | preamble hi => exact ⟨[], .nil, fun rest => hi.marks_append rest⟩
  | @block ls part gap z song s ds _ hb hz hi ih =>
    obtain ⟨body, hbody, hmarks⟩ := ih
    obtain ⟨l, hname, hblock⟩ := hb.marks_append
    refine ⟨body ++ [.header l] ++ tempoMarks ds, ?_, fun rest => ?_⟩
    · exact (hbody.append (Event.show_part hname)).append (Event.show_tempos ds)
    · -- the lines before, the block, the blank line that ends it, the interlude
      have hassoc : ls ++ (part ++ z :: gap) ++ rest = ls ++ (part ++ z :: (gap ++ rest)) := by simp
      rw [hassoc, hmarks, hblock, marks_of_isBlank hz, hi.marks_append]
      simp [Song.addPart, Song.addTempos]

/-- **The marks of a sheet** are the tempos of its preamble and then its events. -/
theorem marks_eq {song : Song} (h : Sheet settings ls song) :
    ∃ body, Event.Show song.events body ∧
      marks settings false ls = tempoMarks song.preamble ++ body := by
  cases h with
  | closed h _ =>
    obtain ⟨body, hbody, hmarks⟩ := h.marks_append
    have hnil := hmarks []
    rw [List.append_nil, marks, List.append_nil] at hnil
    exact ⟨body, hbody, hnil⟩
  | @unended ls part song s h hb =>
    obtain ⟨body, hbody, hmarks⟩ := h.marks_append
    obtain ⟨l, hname, hblock⟩ := hb.marks_append
    refine ⟨body ++ [.header l], hbody.append (Event.show_part hname), ?_⟩
    have hnil := hblock []
    rw [List.append_nil, marks] at hnil
    rw [hmarks, hnil]
    rfl
  | @bare l ls rest song h hh hr =>
    obtain ⟨body, hbody, hmarks⟩ := h.marks_append
    refine ⟨body ++ [.header l], hbody.append (Event.show_part rfl), ?_⟩
    rw [hmarks, marks_header hh, marks_of_isPassed true hr]
    rfl

end Sheet

/-! ## 3. The first section -/

/-- The body of a song starts with a section. -/
def Song.StartsWithPart (song : Song) : Prop := ∃ s rest, song.events = .part s :: rest

theorem Song.startsWithPart_addPart {song : Song} (h : song.events = [] ∨ song.StartsWithPart)
    (s : Section) : (song.addPart s).StartsWithPart := by
  rcases h with hnil | ⟨s', rest, hcons⟩
  · exact ⟨s, [], by rw [addPart, hnil]; rfl⟩
  · exact ⟨s', rest ++ [.part s], by rw [addPart, hcons]; rfl⟩

theorem Song.StartsWithPart.addTempos {song : Song} (h : song.StartsWithPart)
    (ds : List Directive) : (song.addTempos ds).StartsWithPart := by
  obtain ⟨s, rest, hcons⟩ := h
  exact ⟨s, rest ++ Directive.tempos ds, by rw [Song.addTempos, hcons]; rfl⟩

theorem Sheet.Closed.startsWithPart {song : Song} (h : Closed settings ls song) :
    song.events = [] ∨ song.StartsWithPart := by
  induction h with
  | preamble _ => exact Or.inl rfl
  | block _ _ _ _ ih => exact Or.inr ((Song.startsWithPart_addPart ih _).addTempos _)

theorem Sheet.startsWithPart {song : Song} (h : Sheet settings ls song) :
    song.StartsWithPart := by
  cases h with
  | closed h hne => exact h.startsWithPart.resolve_left hne
  | unended h _ => exact Song.startsWithPart_addPart h.startsWithPart _
  | bare h _ _ => exact Song.startsWithPart_addPart h.startsWithPart _

/-- A section that shows first has the first mark, and that is a header. -/
theorem Event.Show.exists_header {s : Section} {es : List Event} {ms : List Mark}
    (h : Show (.part s :: es) ms) : ∃ first after, ms = .header first :: after := by
  obtain ⟨mark, after, hmark, _, rfl⟩ := List.forall₂_cons_left_iff.mp h
  cases mark with
  | tempo d => cases hmark
  | header first => exact ⟨first, after, rfl⟩

/-! ## 4. The prompter -/

/-- What a section shows on the prompter. -/
def Item.content? : Item → Option (String × List Measure)
  | .tempo _ => none
  | .content name measures => some (name, measures)

/-- The sections on a timeline are those among its events. -/
theorem content?_timeline (m : Metadata) (es : List Event) :
    (timeline m es).filterMap Item.content? =
      (es.filterMap Event.part?).map fun s => (s.name, s.measures) := by
  have htempo : (m.tempo.toList.map Item.tempo).filterMap Item.content? = [] := by
    cases m.tempo <;> rfl
  rw [timeline, List.filterMap_append, htempo, List.nil_append, List.filterMap_map,
    List.map_filterMap]
  refine List.filterMap_congr fun e _ => ?_
  cases e <;> rfl

/-- **The prompter follows the text.** Its sections are those of the document. Before the first of them
    stands at most one tempo: the last that the lines before the first header set. From there on the
    prompter has one item for each mark of the text, a section for a header and its tempo for a change
    of tempo, in the order of the text. Every tempo on it lies within the bounds. -/
theorem prompter_follows_text {text : String} {document : Document}
    (h : (compile settings text).result = .ok document) :
    (document.prompter.filterMap Item.content? =
        document.sections.map fun s => (s.name, s.measures)) ∧
      (∃ (before : List Directive) (first : Line) (after : List Mark) (shown : List Item),
        marks settings false (Line.scan text) = before.map .tempo ++ .header first :: after ∧
        document.metadata.tempo = (before.map (·.value)).getLast? ∧
        document.prompter = document.metadata.tempo.toList.map .tempo ++ shown ∧
        List.Forall₂ Item.IsOf shown (.header first :: after)) ∧
      ∀ v, Item.tempo v ∈ document.prompter →
        ∃ bpm, v = .number bpm ∧ settings.minBpm ≤ bpm ∧ bpm ≤ settings.maxBpm := by
  obtain ⟨song, m, hread, hget, rfl⟩ := compile_eq_ok h
  have hsheet := Sheet.read_eq_ok_iff_sheet.mp hread
  obtain ⟨body, hbody, hmarks⟩ := hsheet.marks_eq
  have htempo : m.tempo = ((song.preamble.filter fun d => d.key = Topic.tempo.key).map
      (·.value)).getLast? := by
    rw [← Metadata.lastValue?_of_read (fun d => exists_line_of_mem_preamble hread)]
    exact hget .tempo
  refine ⟨content?_timeline m song.events, ?_, fun v hv => ?_⟩
  · obtain ⟨s, rest, hevents⟩ := hsheet.startsWithPart
    have hbody' := hbody
    rw [hevents] at hbody'
    obtain ⟨first, after, rfl⟩ := hbody'.exists_header
    exact ⟨_, first, after, song.events.map Event.item, hmarks, htempo, rfl, hbody⟩
  · have hmark : ∃ d, Mark.tempo d ∈ marks settings false (Line.scan text) ∧ v = d.value := by
      rw [hmarks]
      rcases List.mem_append.mp hv with hv | hv
      · obtain ⟨v', hv', heq⟩ := List.mem_map.mp hv
        cases heq
        have hlast := htempo.symm.trans (Option.mem_toList.mp hv')
        obtain ⟨d, hd, rfl⟩ := List.mem_map.mp (List.mem_of_getLast? hlast)
        exact ⟨d, List.mem_append_left _ (List.mem_map_of_mem hd), rfl⟩
      · obtain ⟨mark, hmem, hof⟩ := exists_mem_of_forall₂ hbody hv
        cases mark with
        | tempo d => exact ⟨d, List.mem_append_right _ hmem, hof⟩
        | header l => cases hof
    obtain ⟨d, hd, rfl⟩ := hmark
    exact (isTempo_of_mem_marks hd).2.2

/-- Of two tempos before the first section the last one counts; between sections both do. -/
theorem prompter_of_two_sections :
    ∃ document,
      (compile {} "@bpm 80\n@bpm 90\nVerse\nC\n\n@bpm 99\n@bpm 99\nCoda").result = .ok document ∧
      ∃ first after, List.Forall₂ Item.IsOf
          [.content "Verse" [⟨[⟨"C", ⟨"C", "maj", none⟩, 4⟩], 4⟩], .tempo (.number 99),
            .tempo (.number 99), .content "Coda" []]
          (.header first :: after) ∧
        document.metadata.tempo = some (.number 90) := by
  have h : (compile {} "@bpm 80\n@bpm 90\nVerse\nC\n\n@bpm 99\n@bpm 99\nCoda").result =
      .ok (.build {} { tempo := some (.number 90) }
        [.part ⟨"Verse", [⟨[⟨"C", ⟨"C", "maj", none⟩, 4⟩], 4⟩], [], 3⟩,
          .directive ⟨"bpm", .number 99, 6, true⟩, .directive ⟨"bpm", .number 99, 7, true⟩,
          .part ⟨"Coda", [], [], 8⟩]) := by decide +kernel
  obtain ⟨_, ⟨_, first, after, shown, _, _, hprompter, hshown⟩, _⟩ := prompter_follows_text h
  rw [← List.append_cancel_left hprompter] at hshown
  exact ⟨_, h, first, after, hshown, rfl⟩

end SongSheet
