import SongSheet.Proofs.Metadata
import SongSheet.Proofs.Prompter
import SongSheet.Proofs.Sheet.Append
import SongSheet.Proofs.Sheet.Pause

/-!
# Directives that may go

Some directives change nothing: those under a key that no topic has, wherever they stand, and those about
the whole song that come after its first header. Their lines may be left out, any number of them, and the
song keeps its events and its metadata (`idle_directives_may_go`).

Such a line is not without effect on a session. After chords and a blank line it is the one that ends the
section, and without it the section stays open until something else does. The grammar knows nothing of
this: there the line is part of the interlude behind the block, and an interlude with fewer directives is
an interlude (`Interlude.staying`). No other region holds a line of this kind (`Block.stays`), so a sheet
without them is a sheet (`Sheet.staying`).
-/

namespace SongSheet

variable {settings : Settings} {l : Line}

/-! ## 1. Lines that may go -/

/-- The key of a directive line. -/
def Directive.key? (l : Line) : Option String :=
  (Directive.parts? l.trimmed.toList).map fun p => Text.lower (String.ofList p.1)

theorem Directive.key?_of_read {d : Directive} (h : Directive.read settings l = .ok d) :
    Directive.key? l = some d.key := by
  unfold Directive.read at h
  unfold Directive.key?
  split at h
  · cases h
  · rename_i keyChars valueChars hparts
    rw [hparts]
    dsimp only at h
    split at h
    · cases h
      rfl
    · cases hv : Directive.readValue settings _ _ l.number with
      | error e => rw [hv] at h; cases h
      | ok v =>
        rw [hv] at h
        cases h
        rfl

/-- A directive line that changes nothing, behind the lines `before`. -/
structure Line.IsIdle (settings : Settings) (before : List Line) (l : Line) : Prop where
  notComment : l.isComment settings.commentMark = false
  directive : Directive.isDirectiveLine l.text = true
  /-- Among lyrics it would be one of them. -/
  noSpan : ¬ Lyric.EndsInSpan l.trimmed
  key : ∃ key, Directive.key? l = some key ∧
    (key ∉ ["bpm", "original", "time"] ∨
      key ∈ ["original", "time"] ∧ ∃ h ∈ before, Sheet.IsHeader settings h)

/-- A line that is not of this kind, wherever it stands. -/
def Line.Stays (settings : Settings) (l : Line) : Prop := ∀ before, ¬ l.IsIdle settings before

namespace Line

theorem IsIdle.key_ne_tempo {before : List Line} {d : Directive} (h : l.IsIdle settings before)
    (hd : Directive.read settings l = .ok d) : d.key ≠ Topic.tempo.key := by
  obtain ⟨key, hkey, hcases⟩ := h.key
  rw [Directive.key?_of_read hd] at hkey
  obtain rfl : d.key = key := Option.some.inj hkey
  intro htempo
  rw [htempo] at hcases
  revert hcases
  simp [Topic.key]

theorem stays_of_not_directive (h : Directive.isDirectiveLine l.text = false) : l.Stays settings := by
  intro before hidle
  rw [hidle.directive] at h
  cases h

theorem stays_of_isComment (h : l.isComment settings.commentMark = true) : l.Stays settings := by
  intro before hidle
  rw [hidle.notComment] at h
  cases h

theorem stays_of_isBlank (h : l.isBlank = true) : l.Stays settings := by
  intro before hidle
  rw [isBlank_eq_false_of_isDirectiveLine hidle.directive] at h
  cases h

theorem stays_of_isHeader (h : Sheet.IsHeader settings l) : l.Stays settings :=
  stays_of_not_directive (isDirectiveLine_eq_false_of_isHeader h.header)

theorem stays_of_lyricMark (h : l.trimmed = Section.lyricMark) : l.Stays settings := by
  intro before hidle
  have hat := at_mem_of_isDirectiveLine hidle.directive
  rw [h] at hat
  revert hat
  decide

theorem stays_of_lyric {y : Lyric} (h : Lyric.read l = .ok y) : l.Stays settings :=
  fun _ hidle => hidle.noSpan (Lyric.endsInSpan_of_hasSpan (Lyric.read_eq_ok h).1)

end Line

/-- A line, and whether it is to go. -/
structure Choice where
  line : Line
  goes : Bool

namespace Choice

/-- All lines. -/
def lines (cs : List Choice) : List Line := cs.map (·.line)

/-- The lines that do not go. -/
def staying (cs : List Choice) : List Line := (cs.filter fun c => !c.goes).map (·.line)

/-- Every line that goes changes nothing where it stands. -/
def AllIdle (settings : Settings) (cs : List Choice) : Prop :=
  ∀ before c after, cs = before ++ c :: after → c.goes = true →
    c.line.IsIdle settings (lines before)

/-- Every line that goes changes nothing somewhere. -/
def MayGo (settings : Settings) (cs : List Choice) : Prop :=
  ∀ c ∈ cs, c.goes = true → ∃ before, c.line.IsIdle settings before

variable {cs cs' : List Choice} {c : Choice}

theorem AllIdle.mayGo (h : AllIdle settings cs) : MayGo settings cs := by
  intro c hc hgoes
  obtain ⟨before, after, hcs⟩ := List.append_of_mem hc
  exact ⟨_, h before c after hcs hgoes⟩

theorem MayGo.left (h : MayGo settings (cs ++ cs')) : MayGo settings cs :=
  fun c hc => h c (List.mem_append_left _ hc)

theorem MayGo.right (h : MayGo settings (cs ++ cs')) : MayGo settings cs' :=
  fun c hc => h c (List.mem_append_right _ hc)

theorem MayGo.tail (h : MayGo settings (c :: cs)) : MayGo settings cs :=
  fun c' hc => h c' (List.mem_cons_of_mem c hc)

theorem MayGo.goes_eq_false (h : MayGo settings cs) (hc : c ∈ cs) (hl : c.line.Stays settings) :
    c.goes = false := by
  cases hgoes : c.goes with
  | false => rfl
  | true =>
    obtain ⟨before, hidle⟩ := h c hc hgoes
    exact absurd hidle (hl before)

theorem staying_append (cs cs' : List Choice) : staying (cs ++ cs') = staying cs ++ staying cs' := by
  simp [staying]

theorem staying_cons_of_goes (h : c.goes = true) (cs : List Choice) :
    staying (c :: cs) = staying cs := by
  simp [staying, h]

theorem staying_cons_of_not_goes (h : c.goes = false) (cs : List Choice) :
    staying (c :: cs) = c.line :: staying cs := by
  simp [staying, h]

theorem staying_cons_of_stays (h : MayGo settings (c :: cs)) (hl : c.line.Stays settings) :
    staying (c :: cs) = c.line :: staying cs :=
  staying_cons_of_not_goes (h.goes_eq_false List.mem_cons_self hl) cs

/-- Lines of which none may go. -/
theorem staying_eq {ls : List Line} (h : MayGo settings cs) (hls : lines cs = ls)
    (hl : ∀ l ∈ ls, l.Stays settings) : staying cs = ls := by
  have hall : ∀ c ∈ cs, (!c.goes) = true := by
    intro c hc
    have hmem : c.line ∈ ls := hls ▸ List.mem_map_of_mem hc
    rw [h.goes_eq_false hc (hl c.line hmem)]
    rfl
  rw [staying, List.filter_eq_self.mpr hall]
  exact hls

end Choice

/-! ## 2. Regions -/

namespace Sheet

open Choice (lines staying MayGo)

variable {ls : List Line} {cs : List Choice} {song : Song}

theorem Chords.stays {ms : List Measure} (h : Chords settings ls ms) :
    ∀ l ∈ ls, l.Stays settings := by
  induction h with
  | nil => exact fun l hl => absurd hl List.not_mem_nil
  | comment hc _ ih => exact List.forall_mem_cons.mpr ⟨Line.stays_of_isComment hc, ih⟩
  | measure _ _ _ hm _ ih =>
    have hd := Measure.isDirectiveLine_eq_false_of_read hm
    exact List.forall_mem_cons.mpr ⟨Line.stays_of_not_directive hd, ih⟩

theorem Lyrics.stays {ys : List Lyric} (h : Lyrics settings ls ys) :
    ∀ l ∈ ls, l.Stays settings := by
  induction h with
  | nil => exact fun l hl => absurd hl List.not_mem_nil
  | comment hc _ _ ih => exact List.forall_mem_cons.mpr ⟨Line.stays_of_isComment hc, ih⟩
  | lyric hy _ ih => exact List.forall_mem_cons.mpr ⟨Line.stays_of_lyric hy, ih⟩

/-- **No line of a block may go.** -/
theorem Block.stays {body : List Line} {s : Section} (h : Block settings body s) :
    ∀ l ∈ body, l.Stays settings := by
  cases h with
  | instrumental hh hcs _ => exact List.forall_mem_cons.mpr ⟨Line.stays_of_isHeader hh, hcs.stays⟩
  | sung hh hcs _ hm hys _ =>
    refine List.forall_mem_cons.mpr ⟨Line.stays_of_isHeader hh, ?_⟩
    refine List.forall_mem_append.mpr ⟨hcs.stays, ?_⟩
    exact List.forall_mem_cons.mpr ⟨Line.stays_of_lyricMark hm, hys.stays⟩

theorem stays_of_isPassed (h : IsPassed settings l) : l.Stays settings := by
  rcases h with hb | hc
  · exact Line.stays_of_isBlank hb
  · exact Line.stays_of_isComment hc

/-- **An interlude stays an interlude**, with the same changes of tempo. -/
theorem Interlude.staying {ds : List Directive} (h : Interlude settings ls ds)
    (hls : lines cs = ls) (hgo : MayGo settings cs) :
    ∃ ds', Interlude settings (staying cs) ds' ∧ Directive.tempos ds' = Directive.tempos ds := by
  induction h generalizing cs with
  | nil =>
    obtain rfl : cs = [] := List.map_eq_nil_iff.mp hls
    exact ⟨[], .nil, rfl⟩
  | blank hb _ ih =>
    obtain ⟨c, cs, rfl, rfl, hcs⟩ := List.map_eq_cons_iff.mp hls
    obtain ⟨ds', hi, htempos⟩ := ih hcs hgo.tail
    rw [Choice.staying_cons_of_stays hgo (Line.stays_of_isBlank hb)]
    exact ⟨ds', .blank hb hi, htempos⟩
  | comment hc _ ih =>
    obtain ⟨c, cs, rfl, rfl, hcs⟩ := List.map_eq_cons_iff.mp hls
    obtain ⟨ds', hi, htempos⟩ := ih hcs hgo.tail
    rw [Choice.staying_cons_of_stays hgo (Line.stays_of_isComment hc)]
    exact ⟨ds', .comment hc hi, htempos⟩
  | @directive l ls d ds hc hl hd _ ih =>
    obtain ⟨c, cs, rfl, rfl, hcs⟩ := List.map_eq_cons_iff.mp hls
    obtain ⟨ds', hi, htempos⟩ := ih hcs hgo.tail
    cases hgoes : c.goes with
    | false =>
      rw [Choice.staying_cons_of_not_goes hgoes]
      refine ⟨d :: ds', .directive hc hl hd hi, ?_⟩
      unfold Directive.tempos at htempos ⊢
      by_cases hkey : d.key = Topic.tempo.key <;> simp [hkey, htempos]
    | true =>
      -- the line goes, and its directive was no change of tempo
      obtain ⟨before, hidle⟩ := hgo c List.mem_cons_self hgoes
      have hkey := hidle.key_ne_tempo hd
      rw [Choice.staying_cons_of_goes hgoes]
      refine ⟨ds', hi, ?_⟩
      rw [htempos]
      simp [Directive.tempos, hkey]

/-! ## 3. Sheets -/

/-- Lines that leave no block open still leave none open, and the events are the same. -/
theorem Closed.staying (h : Closed settings ls song) (hls : lines cs = ls)
    (hgo : MayGo settings cs) :
    ∃ preamble, Closed settings (staying cs) ⟨preamble, song.events⟩ := by
  induction h generalizing cs with
  | preamble hi =>
    obtain ⟨ds', hi', _⟩ := hi.staying hls hgo
    exact ⟨ds', .preamble hi'⟩
  | @block ls body gap z song s ds _ hb hz hi ih =>
    obtain ⟨cs₁, _, rfl, hls₁, hblock⟩ := List.map_eq_append_iff.mp hls
    obtain ⟨cs₂, _, rfl, hbody, hend⟩ := List.map_eq_append_iff.mp hblock
    obtain ⟨c, cs₃, rfl, rfl, hgap⟩ := List.map_eq_cons_iff.mp hend
    obtain ⟨preamble, hclosed⟩ := ih hls₁ hgo.left
    obtain ⟨ds', hi', htempos⟩ := hi.staying hgap hgo.right.right.tail
    rw [Choice.staying_append, Choice.staying_append, Choice.staying_eq hgo.right.left hbody hb.stays,
      Choice.staying_cons_of_stays hgo.right.right (Line.stays_of_isBlank hz)]
    refine ⟨preamble, ?_⟩
    have hall := hclosed.block hb hz hi'
    rw [Song.addTempos, htempos] at hall
    exact hall

/-- **A sheet stays a sheet**, with the same events. -/
theorem staying (h : Sheet settings ls song) (hls : lines cs = ls) (hgo : MayGo settings cs) :
    ∃ preamble, Sheet settings (Choice.staying cs) ⟨preamble, song.events⟩ := by
  cases h with
  | closed h hne =>
    obtain ⟨preamble, hclosed⟩ := h.staying hls hgo
    exact ⟨preamble, .closed hclosed hne⟩
  | @unended ls body song s h hb =>
    obtain ⟨cs₁, cs₂, rfl, hls₁, hbody⟩ := List.map_eq_append_iff.mp hls
    obtain ⟨preamble, hclosed⟩ := h.staying hls₁ hgo.left
    rw [Choice.staying_append, Choice.staying_eq hgo.right hbody hb.stays]
    exact ⟨preamble, .unended hclosed hb⟩
  | @bare l ls rest song h hh hr =>
    obtain ⟨cs₁, _, rfl, hls₁, hbare⟩ := List.map_eq_append_iff.mp hls
    obtain ⟨c, cs₂, rfl, rfl, hrest⟩ := List.map_eq_cons_iff.mp hbare
    obtain ⟨preamble, hclosed⟩ := h.staying hls₁ hgo.left
    have hpassed : ∀ x ∈ rest, x.Stays settings := fun x hx => stays_of_isPassed (hr x hx)
    rw [Choice.staying_append, Choice.staying_cons_of_stays hgo.right (Line.stays_of_isHeader hh),
      Choice.staying_eq hgo.right.tail hrest hpassed]
    exact ⟨preamble, .bare hclosed hh hr⟩

end Sheet

/-! ## 4. Preambles -/

namespace Sheet

variable {ls : List Line} {song : Song}

/-- The directives on the lines before the first header. -/
def leading (settings : Settings) (ls : List Line) : List Directive :=
  (ls.takeWhile fun l => !l.opensBlock settings).filterMap (Line.directive? settings)

theorem Interlude.filterMap_directive? {ds : List Directive} (h : Interlude settings ls ds) :
    ls.filterMap (Line.directive? settings) = ds := by
  induction h with
  | nil => rfl
  | blank hb _ ih => rw [List.filterMap_cons_none (Line.directive?_of_isPassed (Or.inl hb)), ih]
  | comment hc _ ih => rw [List.filterMap_cons_none (Line.directive?_of_isPassed (Or.inr hc)), ih]
  | directive hc hl hd _ ih =>
    rw [List.filterMap_cons_some (Line.directive?_of_read hc hl hd), ih]

theorem Interlude.opensBlock_eq_false {ds : List Directive} (h : Interlude settings ls ds) :
    ∀ l ∈ ls, (!l.opensBlock settings) = true := by
  induction h with
  | nil => exact fun l hl => absurd hl List.not_mem_nil
  | blank hb _ ih =>
    refine List.forall_mem_cons.mpr ⟨?_, ih⟩
    rw [Line.opensBlock_eq_false_of_isPassed (Or.inl hb)]
    rfl
  | comment hc _ ih =>
    refine List.forall_mem_cons.mpr ⟨?_, ih⟩
    rw [Line.opensBlock_eq_false_of_isPassed (Or.inr hc)]
    rfl
  | directive _ hl _ _ ih =>
    refine List.forall_mem_cons.mpr ⟨?_, ih⟩
    rw [Line.opensBlock_eq_false_of_directive hl]
    rfl

/-- An interlude and a header behind it: the directives are those of the interlude. -/
theorem Interlude.leading_append {ds : List Directive} (h : Interlude settings ls ds)
    (hl : IsHeader settings l) (rest : List Line) : leading settings (ls ++ l :: rest) = ds := by
  have hheader : ((l :: rest).takeWhile fun x => !x.opensBlock settings) = [] := by
    simp [Line.opensBlock_iff.mpr hl]
  rw [leading, List.takeWhile_append_of_pos h.opensBlock_eq_false, hheader, List.append_nil,
    h.filterMap_directive?]

theorem Closed.leading_append (h : Closed settings ls song) (hl : IsHeader settings l)
    (rest : List Line) : leading settings (ls ++ l :: rest) = song.preamble := by
  induction h generalizing l rest with
  | preamble hi => exact hi.leading_append hl rest
  | @block ls body gap z song s ds _ hb hz hi ih =>
    obtain ⟨first, tail, rfl, hfirst, _⟩ := hb.exists_eq_cons
    have hassoc : ls ++ (first :: tail ++ z :: gap) ++ l :: rest =
        ls ++ first :: (tail ++ z :: (gap ++ l :: rest)) := by simp
    rw [hassoc, ih hfirst]
    rfl

/-- **The preamble of a song** is what the lines before its first header say. -/
theorem preamble_eq (h : Sheet settings ls song) : song.preamble = leading settings ls := by
  cases h with
  | closed h hne =>
    cases h with
    | preamble => exact absurd rfl hne
    | @block ls body gap z song s ds h hb hz hi =>
      obtain ⟨first, tail, rfl, hfirst, _⟩ := hb.exists_eq_cons
      rw [List.cons_append, h.leading_append hfirst]
      rfl
  | unended h hb =>
    obtain ⟨first, tail, rfl, hfirst, _⟩ := hb.exists_eq_cons
    rw [h.leading_append hfirst]
    rfl
  | bare h hh hr =>
    rw [h.leading_append hh]
    rfl

end Sheet

namespace Choice

variable {cs : List Choice}

/-- The directives on the lines before the first header, and for each whether its line goes. -/
def leading (settings : Settings) (cs : List Choice) : List (Directive × Bool) :=
  (cs.takeWhile fun c => !c.line.opensBlock settings).filterMap fun c =>
    (c.line.directive? settings).map (·, c.goes)

theorem map_fst_leading (settings : Settings) (cs : List Choice) :
    (leading settings cs).map Prod.fst = Sheet.leading settings (lines cs) := by
  unfold leading Sheet.leading lines
  rw [List.takeWhile_map, List.filterMap_map, List.map_filterMap]
  refine List.filterMap_congr fun c _ => ?_
  cases hd : c.line.directive? settings <;> simp [hd]

/-- The line that opens the first block stays, so what goes leaves the preamble where it ends. -/
theorem map_fst_filter_leading (h : MayGo settings cs) :
    ((leading settings cs).filter fun p => !p.2).map Prod.fst =
      Sheet.leading settings (staying cs) := by
  induction cs with
  | nil => rfl
  | cons c cs ih =>
    have ih' := ih h.tail
    unfold leading Sheet.leading at ih' ⊢
    cases hopens : c.line.opensBlock settings with
    | true =>
      rw [staying_cons_of_stays h (Line.stays_of_isHeader (Line.opensBlock_iff.mp hopens)),
        List.takeWhile_cons_of_neg (by simp [hopens]), List.takeWhile_cons_of_neg (by simp [hopens])]
      rfl
    | false =>
      rw [List.takeWhile_cons_of_pos (by simp [hopens])]
      cases hgoes : c.goes with
      | true =>
        rw [staying_cons_of_goes hgoes, ← ih']
        cases hd : c.line.directive? settings <;> simp [hd, hgoes]
      | false =>
        rw [staying_cons_of_not_goes hgoes, List.takeWhile_cons_of_pos (by simp [hopens])]
        cases hd : c.line.directive? settings <;> simp [hd, hgoes, ih']

/-- **What goes before the first header was not known.** -/
theorem AllIdle.known_eq_false (h : AllIdle settings cs) {p : Directive × Bool}
    (hp : p ∈ leading settings cs) (hgoes : p.2 = true) : p.1.known = false := by
  obtain ⟨c, hc, hsome⟩ := List.mem_filterMap.mp hp
  obtain ⟨d, hd, rfl⟩ := Option.map_eq_some_iff.mp hsome
  obtain ⟨before, after, htake⟩ := List.append_of_mem hc
  have hcs : cs = before ++ c :: (after ++ cs.dropWhile fun c => !c.line.opensBlock settings) := by
    calc cs = (cs.takeWhile fun c => !c.line.opensBlock settings) ++
            cs.dropWhile fun c => !c.line.opensBlock settings := (List.takeWhile_append_dropWhile).symm
      _ = before ++ c :: (after ++ cs.dropWhile fun c => !c.line.opensBlock settings) := by
            rw [htake, List.append_assoc, List.cons_append]
  have hidle := h before c _ hcs hgoes
  have hread := Line.directive?_eq_some hd
  obtain ⟨key, hkey, hcases⟩ := hidle.key
  rw [Directive.key?_of_read hread] at hkey
  obtain rfl : d.key = key := Option.some.inj hkey
  rcases hcases with hunknown | ⟨_, x, hx, hheader⟩
  · rw [Directive.known_of_read hread]
    rw [← Directive.ofKey?_ne_none_iff, not_not] at hunknown
    rw [hunknown]
    rfl
  · -- no line in front of it opens a block
    obtain ⟨b, hb, rfl⟩ := List.mem_map.mp hx
    have hmem : b ∈ cs.takeWhile fun c => !c.line.opensBlock settings := by
      rw [htake]
      exact List.mem_append_left _ hb
    have hopens := List.mem_takeWhile_imp hmem
    rw [Line.opensBlock_iff.mpr hheader] at hopens
    cases hopens

/-- Without what goes, the known directives are the same. -/
theorem AllIdle.filter_known (h : AllIdle settings cs) :
    (((leading settings cs).filter fun p => !p.2).map Prod.fst).filter (·.known) =
      ((leading settings cs).map Prod.fst).filter (·.known) := by
  rw [List.filter_map, List.filter_map, List.filter_filter]
  congr 1
  refine List.filter_congr fun p hp => ?_
  show (p.1.known && !p.2) = p.1.known
  cases hgoes : p.2 with
  | false => exact Bool.and_true _
  | true => rw [h.known_eq_false hp hgoes, Bool.false_and]

end Choice

/-! ## 5. Songs -/

theorem Song.compile_of_metadata {song : Song} {m : Metadata}
    (h : (Metadata.ofDirectives song.preamble).result = .ok m) :
    (song.compile settings).result = .ok (Document.build settings m song.events) := by
  unfold Song.compile Report.andThen
  rw [h]
  rfl

/-- **Directives that change nothing may go.** Of lines that are a song, leave out any directive lines that
    are no comments, have no span, and whose key is not known, or is one about the whole song while a
    header stands before them. What stays is a song with the same events. Its preamble lacks the directives
    on the lines that went, all of them not known, and so both songs have the same metadata and come to
    the same document. -/
theorem idle_directives_may_go {cs : List Choice} {song : Song} (hcs : Choice.AllIdle settings cs)
    (h : (Song.read settings (Choice.lines cs)).result = .ok song) :
    ∃ left : Song, (Song.read settings (Choice.staying cs)).result = .ok left ∧
      left.events = song.events ∧
      song.preamble = (Choice.leading settings cs).map Prod.fst ∧
      left.preamble = ((Choice.leading settings cs).filter fun p => !p.2).map Prod.fst ∧
      (∀ p ∈ Choice.leading settings cs, p.2 = true → p.1.known = false) ∧
      ∃ document, (Metadata.ofDirectives song.preamble).result = .ok document.metadata ∧
        (Metadata.ofDirectives left.preamble).result = .ok document.metadata ∧
        (song.compile settings).result = .ok document ∧
        (left.compile settings).result = .ok document := by
  have hsheet : Sheet settings (Choice.lines cs) song := Sheet.read_eq_ok_iff_sheet.mp h
  obtain ⟨preamble, hleft⟩ := hsheet.staying rfl hcs.mayGo
  have hpreamble : song.preamble = (Choice.leading settings cs).map Prod.fst := by
    rw [Choice.map_fst_leading, hsheet.preamble_eq]
  have hpreamble' : preamble = ((Choice.leading settings cs).filter fun p => !p.2).map Prod.fst := by
    rw [Choice.map_fst_filter_leading hcs.mayGo]
    exact hleft.preamble_eq
  obtain ⟨m, hm, _⟩ := Metadata.result_ofDirectives (Song.not_isStray_of_read h)
  have hm' : (Metadata.ofDirectives preamble).result = .ok m := by
    rw [← hm, Metadata.ofDirectives, Metadata.ofDirectives, ← Metadata.add_filter_known {} preamble,
      hpreamble', hcs.filter_known, ← hpreamble, Metadata.add_filter_known]
  refine ⟨⟨preamble, song.events⟩, Sheet.read_eq_ok_iff_sheet.mpr hleft, rfl, hpreamble, hpreamble',
    fun p hp hgoes => hcs.known_eq_false hp hgoes, Document.build settings m song.events, hm, hm',
    Song.compile_of_metadata hm, Song.compile_of_metadata hm'⟩

/-- A song of which three lines go: one in its preamble, one that ends the first section, and a metre that
    comes too late. -/
def Choice.sample : List Choice :=
  [⟨⟨1, "@capo 2"⟩, true⟩, ⟨⟨2, "@bpm 90"⟩, false⟩, ⟨⟨3, "Verse"⟩, false⟩, ⟨⟨4, "C;G"⟩, false⟩,
    ⟨⟨5, ""⟩, false⟩, ⟨⟨6, "@mood sad"⟩, true⟩, ⟨⟨7, "@time 3/4"⟩, true⟩, ⟨⟨8, "@bpm 100"⟩, false⟩]

/-- The unknown directives and the metre go, and the section and the tempos are still there. -/
theorem idle_directives_may_go_short : ∃ left : Song,
    (Song.read {} [⟨2, "@bpm 90"⟩, ⟨3, "Verse"⟩, ⟨4, "C;G"⟩, ⟨5, ""⟩, ⟨8, "@bpm 100"⟩]).result = .ok left ∧
      left.events.length = 2 ∧ left.preamble.map (·.key) = ["bpm"] := by
  have hidle : Choice.AllIdle {} Choice.sample := by
    intro before c after hcs hgoes
    have hbefore : before = Choice.sample.take before.length := by rw [hcs, List.take_left]
    have hc : Choice.sample[before.length]? = some c := by rw [hcs]; simp
    generalize before.length = i at hbefore hc
    subst hbefore
    match i with
    | 0 =>
      cases hc
      exact ⟨by decide, by decide, by decide, "capo", by decide +kernel, Or.inl (by decide)⟩
    | 5 =>
      cases hc
      exact ⟨by decide, by decide, by decide, "mood", by decide +kernel, Or.inl (by decide)⟩
    | 6 =>
      cases hc
      exact ⟨by decide, by decide, by decide, "time", by decide +kernel, Or.inr ⟨by decide, ⟨3, "Verse"⟩,
        by decide, by decide, by decide⟩⟩
    | 1 | 2 | 3 | 4 | 7 =>
      cases hc
      cases hgoes
    | _ + 8 => cases hc
  have hevents : (Song.read {} (Choice.lines Choice.sample)).result.toOption.map (·.events.length) =
      some 2 := by decide +kernel
  cases h : (Song.read {} (Choice.lines Choice.sample)).result with
  | error e =>
    rw [h] at hevents
    cases hevents
  | ok song =>
    rw [h] at hevents
    obtain ⟨left, hleft, hsame, _, hpreamble, _⟩ := idle_directives_may_go hidle h
    refine ⟨left, hleft, ?_, ?_⟩
    · rw [hsame]
      exact Option.some.inj hevents
    · rw [hpreamble]
      decide +kernel

end SongSheet
