import SongSheet.Proofs.Session.Rules
import SongSheet.Proofs.Text.Pieces

/-!
# Layout does not matter

Lines may be laid out in many ways and still be the same song: comments between them, blanks at their
ends, several blank lines where one would do. `tidied` takes all that away, and what is read stays the
same down to the last notice, or fails in the same way on the same line (`read_tidied`).

There are three reasons, one for each kind of thing that goes. A comment without a span is passed over
at every stage. Every reader trims its line, each in its own way, and it comes to the same
(`Session.read_tight`). And a blank line after a blank line finds the session at a place where blank
lines change nothing (`Session.AtRest`).
-/

namespace SongSheet

open Text (trim trimStart trimBoth isDigit isNumeral)

/-! ## 1. Tidying -/

/-- Whether a text ends in a span shows from its end: digits, and an underscore before them. -/
theorem Lyric.endsInSpan_iff {s : String} :
    EndsInSpan s ↔ s.toList.reverse.takeWhile isDigit ≠ [] ∧
      (s.toList.reverse.dropWhile isDigit).head? = some '_' := by
  constructor
  · intro h
    obtain ⟨before, digits, hs, hd⟩ := h
    simp only [isNumeral, Bool.and_eq_true, Bool.not_eq_true', List.isEmpty_eq_false_iff,
      List.all_eq_true] at hd
    have hall : ∀ c ∈ digits.reverse, isDigit c = true := fun c hc => hd.2 c (List.mem_reverse.mp hc)
    have hus : isDigit '_' = false := by decide
    have hrev : s.toList.reverse = digits.reverse ++ '_' :: before.reverse := by
      rw [hs]
      simp
    rw [hrev, List.takeWhile_append_of_pos hall, List.dropWhile_append_of_pos hall]
    simp [hus, hd.1]
  · intro h
    obtain ⟨hne, hhead⟩ := h
    obtain ⟨before, hdrop⟩ := List.head?_eq_some_iff.mp hhead
    refine ⟨before.reverse, (s.toList.reverse.takeWhile isDigit).reverse, ?_, ?_⟩
    · calc s.toList
          = (s.toList.reverse.takeWhile isDigit ++ s.toList.reverse.dropWhile isDigit).reverse := by
            rw [List.takeWhile_append_dropWhile, List.reverse_reverse]
        _ = before.reverse ++ '_' :: (s.toList.reverse.takeWhile isDigit).reverse := by
            rw [hdrop]
            simp
    · simp only [isNumeral, Bool.and_eq_true, Bool.not_eq_true', List.isEmpty_eq_false_iff,
        List.all_reverse]
      exact ⟨by simpa using hne, List.all_takeWhile⟩

instance (s : String) : Decidable (Lyric.EndsInSpan s) := decidable_of_iff _ Lyric.endsInSpan_iff.symm

namespace Line

/-- The line without blanks at its ends. -/
def tight (l : Line) : Line := { l with text := trim l.text }

/-- A comment that cannot be a lyric: it does not end in a span. -/
def isRemark (settings : Settings) (l : Line) : Bool :=
  l.isComment settings.commentMark && !decide (Lyric.EndsInSpan l.trimmed)

end Line

/-- Lines without the blank ones that stand right behind another blank line; `afterBlank` says whether
    the line before them was blank. -/
def singleBlanks (afterBlank : Bool) : List Line → List Line
  | [] => []
  | l :: ls =>
    if afterBlank && l.isBlank then singleBlanks true ls else l :: singleBlanks l.isBlank ls

/-- Lines without remarks, without blanks at their ends, and with no two blank lines in a row. -/
def tidied (settings : Settings) (ls : List Line) : List Line :=
  singleBlanks false ((ls.filter fun l => !l.isRemark settings).map Line.tight)

/-! ## 2. Blanks at the ends of a line -/

namespace Line

theorem number_tight (l : Line) : l.tight.number = l.number := rfl

theorem trimmed_tight (l : Line) : l.tight.trimmed = l.trimmed := Text.trim_trim l.text

theorem isBlank_tight (l : Line) : l.tight.isBlank = l.isBlank := by
  rw [Bool.eq_iff_iff, isBlank_iff_trimmed, isBlank_iff_trimmed, trimmed_tight]

theorem isDirectiveLine_tight (l : Line) :
    Directive.isDirectiveLine l.tight.text = Directive.isDirectiveLine l.text := by
  have hhead : (trimStart (trimBoth l.text.toList)).head? = (trimStart l.text.toList).head? := by
    rw [← Text.head?_trimBoth, Text.trimBoth_trimBoth, Text.head?_trimBoth]
  have htext : l.tight.text.toList = trimBoth l.text.toList := Text.toList_trim l.text
  rw [Directive.isDirectiveLine, Directive.isDirectiveLine, htext, hhead]

theorem isComment_tight {mark : String} (hmark : ∀ c ∈ mark.toList.getLast?, Text.isBlank c = false)
    (l : Line) : l.tight.isComment mark = l.isComment mark := by
  have hstart : trimStart (trimBoth l.text.toList) = trimBoth l.text.toList := by
    apply Text.trimStart_eq_self
    intro c hc
    rw [Text.head?_trimBoth] at hc
    exact Text.isBlank_head_trimStart hc
  have htext : (Text.trimLeft l.tight.text).toList = trimBoth l.text.toList := by
    rw [Text.toList_trimLeft, tight, Text.toList_trim, hstart]
  rw [isComment, isComment, htext, Text.toList_trimLeft, Text.isPrefixOf_trimBoth hmark]

end Line

theorem Directive.read_tight (settings : Settings) (l : Line) :
    Directive.read settings l.tight = Directive.read settings l := by
  unfold Directive.read
  simp only [Line.trimmed_tight, Line.number_tight]

theorem Lyric.read_tight (l : Line) : Lyric.read l.tight = Lyric.read l := by
  unfold Lyric.read
  simp only [Line.trimmed_tight, Line.number_tight]

/-- A chord line is cut before its tokens are trimmed, and still it comes to the same tokens. -/
theorem Measure.tokens_trim (text : String) : tokens (trim text) = tokens text := by
  unfold tokens
  rw [Text.toList_trim, Text.map_trimBoth_pieces (by decide)]

theorem Measure.read_tight (l : Line) : Measure.read l.tight = Measure.read l := by
  have htokens : tokens l.tight.text = tokens l.text := tokens_trim l.text
  unfold Measure.read
  simp only [htokens, Line.trimmed_tight, Line.number_tight]

/-! ## 3. Sessions -/

namespace Session

variable {settings : Settings} {σ σ' : Session} {l z : Line}

theorem startsNext_tight (settings : Settings) (l : Line) :
    startsNext settings l.tight = startsNext settings l := by
  rw [startsNext, startsNext, Line.isDirectiveLine_tight]
  exact congrArg _ (Line.isHeader_trim settings l.text)

theorem await_tight (σ : Session) (l : Line) : σ.await settings l.tight = σ.await settings l := by
  have hheader : Section.isHeader settings l.tight.text = Section.isHeader settings l.text :=
    Line.isHeader_trim settings l.text
  unfold await
  rw [Line.isBlank_tight, Line.isDirectiveLine_tight, hheader, Directive.read_tight,
    Line.trimmed_tight, Line.number_tight]

theorem readChords_tight (σ : Session) (block : Block) (blank : Option Int) (l : Line) :
    σ.readChords settings block blank l.tight = σ.readChords settings block blank l := by
  unfold readChords
  rw [Line.isBlank_tight, startsNext_tight, Line.trimmed_tight, Measure.read_tight,
    Line.number_tight]
  simp only [await_tight]

theorem readLyrics_tight (σ : Session) (block : Block) (sung : List Lyric) (l : Line) :
    σ.readLyrics block sung l.tight = σ.readLyrics block sung l := by
  unfold readLyrics
  rw [Line.isBlank_tight, Lyric.read_tight]

/-- **No reader looks at the ends of a line.** -/
theorem read_tight (hmark : ∀ c ∈ settings.commentMark.toList.getLast?, Text.isBlank c = false)
    (σ : Session) (l : Line) : σ.read settings l.tight = σ.read settings l := by
  have hskips : σ.skips settings l.tight = σ.skips settings l := by
    rw [skips, skips, Line.isComment_tight hmark, Line.trimmed_tight]
  unfold read
  rw [hskips, await_tight]
  simp only [readChords_tight, readLyrics_tight]

theorem read_of_isRemark (h : l.isRemark settings = true) (σ : Session) :
    σ.read settings l = σ.stay := by
  rw [Line.isRemark, Bool.and_eq_true, Bool.not_eq_true', decide_eq_false_iff_not] at h
  have hspan : Lyric.hasSpan l.trimmed = false :=
    Bool.eq_false_iff.mpr fun hl => h.2 (Lyric.endsInSpan_of_hasSpan hl)
  exact read_of_isComment h.1 hspan

/-- A blank line changes nothing here: no section is open, or one that already waits for what comes after
    a blank line. -/
def AtRest (σ : Session) : Prop :=
  σ.stage.open? = none ∨ ∃ block number, σ.stage = .chords block (some number)

theorem read_of_atRest (h : σ.AtRest) (hz : z.isBlank = true) : σ.read settings z = σ.stay := by
  have hk : σ.skips settings z = false := skips_eq_false_of_isBlank hz
  rcases h with hs | ⟨block, number, hs⟩
  · rw [read_outside hk hs, await, if_pos hz]
  · rw [read_chords hk hs, readChords_blank σ block _ hz, Option.some_or, ← hs]
    rfl

/-- **After a blank line a session is at rest**, whatever the blank line did. -/
theorem atRest_of_reads (hz : z.isBlank = true) (hr : Reads settings z σ σ') : σ'.AtRest := by
  cases hr with
  | comment hk =>
    rw [skips_eq_false_of_isBlank hz] at hk
    cases hk
  | blank hs _ => exact Or.inl hs
  | directive _ _ hl _ =>
    rw [Line.isBlank_eq_false_of_isDirectiveLine hl] at hz
    cases hz
  | header _ _ hl =>
    rw [Line.isBlank_eq_false_of_isHeader hl] at hz
    cases hz
  | @pause _ block blank hs _ =>
    cases blank with
    | none => exact Or.inr ⟨block, z.number, rfl⟩
    | some number => exact Or.inr ⟨block, number, rfl⟩
  | next _ _ _ hl _ =>
    rw [isBlank_eq_false_of_startsNext hl] at hz
    cases hz
  | mark _ _ hl =>
    rw [Line.isBlank_iff_trimmed, hl] at hz
    cases hz
  | measure _ _ hb _ _ =>
    rw [hb] at hz
    cases hz
  | lyric _ hy =>
    rw [Lyric.isBlank_eq_false_of_hasSpan (Lyric.read_eq_ok hy).1] at hz
    cases hz
  | rest _ _ _ => exact Or.inl rfl

/-! ## 4. Batches -/

theorem readAll_map_tight
    (hmark : ∀ c ∈ settings.commentMark.toList.getLast?, Text.isBlank c = false) (σ : Session)
    (ls : List Line) : σ.readAll settings (ls.map Line.tight) = σ.readAll settings ls := by
  induction ls generalizing σ with
  | nil => rfl
  | cons l ls ih => simp only [List.map_cons, readAll, read_tight hmark, ih]

theorem readAll_filter_isRemark (σ : Session) (ls : List Line) :
    σ.readAll settings (ls.filter fun l => !l.isRemark settings) = σ.readAll settings ls := by
  induction ls generalizing σ with
  | nil => rfl
  | cons l ls ih =>
    by_cases hl : l.isRemark settings = true
    · rw [List.filter_cons_of_neg (by simp [hl]), readAll, read_of_isRemark hl, stay_andThen, ih]
    · rw [List.filter_cons_of_pos (by simpa using hl), readAll, readAll]
      simp only [ih]

theorem readAll_singleBlanks {afterBlank : Bool} (h : afterBlank = true → σ.AtRest)
    (ls : List Line) : σ.readAll settings (singleBlanks afterBlank ls) = σ.readAll settings ls := by
  induction ls generalizing σ afterBlank with
  | nil => rfl
  | cons l ls ih =>
    unfold singleBlanks
    by_cases hl : (afterBlank && l.isBlank) = true
    · obtain ⟨hafter, hb⟩ := Bool.and_eq_true_iff.mp hl
      rw [if_pos hl, ih (fun _ => h hafter), readAll, read_of_atRest (h hafter) hb, stay_andThen]
    · rw [if_neg hl, readAll, readAll]
      refine Step.andThen_congr fun hf => ih fun hb => ?_
      exact atRest_of_reads hb (reads_iff.mpr ⟨hf, rfl⟩)

theorem readAll_tidied (hmark : ∀ c ∈ settings.commentMark.toList.getLast?, Text.isBlank c = false)
    (σ : Session) (ls : List Line) :
    σ.readAll settings (tidied settings ls) = σ.readAll settings ls := by
  have hstart : false = true → σ.AtRest := fun h => absurd h Bool.false_ne_true
  rw [tidied, readAll_singleBlanks hstart, readAll_map_tight hmark, readAll_filter_isRemark]

end Session

/-- **Layout does not matter.** Under a comment mark that does not end in a blank, lines and the same
    lines tidied up give the same song, or fail in the same way on the same line; and on the way they say
    the same. -/
theorem read_tidied {settings : Settings}
    (hmark : ∀ c ∈ settings.commentMark.toList.getLast?, Text.isBlank c = false) (ls : List Line) :
    Song.read settings (tidied settings ls) = Song.read settings ls := by
  unfold Song.read Session.feed
  rw [Session.readAll_tidied hmark]

/-- The first of two blank lines is the one pointed at, in both layouts. -/
theorem read_tidied_short :
    tidied {} [⟨1, "# loud"⟩, ⟨2, " Verse "⟩, ⟨3, "C ;G; "⟩, ⟨4, "\t"⟩, ⟨5, "# soft"⟩, ⟨6, ""⟩, ⟨7, " A;D"⟩] =
        [⟨2, "Verse"⟩, ⟨3, "C ;G;"⟩, ⟨4, ""⟩, ⟨7, "A;D"⟩] ∧
      (Song.read {} [⟨2, "Verse"⟩, ⟨3, "C ;G;"⟩, ⟨4, ""⟩, ⟨7, "A;D"⟩]).result =
        .error (.diagnostic ((Problem.emptyLine "Verse").on 4)) := by
  have htidied : tidied {}
      [⟨1, "# loud"⟩, ⟨2, " Verse "⟩, ⟨3, "C ;G; "⟩, ⟨4, "\t"⟩, ⟨5, "# soft"⟩, ⟨6, ""⟩, ⟨7, " A;D"⟩] =
        [⟨2, "Verse"⟩, ⟨3, "C ;G;"⟩, ⟨4, ""⟩, ⟨7, "A;D"⟩] := by decide +kernel
  have hmark : ∀ c ∈ ({} : Settings).commentMark.toList.getLast?, Text.isBlank c = false := by
    intro c hc
    obtain rfl : '#' = c := Option.some.inj hc
    decide
  refine ⟨htidied, ?_⟩
  rw [← htidied, read_tidied hmark]
  decide +kernel

end SongSheet
