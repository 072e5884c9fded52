import Mathlib.Data.List.Forall2
import SongSheet.Proofs.Text.Trim
import SongSheet.Directive
import SongSheet.Section

/-!
# Single lines

What is known of a line before any session reads it. First the classes of lines: a blank line, a
comment, a directive line and a header are told apart by tests written one by one, and here is
which of them exclude each other. Then what the readers of chord lines, lyric lines and directive
lines promise of what they give.
-/

namespace SongSheet

open Text (trim trimStart trimEnd trimBoth isAllBlank isDigit isNumeral)

/-! ## 1. Classes of lines -/

namespace Line

theorem isBlank_iff {l : Line} : l.isBlank = true ↔ trimStart l.text.toList = [] :=
  Text.isAllBlank_iff

theorem toList_trimmed (l : Line) : l.trimmed.toList = trimBoth l.text.toList := Text.toList_trim _

theorem newline_not_mem_trimmed {l : Line} (h : '\n' ∉ l.text.toList) :
    '\n' ∉ l.trimmed.toList := by
  rw [toList_trimmed]
  exact fun hmem => h (Text.trimBoth_subset _ hmem)

theorem isBlank_iff_trimmed {l : Line} : l.isBlank = true ↔ l.trimmed.toList = [] := by
  rw [toList_trimmed, Text.trimBoth_eq_nil_iff, isBlank_iff]

theorem isBlank_eq_false_of_trimmed {l : Line} (h : l.trimmed.toList ≠ []) : l.isBlank = false := by
  cases hb : l.isBlank with
  | false => rfl
  | true => exact absurd (isBlank_iff_trimmed.mp hb) h

/-- A mark that can be seen has a first character. -/
theorem commentMark_ne_nil (settings : Settings) : settings.commentMark.toList ≠ [] := by
  intro h
  have hv := settings.commentMark_visible
  rw [isAllBlank, h] at hv
  cases hv

/-- **A blank line is no comment**, whatever the mark. -/
theorem isComment_eq_false_of_isBlank (settings : Settings) {l : Line} (h : l.isBlank = true) :
    l.isComment settings.commentMark = false := by
  have hnil := isBlank_iff.mp h
  unfold isComment
  rw [Text.toList_trimLeft, hnil]
  cases hm : settings.commentMark.toList with
  | nil => exact absurd hm (commentMark_ne_nil settings)
  | cons c cs => rfl

theorem isBlank_eq_false_of_isComment (settings : Settings) {l : Line}
    (h : l.isComment settings.commentMark = true) : l.isBlank = false := by
  cases hb : l.isBlank with
  | false => rfl
  | true =>
    rw [isComment_eq_false_of_isBlank settings hb] at h
    cases h

theorem isBlank_eq_false_of_isDirectiveLine {l : Line}
    (h : Directive.isDirectiveLine l.text = true) : l.isBlank = false := by
  cases hb : l.isBlank with
  | false => rfl
  | true =>
    rw [Directive.isDirectiveLine, isBlank_iff.mp hb] at h
    simp at h

/-- The seven conditions a header meets, one by one. -/
theorem isHeader_iff {settings : Settings} {text : String} :
    Section.isHeader settings text = true ↔
      (trim text).isEmpty = false ∧ ((trim text).length : Int) ≤ settings.maxHeaderLength ∧
      trim text ≠ Section.lyricMark ∧
      settings.commentMark.toList.isPrefixOf (trim text).toList = false ∧
      ';' ∉ (trim text).toList ∧ '@' ∉ (trim text).toList ∧ Lyric.hasSpan (trim text) = false := by
  simp [Section.isHeader, and_assoc]

theorem isBlank_eq_false_of_isHeader {settings : Settings} {l : Line}
    (h : Section.isHeader settings l.text = true) : l.isBlank = false := by
  obtain ⟨hne, _⟩ := isHeader_iff.mp h
  apply isBlank_eq_false_of_trimmed
  intro hnil
  rw [trimmed, String.toList_eq_nil_iff] at hnil
  rw [hnil] at hne
  cases hne

/-- The at sign a directive starts with is left by trimming. -/
theorem at_mem_of_isDirectiveLine {l : Line} (h : Directive.isDirectiveLine l.text = true) :
    '@' ∈ l.trimmed.toList := by
  have hhead : (trimStart l.text.toList).head? = some '@' := by
    simpa [Directive.isDirectiveLine] using h
  rw [← Text.head?_trimBoth, ← toList_trimmed] at hhead
  exact List.mem_of_mem_head? hhead

/-- **A header is no directive line**: a header holds no at sign. -/
theorem isDirectiveLine_eq_false_of_isHeader {settings : Settings} {l : Line}
    (h : Section.isHeader settings l.text = true) : Directive.isDirectiveLine l.text = false := by
  obtain ⟨_, _, _, _, _, hat, _⟩ := isHeader_iff.mp h
  exact Bool.eq_false_iff.mpr fun hd => hat (at_mem_of_isDirectiveLine hd)

/-- Whether a text names a section is a matter of the trimmed text. -/
theorem isHeader_trim (settings : Settings) (text : String) :
    Section.isHeader settings (trim text) = Section.isHeader settings text := by
  unfold Section.isHeader
  rw [Text.trim_trim]

end Line

/-! ## 2. Lyric lines -/

namespace Lyric

/-- **A text cut at its span**: what stands before the underscore, and the digits behind it, up to the
    end. -/
structure IsCut (cs before digits : List Char) : Prop where
  eq : cs = before ++ '_' :: digits
  numeral : isNumeral digits = true

/-- A text, an underscore, and at least one digit at the very end. -/
def EndsInSpan (s : String) : Prop := ∃ before digits, IsCut s.toList before digits

/-- Whatever is found is a cut, with the text trimmed at its end. -/
theorem parts?_eq_some {cs text digits : List Char} (h : parts? cs = some (text, digits)) :
    ∃ before, IsCut cs before digits ∧ text = trimEnd before ∧ '\n' ∉ text := by
  unfold parts? at h
  dsimp only at h
  split at h
  · rename_i before hdrop
    split at h
    · cases h
    · rename_i hcond
      cases h
      have hcut : cs = before.reverse ++ '_' :: (cs.reverse.takeWhile isDigit).reverse := by
        calc cs = (cs.reverse.takeWhile isDigit ++ cs.reverse.dropWhile isDigit).reverse := by
              rw [List.takeWhile_append_dropWhile, List.reverse_reverse]
          _ = before.reverse ++ '_' :: (cs.reverse.takeWhile isDigit).reverse := by
              rw [hdrop]
              simp
      have hall : ∀ c ∈ cs.reverse.takeWhile isDigit, isDigit c = true :=
        List.all_eq_true.mp List.all_takeWhile
      simp only [Bool.or_eq_true, not_or, Bool.not_eq_true, List.contains_eq_mem,
        decide_eq_false_iff_not, List.isEmpty_eq_false_iff] at hcond
      refine ⟨before.reverse, ⟨hcut, ?_⟩, rfl, hcond.2⟩
      simp only [isNumeral, Bool.and_eq_true, Bool.not_eq_true', List.isEmpty_eq_false_iff,
        List.all_eq_true, List.mem_reverse]
      exact ⟨hcond.1, hall⟩
  · cases h

/-- Digits at the end, and the underscore before them, are found whatever stands in front. -/
theorem IsCut.parts?_eq {cs before digits : List Char} (h : IsCut cs before digits)
    (hn : '\n' ∉ trimEnd before) : parts? cs = some (trimEnd before, digits) := by
  have hd := h.numeral
  have hall : ∀ c ∈ digits.reverse, isDigit c = true := by
    intro c hc
    simp only [isNumeral, Bool.and_eq_true, List.all_eq_true] at hd
    exact hd.2 c (List.mem_reverse.mp hc)
  have hus : isDigit '_' = false := by decide
  have hrev : cs.reverse = digits.reverse ++ '_' :: before.reverse := by
    rw [h.eq]
    simp
  have hdrop : cs.reverse.dropWhile isDigit = '_' :: before.reverse := by
    rw [hrev, List.dropWhile_append_of_pos hall]
    simp [hus]
  have htake : cs.reverse.takeWhile isDigit = digits.reverse := by
    rw [hrev, List.takeWhile_append_of_pos hall]
    simp [hus]
  have hne : digits ≠ [] := by
    intro e
    rw [e] at hd
    cases hd
  unfold parts?
  rw [hdrop, htake]
  simp [hne, hn]

theorem IsCut.newline_not_mem {cs before digits : List Char} (h : IsCut cs before digits)
    (hn : '\n' ∉ cs) : '\n' ∉ trimEnd before := by
  intro hmem
  apply hn
  rw [h.eq]
  exact List.mem_append_left _ ((List.rdropWhile_prefix _ _).subset hmem)

theorem endsInSpan_of_hasSpan {s : String} (h : hasSpan s = true) : EndsInSpan s := by
  obtain ⟨⟨text, digits⟩, hparts⟩ := Option.isSome_iff_exists.mp h
  obtain ⟨before, hcut, _, _⟩ := parts?_eq_some hparts
  exact ⟨before, digits, hcut⟩

/-- **Without a line end inside, a text has a span exactly if it ends in one.** -/
theorem hasSpan_iff {s : String} (hn : '\n' ∉ s.toList) : hasSpan s = true ↔ EndsInSpan s := by
  constructor
  · exact endsInSpan_of_hasSpan
  · intro h
    obtain ⟨before, digits, hcut⟩ := h
    rw [hasSpan, hcut.parts?_eq (hcut.newline_not_mem hn)]
    rfl

theorem isBlank_eq_false_of_hasSpan {l : Line} (h : hasSpan l.trimmed = true) :
    l.isBlank = false := by
  apply Line.isBlank_eq_false_of_trimmed
  intro hnil
  rw [hasSpan, hnil] at h
  cases h

/-- A line without a span is refused. -/
theorem read_of_hasSpan_eq_false {l : Line} (h : hasSpan l.trimmed = false) :
    Lyric.read l = Failure.raise (.noSpan l.trimmed) l.number := by
  have hparts : parts? l.trimmed.toList = none := by simpa [hasSpan] using h
  rw [Lyric.read, hparts]

/-- **What a lyric line promises**: it ends in a span, which is positive, and it knows its line. -/
theorem read_eq_ok {l : Line} {y : Lyric} (h : Lyric.read l = .ok y) :
    hasSpan l.trimmed = true ∧ 1 ≤ y.span ∧ y.line = l.number := by
  unfold Lyric.read at h
  split at h
  · cases h
  · rename_i text digits hparts
    split at h
    · cases h
    · rename_i span hspan
      split at h
      · cases h
      · rename_i hpos
        cases h
        refine ⟨?_, ?_, rfl⟩
        · rw [hasSpan, hparts]
          rfl
        · show 1 ≤ span
          omega

end Lyric

/-! ## 3. Chord lines -/

namespace ChordSymbol

theorem upperChar_of_isLetter {c : Char} (h : Note.isLetter c = true) : Text.upperChar c = [c] := by
  have hall : (Note.letters.all fun c => decide (Text.upperChar c = [c])) = true := by decide
  have hc : c ∈ Note.letters := by simpa [Note.isLetter] using h
  exact of_decide_eq_true (List.all_eq_true.mp hall c hc)

theorem capitalize_eq_self {text : String} (h : text.toList.head?.any Note.isLetter = true) :
    capitalize text = text := by
  unfold capitalize
  cases hcs : text.toList with
  | nil => rw [hcs] at h; cases h
  | cons c rest =>
    rw [hcs] at h
    have hc : Note.isLetter c = true := h
    rw [capitalizeChars, upperChar_of_isLetter hc, List.singleton_append, ← hcs,
      String.ofList_toList]

/-- **A symbol is its own token**: reading its text again, on whatever line, changes neither the
    text nor the chord. -/
theorem read_text {token : String} {line : Int} {c : ChordSymbol}
    (h : ChordSymbol.read token line = .ok c) (line' : Int) :
    ChordSymbol.read c.text line' = .ok ⟨c.text, c.chord, line'⟩ := by
  unfold ChordSymbol.read at h
  dsimp only at h
  split at h
  · cases h
  · rename_i hroot
    split at h
    · cases h
    · rename_i hshape
      split at h
      · rename_i chord hchord
        cases h
        have hroot' : (capitalize token).toList.head?.any Note.isLetter = true := by
          simpa using hroot
        have hself := capitalize_eq_self hroot'
        simp only [ChordSymbol.read, hself, hroot, hshape, hchord]
        rfl
      · cases h

end ChordSymbol

/-- Where two lists go together member by member, each member of the first has one in the second. -/
theorem exists_mem_of_forall₂ {α β : Type} {R : α → β → Prop} {xs : List α} {ys : List β}
    (h : List.Forall₂ R xs ys) {x : α} (hx : x ∈ xs) : ∃ y ∈ ys, R x y := by
  induction h with
  | nil => cases hx
  | cons hxy _ ih =>
    rcases List.mem_cons.mp hx with rfl | hx'
    · exact ⟨_, List.mem_cons_self, hxy⟩
    · obtain ⟨y, hy, hxy'⟩ := ih hx'
      exact ⟨y, List.mem_cons_of_mem _ hy, hxy'⟩

namespace Measure

/-- Every symbol of a chord line was read from one of its tokens, and none is left out. -/
theorem readSymbols_eq_ok {line : Int} : ∀ {ts : List String} {cs : List ChordSymbol},
    readSymbols line ts = .ok cs → List.Forall₂ (fun t c => ChordSymbol.read t line = .ok c) ts cs
  | [], cs, h => by
      cases h
      exact .nil
  | t :: ts, cs, h => by
      unfold readSymbols at h
      split at h
      · cases h
      · rename_i c hc
        split at h
        · cases h
        · rename_i cs' hcs
          cases h
          exact .cons hc (readSymbols_eq_ok hcs)

/-- A measure has chords, and each is the reading of its own text. -/
def IsPlayable (m : Measure) : Prop :=
  m.chords ≠ [] ∧
    ∀ c ∈ m.chords, ∀ line, ChordSymbol.read c.text line = .ok ⟨c.text, c.chord, line⟩

/-- **What a chord line promises.** -/
theorem read_eq_ok {l : Line} {m : Measure} (h : Measure.read l = .ok m) :
    m.IsPlayable ∧ m.line = l.number := by
  unfold Measure.read at h
  dsimp only at h
  split at h
  · cases h
  · rename_i hne
    split at h
    · cases h
    · split at h
      · rename_i chords hcs
        cases h
        have hall := readSymbols_eq_ok hcs
        refine ⟨⟨?_, ?_⟩, rfl⟩
        · intro hnil
          have hnil' : chords = [] := hnil
          rw [hnil', List.forall₂_nil_right_iff] at hall
          rw [hall] at hne
          exact hne rfl
        · intro c hc line
          obtain ⟨t, _, ht⟩ := exists_mem_of_forall₂ (List.Forall₂.flip hall) hc
          exact ChordSymbol.read_text ht line
      · cases h

end Measure

/-! ## 4. Directive lines -/

namespace Directive

/-- A known directive that sets the tempo, to a number within the bounds. -/
def IsTempo (settings : Settings) (d : Directive) : Prop :=
  d.known = true ∧ d.key = Topic.tempo.key ∧
    ∃ bpm, d.value = .number bpm ∧ settings.minBpm ≤ bpm ∧ bpm ≤ settings.maxBpm

theorem readTempo_eq_ok {settings : Settings} {value : String} {line bpm : Int}
    (h : readTempo settings value line = .ok bpm) :
    settings.minBpm ≤ bpm ∧ bpm ≤ settings.maxBpm := by
  unfold readTempo at h
  dsimp only at h
  split at h
  · cases h
  · split at h
    · cases h
    · split at h
      · cases h
      · split at h
        · rename_i hbounds
          cases h
          exact hbounds
        · cases h

/-- **What a directive line promises**: it knows its line, and under the key of the tempo it is a
    tempo within the bounds. -/
theorem read_eq_ok {settings : Settings} {l : Line} {d : Directive}
    (h : Directive.read settings l = .ok d) :
    d.line = l.number ∧ (d.key = Topic.tempo.key → d.IsTempo settings) := by
  unfold Directive.read at h
  split at h
  · cases h
  · dsimp only at h
    split at h
    · rename_i hnone
      cases h
      refine ⟨rfl, fun hkey => ?_⟩
      rw [show Text.lower _ = Topic.tempo.key from hkey, Topic.ofKey?_key] at hnone
      cases hnone
    · rename_i topic htopic
      cases hv : readValue settings topic _ l.number with
      | error e => rw [hv] at h; cases h
      | ok v =>
        rw [hv] at h
        cases h
        refine ⟨rfl, fun hkey => ⟨rfl, hkey, ?_⟩⟩
        -- the key settles the topic, and the topic the check its value has passed
        rw [show Text.lower _ = Topic.tempo.key from hkey, Topic.ofKey?_key] at htopic
        cases htopic
        cases hbpm : readTempo settings _ l.number with
        | error e => rw [readValue, hbpm] at hv; cases hv
        | ok bpm =>
          rw [readValue, hbpm] at hv
          cases hv
          exact ⟨bpm, rfl, readTempo_eq_ok hbpm⟩

/-- A directive counts as known exactly if its key names a topic. -/
theorem known_of_read {settings : Settings} {l : Line} {d : Directive}
    (h : Directive.read settings l = .ok d) : d.known = (Topic.ofKey? d.key).isSome := by
  unfold Directive.read at h
  split at h
  · cases h
  · dsimp only at h
    split at h
    · rename_i hnone
      cases h
      rw [hnone]
      rfl
    · rename_i topic htopic
      cases hv : readValue settings topic _ l.number with
      | error e => rw [hv] at h; cases h
      | ok v =>
        rw [hv] at h
        cases h
        rw [htopic]
        rfl

end Directive

/-! ## 5. Numbers -/

namespace Line

theorem first_le_number {first : Int} : ∀ {ts : List String} {l : Line},
    l ∈ numbered first ts → first ≤ l.number
  | t :: ts, l, h => by
      rcases List.mem_cons.mp h with rfl | h
      · exact Int.le_refl _
      · have := first_le_number h
        omega

theorem number_lt {first : Int} : ∀ {ts : List String} {l : Line},
    l ∈ numbered first ts → l.number < first + ts.length
  | t :: ts, l, h => by
      rw [List.length_cons]
      rcases List.mem_cons.mp h with rfl | h
      · show first < first + (ts.length + 1 : Nat)
        omega
      · have := number_lt h
        omega

theorem length_numbered (first : Int) (ts : List String) :
    (numbered first ts).length = ts.length := by
  rw [← List.length_map (fun l : Line => l.text), map_text_numbered]

/-- **The lines of a text are numbered from one to their number.** -/
theorem number_of_mem_scan {text : String} {l : Line} (h : l ∈ scan text) :
    1 ≤ l.number ∧ l.number ≤ (scan text).length := by
  have hlow := first_le_number h
  have hhigh := number_lt h
  have hlen : (scan text).length = (split text).length := length_numbered 1 _
  omega

/-- **Line numbers go up.** -/
theorem pairwise_number_numbered (first : Int) (ts : List String) :
    ((numbered first ts).map number).Pairwise (· < ·) := by
  induction ts generalizing first with
  | nil => exact .nil
  | cons t ts ih =>
    refine List.pairwise_cons.mpr ⟨fun n hn => ?_, ih (first + 1)⟩
    obtain ⟨l, hl, rfl⟩ := List.mem_map.mp hn
    have := first_le_number hl
    show first < l.number
    omega

end Line

end SongSheet
