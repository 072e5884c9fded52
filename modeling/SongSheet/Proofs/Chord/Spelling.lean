import Mathlib.Data.Bool.AllAny
import Mathlib.Tactic.IntervalCases
import SongSheet.Proofs.Chord.Notation

/-!
# Which tokens are chords

A chord is spelt as a simple root, a quality that can be read and has a shorthand, and perhaps a simple
bass after a slash (`Chord.Spelling`). Nothing else is needed to say which tokens are read: every
such quality fits the notation, no spelling is longer than a symbol may be, and both readers find in its
text the three parts it was put together from, so that it is the only one with that text.

A token may start with a small letter. Its capital is looked up in a table that also holds capitals of
several characters; those that start with a root letter go on with a character that the notation has no
use for (`ChordSymbol.upperChar_cases`).
-/

namespace SongSheet

/-! ## 1. Spellings -/

/-- **A chord as it may be written**: a simple root, a quality that can be read and has a shorthand, and
    perhaps a simple bass. -/
@[ext] structure Chord.Spelling where
  root : String
  quality : String
  /-- The shorthand of the quality. -/
  harte : String
  bass : Option String
  isSimple_root : Note.isSimple root.toList = true
  isName_quality : Quality.isName quality = true
  harte?_quality : Quality.harte? quality = some harte
  isSimple_bass : ∀ b ∈ bass, Note.isSimple b.toList = true

namespace Chord.Spelling

/-- The bass with the slash in front of it, if there is one. -/
def bassText (p : Spelling) : String :=
  match p.bass with
  | none => ""
  | some b => "/" ++ b

/-- The spelling as one text. -/
def text (p : Spelling) : String := p.root ++ p.quality ++ p.bassText

/-- The chord that is spelt. -/
def chord (p : Spelling) : Chord := ⟨p.root, p.harte, p.bass⟩

/-- Neither a blank nor one of the marks by which lines are told apart or cut. -/
def isPlain (c : Char) : Bool := !Text.isBlank c && c != ';' && c != '@' && c != '_'

/-- **Every quality that can be read and has a shorthand fits the notation**, and none is long. -/
theorem quality_fits : ∀ q ∈ Quality.names, (Quality.harte? q).isSome = true →
    ChordSymbol.isQuality q.toList = true ∧ '/' ∉ q.toList ∧ q.toList.all isPlain = true ∧
      q.length ≤ 5 := by
  decide +kernel

theorem fits (p : Spelling) :
    ChordSymbol.isQuality p.quality.toList = true ∧ '/' ∉ p.quality.toList ∧
      p.quality.toList.all isPlain = true ∧ p.quality.length ≤ 5 := by
  refine quality_fits p.quality ?_ (by rw [p.harte?_quality]; rfl)
  simpa [Quality.isName] using p.isName_quality

theorem isTail (p : Spelling) : IsTail p.quality.toList (p.bass.map String.toList) where
  slash := p.fits.2.1
  head := ChordSymbol.head_of_isQuality p.fits.1
  bass b hb := by
    obtain ⟨s, hs, rfl⟩ := Option.map_eq_some_iff.mp hb
    exact p.isSimple_bass s hs

theorem toList_text (p : Spelling) : p.text.toList =
    p.root.toList ++ (p.quality.toList ++ slashed (p.bass.map String.toList)) := by
  unfold text bassText
  cases p.bass <;> simp [slashed]

theorem isNotation_text (p : Spelling) : ChordSymbol.isNotation p.text.toList = true :=
  ChordSymbol.isNotation_iff.mpr ⟨_, _, _, p.isSimple_root, p.isTail, p.fits.1, p.toList_text⟩

/-- The reader of chords finds the chord that is spelt. -/
theorem read_text (p : Spelling) : Chord.read p.text = .ok p.chord := by
  have htext := congrArg String.ofList p.toList_text
  rw [String.ofList_toList] at htext
  have hbass : (p.bass.map String.toList).map String.ofList = p.bass := by
    cases p.bass <;> simp
  rw [htext, read_written p.isSimple_root p.isTail, String.ofList_toList, String.ofList_toList,
    if_pos p.isName_quality, shorthand, p.harte?_quality, hbass]
  rfl

/-- **A text is spelt in one way only**: the reader finds root and bass in it, and the quality is what is
    left. -/
theorem text_injective {p p' : Spelling} (h : p.text = p'.text) : p = p' := by
  have hchord : p.chord = p'.chord := by
    have hread := p.read_text
    rw [h, p'.read_text] at hread
    exact (Except.ok.inj hread).symm
  have hroot : p.root = p'.root := congrArg Chord.root hchord
  have hharte : p.harte = p'.harte := congrArg Chord.quality hchord
  have hbass : p.bass = p'.bass := congrArg Chord.bass hchord
  have hquality : p.quality.toList = p'.quality.toList := by
    have hlist := congrArg String.toList h
    rw [p.toList_text, p'.toList_text, hroot, hbass] at hlist
    exact List.append_cancel_right (List.append_cancel_left hlist)
  exact Spelling.ext hroot (String.toList_inj.mp hquality) hharte hbass

theorem length_le_of_isSimple {cs : List Char} (h : Note.isSimple cs = true) : cs.length ≤ 2 := by
  obtain ⟨_, _, rfl | ⟨_, _, rfl⟩⟩ := Note.isSimple_iff.mp h <;> simp

/-- **No spelling reaches the limit.** -/
theorem length_text_le (p : Spelling) : p.text.length ≤ ChordSymbol.maxLength := by
  have hroot := length_le_of_isSimple p.isSimple_root
  have hquality := p.fits.2.2.2
  have hbass : (slashed (p.bass.map String.toList)).length ≤ 3 := by
    cases hb : p.bass with
    | none => simp [slashed]
    | some b =>
      have hlen := length_le_of_isSimple (p.isSimple_bass b hb)
      simp only [Option.map_some, slashed, List.length_cons]
      omega
  have htext : p.text.length = p.text.toList.length := String.length_toList.symm
  rw [htext, p.toList_text, List.length_append, List.length_append, String.length_toList (s := p.quality)]
  unfold ChordSymbol.maxLength
  omega

/-- **A spelling is plain throughout.** -/
theorem isPlain_of_mem_text (p : Spelling) {c : Char} (hc : c ∈ p.text.toList) : isPlain c = true := by
  have hsimple : ∀ cs, Note.isSimple cs = true → ∀ c ∈ cs, isPlain c = true :=
    fun cs h => Note.forall_of_isSimple h (by decide) (by decide) (by decide)
  rw [p.toList_text, List.mem_append, List.mem_append] at hc
  rcases hc with hroot | hquality | hbass
  · exact hsimple _ p.isSimple_root c hroot
  · exact List.all_eq_true.mp p.fits.2.2.1 c hquality
  · cases hb : p.bass with
    | none =>
      rw [hb] at hbass
      cases hbass
    | some b =>
      rw [hb] at hbass
      rcases List.mem_cons.mp hbass with rfl | h
      · decide
      · exact hsimple _ (p.isSimple_bass b hb) c h

theorem newline_not_mem_text (p : Spelling) : '\n' ∉ p.text.toList := by
  intro hmem
  exact absurd (p.isPlain_of_mem_text hmem) (by decide)

end Chord.Spelling

/-! ## 2. Capitals -/

namespace Note

/-- The letters a root may be written with. -/
def eitherCase : List Char := "ABCDEFGabcdefg".toList

theorem isLetter_iff_toNat {c : Char} : isLetter c = true ↔ 65 ≤ c.toNat ∧ c.toNat ≤ 71 := by
  constructor
  · intro h
    have hall : ∀ c ∈ letters, 65 ≤ c.toNat ∧ c.toNat ≤ 71 := List.all_iff_forall_prop.mp (by decide)
    exact hall c (by simpa [isLetter] using h)
  · rintro ⟨hlow, hhigh⟩
    rw [← Char.ofNat_toNat c]
    interval_cases c.toNat <;> decide

/-- Only the code of a letter gives a letter. -/
theorem code_of_isLetter {n : Nat} (h : isLetter (Char.ofNat n) = true) : 65 ≤ n ∧ n ≤ 71 := by
  have hcode := isLetter_iff_toNat.mp h
  have hvalid : (Char.ofNat n).toNat = n ∨ (Char.ofNat n).toNat = 0 := by
    by_cases hn : n.isValidChar
    · left
      rw [Char.ofNat, dif_pos hn]
      rfl
    · right
      rw [Char.ofNat, dif_neg hn]
      rfl
  omega

end Note

namespace ChordSymbol

/-- Nothing in the notation goes on with this character after a root letter, and it ends no line. -/
def endsNotation (c : Char) : Bool :=
  (advance qualityWords [[]] c).isEmpty && !Note.isAccidental c && c != '/' && c != '\n'

theorem isNotation_eq_false {c d : Char} (hd : endsNotation d = true) (rest : List Char) :
    isNotation (c :: d :: rest) = false := by
  simp only [endsNotation, Bool.and_eq_true, List.isEmpty_iff, Bool.not_eq_true', bne_iff_ne] at hd
  obtain ⟨⟨⟨hstart, haccidental⟩, hslash⟩, _⟩ := hd
  have hquality := isQuality_cons_eq_false hstart (rest.takeWhile (· ≠ '/'))
  have htake : (d :: rest).takeWhile (· ≠ '/') = d :: rest.takeWhile (· ≠ '/') := by simp [hslash]
  rw [isNotation, dropAccidental, haccidental]
  simp only [Bool.false_eq_true, if_false]
  rw [htake, hquality, Bool.and_false, Bool.false_and]

theorem mem_of_lookup {n : Nat} {image : List Nat} {table : List (Nat × List Nat)}
    (h : table.lookup n = some image) : (n, image) ∈ table := by
  obtain ⟨l₁, l₂, hl, _⟩ := List.lookup_eq_some_iff.mp h
  rw [hl]
  simp

/-- **A capital of several characters that starts with a root letter goes on with none of the notation.** -/
theorem sequence_ends : ∀ s ∈ Text.upperSequences, ∀ x ∈ s.2.head?, Note.isLetter (Char.ofNat x) = true →
    ∃ y ∈ s.2.tail.head?, endsNotation (Char.ofNat y) = true := by
  decide +kernel

/-- Only the run of the ASCII letters reaches a root letter. -/
theorem run_reaches : ∀ r ∈ Text.upperRuns, 65 ≤ (r.last : Int) + r.shift →
    (r.first : Int) + r.shift ≤ 71 → r.first = 97 ∧ r.shift = -32 := by
  decide +kernel

/-- **What can have a root letter for the start of its capital**: a root letter, small or capital, and
    characters whose capital the notation ends at. -/
theorem upperChar_cases {c x : Char} {xs : List Char} (h : Text.upperChar c = x :: xs)
    (hx : Note.isLetter x = true) :
    (c ∈ Note.eitherCase ∧ x = c.toUpper ∧ xs = []) ∨
      ∃ y ys, xs = y :: ys ∧ endsNotation y = true := by
  unfold Text.upperChar Text.caseImage at h
  split at h
  · rename_i image hlookup
    have hmem := mem_of_lookup hlookup
    match image with
    | [] => cases h
    | n :: ns =>
      cases h
      obtain ⟨y, hy, hends⟩ := sequence_ends _ hmem n rfl hx
      cases ns with
      | nil => cases hy
      | cons m ms =>
        cases hy
        exact Or.inr ⟨_, _, rfl, hends⟩
  · split at h
    · rename_i run hrun
      have hmem := List.mem_of_find?_eq_some hrun
      have hcontains := List.find?_some hrun
      simp only [Text.CaseRun.contains, Bool.and_eq_true, decide_eq_true_eq] at hcontains
      obtain ⟨⟨hfirst, hlast⟩, _⟩ := hcontains
      cases h
      have hcode := Note.code_of_isLetter hx
      obtain ⟨hfirst', hshift⟩ := run_reaches run hmem (by omega) (by omega)
      left
      rw [Text.CaseRun.image, hshift]
      rw [hshift] at hcode
      have hlow : 97 ≤ c.toNat := by omega
      have hhigh : c.toNat ≤ 103 := by omega
      rw [← Char.ofNat_toNat c]
      generalize c.toNat = n at hlow hhigh
      interval_cases n <;> decide
    · cases h
      left
      have hall : ∀ c ∈ Note.letters, c ∈ Note.eitherCase ∧ c = c.toUpper :=
        List.all_iff_forall_prop.mp (by decide)
      obtain ⟨hc, hupper⟩ := hall c (by simpa [Note.isLetter] using hx)
      exact ⟨hc, hupper, rfl⟩

theorem upperChar_ne_nil (c : Char) : Text.upperChar c ≠ [] := by
  have htable : ∀ s ∈ Text.upperSequences, s.2 ≠ [] := by decide +kernel
  unfold Text.upperChar Text.caseImage
  split
  · rename_i image hlookup
    have hmem := mem_of_lookup hlookup
    simpa using htable _ hmem
  · split <;> simp

/-! ## 3. Tokens -/

/-- The token is the spelling `p`, its first letter small or capital. -/
def Spells (token : String) (p : Chord.Spelling) : Prop :=
  ∃ c rest, token.toList = c :: rest ∧ c ∈ Note.eitherCase ∧ p.text = String.ofList (c.toUpper :: rest)

theorem eitherCase_upper : ∀ c ∈ Note.eitherCase,
    Text.upperChar c = [c.toUpper] ∧ Note.isLetter c.toUpper = true :=
  List.all_iff_forall_prop.mp (by decide +kernel)

theorem Spells.capitalize_eq {token : String} {p : Chord.Spelling} (h : Spells token p) :
    capitalize token = p.text := by
  obtain ⟨c, rest, htoken, hc, htext⟩ := h
  rw [capitalize, htoken, capitalizeChars, (eitherCase_upper c hc).1, htext]
  rfl

/-- A token has one spelling at most. -/
theorem Spells.unique {token : String} {p p' : Chord.Spelling} (h : Spells token p)
    (h' : Spells token p') : p = p' :=
  Chord.Spelling.text_injective (h.capitalize_eq.symm.trans h'.capitalize_eq)

/-- A token that is a spelling is plain throughout, and it is not empty. -/
theorem Spells.isPlain {token : String} {p : Chord.Spelling} (h : Spells token p) :
    token ≠ "" ∧ ∀ c ∈ token.toList, Chord.Spelling.isPlain c = true := by
  obtain ⟨first, rest, htoken, hfirst, htext⟩ := h
  have hletters : ∀ c ∈ Note.eitherCase, Chord.Spelling.isPlain c = true :=
    List.all_iff_forall_prop.mp (by decide)
  constructor
  · rintro rfl
    cases htoken
  · intro c hc
    rw [htoken] at hc
    rcases List.mem_cons.mp hc with rfl | hrest
    · exact hletters c hfirst
    · apply p.isPlain_of_mem_text
      rw [htext, String.toList_ofList]
      exact List.mem_cons_of_mem _ hrest

/-- **Every spelling is read**, and as the chord that is spelt. -/
theorem read_of_spells {token : String} {p : Chord.Spelling} (h : Spells token p) (line : Int) :
    ChordSymbol.read token line = .ok ⟨p.text, p.chord, line⟩ := by
  have hhead : p.text.toList.head?.any Note.isLetter = true := by
    obtain ⟨c, rest, _, hc, htext⟩ := h
    rw [htext, String.toList_ofList]
    exact (eitherCase_upper c hc).2
  have hread := Chord.read?_eq_some_iff.mpr p.read_text
  have hlength : ¬ ChordSymbol.maxLength < p.text.length := Nat.not_lt.mpr p.length_text_le
  unfold ChordSymbol.read
  simp [h.capitalize_eq, hhead, hlength, Note.dropFinalNewline_of_not_mem p.newline_not_mem_text,
    p.isNotation_text, hread]

/-- What a token has to pass to be read. -/
theorem read_eq_ok {token : String} {line : Int} {s : ChordSymbol}
    (h : ChordSymbol.read token line = .ok s) :
    (capitalize token).toList.head?.any Note.isLetter = true ∧
      isNotation (Text.dropFinalNewline (capitalize token).toList) = true ∧
      Chord.read (capitalize token) = .ok s.chord ∧ s = ⟨capitalize token, s.chord, line⟩ := by
  unfold ChordSymbol.read at h
  dsimp only at h
  split at h
  · cases h
  · rename_i hhead
    split at h
    · cases h
    · rename_i hshape
      split at h
      · rename_i chord hchord
        cases h
        rw [Bool.or_eq_true, not_or, Bool.not_eq_true, Bool.not_eq_true', Bool.not_eq_false] at hshape
        rw [Bool.not_eq_true', Bool.not_eq_false] at hhead
        refine ⟨hhead, hshape.2, ?_, rfl⟩
        exact Chord.read?_eq_some_iff.mp hchord
      · cases h

/-- **A text that both the notation and the reader of chords accept is a spelling.** -/
theorem exists_spelling {cs : List Char} {chord : Chord} (hform : isNotation cs = true)
    (hread : Chord.read (String.ofList cs) = .ok chord) :
    ∃ p : Chord.Spelling, p.text = String.ofList cs ∧ p.chord = chord := by
  obtain ⟨root, quality, bass, hroot, htail, _, rfl⟩ := isNotation_iff.mp hform
  rw [Chord.read_written hroot htail] at hread
  split at hread
  · rename_i hname
    unfold Chord.shorthand at hread
    cases hharte : Quality.harte? (String.ofList quality) with
    | none => rw [hharte] at hread; cases hread
    | some harte =>
      rw [hharte] at hread
      cases hread
      refine ⟨⟨String.ofList root, String.ofList quality, harte, bass.map String.ofList, ?_, hname, hharte,
        ?_⟩, ?_, rfl⟩
      · rw [String.toList_ofList]
        exact hroot
      · intro b hb
        obtain ⟨b', hb', rfl⟩ := Option.map_eq_some_iff.mp hb
        rw [String.toList_ofList]
        exact htail.bass b' hb'
      · rw [← String.toList_inj, Chord.Spelling.toList_text]
        cases bass <;> simp
  · cases hread

/-- A trimmed text ends in no line end. -/
theorem getLast?_of_trim {token : String} (h : Text.trim token = token) :
    token.toList.getLast? ≠ some '\n' := by
  intro hlast
  rw [← h, Text.toList_trim] at hlast
  exact Bool.noConfusion (Text.isBlank_getLast_trimEnd hlast)

theorem dropFinalNewline_cons {c : Char} {rest : List Char} (hc : c ≠ '\n')
    (hrest : rest.getLast? ≠ some '\n') : Text.dropFinalNewline (c :: rest) = c :: rest := by
  unfold Text.dropFinalNewline
  rw [if_neg]
  cases rest with
  | nil => simpa using hc
  | cons d rest => simpa using hrest

/-- At the second of two characters that end no line, nothing is dropped yet. -/
theorem exists_dropFinalNewline {c d : Char} (hd : d ≠ '\n') (rest : List Char) :
    ∃ rest', Text.dropFinalNewline (c :: d :: rest) = c :: d :: rest' := by
  unfold Text.dropFinalNewline
  split
  · rename_i hlast
    cases rest with
    | nil => exact absurd (by simpa using hlast) hd
    | cons e rest => exact ⟨(e :: rest).dropLast, rfl⟩
  · exact ⟨rest, rfl⟩

/-- **A trimmed token that is read is a spelling.** -/
theorem spells_of_read {token : String} {line : Int} {s : ChordSymbol} (htrim : Text.trim token = token)
    (h : ChordSymbol.read token line = .ok s) :
    ∃ p, Spells token p ∧ s = ⟨p.text, p.chord, line⟩ := by
  obtain ⟨hhead, hform, hread, hs⟩ := read_eq_ok h
  cases htoken : token.toList with
  | nil =>
    rw [capitalize, htoken] at hhead
    cases hhead
  | cons c rest =>
    have htext : (capitalize token).toList = Text.upperChar c ++ rest := by
      rw [capitalize, htoken, capitalizeChars, String.toList_ofList]
    cases hupper : Text.upperChar c with
    | nil => exact absurd hupper (upperChar_ne_nil c)
    | cons x xs =>
      rw [hupper] at htext
      rw [htext] at hhead hform
      rcases upperChar_cases hupper hhead with ⟨hc, rfl, rfl⟩ | ⟨y, ys, rfl, hends⟩
      · have hletter := (eitherCase_upper c hc).2
        have hfirst : c.toUpper ≠ '\n' := by
          intro e
          rw [e] at hletter
          cases hletter
        have hlast : rest.getLast? ≠ some '\n' := by
          intro hrest
          apply getLast?_of_trim htrim
          rw [htoken, List.getLast?_cons, hrest]
          rfl
        rw [List.cons_append, List.nil_append] at htext hform
        rw [dropFinalNewline_cons hfirst hlast] at hform
        have hcapital : capitalize token = String.ofList (c.toUpper :: rest) := by
          rw [← htext, String.ofList_toList]
        rw [hcapital] at hread hs
        obtain ⟨p, hp, hchord⟩ := exists_spelling hform hread
        refine ⟨p, ⟨c, rest, htoken, hc, hp⟩, ?_⟩
        rw [hs, hp, hchord]
      · -- the capital is longer than one character, and the notation stops at the second
        have hy : y ≠ '\n' := by
          rintro rfl
          exact absurd hends (by decide)
        obtain ⟨rest', hdrop⟩ := exists_dropFinalNewline (c := x) hy (ys ++ rest)
        rw [List.cons_append, List.cons_append, hdrop, isNotation_eq_false hends] at hform
        cases hform

/-- The diagnostic of a token that is no chord. -/
def refusal (token reason : String) (line : Int) : Diagnostic :=
  ⟨.invalidChordNotation, "Invalid chord '" ++ token ++ "': " ++ reason, some line⟩

theorem on_eq_refusal {p : Problem} {token ending reason : String} {line : Int}
    (hcode : p.code = .invalidChordNotation) (hmessage : p.message = "Invalid chord '" ++ token ++ ending)
    (hending : ending = "': " ++ reason) : p.on line = refusal token reason line := by
  rw [Problem.on, hcode, hmessage, hending, refusal, ← String.append_assoc]

theorem on_chordRoot (token : String) (line : Int) :
    (Problem.chordRoot token).on line = refusal token "chord root must be a letter A-G" line :=
  on_eq_refusal rfl rfl (by decide)

theorem on_chordNotation (token : String) (line : Int) :
    (Problem.chordNotation token).on line = refusal token "unrecognized chord notation" line :=
  on_eq_refusal rfl rfl (by decide)

/-- **A token that is not read is refused by name.** -/
theorem read_eq_error_names {token : String} {line : Int} {e : Failure}
    (h : ChordSymbol.read token line = .error e) :
    ∃ reason, e = .diagnostic (refusal token reason line) := by
  unfold ChordSymbol.read Failure.raise at h
  dsimp only at h
  rw [on_chordRoot, on_chordNotation] at h
  split at h
  · cases h
    exact ⟨_, rfl⟩
  · split at h
    · cases h
      exact ⟨_, rfl⟩
    · split at h
      · cases h
      · cases h
        exact ⟨_, rfl⟩

end ChordSymbol

/-- **Which tokens are chords, and what they are read as.** A trimmed token is read exactly if it is
    a spelling, its first letter small or capital; there is only one such spelling, root and bass of it are
    notes, and the symbol has its text and its chord. Any other token is refused by name. The limit on the
    length of a symbol refuses none that the notation and the reader of chords accept. -/
theorem chord_token_iff_spelling (token : String) (line : Int) (htrim : Text.trim token = token) :
    (∀ s, ChordSymbol.read token line = .ok s ↔
        ∃ p, ChordSymbol.Spells token p ∧ s = ⟨p.text, p.chord, line⟩) ∧
      (∀ p p', ChordSymbol.Spells token p → ChordSymbol.Spells token p' → p = p') ∧
      (∀ p, ChordSymbol.Spells token p →
        Note.isNote p.root.toList = true ∧ ∀ b ∈ p.bass, Note.isNote b.toList = true) ∧
      ((¬ ∃ p, ChordSymbol.Spells token p) →
        ∃ reason, ChordSymbol.read token line = .error (.diagnostic
          ⟨.invalidChordNotation, "Invalid chord '" ++ token ++ "': " ++ reason, some line⟩)) ∧
      (ChordSymbol.isNotation (ChordSymbol.capitalize token).toList = true →
        (Chord.read? (ChordSymbol.capitalize token)).isSome = true →
        (ChordSymbol.capitalize token).length ≤ ChordSymbol.maxLength) := by
  refine ⟨fun s => ⟨ChordSymbol.spells_of_read htrim, ?_⟩, fun p p' h h' => h.unique h', fun p _ => ?_, ?_,
    ?_⟩
  · rintro ⟨p, hp, rfl⟩
    exact ChordSymbol.read_of_spells hp line
  · exact ⟨Note.isNote_of_isSimple p.isSimple_root,
      fun b hb => Note.isNote_of_isSimple (p.isSimple_bass b hb)⟩
  · intro hno
    cases h : ChordSymbol.read token line with
    | ok s =>
      obtain ⟨p, hp, _⟩ := ChordSymbol.spells_of_read htrim h
      exact absurd ⟨p, hp⟩ hno
    | error e =>
      obtain ⟨reason, rfl⟩ := ChordSymbol.read_eq_error_names h
      exact ⟨reason, rfl⟩
  · intro hform hread
    obtain ⟨chord, hchord⟩ := Option.isSome_iff_exists.mp hread
    have hok := Chord.read?_eq_some_iff.mp hchord
    rw [← String.ofList_toList (s := ChordSymbol.capitalize token)] at hok
    obtain ⟨p, hp, _⟩ := ChordSymbol.exists_spelling hform hok
    rw [String.ofList_toList] at hp
    rw [← hp]
    exact p.length_text_le

/-- A small root letter is a capital in the spelling. The ligature of f and i, whose capital starts with
    a root letter, spells nothing. -/
theorem chord_token_with_small_letter :
    (∃ p, ChordSymbol.Spells "f#m7/A" p ∧ p.text = "F#m7/A" ∧ p.chord = ⟨"F#", "min7", some "A"⟩) ∧
      ¬ ∃ p, ChordSymbol.Spells "\ufb01" p := by
  constructor
  · have hread : ChordSymbol.read "f#m7/A" 1 = .ok ⟨"F#m7/A", ⟨"F#", "min7", some "A"⟩, 1⟩ := by
      decide +kernel
    obtain ⟨p, hp, hs⟩ := ((chord_token_iff_spelling "f#m7/A" 1 (by decide)).1 _).mp hread
    exact ⟨p, hp, (congrArg ChordSymbol.text hs).symm, (congrArg ChordSymbol.chord hs).symm⟩
  · rintro ⟨p, hp⟩
    have hread : ChordSymbol.read "\ufb01" 1 =
        .error (.diagnostic ((Problem.chordNotation "\ufb01").on 1)) := by decide +kernel
    have hok := ((chord_token_iff_spelling "\ufb01" 1 (by decide)).1 _).mpr ⟨p, hp, rfl⟩
    rw [hread] at hok
    cases hok

end SongSheet
