import SongSheet.Proofs.Line

/-!
# Two readers of one chord

A token is looked at by two readers. The notation of a song wants a root, a row of words and perhaps a bass
(`ChordSymbol.isNotation_iff`); the reader of chords takes the root off first, then inversions, then
what follows a slash (`Chord.read_written`). They cut at the same places: a row of words starts with
no accidental, so the root is the same for both, and a bass starts with no digit, so no slash of the notation is
an inversion.
-/

namespace SongSheet

/-! ## 1. Notes -/

namespace Note

theorem isSimple_iff {cs : List Char} :
    isSimple cs = true ↔ ∃ letter, isLetter letter = true ∧
      (cs = [letter] ∨ ∃ a, isAccidental a = true ∧ cs = [letter, a]) := by
  constructor
  · intro h
    unfold isSimple at h
    split at h
    · rename_i letter
      exact ⟨letter, h, Or.inl rfl⟩
    · rename_i letter a
      rw [Bool.and_eq_true] at h
      exact ⟨letter, h.1, Or.inr ⟨a, h.2, rfl⟩⟩
    · cases h
  · rintro ⟨letter, hl, rfl | ⟨a, ha, rfl⟩⟩
    · exact hl
    · simp [isSimple, hl, ha]

theorem eq_of_isAccidental {c : Char} (h : isAccidental c = true) : c = 'b' ∨ c = '#' := by
  simpa [isAccidental] using h

/-- What holds of every letter and of both accidentals holds throughout a simple note. -/
theorem forall_of_isSimple {p : Char → Bool} {cs : List Char} (h : isSimple cs = true)
    (hletters : letters.all p = true) (hflat : p 'b' = true) (hsharp : p '#' = true) :
    ∀ c ∈ cs, p c = true := by
  have hletter : ∀ c, isLetter c = true → p c = true := by
    intro c hc
    exact List.all_eq_true.mp hletters c (by simpa [isLetter] using hc)
  have haccidental : ∀ c, isAccidental c = true → p c = true := by
    intro c hc
    rcases eq_of_isAccidental hc with rfl | rfl
    · exact hflat
    · exact hsharp
  obtain ⟨letter, hl, rfl | ⟨a, ha, rfl⟩⟩ := isSimple_iff.mp h
  · simp [hletter letter hl]
  · simp [hletter letter hl, haccidental a ha]

theorem newline_not_mem_of_isSimple {cs : List Char} (h : isSimple cs = true) : '\n' ∉ cs := by
  intro hmem
  have hall := forall_of_isSimple (p := fun c => c != '\n') h (by decide) (by decide) (by decide)
  simpa using hall _ hmem

theorem dropFinalNewline_of_not_mem {cs : List Char} (h : '\n' ∉ cs) :
    Text.dropFinalNewline cs = cs := by
  unfold Text.dropFinalNewline
  rw [if_neg fun hlast => h (List.mem_of_getLast? hlast)]

/-- **A simple note is a note.** -/
theorem isNote_of_isSimple {cs : List Char} (h : isSimple cs = true) : isNote cs = true := by
  unfold isNote
  rw [dropFinalNewline_of_not_mem (newline_not_mem_of_isSimple h)]
  obtain ⟨letter, hl, rfl | ⟨a, ha, rfl⟩⟩ := isSimple_iff.mp h
  · exact hl
  · simp [hl, ha]

/-- **The root ends where no accidental follows.** -/
theorem rootLength_append {root rest : List Char} (hroot : isSimple root = true)
    (hrest : ∀ c ∈ rest.head?, isAccidental c = false) :
    rootLength (root ++ rest) = root.length := by
  have hflat : rest.head? ≠ some 'b' := fun h => Bool.noConfusion (hrest _ h)
  have hsharp : rest.head? ≠ some '#' := fun h => Bool.noConfusion (hrest _ h)
  obtain ⟨letter, _, rfl | ⟨a, ha, rfl⟩⟩ := isSimple_iff.mp hroot
  · rcases rest with _ | ⟨c, rest⟩
    · rfl
    · unfold rootLength
      split <;> simp_all
  · rcases eq_of_isAccidental ha with rfl | rfl <;> rcases rest with _ | ⟨c, rest⟩
    all_goals
      unfold rootLength
      split <;> simp_all

end Note

/-! ## 2. The reader of chords -/

namespace Chord

/-- The bass of a chord as written, with its slash. -/
def slashed : Option (List Char) → List Char
  | none => []
  | some bass => '/' :: bass

/-- The quality and the bass of a chord that is written without inversions. -/
structure IsTail (quality : List Char) (bass : Option (List Char)) : Prop where
  slash : '/' ∉ quality
  /-- An accidental would belong to the root. -/
  head : ∀ c ∈ quality.head?, Note.isAccidental c = false
  bass : ∀ b ∈ bass, Note.isSimple b = true

variable {root quality : List Char} {bass : Option (List Char)}

theorem IsTail.head?_append (h : IsTail quality bass) :
    ∀ c ∈ (quality ++ slashed bass).head?, Note.isAccidental c = false := by
  intro c hc
  rcases quality with _ | ⟨d, quality⟩
  · cases bass with
    | none => cases hc
    | some b =>
      cases hc
      decide
  · exact h.head c hc

theorem takeWhile_append_slashed (h : '/' ∉ quality) :
    (quality ++ slashed bass).takeWhile (· ≠ '/') = quality := by
  have hall : ∀ c ∈ quality, decide (c ≠ '/') = true := by
    intro c hc
    exact decide_eq_true fun e => h (e ▸ hc)
  rw [List.takeWhile_append_of_pos hall]
  cases bass <;> simp [slashed]

theorem afterSlash_append_slashed (h : '/' ∉ quality) :
    afterSlash (quality ++ slashed bass) = bass := by
  have hall : ∀ c ∈ quality, decide (c ≠ '/') = true := by
    intro c hc
    exact decide_eq_true fun e => h (e ▸ hc)
  unfold afterSlash
  rw [List.dropWhile_append_of_pos hall]
  cases bass <;> simp [slashed]

/-- A text is what stands before its first slash and what stands after it. -/
theorem takeWhile_append_afterSlash (cs : List Char) :
    cs.takeWhile (· ≠ '/') ++ slashed (afterSlash cs) = cs := by
  have hcut : cs.takeWhile (· ≠ '/') ++ cs.dropWhile (· ≠ '/') = cs := List.takeWhile_append_dropWhile
  unfold afterSlash
  cases hdrop : cs.dropWhile (· ≠ '/') with
  | nil =>
    rw [hdrop] at hcut
    exact hcut
  | cons c rest =>
    have hc := List.head?_dropWhile_not (· ≠ '/') cs
    rw [hdrop] at hc hcut
    have hslash : c = '/' := by simpa using hc
    rw [hslash] at hcut
    exact hcut

theorem firstInversion?_append {cs : List Char} (h : '/' ∉ cs) (rest : List Char) :
    firstInversion? (cs ++ rest) = firstInversion? rest := by
  induction cs with
  | nil => rfl
  | cons c cs ih =>
    have hc : c ≠ '/' := fun e => h (e ▸ List.mem_cons_self)
    have hcs : '/' ∉ cs := fun hmem => h (List.mem_cons_of_mem c hmem)
    rw [List.cons_append, firstInversion?, ih hcs]
    simp [hc]

/-- The slash of a bass is no inversion: a note follows it, and no digit. -/
theorem firstInversion?_slashed (h : ∀ b ∈ bass, Note.isSimple b = true) :
    firstInversion? (slashed bass) = none := by
  cases bass with
  | none => rfl
  | some b =>
    have hplain := Note.forall_of_isSimple (p := fun c => !c.isDigit && c != '/') (h b rfl)
      (by decide) (by decide) (by decide)
    have hslash : '/' ∉ b := fun hmem => by simpa using hplain _ hmem
    have hdigit : startsWithDigit b = false := by
      cases b with
      | nil => rfl
      | cons c rest =>
        have hc := hplain c List.mem_cons_self
        simp only [Bool.and_eq_true, Bool.not_eq_true'] at hc
        exact hc.1
    have hrest := firstInversion?_append hslash []
    rw [List.append_nil] at hrest
    rw [slashed, firstInversion?, hdigit, hrest]
    rfl

theorem dropInversions_eq_self {cs : List Char} (h : firstInversion? cs = none) :
    dropInversions false cs = cs := by
  induction cs with
  | nil => rfl
  | cons c cs ih =>
    unfold firstInversion? at h
    split at h
    · cases h
    · rename_i hslash
      rw [dropInversions, ih h]
      simp [hslash]

/-- **What the reader of chords makes of a root, a quality and a bass**: it finds them again. -/
theorem read_written (hroot : Note.isSimple root = true) (htail : IsTail quality bass) :
    Chord.read (String.ofList (root ++ (quality ++ slashed bass))) =
      if Quality.isName (String.ofList quality) then
        (shorthand (String.ofList quality)).map fun harte =>
          ⟨String.ofList root, harte, bass.map String.ofList⟩
      else .error (.unknownQuality (String.ofList quality)) := by
  have hinversion : firstInversion? (quality ++ slashed bass) = none := by
    rw [firstInversion?_append htail.slash, firstInversion?_slashed htail.bass]
  have hbass : bass.filter (fun b => !Note.isNote b) = none := by
    rw [Option.filter_eq_none_iff]
    intro b hb
    simp [Note.isNote_of_isSimple (htail.bass b hb)]
  unfold Chord.read
  simp only [String.toList_ofList, Note.rootLength_append hroot htail.head?_append, List.take_left,
    List.drop_left, Note.isNote_of_isSimple hroot, checkInversion, hinversion,
    dropInversions_eq_self hinversion, readTail, takeWhile_append_slashed htail.slash,
    afterSlash_append_slashed htail.slash, hbass]
  cases shorthand (String.ofList quality) <;> rfl

theorem read?_eq_some_iff {text : String} {chord : Chord} :
    Chord.read? text = some chord ↔ Chord.read text = .ok chord := by
  unfold Chord.read?
  cases Chord.read text <;> simp [Except.toOption]

end Chord

/-! ## 3. The notation -/

namespace ChordSymbol

open Chord (slashed IsTail afterSlash)

variable {words : List (List Char)}

/-- With no word under way nothing can be completed. -/
theorem isChain_nil (cs : List Char) : isChain words [] cs = false := by
  induction cs with
  | nil => rfl
  | cons c cs ih => exact ih

/-- A row of words starts with the first letter of one. -/
theorem isQuality_cons_eq_false {c : Char} (h : advance qualityWords [[]] c = []) (cs : List Char) :
    isQuality (c :: cs) = false := by
  rw [isQuality, isChain, h, isChain_nil]

theorem head_of_isQuality {quality : List Char} (h : isQuality quality = true) :
    ∀ c ∈ quality.head?, Note.isAccidental c = false := by
  intro c hc
  rcases quality with _ | ⟨d, rest⟩
  · cases hc
  · cases hc
    cases ha : Note.isAccidental c with
    | false => rfl
    | true =>
      have hstart : advance qualityWords [[]] c = [] := by
        rcases Note.eq_of_isAccidental ha with rfl | rfl <;> decide
      rw [isQuality_cons_eq_false hstart] at h
      cases h

theorem dropAccidental_append {root rest : List Char} {letter : Char}
    (hroot : Note.isSimple (letter :: root) = true)
    (hrest : ∀ c ∈ rest.head?, Note.isAccidental c = false) :
    dropAccidental (root ++ rest) = rest := by
  obtain ⟨_, _, h | ⟨a, ha, h⟩⟩ := Note.isSimple_iff.mp hroot
  · cases h
    cases rest with
    | nil => rfl
    | cons c rest =>
      have hc := hrest c rfl
      simp [dropAccidental, hc]
  · cases h
    simp [dropAccidental, ha]

/-- Every letter with what follows it is a simple root and what the notation goes on with. -/
theorem exists_root {letter : Char} (h : Note.isLetter letter = true) (rest : List Char) :
    ∃ root, Note.isSimple root = true ∧ letter :: rest = root ++ dropAccidental rest := by
  cases rest with
  | nil => exact ⟨[letter], h, rfl⟩
  | cons c rest =>
    cases hc : Note.isAccidental c with
    | true => exact ⟨[letter, c], by simp [Note.isSimple, h, hc], by simp [dropAccidental, hc]⟩
    | false => exact ⟨[letter], h, by simp [dropAccidental, hc]⟩

/-- **The notation is a root, a row of words and perhaps a bass.** -/
theorem isNotation_iff {cs : List Char} :
    isNotation cs = true ↔ ∃ root quality bass, Note.isSimple root = true ∧ IsTail quality bass ∧
      isQuality quality = true ∧ cs = root ++ (quality ++ slashed bass) := by
  constructor
  · intro h
    unfold isNotation at h
    split at h
    · cases h
    · rename_i letter rest
      rw [Bool.and_eq_true, Bool.and_eq_true] at h
      obtain ⟨⟨hletter, hquality⟩, hbass⟩ := h
      obtain ⟨root, hroot, hcs⟩ := exists_root hletter rest
      refine ⟨root, _, afterSlash (dropAccidental rest), hroot, ⟨?_, head_of_isQuality hquality, ?_⟩,
        hquality, ?_⟩
      · intro hmem
        simpa using List.mem_takeWhile_imp hmem
      · intro b hb
        rw [hb] at hbass
        exact hbass
      · rw [Chord.takeWhile_append_afterSlash]
        exact hcs
  · rintro ⟨root, quality, bass, hroot, htail, hquality, rfl⟩
    cases root with
    | nil => cases hroot
    | cons letter root =>
      have hletter : Note.isLetter letter = true := by
        obtain ⟨_, hl, h | ⟨a, _, h⟩⟩ := Note.isSimple_iff.mp hroot <;> cases h <;> exact hl
      have hbass : bass.all Note.isSimple = true := by
        cases bass with
        | none => rfl
        | some b => exact htail.bass b rfl
      rw [List.cons_append, isNotation, dropAccidental_append hroot htail.head?_append,
        Chord.takeWhile_append_slashed htail.slash, Chord.afterSlash_append_slashed htail.slash,
        hletter, hquality, hbass]
      rfl

end ChordSymbol

end SongSheet
