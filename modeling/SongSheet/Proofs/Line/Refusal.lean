import SongSheet.Proofs.Line
import SongSheet.Proofs.Text.Numeral

/-!
# Lines that are refused

A reader refuses a line in one of two ways. Either it has a problem to point out: then the
diagnostic is on that very line, under a code that belongs to the reader. Or a numeral on the line is
too long to be read: then the line holds more digits than the limit allows. There is one lemma for
each reader, and it says which.
-/

namespace SongSheet

open Text (isDigit isNumeral trimStart trimBoth dropFinalNewline digitLimit)

/-! ## 1. Two kinds of failure -/

namespace Failure

/-- The failure is a problem on this line, under one of these codes. -/
def IsProblem (e : Failure) (codes : List Code) (line : Int) : Prop :=
  ∃ p : Problem, p.code ∈ codes ∧ e = .diagnostic (p.on line)

/-- A number did not pass between value and digits. -/
def IsNumeral (e : Failure) : Prop := ∃ limit, e = .numeral limit

theorem IsProblem.of_raise {α : Type} {p : Problem} {codes : List Code} {line : Int} {e : Failure}
    (hp : p.code ∈ codes) (h : (raise p line : Except Failure α) = .error e) :
    e.IsProblem codes line := by
  cases h
  exact ⟨p, hp, rfl⟩

/-- The diagnostic of a problem has its line and one of its codes. -/
theorem IsProblem.diagnostic {d : Diagnostic} {codes : List Code} {line : Int}
    (h : (Failure.diagnostic d).IsProblem codes line) : d.line = some line ∧ d.code ∈ codes := by
  obtain ⟨p, hp, he⟩ := h
  cases he
  exact ⟨rfl, hp⟩

theorem IsProblem.mono {e : Failure} {codes codes' : List Code} {line : Int}
    (h : e.IsProblem codes line) (hc : codes ⊆ codes') : e.IsProblem codes' line := by
  obtain ⟨p, hp, he⟩ := h
  exact ⟨p, hc hp, he⟩

end Failure

/-- How many decimal digits stand on a line. -/
def Line.digitCount (l : Line) : Nat := l.text.toList.countP isDigit

/-- The bounds of the tempo can be written. -/
def Settings.IsWritable (settings : Settings) : Prop :=
  Text.isWritable settings.minBpm = true ∧ Text.isWritable settings.maxBpm = true

/-! ## 2. Numerals -/

theorem length_le_countP_isDigit {ds cs : List Char} (h : ds.Sublist cs)
    (hd : ∀ c ∈ ds, isDigit c = true) : ds.length ≤ cs.countP isDigit := by
  calc ds.length = ds.countP isDigit := (List.countP_eq_length.mpr hd).symm
    _ ≤ cs.countP isDigit := h.countP_le

theorem isDigit_of_isNumeral {ds : List Char} (h : isNumeral ds = true) :
    ∀ c ∈ ds, isDigit c = true := by
  simp only [isNumeral, Bool.and_eq_true, List.all_eq_true] at h
  exact h.2

/-- Only a numeral that is too long is not read. -/
theorem readNumber_eq_error {ds : List Char} {e : Failure} (h : readNumber ds = .error e) :
    e.IsNumeral ∧ digitLimit < ds.length := by
  unfold readNumber Text.readNumeral at h
  split at h
  · cases h
  · rename_i limit hlimit
    split at hlimit
    · cases hlimit
    · rename_i hlen
      cases h
      exact ⟨⟨limit, rfl⟩, by omega⟩

theorem readNumber_eq_ok {ds : List Char} {n : Int} (h : readNumber ds = .ok n) :
    n = Text.numeralValue ds := by
  unfold readNumber Text.readNumeral at h
  split at h
  · rename_i m hm
    split at hm
    · cases hm
      cases h
      rfl
    · cases hm
  · cases h

theorem readNumber_of_length_le {ds : List Char} (h : ds.length ≤ digitLimit) :
    readNumber ds = .ok (Text.numeralValue ds) := by
  rw [readNumber, Text.readNumeral, if_pos h]

theorem readNumber_of_lt_length {ds : List Char} (h : digitLimit < ds.length) :
    readNumber ds = .error (.numeral (.reading ds.length)) := by
  rw [readNumber, Text.readNumeral, if_neg (Nat.not_le.mpr h)]

/-- A number that can be written is read back. -/
theorem readNumber_decimal {n : Nat} (h : Text.isWritable n = true) :
    readNumber (Text.decimal n).toList = .ok n := by
  rw [readNumber, Text.readNumeral_decimal h]

theorem dropFinalNewline_sublist (cs : List Char) : (dropFinalNewline cs).Sublist cs := by
  unfold dropFinalNewline
  split
  · exact List.dropLast_sublist cs
  · exact List.Sublist.refl cs

theorem trimBoth_sublist (cs : List Char) : (trimBoth cs).Sublist cs :=
  (List.rdropWhile_prefix Text.isBlank _).sublist.trans (List.dropWhile_sublist Text.isBlank)

/-- Digits found on the trimmed line stand on the line. -/
theorem Line.length_le_digitCount {l : Line} {ds : List Char} (h : ds.Sublist l.trimmed.toList)
    (hd : ∀ c ∈ ds, isDigit c = true) : ds.length ≤ l.digitCount := by
  rw [Line.toList_trimmed] at h
  exact length_le_countP_isDigit (h.trans (trimBoth_sublist _)) hd

/-! ## 3. Lyric lines -/

/-- The digits of a span stand on the line. -/
theorem Lyric.length_digits_le {l : Line} {text digits : List Char}
    (h : Lyric.parts? l.trimmed.toList = some (text, digits)) : digits.length ≤ l.digitCount := by
  obtain ⟨before, hcut, _, _⟩ := Lyric.parts?_eq_some h
  have hsub : digits.Sublist l.trimmed.toList := by
    rw [hcut.eq]
    exact (List.sublist_cons_self _ _).trans (List.sublist_append_right _ _)
  exact Line.length_le_digitCount hsub (isDigit_of_isNumeral hcut.numeral)

theorem Lyric.read_eq_error {l : Line} {e : Failure} (h : Lyric.read l = .error e) :
    (e.IsNumeral ∧ digitLimit < l.digitCount) ∨ e.IsProblem [.missingLyricSpan] l.number := by
  unfold Lyric.read at h
  split at h
  · exact Or.inr (.of_raise (by simp [Problem.code]) h)
  · rename_i text digits hparts
    split at h
    · rename_i e' hnumber
      cases h
      obtain ⟨he, hlen⟩ := readNumber_eq_error hnumber
      exact Or.inl ⟨he, Nat.lt_of_lt_of_le hlen (Lyric.length_digits_le hparts)⟩
    · split at h
      · exact Or.inr (.of_raise (by simp [Problem.code]) h)
      · cases h

/-! ## 4. Chord lines -/

theorem ChordSymbol.read_eq_error {token : String} {line : Int} {e : Failure}
    (h : ChordSymbol.read token line = .error e) : e.IsProblem [.invalidChordNotation] line := by
  unfold ChordSymbol.read at h
  dsimp only at h
  split at h
  · exact .of_raise (by simp [Problem.code]) h
  · split at h
    · exact .of_raise (by simp [Problem.code]) h
    · split at h
      · cases h
      · exact .of_raise (by simp [Problem.code]) h

theorem Measure.readSymbols_eq_error {line : Int} {e : Failure} : ∀ {ts : List String},
    readSymbols line ts = .error e → e.IsProblem [.invalidChordNotation] line
  | t :: ts, h => by
      unfold readSymbols at h
      split at h
      · rename_i e' he
        cases h
        exact ChordSymbol.read_eq_error he
      · split at h
        · rename_i e' he
          cases h
          exact readSymbols_eq_error he
        · cases h

/-- A chord line holds no numeral that could be too long: what it holds is at most a chord. -/
theorem Measure.read_eq_error {l : Line} {e : Failure} (h : Measure.read l = .error e) :
    e.IsProblem [.emptyMeasureLine, .invalidChordNotation] l.number := by
  unfold Measure.read at h
  dsimp only at h
  split at h
  · exact .of_raise (by simp [Problem.code]) h
  · split at h
    · exact .of_raise (by simp [Problem.code]) h
    · split at h
      · cases h
      · rename_i e' he
        cases h
        exact (readSymbols_eq_error he).mono (by decide)

/-! ## 5. Directive lines -/

namespace Directive

variable {settings : Settings} {value : String} {line : Int} {e : Failure}

theorem isProblem_of_refuse {α : Type} {topic : Topic} {expected : String}
    (h : (refuse topic value expected line : Except Failure α) = .error e) :
    e.IsProblem [.invalidDirectiveValue] line :=
  .of_raise (by simp [Problem.code]) h

theorem readTempo_eq_error (h : readTempo settings value line = .error e) :
    (e.IsNumeral ∧ (digitLimit < value.toList.countP isDigit ∨ ¬ settings.IsWritable)) ∨
      e.IsProblem [.invalidDirectiveValue] line := by
  unfold readTempo at h
  dsimp only at h
  split at h
  · rename_i hbounds
    cases h
    refine Or.inl ⟨⟨_, rfl⟩, Or.inr fun hw => ?_⟩
    rw [hw.1, hw.2] at hbounds
    cases hbounds
  · split at h
    · exact Or.inr (isProblem_of_refuse h)
    · rename_i hnum
      rw [Bool.not_eq_true', Bool.not_eq_false] at hnum
      split at h
      · rename_i e' hnumber
        cases h
        obtain ⟨he, hlen⟩ := readNumber_eq_error hnumber
        have hcount := length_le_countP_isDigit (dropFinalNewline_sublist value.toList)
          (isDigit_of_isNumeral hnum)
        exact Or.inl ⟨he, Or.inl (by omega)⟩
      · split at h
        · cases h
        · exact Or.inr (isProblem_of_refuse h)

theorem readKey_eq_error (h : readKey value line = .error e) :
    e.IsProblem [.invalidDirectiveValue] line := by
  unfold readKey at h
  dsimp only at h
  split at h
  · split at h
    · cases h
    · exact isProblem_of_refuse h
  · split at h
    · split at h
      · cases h
      · exact isProblem_of_refuse h
    · exact isProblem_of_refuse h
  · exact isProblem_of_refuse h

/-- **A text cut as a time signature**: digits, a slash with blanks around it, and digits. -/
inductive IsMeter : List Char → List Char → List Char → Prop where
  | cut {beats before behind unit : List Char} (hbeats : isNumeral beats = true)
      (hbefore : ∀ c ∈ before, Text.isBlank c = true)
      (hbehind : ∀ c ∈ behind, Text.isBlank c = true) (hunit : isNumeral unit = true) :
      IsMeter (beats ++ (before ++ '/' :: (behind ++ unit))) beats unit

/-- Both numerals of a time signature stand in its text. -/
theorem IsMeter.infixes {cs beats unit : List Char} (h : IsMeter cs beats unit) :
    beats <:+: cs ∧ unit <:+: cs := by
  cases h with
  | @cut beats before behind unit =>
    refine ⟨(List.prefix_append beats _).isInfix, ?_⟩
    exact ⟨beats ++ (before ++ '/' :: behind), [], by simp⟩

theorem IsMeter.numerals {cs beats unit : List Char} (h : IsMeter cs beats unit) :
    isNumeral beats = true ∧ isNumeral unit = true := by
  cases h with
  | cut hbeats _ _ hunit => exact ⟨hbeats, hunit⟩

/-- Whatever is found is a time signature. -/
theorem isMeter_of_meterParts? {cs beats unit : List Char} (h : meterParts? cs = some (beats, unit)) :
    IsMeter cs beats unit := by
  unfold meterParts? at h
  dsimp only at h
  split at h
  · rename_i rest hrest
    split at h
    · rename_i hcond
      cases h
      rw [Bool.and_eq_true] at hcond
      have hbeats : isNumeral (cs.takeWhile isDigit) = true := by
        rw [isNumeral, hcond.1, List.all_takeWhile]
        rfl
      have hbehind : rest = rest.takeWhile Text.isBlank ++ trimStart rest :=
        List.takeWhile_append_dropWhile.symm
      have hbefore : cs.dropWhile isDigit =
          (cs.dropWhile isDigit).takeWhile Text.isBlank ++ '/' :: rest := by
        rw [← hrest]
        exact List.takeWhile_append_dropWhile.symm
      have hcs : cs = cs.takeWhile isDigit ++ ((cs.dropWhile isDigit).takeWhile Text.isBlank ++
          '/' :: (rest.takeWhile Text.isBlank ++ trimStart rest)) := by
        rw [← hbehind, ← hbefore, List.takeWhile_append_dropWhile]
      have hcut := IsMeter.cut hbeats
        (List.all_eq_true.mp (List.all_takeWhile (l := cs.dropWhile isDigit)))
        (List.all_eq_true.mp (List.all_takeWhile (l := rest))) hcond.2
      rwa [← hcs] at hcut
    · cases h
  · cases h

theorem readMeter_eq_error (h : readMeter value line = .error e) :
    (e.IsNumeral ∧ digitLimit < value.toList.countP isDigit) ∨
      e.IsProblem [.invalidDirectiveValue] line := by
  unfold readMeter at h
  dsimp only at h
  split at h
  · exact Or.inr (isProblem_of_refuse h)
  · rename_i beats unit hparts
    have hmeter := isMeter_of_meterParts? hparts
    obtain ⟨hbeats, hunit⟩ := hmeter.infixes
    obtain ⟨hbeats', hunit'⟩ := hmeter.numerals
    have hvalue := dropFinalNewline_sublist value.toList
    split at h
    · rename_i e' hnumber
      cases h
      obtain ⟨he, hlen⟩ := readNumber_eq_error hnumber
      have hcount := length_le_countP_isDigit (hbeats.sublist.trans hvalue)
        (isDigit_of_isNumeral hbeats')
      exact Or.inl ⟨he, by omega⟩
    · split at h
      · rename_i e' hnumber
        cases h
        obtain ⟨he, hlen⟩ := readNumber_eq_error hnumber
        have hcount := length_le_countP_isDigit (hunit.sublist.trans hvalue)
          (isDigit_of_isNumeral hunit')
        exact Or.inl ⟨he, by omega⟩
      · split at h
        · cases h
        · exact Or.inr (isProblem_of_refuse h)

theorem map_eq_error {α β : Type} {x : Except Failure α} {f : α → β} (h : x.map f = .error e) :
    x = .error e := by
  cases x with
  | error e' => cases h; rfl
  | ok a => cases h

theorem readValue_eq_error {topic : Topic} (h : readValue settings topic value line = .error e) :
    (e.IsNumeral ∧ (digitLimit < value.toList.countP isDigit ∨ ¬ settings.IsWritable)) ∨
      e.IsProblem [.invalidDirectiveValue] line := by
  unfold readValue at h
  cases topic with
  | tempo => exact readTempo_eq_error (map_eq_error h)
  | tonality => exact Or.inr (readKey_eq_error (map_eq_error h))
  | meter =>
    rcases readMeter_eq_error (map_eq_error h) with ⟨he, hlen⟩ | he
    · exact Or.inl ⟨he, Or.inl hlen⟩
    · exact Or.inr he

/-- The value of a directive stands on its line. -/
theorem value_sublist {cs key value : List Char} (h : parts? cs = some (key, value)) :
    value.Sublist cs := by
  unfold parts? at h
  split at h
  · dsimp only at h
    split at h
    · cases h
      have hrest : ∀ (first : Char) (rest : List Char), rest.Sublist ('@' :: first :: rest) :=
        fun first rest => (List.sublist_cons_self _ _).trans (List.sublist_cons_self _ _)
      exact ((List.dropWhile_sublist _).trans (List.dropWhile_sublist _)).trans (hrest _ _)
    · cases h
  · cases h

theorem read_eq_error {l : Line} (h : Directive.read settings l = .error e) :
    (e.IsNumeral ∧ (digitLimit < l.digitCount ∨ ¬ settings.IsWritable)) ∨
      e.IsProblem [.invalidDirectiveValue, .unexpectedToken] l.number := by
  unfold Directive.read at h
  split at h
  · exact Or.inr (.of_raise (by simp [Problem.code]) h)
  · rename_i key value hparts
    dsimp only at h
    split at h
    · cases h
    · rcases readValue_eq_error (map_eq_error h) with ⟨he, hlen | hw⟩ | he
      · have hsub := (value_sublist hparts).countP_le (p := isDigit)
        have htrim := (trimBoth_sublist l.text.toList).countP_le (p := isDigit)
        rw [String.toList_ofList] at hlen
        rw [Line.toList_trimmed] at hsub
        exact Or.inl ⟨he, Or.inl (by rw [Line.digitCount]; omega)⟩
      · exact Or.inl ⟨he, Or.inr hw⟩
      · exact Or.inr (he.mono (by decide))

end Directive

end SongSheet
