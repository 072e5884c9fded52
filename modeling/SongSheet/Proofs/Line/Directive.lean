import SongSheet.Proofs.Chord.Notation
import SongSheet.Proofs.Line.Refusal

/-!
# How a directive is written

A directive line is an at sign, a key and, behind blanks, a value (`Directive.IsCut`). Where the key ends
is settled by the characters alone: it goes on as long as they are word characters or hyphens, and the next one
has to be a blank.

What the value of one of the three topics says is settled by its text (`Directive.Says`): digits may be of
any script and have zeros in front, a note may have a small letter, and blanks may stand around the slash of
a time signature. A text that says a value is read as this value, and no other text is read at all
(`Directive.read_eq_ok_iff_of_topic`). Of the many texts that say a value, one is the way it is written
(`Directive.Writes`); what is written is read back (`Directive.Writes.read_eq`).
-/

namespace SongSheet

open Text (isBlank isDigit isNumeral trimStart trimEnd trimBoth numeralValue digitLimit decimal isWritable)

namespace Directive

/-! ## 1. The cut -/

/-- **A text cut as a directive**: an at sign, a key, and what stands behind it. The key is an ASCII
    letter and as many word characters and hyphens as follow it; then the text ends or goes on with a
    blank. -/
structure IsCut (cs : List Char) (first : Char) (run after : List Char) : Prop where
  eq : cs = '@' :: first :: (run ++ after)
  letter : first.isAlpha = true
  keyChars : ∀ c ∈ run, isKeyChar c = true
  maximal : ∀ c, after.head? = some c → isKeyChar c = false
  ends : ∀ c, after.head? = some c → isBlank c = true

variable {cs run after : List Char} {first : Char}

/-- Where characters of a kind stop, the text is cut in two. -/
theorem cut_where_stops {p : Char → Bool} {body rest : List Char} (hbody : ∀ c ∈ body, p c = true)
    (hrest : ∀ c, rest.head? = some c → p c = false) :
    (body ++ rest).takeWhile p = body ∧ (body ++ rest).dropWhile p = rest := by
  rw [List.takeWhile_append_of_pos hbody, List.dropWhile_append_of_pos hbody]
  cases rest with
  | nil => simp
  | cons c rest => simp [hrest c rfl]

theorem IsCut.newline_not_mem (h : IsCut cs first run after) (hn : '\n' ∉ cs) : '\n' ∉ after := by
  intro hmem
  apply hn
  rw [h.eq]
  simp [hmem]

theorem IsCut.parts?_eq (h : IsCut cs first run after) (hn : '\n' ∉ cs) :
    parts? cs = some (first :: run, trimStart after) := by
  obtain ⟨htake, hdrop⟩ := cut_where_stops h.keyChars h.maximal
  have hends : after.head?.all isBlank = true := by
    cases hhead : after.head? with
    | none => rfl
    | some c => exact h.ends c hhead
  have hnewline : '\n' ∉ trimStart after :=
    fun hmem => h.newline_not_mem hn ((List.dropWhile_sublist _).subset hmem)
  rw [h.eq, parts?]
  simp [hdrop, htake, hends, hnewline, h.letter]

theorem exists_isCut {key value : List Char} (h : parts? cs = some (key, value)) :
    ∃ first run after, IsCut cs first run after := by
  unfold parts? at h
  split at h
  · rename_i first rest
    dsimp only at h
    split at h
    · rename_i hcond
      rw [Bool.and_eq_true, Bool.and_eq_true] at hcond
      obtain ⟨⟨hletter, hends⟩, _⟩ := hcond
      refine ⟨first, rest.takeWhile isKeyChar, rest.dropWhile isKeyChar, ?_, hletter, ?_, ?_, ?_⟩
      · rw [List.takeWhile_append_dropWhile]
      · exact List.all_eq_true.mp List.all_takeWhile
      · intro c hc
        have hnot := List.head?_dropWhile_not isKeyChar rest
        rw [hc] at hnot
        simpa using hnot
      · intro c hc
        rw [hc] at hends
        exact hends
    · cases h
  · cases h

/-- The value starts where the blanks behind the key end, and is trimmed at its end with the line. -/
theorem IsCut.trimStart_eq {l : Line} (h : IsCut l.trimmed.toList first run after) :
    trimStart after = trimBoth after := by
  refine (Text.trimEnd_eq_self fun c hc => ?_).symm
  have hsuffix : trimStart after <:+ l.trimmed.toList := by
    rw [h.eq]
    exact (List.dropWhile_suffix _).trans ⟨'@' :: first :: run, by simp⟩
  obtain ⟨front, hfront⟩ := hsuffix
  have hlast : l.trimmed.toList.getLast? = some c := by
    rw [← hfront, List.getLast?_append, hc]
    rfl
  rw [Line.toList_trimmed] at hlast
  exact Text.isBlank_getLast_trimEnd hlast

/-! ## 2. Reading -/

variable {settings : Settings} {l : Line}

/-- A key that names no topic is kept with its value. -/
theorem read_of_no_topic (h : IsCut l.trimmed.toList first run after) (hn : '\n' ∉ l.text.toList)
    (hkey : Topic.ofKey? (Text.lower (String.ofList (first :: run))) = none) :
    Directive.read settings l = .ok ⟨Text.lower (String.ofList (first :: run)),
      .text (String.ofList (trimBoth after)), l.number, false⟩ := by
  have hparts := h.parts?_eq (Line.newline_not_mem_trimmed hn)
  rw [h.trimStart_eq] at hparts
  simp only [Directive.read, hparts, hkey]

/-- A key that names a topic settles how the value is read. -/
theorem read_of_some_topic (h : IsCut l.trimmed.toList first run after) (hn : '\n' ∉ l.text.toList)
    {topic : Topic} (hkey : Topic.ofKey? (Text.lower (String.ofList (first :: run))) = some topic) :
    Directive.read settings l =
      (readValue settings topic (String.ofList (trimBoth after)) l.number).map
        fun v => ⟨topic.key, v, l.number, true⟩ := by
  have hparts := h.parts?_eq (Line.newline_not_mem_trimmed hn)
  rw [h.trimStart_eq] at hparts
  simp only [Directive.read, hparts, hkey, Topic.key_of_ofKey? hkey]

theorem read_of_not_isCut (h : ¬ ∃ first run after, IsCut l.trimmed.toList first run after) :
    Directive.read settings l = Failure.raise (.malformedDirective l.trimmed) l.number := by
  unfold Directive.read
  cases hparts : parts? l.trimmed.toList with
  | none => rfl
  | some parts => exact absurd (exists_isCut hparts) h

/-! ## 3. Values -/

/-- **What a text says as a value.** Digits of any scripts say the tempo they stand for, within the bounds; a
    letter of either case, perhaps with an accidental, the note with this letter as a capital; digits, a
    slash with blanks around it and digits the time signature of these two numbers, neither zero. There are
    no more digits than can be read. -/
inductive Says (settings : Settings) : Topic → List Char → Value → Prop where
  | tempo {digits : List Char} (hnum : isNumeral digits = true) (hlen : digits.length ≤ digitLimit)
      (hlow : settings.minBpm ≤ numeralValue digits) (hhigh : numeralValue digits ≤ settings.maxBpm) :
      Says settings .tempo digits (.number (numeralValue digits))
  | tonality {letter capital : Char} {accidental : List Char}
      (hcapital : Note.isLetter capital = true)
      (hletter : letter = capital ∨ letter = capital.toLower)
      (haccidental : accidental ∈ [[], ['#'], ['b']]) :
      Says settings .tonality (letter :: accidental) (.text (String.ofList (capital :: accidental)))
  | meter {cs beats unit : List Char} (hcut : IsMeter cs beats unit)
      (hlbeats : beats.length ≤ digitLimit) (hlunit : unit.length ≤ digitLimit)
      (hbeats : 1 ≤ numeralValue beats) (hunit : 1 ≤ numeralValue unit) :
      Says settings .meter cs (.meter (numeralValue beats) (numeralValue unit))

/-- **What reading a value comes to**: the value its text says, a problem with it, or a run of digits in it
    that is too long to be read. -/
inductive Outcome (settings : Settings) (topic : Topic) (value : List Char) (line : Int) :
    Except Failure Value → Prop where
  | value {v : Value} (h : Says settings topic value v) :
      Outcome settings topic value line (.ok v)
  | refused {e : Failure} (h : e.IsProblem [.invalidDirectiveValue] line) :
      Outcome settings topic value line (.error e)
  | long {digits : List Char} (hinside : digits <:+: value) (hnum : isNumeral digits = true)
      (hlong : digitLimit < digits.length) :
      Outcome settings topic value line (.error (.numeral (.reading digits.length)))

variable {value : String} {line : Int}

theorem outcome_of_refuse {topic topic' : Topic} {value' expected : String} {cs : List Char} :
    Outcome settings topic cs line (refuse topic' value' expected line) :=
  .refused ⟨_, List.mem_singleton.mpr rfl, rfl⟩

theorem outcome_tempo (hw : settings.IsWritable) (hn : '\n' ∉ value.toList) :
    Outcome settings .tempo value.toList line (readValue settings .tempo value line) := by
  unfold readValue readTempo
  rw [Note.dropFinalNewline_of_not_mem hn, hw.1, hw.2]
  dsimp only
  rw [if_neg (by decide)]
  by_cases hnum : isNumeral value.toList = true
  · rw [hnum, if_neg (by decide)]
    by_cases hlen : digitLimit < value.toList.length
    · rw [readNumber_of_lt_length hlen]
      exact .long (List.infix_refl _) hnum hlen
    · rw [readNumber_of_length_le (by omega)]
      dsimp only
      split
      · rename_i hrange
        exact .value (.tempo hnum (by omega) hrange.1 hrange.2)
      · exact outcome_of_refuse
  · rw [if_pos (by simpa using hnum)]
    exact outcome_of_refuse

/-- The letter of a key is a letter of a note or its small form. -/
theorem keyLetter?_eq_some_iff {letter capital : Char} : keyLetter? letter = some capital ↔
    Note.isLetter capital = true ∧ (letter = capital ∨ letter = capital.toLower) := by
  constructor
  · intro h
    have hall : ("ABCDEFGabcdefg".toList.all fun c => Note.isLetter c.toUpper &&
        (c == c.toUpper || c == c.toUpper.toLower)) = true := by decide
    unfold keyLetter? at h
    split at h
    · rename_i hc
      cases h
      simpa using List.all_eq_true.mp hall letter (by simpa using hc)
    · cases h
  · intro h
    have hall : (Note.letters.all fun c => keyLetter? c == some c &&
        keyLetter? c.toLower == some c) = true := by decide
    have hc : capital ∈ Note.letters := by simpa [Note.isLetter] using h.1
    have hboth := List.all_eq_true.mp hall capital hc
    rw [Bool.and_eq_true, beq_iff_eq, beq_iff_eq] at hboth
    rcases h.2 with rfl | rfl
    · exact hboth.1
    · exact hboth.2

theorem outcome_tonality (hn : '\n' ∉ value.toList) :
    Outcome settings .tonality value.toList line (readValue settings .tonality value line) := by
  unfold readValue readKey
  rw [Note.dropFinalNewline_of_not_mem hn]
  dsimp only
  split
  · rename_i letter hcs
    split
    · rename_i capital hcapital
      obtain ⟨hletter, hcase⟩ := keyLetter?_eq_some_iff.mp hcapital
      rw [hcs]
      exact .value (.tonality hletter hcase List.mem_cons_self)
    · exact outcome_of_refuse
  · rename_i letter accidental hcs
    split
    · rename_i capital hcapital
      obtain ⟨hletter, hcase⟩ := keyLetter?_eq_some_iff.mp hcapital
      split
      · rename_i haccidental
        rw [hcs]
        refine .value (.tonality hletter hcase ?_)
        simpa using haccidental
      · exact outcome_of_refuse
    · exact outcome_of_refuse
  · exact outcome_of_refuse

theorem outcome_meter (hn : '\n' ∉ value.toList) :
    Outcome settings .meter value.toList line (readValue settings .meter value line) := by
  unfold readValue readMeter
  rw [Note.dropFinalNewline_of_not_mem hn]
  dsimp only
  split
  · exact outcome_of_refuse
  · rename_i beats unit hparts
    have hcut := isMeter_of_meterParts? hparts
    by_cases hlbeats : digitLimit < beats.length
    · rw [readNumber_of_lt_length hlbeats]
      exact .long hcut.infixes.1 hcut.numerals.1 hlbeats
    · rw [readNumber_of_length_le (by omega)]
      by_cases hlunit : digitLimit < unit.length
      · rw [readNumber_of_lt_length hlunit]
        exact .long hcut.infixes.2 hcut.numerals.2 hlunit
      · rw [readNumber_of_length_le (by omega)]
        dsimp only
        split
        · exact .value (.meter hcut (by omega) (by omega) (by omega) (by omega))
        · exact outcome_of_refuse

/-- **Every value that is read is said by its text.** -/
theorem outcome_readValue (hw : settings.IsWritable) (topic : Topic) {value : String}
    (hn : '\n' ∉ value.toList) (line : Int) :
    Outcome settings topic value.toList line (readValue settings topic value line) := by
  cases topic with
  | tempo => exact outcome_tempo hw hn
  | tonality => exact outcome_tonality hn
  | meter => exact outcome_meter hn

/-- Digits are where a time signature is cut: no blank and no slash is one. -/
theorem IsMeter.meterParts?_eq {cs beats unit : List Char} (h : IsMeter cs beats unit) :
    meterParts? cs = some (beats, unit) := by
  cases h with
  | @cut beats before behind unit hbeats hbefore hbehind hunit =>
    have hstops : ∀ c, (before ++ '/' :: (behind ++ unit)).head? = some c → isDigit c = false := by
      intro c hc
      cases before with
      | nil =>
        cases hc
        decide
      | cons b before =>
        cases hc
        rw [Bool.eq_false_iff]
        intro hdigit
        have hblank := hbefore c List.mem_cons_self
        rw [Text.isBlank_of_isDigit hdigit] at hblank
        cases hblank
    obtain ⟨htake, hdrop⟩ := cut_where_stops (isDigit_of_isNumeral hbeats) hstops
    have hslash : trimStart (before ++ '/' :: (behind ++ unit)) = '/' :: (behind ++ unit) := by
      refine (cut_where_stops hbefore fun c hc => ?_).2
      cases hc
      decide
    have hvisible : trimStart (behind ++ unit) = unit := by
      refine (cut_where_stops hbehind fun c hc => ?_).2
      exact Text.isBlank_of_isDigit (isDigit_of_isNumeral hunit c (List.mem_of_head? hc))
    have hne : beats.isEmpty = false := by
      rw [isNumeral, Bool.and_eq_true, Bool.not_eq_true'] at hbeats
      exact hbeats.1
    unfold meterParts?
    rw [htake, hdrop, hslash]
    show (if !beats.isEmpty && isNumeral (trimStart (behind ++ unit)) then
      some (beats, trimStart (behind ++ unit)) else none) = some (beats, unit)
    rw [hvisible, hne, hunit]
    rfl

/-- **A text is read as what it says.** -/
theorem Says.readValue_eq {topic : Topic} {v : Value} (h : Says settings topic value.toList v)
    (hw : settings.IsWritable) (hn : '\n' ∉ value.toList) (line : Int) :
    readValue settings topic value line = .ok v := by
  generalize hcs : value.toList = cs at h hn
  cases h with
  | tempo hnum hlen hlow hhigh =>
    unfold readValue readTempo
    rw [hcs, Note.dropFinalNewline_of_not_mem hn, hw.1, hw.2]
    dsimp only
    rw [hnum, readNumber_of_length_le hlen]
    simp [hlow, hhigh, Except.map]
  | tonality hcapital hletter haccidental =>
    have hkey := keyLetter?_eq_some_iff.mpr ⟨hcapital, hletter⟩
    unfold readValue readKey
    rw [hcs, Note.dropFinalNewline_of_not_mem hn]
    simp only [List.mem_cons, List.not_mem_nil, or_false] at haccidental
    rcases haccidental with rfl | rfl | rfl <;> simp [hkey, Except.map]
  | meter hcut hlbeats hlunit hbeats hunit =>
    unfold readValue readMeter
    rw [hcs, Note.dropFinalNewline_of_not_mem hn, hcut.meterParts?_eq]
    dsimp only
    rw [readNumber_of_length_le hlbeats, readNumber_of_length_le hlunit]
    dsimp only
    rw [if_pos (by omega)]
    rfl

/-! ## 4. Writing -/

/-- **A value and how it is written**: a tempo within the bounds in decimal digits, a simple note as it
    is, and a time signature as two positive numbers with a slash between them. -/
inductive Writes (settings : Settings) : Topic → Value → String → Prop where
  | tempo {bpm : Int} (hlow : settings.minBpm ≤ bpm) (hhigh : bpm ≤ settings.maxBpm) :
      Writes settings .tempo (.number bpm) (decimal bpm)
  | tonality {note : String} (hnote : Note.isSimple note.toList = true) :
      Writes settings .tonality (.text note) note
  | meter {beats unit : Int} (hbeats : 1 ≤ beats) (hunit : 1 ≤ unit)
      (hwbeats : isWritable beats = true) (hwunit : isWritable unit = true) :
      Writes settings .meter (.meter beats unit) (decimal beats ++ "/" ++ decimal unit)

/-- **What a text says can be written.** -/
theorem Says.exists_writes {topic : Topic} {cs : List Char} {v : Value}
    (h : Says settings topic cs v) : ∃ text, Writes settings topic v text := by
  cases h with
  | tempo _ _ hlow hhigh => exact ⟨_, .tempo hlow hhigh⟩
  | tonality hcapital _ haccidental =>
    refine ⟨_, .tonality ?_⟩
    rw [String.toList_ofList]
    simp only [List.mem_cons, List.not_mem_nil, or_false] at haccidental
    rcases haccidental with rfl | rfl | rfl <;> simp [Note.isSimple, Note.isAccidental, hcapital]
  | meter _ hlbeats hlunit hbeats hunit =>
    exact ⟨_, .meter (by omega) (by omega)
      (Text.isWritable_of_lt (Text.numeralValue_lt _) hlbeats)
      (Text.isWritable_of_lt (Text.numeralValue_lt _) hlunit)⟩

/-- **What is written says the value.** -/
theorem Writes.isSaid {topic : Topic} {v : Value} {text : String} (h : Writes settings topic v text)
    (hw : settings.IsWritable) : Says settings topic text.toList v := by
  cases h with
  | @tempo bpm hlow hhigh =>
    have hpos := settings.minBpm_pos
    have hwbpm := Text.isWritable_of_le hw.2 (by omega) hhigh
    obtain ⟨n, rfl⟩ := Int.eq_ofNat_of_zero_le (a := bpm) (by omega)
    have hn := Text.numeralValue_decimal n
    have hsaid : Says settings .tempo (decimal n).toList (.number (numeralValue (decimal n).toList)) :=
      .tempo (Text.isNumeral_decimal n) (Text.length_decimal_le hwbpm) (by omega) (by omega)
    rwa [hn] at hsaid
  | tonality hnote =>
    obtain ⟨letter, hletter, hcs | ⟨a, ha, hcs⟩⟩ := Note.isSimple_iff.mp hnote
    · have hsaid : Says settings .tonality [letter] (.text (String.ofList [letter])) :=
        .tonality hletter (Or.inl rfl) List.mem_cons_self
      rwa [← hcs, String.ofList_toList] at hsaid
    · have hsaid : Says settings .tonality [letter, a] (.text (String.ofList [letter, a])) :=
        .tonality hletter (Or.inl rfl) (by simpa [or_comm] using Note.eq_of_isAccidental ha)
      rwa [← hcs, String.ofList_toList] at hsaid
  | @meter beats unit hbeats hunit hwbeats hwunit =>
    obtain ⟨n, rfl⟩ := Int.eq_ofNat_of_zero_le (Int.le_trans (by decide) hbeats)
    obtain ⟨m, rfl⟩ := Int.eq_ofNat_of_zero_le (Int.le_trans (by decide) hunit)
    have hcs : (decimal n ++ "/" ++ decimal m).toList =
        (decimal n).toList ++ ([] ++ '/' :: ([] ++ (decimal m).toList)) := by simp
    have hcut : IsMeter (decimal n ++ "/" ++ decimal m).toList (decimal n).toList
        (decimal m).toList := by
      rw [hcs]
      exact .cut (Text.isNumeral_decimal n) (fun c hc => absurd hc List.not_mem_nil)
        (fun c hc => absurd hc List.not_mem_nil) (Text.isNumeral_decimal m)
    have hn := Text.numeralValue_decimal n
    have hm := Text.numeralValue_decimal m
    have hsaid : Says settings .meter (decimal n ++ "/" ++ decimal m).toList
        (.meter (numeralValue (decimal n).toList) (numeralValue (decimal m).toList)) :=
      .meter hcut (Text.length_decimal_le hwbeats) (Text.length_decimal_le hwunit) (by omega) (by omega)
    rwa [hn, hm] at hsaid

/-- A written value can be seen, and has no blank in it. -/
theorem Writes.visible {topic : Topic} {v : Value} {text : String}
    (h : Writes settings topic v text) :
    text.toList ≠ [] ∧ ∀ c ∈ text.toList, isBlank c = false := by
  have hdecimal : ∀ n : Int, 1 ≤ n →
      (decimal n).toList ≠ [] ∧ ∀ c ∈ (decimal n).toList, isBlank c = false := by
    intro n hn
    obtain ⟨k, rfl⟩ := Int.eq_ofNat_of_zero_le (a := n) (by omega)
    have hnum := Text.isNumeral_decimal k
    refine ⟨fun hnil => ?_, fun c hc => Text.isBlank_of_isDigit (isDigit_of_isNumeral hnum c hc)⟩
    rw [hnil] at hnum
    cases hnum
  cases h with
  | tempo hlow hhigh => exact hdecimal _ (Int.le_trans settings.minBpm_pos hlow)
  | tonality hnote =>
    refine ⟨fun hnil => ?_, fun c hc => ?_⟩
    · rw [hnil] at hnote
      cases hnote
    · have hall := Note.forall_of_isSimple (p := fun c => !isBlank c) hnote (by decide) (by decide)
        (by decide)
      simpa using hall c hc
  | meter hbeats hunit =>
    obtain ⟨hne, hb⟩ := hdecimal _ hbeats
    obtain ⟨_, hu⟩ := hdecimal _ hunit
    refine ⟨by simp [hne], fun c hc => ?_⟩
    rw [String.toList_append, String.toList_append, List.mem_append, List.mem_append] at hc
    rcases hc with (hc | hc) | hc
    · exact hb c hc
    · rw [List.mem_singleton.mp hc]
      decide
    · exact hu c hc

/-- The keys of the topics are keys, in lower case. -/
theorem exists_key (topic : Topic) : ∃ first run, topic.key = String.ofList (first :: run) ∧
    first.isAlpha = true ∧ run.all isKeyChar = true ∧
    Text.lower (String.ofList (first :: run)) = String.ofList (first :: run) := by
  cases topic with
  | tempo => exact ⟨'b', "pm".toList, by decide, by decide, by decide +kernel, by decide +kernel⟩
  | tonality =>
    exact ⟨'o', "riginal".toList, by decide, by decide, by decide +kernel, by decide +kernel⟩
  | meter => exact ⟨'t', "ime".toList, by decide, by decide, by decide +kernel, by decide +kernel⟩

/-- A line of an at sign, a key, a blank and a value without blanks is cut between key and value. -/
theorem isCut_written {topic : Topic} {text : String} (hkey : topic.key = String.ofList (first :: run))
    (hletter : first.isAlpha = true) (hrun : run.all isKeyChar = true) (hne : text.toList ≠ [])
    (hvisible : ∀ c ∈ text.toList, isBlank c = false) (number : Int) :
    IsCut (Line.mk number ("@" ++ topic.key ++ " " ++ text)).trimmed.toList first run
      (' ' :: text.toList) := by
  have hcs : ("@" ++ topic.key ++ " " ++ text).toList =
      '@' :: first :: (run ++ [' ']) ++ text.toList := by
    rw [hkey]
    simp
  refine ⟨?_, hletter, List.all_eq_true.mp hrun, fun c hc => ?_, fun c hc => ?_⟩
  · rw [Line.toList_trimmed]
    show trimBoth ("@" ++ topic.key ++ " " ++ text).toList = _
    rw [hcs, Text.trimBoth_eq_self]
    · simp
    · intro c hc
      cases hc
      decide
    · intro c hc
      rw [List.getLast?_append_of_ne_nil _ hne] at hc
      exact hvisible c (List.mem_of_getLast? hc)
  · cases hc
    decide +kernel
  · cases hc
    decide

/-- **A directive that is written is read back.** -/
theorem Writes.read_eq {topic : Topic} {v : Value} {text : String}
    (h : Writes settings topic v text) (hw : settings.IsWritable) (number : Int) :
    Directive.read settings ⟨number, "@" ++ topic.key ++ " " ++ text⟩ =
      .ok ⟨topic.key, v, number, true⟩ := by
  obtain ⟨first, run, hkey, hletter, hrun, hlower⟩ := exists_key topic
  obtain ⟨hne, hvisible⟩ := h.visible
  have hcut := isCut_written hkey hletter hrun hne hvisible number
  have hntext : '\n' ∉ text.toList := fun hmem => absurd (hvisible _ hmem) (by decide)
  have hn : '\n' ∉ ("@" ++ topic.key ++ " " ++ text).toList := by
    have hnkey : '\n' ∉ topic.key.toList := by cases topic <;> decide
    simp [hnkey, hntext]
  have hvalue : trimBoth (' ' :: text.toList) = text.toList := by
    have hblank : ∀ c ∈ [' '], isBlank c = true := List.forall_mem_singleton.mpr rfl
    refine (Text.trimBoth_append_left hblank text.toList).trans (Text.trimBoth_eq_self ?_ ?_)
    · exact fun c hc => hvisible c (List.mem_of_head? hc)
    · exact fun c hc => hvisible c (List.mem_of_getLast? hc)
  have hof : Topic.ofKey? (Text.lower (String.ofList (first :: run))) = some topic := by
    rw [hlower, ← hkey, Topic.ofKey?_key]
  rw [read_of_some_topic hcut hn hof, hvalue, String.ofList_toList,
    (h.isSaid hw).readValue_eq hw hntext]
  rfl

theorem ofKey?_ne_none_iff {key : String} :
    Topic.ofKey? key ≠ none ↔ key ∈ ["bpm", "original", "time"] := by
  constructor
  · intro h
    obtain ⟨topic, htopic⟩ := Option.ne_none_iff_exists'.mp h
    rw [← Topic.key_of_ofKey? htopic]
    cases topic <;> decide
  · intro h
    have hall : ∀ key ∈ ["bpm", "original", "time"], Topic.ofKey? key ≠ none := by decide
    exact hall key h

/-! ## 5. Lines -/

/-- The value of a line without a line end has none either. -/
theorem IsCut.newline_not_mem_value (h : IsCut l.trimmed.toList first run after)
    (hn : '\n' ∉ l.text.toList) : '\n' ∉ (String.ofList (trimBoth after)).toList := by
  rw [String.toList_ofList]
  intro hmem
  exact h.newline_not_mem (Line.newline_not_mem_trimmed hn) (Text.trimBoth_subset _ hmem)

/-- **What a key that names a topic leads to.** -/
theorem read_of_topic (hw : settings.IsWritable) (h : IsCut l.trimmed.toList first run after)
    (hn : '\n' ∉ l.text.toList) {topic : Topic}
    (hkey : Topic.ofKey? (Text.lower (String.ofList (first :: run))) = some topic) :
    (∃ v, Says settings topic (trimBoth after) v ∧
        Directive.read settings l = .ok ⟨topic.key, v, l.number, true⟩) ∨
      (∃ e, Directive.read settings l = .error e ∧
        e.IsProblem [.invalidDirectiveValue] l.number) ∨
      ∃ digits, digits <:+: trimBoth after ∧ isNumeral digits = true ∧ digitLimit < digits.length ∧
        Directive.read settings l = .error (.numeral (.reading digits.length)) := by
  have houtcome := outcome_readValue hw topic (h.newline_not_mem_value hn) l.number
  rw [read_of_some_topic h hn hkey]
  rw [String.toList_ofList] at houtcome
  generalize readValue settings topic (String.ofList (trimBoth after)) l.number = r at houtcome
  cases houtcome with
  | value hsaid => exact Or.inl ⟨_, hsaid, rfl⟩
  | refused he => exact Or.inr (Or.inl ⟨_, rfl, he⟩)
  | long hinside hnum hlong => exact Or.inr (Or.inr ⟨_, hinside, hnum, hlong, rfl⟩)

/-- **A line under a known key is read exactly as its text says.** -/
theorem read_eq_ok_iff_of_topic (hw : settings.IsWritable) (h : IsCut l.trimmed.toList first run after)
    (hn : '\n' ∉ l.text.toList) {topic : Topic}
    (hkey : Topic.ofKey? (Text.lower (String.ofList (first :: run))) = some topic) {v : Value} :
    Directive.read settings l = .ok ⟨topic.key, v, l.number, true⟩ ↔
      Says settings topic (trimBoth after) v := by
  constructor
  · intro hread
    rcases read_of_topic hw h hn hkey with ⟨v', hsaid, hok⟩ | ⟨e, herror, _⟩ |
      ⟨digits, _, _, _, herror⟩
    · rw [hread] at hok
      cases hok
      exact hsaid
    · rw [hread] at herror
      cases herror
    · rw [hread] at herror
      cases herror
  · intro hsaid
    rw [← String.toList_ofList (l := trimBoth after)] at hsaid
    rw [read_of_some_topic h hn hkey, hsaid.readValue_eq hw (h.newline_not_mem_value hn)]
    rfl

/-- **The value of a known directive that was read can be written.** -/
theorem exists_writes_of_read (hw : settings.IsWritable) (hn : '\n' ∉ l.text.toList) {d : Directive}
    (h : Directive.read settings l = .ok d) (hknown : d.known = true) :
    ∃ topic v text, Writes settings topic v text ∧ d = ⟨topic.key, v, l.number, true⟩ := by
  by_cases hcut : ∃ first run after, IsCut l.trimmed.toList first run after
  · obtain ⟨first, run, after, hcut⟩ := hcut
    cases hkey : Topic.ofKey? (Text.lower (String.ofList (first :: run))) with
    | none =>
      rw [read_of_no_topic hcut hn hkey] at h
      cases h
      cases hknown
    | some topic =>
      rcases read_of_topic hw hcut hn hkey with ⟨v, hsaid, hread⟩ | ⟨e, hread, _⟩ |
        ⟨digits, _, _, _, hread⟩
      · rw [hread] at h
        cases h
        obtain ⟨text, hwrites⟩ := hsaid.exists_writes
        exact ⟨topic, v, text, hwrites, rfl⟩
      · rw [hread] at h
        cases h
      · rw [hread] at h
        cases h
  · rw [read_of_not_isCut hcut] at h
    cases h

/-- **Only a line that cannot be cut is an unexpected one.** -/
theorem unexpected_iff (hw : settings.IsWritable) (hn : '\n' ∉ l.text.toList) :
    (∃ d, Directive.read settings l = .error (.diagnostic d) ∧ d.code = .unexpectedToken) ↔
      ¬ ∃ first run after, IsCut l.trimmed.toList first run after := by
  constructor
  · rintro ⟨d, hread, hcode⟩ ⟨first, run, after, hcut⟩
    cases hkey : Topic.ofKey? (Text.lower (String.ofList (first :: run))) with
    | none =>
      rw [read_of_no_topic hcut hn hkey] at hread
      cases hread
    | some topic =>
      rcases read_of_topic hw hcut hn hkey with ⟨v, _, h⟩ | ⟨e, h, he⟩ | ⟨digits, _, _, _, h⟩
      · rw [h] at hread
        cases hread
      · rw [h] at hread
        cases hread
        have hmem := he.diagnostic.2
        rw [hcode] at hmem
        cases List.mem_singleton.mp hmem
      · rw [h] at hread
        cases hread
  · intro hno
    exact ⟨_, read_of_not_isCut hno, rfl⟩

end Directive

/-- **How a directive line is read.** It is unexpected exactly if, trimmed, it is not an at sign, an
    ASCII letter with as many word characters and hyphens as follow it, and then the end or a blank.
    Otherwise the key is that letter and what follows it, in lower case, and the value is the rest,
    trimmed. A key that is not one of the three is kept with its value as written. One of the three gives
    a known directive, or the value is refused at its line, or it holds a run of digits too long to be read;
    and it gives a known directive exactly if the value says one, in the way of its topic, and with what it
    says. A known directive that was read has a value of its topic, and written down in the one way its topic
    has for it, is read again. So is every value of a topic. -/
theorem directive_line_is_normalised (settings : Settings) (hw : settings.IsWritable) (l : Line)
    (hn : '\n' ∉ l.text.toList) :
    ((∃ d, Directive.read settings l = .error (.diagnostic d) ∧ d.code = .unexpectedToken) ↔
        ¬ ∃ first run after, Directive.IsCut l.trimmed.toList first run after) ∧
      (∀ first run after, Directive.IsCut l.trimmed.toList first run after →
        (Text.lower (String.ofList (first :: run)) ∉ ["bpm", "original", "time"] →
          Directive.read settings l = .ok ⟨Text.lower (String.ofList (first :: run)),
            .text (String.ofList (trimBoth after)), l.number, false⟩) ∧
        (Text.lower (String.ofList (first :: run)) ∈ ["bpm", "original", "time"] →
          (∃ v, Directive.read settings l =
            .ok ⟨Text.lower (String.ofList (first :: run)), v, l.number, true⟩) ∨
          (∃ e, Directive.read settings l = .error e ∧
            e.IsProblem [.invalidDirectiveValue] l.number) ∨
          ∃ digits, digits <:+: trimBoth after ∧ isNumeral digits = true ∧
            digitLimit < digits.length ∧
            Directive.read settings l = .error (.numeral (.reading digits.length))) ∧
        ∀ topic v, Text.lower (String.ofList (first :: run)) = topic.key →
          (Directive.read settings l = .ok ⟨topic.key, v, l.number, true⟩ ↔
            Directive.Says settings topic (trimBoth after) v)) ∧
      (∀ d, Directive.read settings l = .ok d → d.known = true →
        ∃ topic text, d.key = topic.key ∧ Directive.Writes settings topic d.value text ∧
          ∀ number, Directive.read settings ⟨number, "@" ++ topic.key ++ " " ++ text⟩ =
            .ok { d with line := number }) ∧
      ∀ topic v text, Directive.Writes settings topic v text → ∀ number,
        Directive.read settings ⟨number, "@" ++ topic.key ++ " " ++ text⟩ =
          .ok ⟨topic.key, v, number, true⟩ := by
  refine ⟨Directive.unexpected_iff hw hn,
    fun first run after hcut => ⟨fun hkey => ?_, fun hkey => ?_, fun topic v hkey => ?_⟩,
    fun d h hknown => ?_, fun topic v text h number => h.read_eq hw number⟩
  · have hnone : Topic.ofKey? (Text.lower (String.ofList (first :: run))) = none := by
      by_contra hsome
      exact hkey (Directive.ofKey?_ne_none_iff.mp hsome)
    exact Directive.read_of_no_topic hcut hn hnone
  · obtain ⟨topic, htopic⟩ := Option.ne_none_iff_exists'.mp (Directive.ofKey?_ne_none_iff.mpr hkey)
    rw [← Topic.key_of_ofKey? htopic]
    rcases Directive.read_of_topic hw hcut hn htopic with ⟨v, _, hread⟩ | hrefused | hlong
    · exact Or.inl ⟨v, hread⟩
    · exact Or.inr (Or.inl hrefused)
    · exact Or.inr (Or.inr hlong)
  · exact Directive.read_eq_ok_iff_of_topic hw hcut hn (by rw [hkey, Topic.ofKey?_key])
  · obtain ⟨topic, v, text, hwrites, rfl⟩ := Directive.exists_writes_of_read hw hn h hknown
    exact ⟨topic, text, rfl, hwrites, fun number => hwrites.read_eq hw number⟩

/-- A time signature with blanks, leading zeros and digits of two scripts, and its normal form. -/
theorem directive_line_with_two_scripts :
    Directive.read {} ⟨3, " @TIME\t03 / \u0668 "⟩ = .ok ⟨"time", .meter 3 8, 3, true⟩ ∧
      Directive.read {} ⟨9, "@time 3/8"⟩ = .ok ⟨"time", .meter 3 8, 9, true⟩ := by
  have hw : Settings.IsWritable {} := ⟨by decide +kernel, by decide +kernel⟩
  have hread : Directive.read {} ⟨3, " @TIME\t03 / \u0668 "⟩ =
      .ok ⟨"time", .meter 3 8, 3, true⟩ := by decide +kernel
  have h := directive_line_is_normalised {} hw ⟨3, " @TIME\t03 / \u0668 "⟩ (by decide)
  obtain ⟨topic, text, _, hwrites, hagain⟩ := h.2.2.1 _ hread rfl
  cases hwrites
  have htext : "@" ++ Topic.meter.key ++ " " ++ (decimal 3 ++ "/" ++ decimal 8) = "@time 3/8" := by
    decide +kernel
  rw [htext] at hagain
  exact ⟨hread, hagain 9⟩

end SongSheet
