import SongSheet.Proofs.Chord.Spelling
import SongSheet.Proofs.Line.Refusal
import SongSheet.Proofs.Text.Pieces

/-!
# Chord lines, token by token

A chord line is cut at its semicolons, and the pieces are trimmed. What is left of them once the empty
ones at the end are dropped are its tokens (`Measure.AreTokens`). The line is read in two rounds: the first
looks for tokens that are missing, the second reads one token after the other and stops at the first that
is no chord (`Measure.readSymbols_of_error`).

A token that is read holds neither a semicolon nor a blank (`Measure.isToken_of_read`), so a line that is put
together from such tokens is cut where they meet, whatever blanks stand around them and whatever
semicolons follow (`Measure.tokens_of_isWritten`).
-/

namespace SongSheet

open Text (pieces trim trimBoth isBlank)
open Chord.Spelling (isPlain)

namespace Measure

/-! ## 1. Tokens -/

/-- **The pieces of a text between its semicolons.** -/
structure ArePieces (cs : List Char) (ps : List (List Char)) : Prop where
  ne_nil : ps ≠ []
  joined : [';'].intercalate ps = cs
  uncut : ∀ p ∈ ps, ';' ∉ p

/-- **The tokens of a text**: its pieces between the semicolons, each trimmed, without the empty ones at
    the end. -/
def AreTokens (text : String) (ts : List String) : Prop :=
  ∃ ps empty, ArePieces text.toList ps ∧
    ps.map (fun p => String.ofList (trimBoth p)) = ts ++ List.replicate empty "" ∧
    ts.getLast? ≠ some ""

theorem arePieces_iff {cs : List Char} {ps : List (List Char)} :
    ArePieces cs ps ↔ pieces ';' cs = ps := by
  constructor
  · intro h
    rw [← h.joined, Text.pieces_eq_splitOn, List.splitOn_intercalate ';' h.uncut h.ne_nil]
  · intro h
    refine ⟨?_, ?_, fun p hp => ?_⟩
    · rw [← h]
      exact Text.pieces_ne_nil _ _
    · rw [← h, Text.pieces_eq_splitOn, List.intercalate_splitOn]
    · rw [← h] at hp
      exact fun hmem => (Text.exists_mem_pieces_iff.mp ⟨p, hp, hmem⟩).2 rfl

theorem dropEmptyEnd_append_replicate (ps : List (List Char)) (k : Nat) :
    dropEmptyEnd (ps ++ List.replicate k []) = dropEmptyEnd ps := by
  have hempty : ∀ p ∈ (List.replicate k ([] : List Char)).reverse, p.isEmpty = true := by
    intro p hp
    rw [List.reverse_replicate] at hp
    rw [List.eq_of_mem_replicate hp]
    rfl
  rw [dropEmptyEnd, List.reverse_append, List.dropWhile_append_of_pos hempty, dropEmptyEnd]

/-- Dropping the empty pieces at the end leaves what does not end in one. -/
theorem dropEmptyEnd_eq_iff {ps qs : List (List Char)} : dropEmptyEnd ps = qs ↔
    (∃ k, ps = qs ++ List.replicate k []) ∧ qs.getLast? ≠ some [] := by
  constructor
  · rintro rfl
    refine ⟨⟨(ps.rtakeWhile List.isEmpty).length, ?_⟩, fun hlast => ?_⟩
    · have hempty : ps.rtakeWhile List.isEmpty =
          List.replicate (ps.rtakeWhile List.isEmpty).length [] :=
        List.eq_replicate_of_mem fun p hp => List.isEmpty_iff.mp (List.mem_rtakeWhile_imp hp)
      rw [← hempty]
      exact List.rdropWhile_append_rtakeWhile.symm
    · have hhead := List.head?_dropWhile_not List.isEmpty ps.reverse
      rw [dropEmptyEnd, List.getLast?_reverse] at hlast
      rw [hlast] at hhead
      cases hhead
  · rintro ⟨⟨k, rfl⟩, hlast⟩
    rw [dropEmptyEnd_append_replicate]
    refine List.rdropWhile_eq_self_iff.mpr fun hne hempty => hlast ?_
    rw [List.getLast?_eq_some_getLast hne, List.isEmpty_iff.mp hempty]

/-- **The tokens that are taken from a line are its tokens**, and it has no others. -/
theorem areTokens_iff {text : String} {ts : List String} : AreTokens text ts ↔ tokens text = ts := by
  constructor
  · rintro ⟨ps, k, hps, hmap, hlast⟩
    have hdrop : dropEmptyEnd (ps.map trimBoth) = ts.map String.toList := by
      refine dropEmptyEnd_eq_iff.mpr ⟨⟨k, ?_⟩, fun h => hlast ?_⟩
      · have hlist := congrArg (List.map String.toList) hmap
        simpa [Function.comp_def] using hlist
      · rw [List.getLast?_map, Option.map_eq_some_iff] at h
        obtain ⟨t, ht, hnil⟩ := h
        rw [ht, String.toList_eq_nil_iff.mp hnil]
    rw [tokens, arePieces_iff.mp hps, hdrop]
    simp [Function.comp_def]
  · rintro rfl
    obtain ⟨⟨k, hk⟩, hlast⟩ :=
      dropEmptyEnd_eq_iff.mp (rfl : dropEmptyEnd ((pieces ';' text.toList).map trimBoth) = _)
    refine ⟨_, k, arePieces_iff.mpr rfl, ?_, fun h => hlast ?_⟩
    · have hstrings := congrArg (List.map String.ofList) hk
      simpa [tokens, Function.comp_def] using hstrings
    · rw [tokens, List.getLast?_map, Option.map_eq_some_iff] at h
      obtain ⟨p, hp, hempty⟩ := h
      rw [hp, ← String.toList_ofList (l := p), hempty]
      rfl

theorem trim_of_mem_tokens {text t : String} (h : t ∈ tokens text) : trim t = t := by
  obtain ⟨p, hp, rfl⟩ := List.mem_map.mp h
  have hmem : p ∈ (pieces ';' text.toList).map trimBoth := by
    have hdrop : dropEmptyEnd ((pieces ';' text.toList).map trimBoth) <+: _ :=
      List.rdropWhile_prefix List.isEmpty _
    exact hdrop.subset hp
  obtain ⟨q, _, rfl⟩ := List.mem_map.mp hmem
  rw [trim, String.toList_ofList, Text.trimBoth_trimBoth]

/-! ## 2. Symbols -/

variable {line : Int}

theorem readSymbols_cons_of_error {t : String} {e : Failure} (h : ChordSymbol.read t line = .error e)
    (ts : List String) : readSymbols line (t :: ts) = .error e := by
  unfold readSymbols
  rw [h]

theorem readSymbols_cons_of_ok {t : String} {s : ChordSymbol} (h : ChordSymbol.read t line = .ok s)
    (ts : List String) : readSymbols line (t :: ts) = (readSymbols line ts).map (s :: ·) := by
  rw [readSymbols.eq_def]
  simp only [h]
  cases readSymbols line ts <;> rfl

/-- **The first token that is no chord is the one that is reported.** -/
theorem readSymbols_of_error {before after : List String} {t : String} {e : Failure}
    (hbefore : ∀ x ∈ before, ∃ s, ChordSymbol.read x line = .ok s)
    (h : ChordSymbol.read t line = .error e) :
    readSymbols line (before ++ t :: after) = .error e := by
  induction before with
  | nil => exact readSymbols_cons_of_error h after
  | cons x before ih =>
    obtain ⟨s, hs⟩ := hbefore x List.mem_cons_self
    have hrest := ih fun y hy => hbefore y (List.mem_cons_of_mem x hy)
    rw [List.cons_append, readSymbols_cons_of_ok hs, hrest]
    rfl

theorem readSymbols_eq_ok_iff {ts : List String} {ss : List ChordSymbol} :
    readSymbols line ts = .ok ss ↔
      List.Forall₂ (fun t s => ChordSymbol.read t line = .ok s) ts ss := by
  constructor
  · exact readSymbols_eq_ok
  · intro h
    induction h with
    | nil => rfl
    | cons ht _ ih =>
      rw [readSymbols_cons_of_ok ht, ih]
      rfl

/-- A line without tokens, or with one that is empty, is refused before any token is read. -/
theorem read_of_missing {l : Line} (h : tokens l.text = [] ∨ "" ∈ tokens l.text) :
    ∃ e, Measure.read l = .error e ∧ e.IsProblem [.emptyMeasureLine] l.number := by
  unfold Measure.read
  by_cases hnil : tokens l.text = []
  · rw [hnil]
    exact ⟨_, rfl, _, List.mem_singleton.mpr rfl, rfl⟩
  · have hempty : "" ∈ tokens l.text := h.resolve_left hnil
    simp only [List.isEmpty_iff, hnil, if_false, List.contains_eq_mem, hempty, decide_true, if_true]
    exact ⟨_, rfl, _, List.mem_singleton.mpr rfl, rfl⟩

/-- A line with all its tokens is read as they are. -/
theorem read_of_tokens {l : Line} (hne : tokens l.text ≠ []) (hempty : "" ∉ tokens l.text) :
    Measure.read l = (readSymbols l.number (tokens l.text)).map (⟨·, l.number⟩) := by
  unfold Measure.read
  simp only [List.isEmpty_iff, hne, if_false, List.contains_eq_mem, hempty, decide_false,
    Bool.false_eq_true]
  cases readSymbols l.number (tokens l.text) <;> rfl

theorem read_eq_ok_iff {l : Line} {m : Measure} : Measure.read l = .ok m ↔
    tokens l.text ≠ [] ∧ "" ∉ tokens l.text ∧ m.line = l.number ∧
      List.Forall₂ (fun t s => ChordSymbol.read t l.number = .ok s) (tokens l.text) m.chords := by
  by_cases h : tokens l.text = [] ∨ "" ∈ tokens l.text
  · obtain ⟨e, he, _⟩ := read_of_missing h
    rw [he]
    constructor
    · intro hok
      cases hok
    · rintro ⟨hne, hempty, _⟩
      exact absurd h (not_or.mpr ⟨hne, hempty⟩)
  · rw [not_or] at h
    rw [read_of_tokens h.1 h.2, ← readSymbols_eq_ok_iff]
    constructor
    · intro hok
      cases hss : readSymbols l.number (tokens l.text) with
      | error e =>
        rw [hss] at hok
        cases hok
      | ok ss =>
        rw [hss] at hok
        cases hok
        exact ⟨h.1, h.2, rfl, rfl⟩
    · rintro ⟨_, _, hline, hss⟩
      rw [hss, ← hline]
      rfl

/-! ## 3. Lines put together from tokens -/

/-- Such a token survives being cut out of a line and trimmed. -/
def IsToken (t : String) : Prop := t ≠ "" ∧ ∀ c ∈ t.toList, isPlain c = true

theorem isToken_of_read {t : String} {s : ChordSymbol} (htrim : trim t = t)
    (h : ChordSymbol.read t line = .ok s) : IsToken t := by
  obtain ⟨p, hp, _⟩ := ChordSymbol.spells_of_read htrim h
  exact hp.isPlain

/-- The text of a symbol is a token for that symbol. -/
theorem read_text_of_read {t : String} {s : ChordSymbol} (htrim : trim t = t)
    (h : ChordSymbol.read t line = .ok s) :
    IsToken s.text ∧ ChordSymbol.read s.text line = .ok s := by
  have htext := ChordSymbol.read_text h line
  obtain ⟨p, hp, rfl⟩ := ChordSymbol.spells_of_read htrim h
  refine ⟨⟨?_, fun c hc => p.isPlain_of_mem_text hc⟩, htext⟩
  obtain ⟨first, rest, _, _, hspelt⟩ := hp
  rw [hspelt]
  simp

/-- A token with blanks around it. -/
def IsPadded (p : List Char) (t : String) : Prop :=
  ∃ before after, (∀ c ∈ before, isBlank c = true) ∧ (∀ c ∈ after, isBlank c = true) ∧
    p = before ++ (t.toList ++ after)

/-- **A line written from tokens**: they stand in a row, each perhaps with blanks around it, with a semicolon
    between them and any semicolons and blanks after the last. -/
def IsWritten (text : String) (ts : List String) : Prop :=
  ∃ row tail, List.Forall₂ IsPadded row ts ∧ (∀ c ∈ tail, c = ';' ∨ isBlank c = true) ∧
    text.toList = [';'].intercalate row ++ tail

theorem isWritten_intercalate (ts : List String) : IsWritten (";".intercalate ts) ts := by
  refine ⟨ts.map String.toList, [], ?_, fun c hc => absurd hc List.not_mem_nil, ?_⟩
  · rw [List.forall₂_map_left_iff]
    refine List.forall₂_same.mpr fun t _ => ⟨[], [], ?_, ?_, ?_⟩ <;> simp
  · rw [String.toList_intercalate, List.append_nil]
    rfl

variable {t text : String} {ts : List String}

theorem IsToken.isBlank_eq_false (h : IsToken t) {c : Char} (hc : c ∈ t.toList) :
    isBlank c = false := by
  have hplain := h.2 c hc
  simp only [isPlain, Bool.and_eq_true, Bool.not_eq_true'] at hplain
  exact hplain.1.1.1

theorem IsToken.semicolon_not_mem (h : IsToken t) : ';' ∉ t.toList := by
  intro hmem
  exact absurd (h.2 _ hmem) (by decide)

theorem semicolon_not_mem_of_isBlank {bs : List Char} (h : ∀ c ∈ bs, isBlank c = true) :
    ';' ∉ bs := by
  intro hmem
  exact absurd (h _ hmem) (by decide)

theorem IsPadded.semicolon_not_mem {p : List Char} (h : IsPadded p t) (ht : IsToken t) : ';' ∉ p := by
  obtain ⟨before, after, hbefore, hafter, rfl⟩ := h
  rw [List.mem_append, List.mem_append, not_or, not_or]
  exact ⟨semicolon_not_mem_of_isBlank hbefore, ht.semicolon_not_mem,
    semicolon_not_mem_of_isBlank hafter⟩

theorem IsPadded.trimBoth_eq {p : List Char} (h : IsPadded p t) (ht : IsToken t) :
    trimBoth p = t.toList := by
  obtain ⟨before, after, hbefore, hafter, rfl⟩ := h
  rw [Text.trimBoth_append_left hbefore, Text.trimBoth_append_right hafter]
  exact Text.trimBoth_eq_self (fun c hc => ht.isBlank_eq_false (List.mem_of_mem_head? hc))
    (fun c hc => ht.isBlank_eq_false (List.mem_of_getLast? hc))

/-- **Semicolons and blanks at the end** only add empty pieces. -/
theorem exists_map_trimBoth_append {tail : List Char} (htail : ∀ c ∈ tail, c = ';' ∨ isBlank c = true)
    (cs : List Char) : ∃ k, (pieces ';' (cs ++ tail)).map trimBoth =
      (pieces ';' cs).map trimBoth ++ List.replicate k [] := by
  have hblank : ∀ p ∈ pieces ';' tail, ∀ c ∈ p, isBlank c = true := by
    intro p hp c hc
    obtain ⟨hmem, hne⟩ := Text.exists_mem_pieces_iff.mp ⟨p, hp, hc⟩
    exact (htail c hmem).resolve_left hne
  obtain ⟨init, last, hinit, happ⟩ := Text.exists_pieces_append ';' cs
  cases htl : pieces ';' tail with
  | nil => exact absurd htl (Text.pieces_ne_nil _ _)
  | cons q qs =>
    rw [htl] at hblank
    -- the first piece of the tail is part of the last piece before it
    have hjoin : trimBoth (last ++ q) = trimBoth last :=
      Text.trimBoth_append_right (hblank q List.mem_cons_self) last
    have hrest : qs.map trimBoth = List.replicate qs.length [] := by
      refine List.eq_replicate_iff.mpr ⟨List.length_map _, fun p hp => ?_⟩
      obtain ⟨p', hp', rfl⟩ := List.mem_map.mp hp
      rw [Text.trimBoth_eq_nil_iff, Text.trimStart_eq_nil_iff]
      exact hblank p' (List.mem_cons_of_mem q hp')
    refine ⟨qs.length, ?_⟩
    rw [happ, htl, hinit, ← hrest]
    simp [hjoin]

theorem map_trimBoth_row {row : List (List Char)} (hrow : List.Forall₂ IsPadded row ts)
    (hts : ∀ t ∈ ts, IsToken t) : row.map trimBoth = ts.map String.toList := by
  induction hrow with
  | nil => rfl
  | cons hp _ ih =>
    rw [List.map_cons, List.map_cons, hp.trimBoth_eq (hts _ List.mem_cons_self),
      ih fun t ht => hts t (List.mem_cons_of_mem _ ht)]

/-- **The tokens a line is written from are its tokens.** -/
theorem tokens_of_isWritten (h : IsWritten text ts) (hne : ts ≠ []) (hts : ∀ t ∈ ts, IsToken t) :
    tokens text = ts := by
  obtain ⟨row, tail, hrow, htail, htext⟩ := h
  have hpieces : pieces ';' ([';'].intercalate row) = row := by
    refine arePieces_iff.mp ⟨?_, rfl, fun p hp => ?_⟩
    · intro hnil
      rw [hnil, List.forall₂_nil_left_iff] at hrow
      exact hne hrow
    · obtain ⟨t, ht, hpt⟩ := exists_mem_of_forall₂ hrow hp
      exact hpt.semicolon_not_mem (hts t ht)
  obtain ⟨k, hk⟩ := exists_map_trimBoth_append htail ([';'].intercalate row)
  rw [← htext, hpieces, map_trimBoth_row hrow hts] at hk
  refine areTokens_iff.mp ⟨_, k, arePieces_iff.mpr rfl, ?_, fun hlast => ?_⟩
  · have hstrings := congrArg (List.map String.ofList) hk
    simpa [Function.comp_def] using hstrings
  · exact (hts "" (List.mem_of_getLast? hlast)).1 rfl

/-- **A line written from tokens that are read is read**, as the symbols they are read as. -/
theorem read_of_isWritten {ss : List ChordSymbol} (h : IsWritten text ts) (hne : ts ≠ [])
    (hts : ∀ t ∈ ts, IsToken t)
    (hss : List.Forall₂ (fun t s => ChordSymbol.read t line = .ok s) ts ss) :
    Measure.read ⟨line, text⟩ = .ok ⟨ss, line⟩ := by
  have htokens := tokens_of_isWritten h hne hts
  rw [read_eq_ok_iff, htokens]
  exact ⟨hne, fun hempty => (hts _ hempty).1 rfl, rfl, hss⟩

/-! ## 4. What a chord line holds -/

theorem isToken_of_mem_tokens {l : Line} {m : Measure} (h : Measure.read l = .ok m)
    (ht : t ∈ tokens l.text) : IsToken t := by
  obtain ⟨_, _, _, hss⟩ := read_eq_ok_iff.mp h
  obtain ⟨s, _, hs⟩ := exists_mem_of_forall₂ hss ht
  exact isToken_of_read (trim_of_mem_tokens ht) hs

/-- **Plain characters, semicolons and blanks** are all that stands on a chord line. -/
theorem chars_of_read {l : Line} {m : Measure} (h : Measure.read l = .ok m) {c : Char}
    (hc : c ∈ l.text.toList) : c = ';' ∨ isBlank c = true ∨ isPlain c = true := by
  by_cases hsemi : c = ';'
  · exact Or.inl hsemi
  · obtain ⟨p, hp, hcp⟩ := Text.exists_mem_pieces_iff.mpr ⟨hc, hsemi⟩
    obtain ⟨before, after, hbefore, hafter, _, hpeq⟩ := Text.exists_blanks_around p
    rw [hpeq, List.mem_append, List.mem_append] at hcp
    refine Or.inr ?_
    rcases hcp with hc' | hc' | hc'
    · exact Or.inl (hbefore c hc')
    · right
      obtain ⟨ps, k, hps, hk, _⟩ := areTokens_iff.mpr (rfl : tokens l.text = _)
      rw [arePieces_iff.mp hps] at hp
      have hmem : String.ofList (trimBoth p) ∈ tokens l.text ++ List.replicate k "" := by
        rw [← hk]
        exact List.mem_map.mpr ⟨p, hp, rfl⟩
      rcases List.mem_append.mp hmem with ht | hempty
      · exact (isToken_of_mem_tokens h ht).2 c (by rwa [String.toList_ofList])
      · rw [← String.toList_ofList (l := trimBoth p), List.eq_of_mem_replicate hempty] at hc'
        cases hc'
    · exact Or.inl (hafter c hc')

/-- A mark that is neither of these is not on a chord line. -/
theorem not_mem_of_read {l : Line} {m : Measure} (h : Measure.read l = .ok m) {c : Char}
    (hc : (c == ';' || isBlank c || isPlain c) = false) : c ∉ l.trimmed.toList := by
  intro hmem
  rw [Line.toList_trimmed] at hmem
  rcases chars_of_read h (Text.trimBoth_subset _ hmem) with rfl | hblank | hplain
  · cases hc
  · simp [hblank] at hc
  · simp [hplain] at hc

end Measure

/-- **How a chord line is read.** Every line has its tokens, and they are the only ones. A line without
    tokens, or with an empty one among them, is refused whatever the others are. If none is missing,
    the first that is no chord gives its own refusal; if all are chords, the measure has their symbols in
    order. A measure is read again from the texts of its chords, with blanks around them and semicolons behind
    them; and tokens that are chords, joined by semicolons, are read as those chords. -/
theorem chord_line_is_read_token_by_token (l : Line) :
    (∃! ts, Measure.AreTokens l.text ts) ∧
      (∀ ts, Measure.AreTokens l.text ts →
        (ts = [] ∨ "" ∈ ts →
          ∃ e, Measure.read l = .error e ∧ e.IsProblem [.emptyMeasureLine] l.number) ∧
        (ts ≠ [] → "" ∉ ts →
          (∀ before t after e, ts = before ++ t :: after →
            (∀ x ∈ before, ∃ s, ChordSymbol.read x l.number = .ok s) →
            ChordSymbol.read t l.number = .error e →
            Measure.read l = .error e ∧ e.IsProblem [.invalidChordNotation] l.number) ∧
          ∀ ss, List.Forall₂ (fun t s => ChordSymbol.read t l.number = .ok s) ts ss →
            Measure.read l = .ok ⟨ss, l.number⟩)) ∧
      (∀ m, Measure.read l = .ok m → ∀ text, Measure.IsWritten text m.texts →
        Measure.read ⟨l.number, text⟩ = .ok m) ∧
      ∀ ts ss, ts ≠ [] →
        List.Forall₂ (fun t s => trim t = t ∧ ChordSymbol.read t l.number = .ok s) ts ss →
        Measure.read ⟨l.number, ";".intercalate ts⟩ = .ok ⟨ss, l.number⟩ := by
  refine ⟨⟨_, Measure.areTokens_iff.mpr rfl, fun ts h => (Measure.areTokens_iff.mp h).symm⟩,
    fun ts h => ?_, fun m h text hwritten => ?_, fun ts ss hne hss => ?_⟩
  · obtain rfl := Measure.areTokens_iff.mp h
    refine ⟨Measure.read_of_missing, fun hne hempty => ⟨fun before t after e hts hbefore he => ?_,
      fun ss hss => Measure.read_eq_ok_iff.mpr ⟨hne, hempty, rfl, hss⟩⟩⟩
    rw [Measure.read_of_tokens hne hempty, hts, Measure.readSymbols_of_error hbefore he]
    exact ⟨rfl, ChordSymbol.read_eq_error he⟩
  · obtain ⟨_, _, hline, hss⟩ := Measure.read_eq_ok_iff.mp h
    have htexts : ∀ s ∈ m.chords,
        Measure.IsToken s.text ∧ ChordSymbol.read s.text l.number = .ok s := by
      intro s hs
      obtain ⟨t, ht, hread⟩ := exists_mem_of_forall₂ hss.flip hs
      exact Measure.read_text_of_read (Measure.trim_of_mem_tokens ht) hread
    have hm : Measure.read ⟨l.number, text⟩ = .ok ⟨m.chords, l.number⟩ := by
      refine Measure.read_of_isWritten hwritten ?_ ?_ ?_
      · intro hnil
        rw [Measure.texts, List.map_eq_nil_iff] at hnil
        exact (Measure.read_eq_ok h).1.1 hnil
      · intro t ht
        obtain ⟨s, hs, rfl⟩ := List.mem_map.mp ht
        exact (htexts s hs).1
      · exact List.forall₂_map_left_iff.mpr (List.forall₂_same.mpr fun s hs => (htexts s hs).2)
    rw [hm, ← hline]
  · refine Measure.read_of_isWritten (Measure.isWritten_intercalate ts) hne (fun t ht => ?_)
      (hss.imp fun _ _ h => h.2)
    obtain ⟨s, _, htrim, hread⟩ := exists_mem_of_forall₂ hss ht
    exact Measure.isToken_of_read htrim hread

/-- A measure with a small root letter is read again from capitals, with other blanks and more semicolons. -/
theorem chord_line_written_again :
    ∃ m, Measure.read ⟨3, "am7 ; F#/A;"⟩ = .ok m ∧ m.texts = ["Am7", "F#/A"] ∧
      Measure.read ⟨3, " Am7;\tF#/A ; ;"⟩ = .ok m := by
  refine ⟨⟨[⟨"Am7", ⟨"A", "min7", none⟩, 3⟩, ⟨"F#/A", ⟨"F#", "maj", some "A"⟩, 3⟩], 3⟩,
    by decide +kernel, rfl, ?_⟩
  refine (chord_line_is_read_token_by_token ⟨3, "am7 ; F#/A;"⟩).2.2.1 _ (by decide +kernel) _ ?_
  refine ⟨[" Am7".toList, "\tF#/A ".toList], "; ;".toList, ?_, ?_, by decide⟩
  · have hspace : ∀ c ∈ [' '], isBlank c = true := List.forall_mem_singleton.mpr rfl
    have htab : ∀ c ∈ ['\t'], isBlank c = true := List.forall_mem_singleton.mpr rfl
    exact .cons ⟨[' '], [], hspace, List.forall_mem_nil _, by decide⟩
      (.cons ⟨['\t'], [' '], htab, hspace, by decide⟩ .nil)
  · exact List.all_iff_forall_prop.mp (by decide)

end SongSheet
