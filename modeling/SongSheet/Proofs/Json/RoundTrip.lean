import SongSheet.Document
import SongSheet.Proofs.Json.Reader

/-!
# What is written is read back

Every value is read back from its text, on one line or over many (`Json.read_write`). The text is
followed through the two machines of the reader. Each written character leads from one point inside a
text to the next, so no content is taken for structure; the text of a value becomes its row of tokens,
whatever the layout; and the row of tokens becomes the value again, whatever stands around it.
-/

namespace SongSheet.Json

open Text (hex decimal)

variable {charset : Charset} {indent : Indent} {cs : List Char} {codes : List Nat}

/-! ## 1. The codes of a character -/

/-- The codes that a written character is read as. -/
def units (charset : Charset) (c : Char) : List Nat :=
  if charset = .unicode ∨ c.toNat < 0x10000 then [c.toNat]
  else [0xD800 + (c.toNat - 0x10000) / 0x400, 0xDC00 + (c.toNat - 0x10000) % 0x400]

theorem units_unicode (c : Char) : units .unicode c = [c.toNat] := if_pos (.inl rfl)

theorem units_of_lt {c : Char} (h : c.toNat < 0x10000) : units charset c = [c.toNat] := if_pos (.inr h)

theorem toNat_range (c : Char) : c.toNat < 0xD800 ∨ 0xDFFF < c.toNat ∧ c.toNat < 0x110000 := c.valid

theorem characters?_units (c : Char) :
    characters? (units charset c ++ codes) = (characters? codes).map (c :: ·) := by
  have hc := toNat_range c
  unfold units
  split
  · rw [List.singleton_append, characters?.eq_def]
    dsimp only
    rw [if_neg (by omega), if_neg (by omega), Char.ofNat_toNat]
  · rename_i h
    have hlow : ¬ c.toNat < 0x10000 := fun hlow => h (.inr hlow)
    rw [List.cons_append, List.singleton_append, characters?, if_pos (by omega), if_pos (by omega)]
    have hcode : 0x10000 + (0xD800 + (c.toNat - 0x10000) / 0x400 - 0xD800) * 0x400 +
        (0xDC00 + (c.toNat - 0x10000) % 0x400 - 0xDC00) = c.toNat := by omega
    rw [hcode, Char.ofNat_toNat]

theorem characters?_flatMap_units (cs : List Char) :
    characters? (cs.flatMap (units charset)) = some cs := by
  induction cs with
  | nil => rfl
  | cons c cs ih => rw [List.flatMap_cons, characters?_units, ih, Option.map_some]

/-! ## 2. Inside a text -/

theorem hexValue?_digitChar {d : Nat} (h : d < 16) : hexValue? (Nat.digitChar d) = some d := by
  revert d
  decide

theorem run_unit_digit {value left d : Nat} (h : d < 16) :
    (Mode.unit codes value (left + 1)).run (Nat.digitChar d :: cs) =
      (Mode.unit codes (16 * value + d) left).run cs := by
  simp [Mode.run, Mode.step, hexValue?_digitChar h]

theorem run_unit_last {value d : Nat} (h : d < 16) :
    (Mode.unit codes value 0).run (Nat.digitChar d :: cs) =
      (Mode.text (codes ++ [16 * value + d])).run cs := by
  simp [Mode.run, Mode.step, hexValue?_digitChar h]

theorem run_backslash : (Mode.text codes).run ('\\' :: cs) = (Mode.escape codes).run cs := by
  simp [Mode.run, Mode.step]

/-- A character that is escaped by a letter. -/
theorem run_escape {c e : Char} (hu : e ≠ 'u') (he : escaped? e = some c.toNat)
    (hc : c.toNat < 0x10000) :
    (Mode.text codes).run ('\\' :: e :: cs) = (Mode.text (codes ++ units charset c)).run cs := by
  rw [run_backslash, units_of_lt hc]
  simp [Mode.run, Mode.step, hu, he]

theorem run_escapedUnit {u : Nat} (h : u < 0x10000) :
    (Mode.text codes).run (escapedUnit u ++ cs) = (Mode.text (codes ++ [u])).run cs := by
  have hdigits : hex 4 u = [Nat.digitChar (u / 16 / 16 / 16 % 16), Nat.digitChar (u / 16 / 16 % 16),
      Nat.digitChar (u / 16 % 16), Nat.digitChar (u % 16)] := rfl
  have hstart : (Mode.text codes).run (escapedUnit u ++ cs) =
      (Mode.unit codes 0 3).run (hex 4 u ++ cs) := by
    rw [escapedUnit, List.cons_append, run_backslash]
    simp [Mode.run, Mode.step]
  have hvalue : 16 * (16 * (16 * (16 * 0 + u / 16 / 16 / 16 % 16) + u / 16 / 16 % 16) + u / 16 % 16)
      + u % 16 = u := by omega
  rw [hstart, hdigits]
  simp only [List.cons_append, List.nil_append]
  rw [run_unit_digit (Nat.mod_lt _ (by decide)), run_unit_digit (Nat.mod_lt _ (by decide)),
    run_unit_digit (Nat.mod_lt _ (by decide)), run_unit_last (Nat.mod_lt _ (by decide)), hvalue]

theorem run_escapedCode (c : Char) :
    (Mode.text codes).run (escapedCode c ++ cs) = (Mode.text (codes ++ units .ascii c)).run cs := by
  have hc := toNat_range c
  unfold escapedCode units
  split
  · rename_i h
    rw [if_pos (.inr h), run_escapedUnit h]
  · rename_i h
    rw [if_neg (by simpa using h), List.append_assoc, run_escapedUnit (by omega),
      run_escapedUnit (by omega), List.append_assoc, List.singleton_append]

/-- A character that may stand for itself. -/
theorem run_plain {c : Char} (hq : c ≠ '"') (hb : c ≠ '\\') (hc : ¬ c.toNat < 0x20) :
    (Mode.text codes).run (c :: cs) = (Mode.text (codes ++ [c.toNat])).run cs := by
  simp [Mode.run, Mode.step, hq, hb, hc]

/-- **A written character stays inside its text**, and is read as itself. -/
theorem run_writtenChar (c : Char) :
    (Mode.text codes).run (writtenChar charset c ++ cs) =
      (Mode.text (codes ++ units charset c)).run cs := by
  unfold writtenChar
  -- seven characters have an escape of their own; that `c` is not one of the first two is needed below
  split
  · subst c; exact run_escape (by decide) (by decide) (by decide)
  rename_i hq
  split
  · subst c; exact run_escape (by decide) (by decide) (by decide)
  rename_i hb
  iterate 5
    split
    · subst c; exact run_escape (by decide) (by decide) (by decide)
  split
  · rename_i h
    rw [units_of_lt (by omega)]
    exact run_escapedUnit (by omega)
  rename_i hc
  cases charset with
  | unicode =>
    rw [units_unicode]
    exact run_plain hq hb hc
  | ascii =>
    dsimp only
    split
    · rename_i h
      rw [units_of_lt (by omega)]
      exact run_plain hq hb hc
    · exact run_escapedCode c

theorem run_flatMap_writtenChar (s : List Char) :
    (Mode.text codes).run (s.flatMap (writtenChar charset) ++ cs) =
      (Mode.text (codes ++ s.flatMap (units charset))).run cs := by
  induction s generalizing codes with
  | nil => simp
  | cons c s ih =>
    rw [List.flatMap_cons, List.append_assoc, run_writtenChar, ih, List.flatMap_cons, List.append_assoc]

/-! ## 3. Tokens -/

/-- **A written text is one token**, whatever it holds. -/
theorem tokens?_writtenText (s : String) :
    tokens? (writtenText charset s ++ cs) = (tokens? cs).map (.text s :: ·) := by
  have hquote : tokens? (writtenText charset s ++ cs) =
      (Mode.text []).run (s.toList.flatMap (writtenChar charset) ++ '"' :: cs) := by
    simp [tokens?, writtenText, Mode.run, Mode.step, Mode.start, isGap]
  rw [hquote, run_flatMap_writtenChar, List.nil_append]
  simp [tokens?, Mode.run, Mode.step, characters?_flatMap_units]

theorem tokens?_gap {c : Char} (h : isGap c = true) : tokens? (c :: cs) = tokens? cs := by
  simp [tokens?, Mode.run, Mode.step, Mode.start, h]

theorem tokens?_punctuation {c : Char} {t : Token} (hgap : isGap c = false) (hquote : c ≠ '"')
    (h : Token.punctuation? c = some t) : tokens? (c :: cs) = (tokens? cs).map (t :: ·) := by
  simp [tokens?, Mode.run, Mode.step, Mode.start, hgap, hquote, h]

/-- The text does not go on with a value without quotes. -/
def Parted (cs : List Char) : Prop := ∀ c ∈ cs.head?, isBare c = false

theorem start_of_isBare {c : Char} (h : isBare c = true) : Mode.start c = some (.bare [c], []) := by
  simp only [isBare, Bool.and_eq_true, Bool.not_eq_true', bne_iff_ne, Option.isNone_iff_eq_none] at h
  obtain ⟨⟨hgap, hpunct⟩, hquote⟩ := h
  simp [Mode.start, hgap, hpunct, hquote]

theorem run_bare {word begun : List Char} (h : ∀ c ∈ word, isBare c = true) :
    (Mode.bare begun).run (word ++ cs) = (Mode.bare (begun ++ word)).run cs := by
  induction word generalizing begun with
  | nil => simp
  | cons c word ih =>
    obtain ⟨hc, hword⟩ := List.forall_mem_cons.mp h
    have hstep : (Mode.bare begun).run (c :: (word ++ cs)) =
        (Mode.bare (begun ++ [c])).run (word ++ cs) := by simp [Mode.run, Mode.step, hc]
    rw [List.cons_append, hstep, ih hword, List.append_assoc, List.singleton_append]

/-- What ends a value without quotes is read as if it stood alone. -/
theorem run_bare_of_parted {word : List Char} {v : Json} (hv : bareValue? word = some v)
    (hcs : Parted cs) : (Mode.bare word).run cs = (tokens? cs).map (.bare v :: ·) := by
  cases cs with
  | nil => simp [tokens?, Mode.run, Mode.finish, hv]
  | cons c cs =>
    have hc : isBare c = false := hcs c rfl
    cases hs : Mode.start c with
    | none => simp [tokens?, Mode.run, Mode.step, hc, hv, hs]
    | some next => simp [tokens?, Mode.run, Mode.step, hc, hv, hs, Function.comp_def]

theorem tokens?_bare {word : List Char} {v : Json} (hne : word ≠ [])
    (hword : word.all isBare = true) (hv : bareValue? word = some v) (hcs : Parted cs) :
    tokens? (word ++ cs) = (tokens? cs).map (.bare v :: ·) := by
  obtain ⟨c, rest, rfl⟩ := List.exists_cons_of_ne_nil hne
  obtain ⟨hc, hrest⟩ := List.forall_mem_cons.mp (List.all_eq_true.mp hword)
  have hstart : tokens? (c :: rest ++ cs) = (Mode.bare [c]).run (rest ++ cs) := by
    simp [tokens?, Mode.run, Mode.step, start_of_isBare hc]
  rw [hstart, run_bare hrest, List.singleton_append, run_bare_of_parted hv hcs]

/-! ## 4. Numbers -/

/-- Only zero is written with a zero in front. -/
theorem toDigits_eq_of_head? (n : Nat) (h : (Nat.toDigits 10 n).head? = some '0') :
    Nat.toDigits 10 n = ['0'] := by
  induction n using Nat.strongRecOn with
  | _ n ih =>
    by_cases hn : n < 10
    · rw [Nat.toDigits_of_lt_base hn] at h ⊢
      simpa using h
    · rw [Nat.toDigits_of_base_le (by decide) (by omega)] at h
      have hhead : (Nat.toDigits 10 (n / 10)).head? = some '0' := by
        obtain ⟨d, ds, hd⟩ := List.exists_cons_of_ne_nil (Nat.toDigits_ne_nil (b := 10) (n := n / 10))
        rw [hd] at h ⊢
        exact h
      have hzero : n / 10 = Nat.ofDigitChars 10 ['0'] 0 := by
        rw [← ih (n / 10) (by omega) hhead, Nat.ofDigitChars_ten_toDigits]
      have : Nat.ofDigitChars 10 ['0'] 0 = 0 := rfl
      omega

theorem isDigit_of_mem_toDigits {n : Nat} {c : Char} (h : c ∈ Nat.toDigits 10 n) : c.isDigit = true :=
  Nat.isDigit_of_mem_toDigits (by decide) (by decide) h

theorem natural?_toDigits (n : Nat) : natural? (Nat.toDigits 10 n) = some n := by
  have hdigits : (Nat.toDigits 10 n).all Char.isDigit = true :=
    List.all_eq_true.mpr fun c hc => isDigit_of_mem_toDigits hc
  rw [natural?, if_pos ⟨Nat.toDigits_ne_nil, hdigits, toDigits_eq_of_head? n⟩,
    Nat.ofDigitChars_ten_toDigits]

theorem isBare_of_isDigit {c : Char} (h : c.isDigit = true) : isBare c = true := by
  have hne : ∀ d : Char, d.isDigit = false → c ≠ d := by
    rintro d hd rfl
    rw [hd] at h
    cases h
  simp [isBare, isGap, Token.punctuation?, hne]

theorem bareValue?_of_natural? {ds : List Char} {n : Nat} (h : natural? ds = some n) :
    bareValue? ds = some (.number n) := by
  unfold bareValue?
  iterate 3
    split
    · subst ds; simp [natural?] at h
  split
  · rw [natural?, if_neg (by simp)] at h
    cases h
  · rw [h, Option.map_some]

theorem bareValue?_minus {ds : List Char} {n : Nat} (h : natural? ds = some n) :
    bareValue? ('-' :: ds) = some (.number (-n)) := by
  simp [bareValue?, h]

theorem bareValue?_decimal (n : Int) : bareValue? (decimal n).toList = some (.number n) := by
  cases n with
  | ofNat k =>
    rw [decimal, String.toList_ofList]
    exact bareValue?_of_natural? (natural?_toDigits k)
  | negSucc k =>
    rw [decimal, String.toList_ofList]
    exact bareValue?_minus (natural?_toDigits (k + 1))

theorem mem_decimal {n : Int} {c : Char} (h : c ∈ (decimal n).toList) : c = '-' ∨ c.isDigit = true := by
  cases n with
  | ofNat k =>
    rw [decimal, String.toList_ofList] at h
    exact .inr (isDigit_of_mem_toDigits h)
  | negSucc k =>
    rw [decimal, String.toList_ofList, List.mem_cons] at h
    exact h.imp id isDigit_of_mem_toDigits

theorem decimal_ne_nil (n : Int) : (decimal n).toList ≠ [] := by
  cases n <;> simp [decimal, Nat.toDigits_ne_nil]

theorem tokens?_decimal (n : Int) (hcs : Parted cs) :
    tokens? ((decimal n).toList ++ cs) = (tokens? cs).map (.bare (.number n) :: ·) := by
  refine tokens?_bare (decimal_ne_nil n) (List.all_eq_true.mpr fun c hc => ?_) (bareValue?_decimal n) hcs
  rcases mem_decimal hc with rfl | hdigit
  · decide
  · exact isBare_of_isDigit hdigit

/-! ## 5. The tokens of a value -/

mutual

/-- The tokens a value is written with. -/
def tokens : Json → List Token
  | .text s => [.text s]
  | .array [] => [.openArray, .closeArray]
  | .array (item :: items) => .openArray :: item.tokens ++ itemTokens items ++ [.closeArray]
  | .object [] => [.openObject, .closeObject]
  | .object ((key, value) :: members) =>
    .openObject :: .text key :: .colon :: value.tokens ++ memberTokens members ++ [.closeObject]
  | v => [.bare v]

/-- The items of an array after its first, each with the comma before it. -/
def itemTokens : List Json → List Token
  | [] => []
  | item :: items => .comma :: item.tokens ++ itemTokens items

/-- The members of an object after its first, each with the comma before it. -/
def memberTokens : List (String × Json) → List Token
  | [] => []
  | (key, value) :: members => .comma :: .text key :: .colon :: value.tokens ++ memberTokens members

end

theorem tokens?_lineBreak (level : Nat) : tokens? (lineBreak indent level ++ cs) = tokens? cs := by
  cases indent with
  | none => rfl
  | some width =>
    rw [lineBreak, List.cons_append, tokens?_gap rfl]
    induction width * level with
    | zero => rfl
    | succ n ih => rw [List.replicate_succ, List.cons_append, tokens?_gap rfl, ih]

theorem tokens?_itemEnd : tokens? (itemEnd indent ++ cs) = (tokens? cs).map (.comma :: ·) := by
  cases indent with
  | none =>
    rw [itemEnd, List.cons_append, tokens?_punctuation rfl (by decide) rfl, List.singleton_append,
      tokens?_gap rfl]
  | some width => exact tokens?_punctuation rfl (by decide) rfl

theorem parted_lineBreak {level : Nat} (hcs : Parted cs) : Parted (lineBreak indent level ++ cs) := by
  cases indent with
  | none => exact hcs
  | some width => rintro _ ⟨⟩; rfl

theorem parted_writtenItems {level : Nat} (items : List Json) (hcs : Parted cs) :
    Parted (writtenItems charset indent level items ++ cs) := by
  cases items with
  | nil => rw [writtenItems]; exact hcs
  | cons item items => cases indent <;> (rw [writtenItems]; rintro _ ⟨⟩; rfl)

theorem parted_writtenMembers {level : Nat} (members : List (String × Json)) (hcs : Parted cs) :
    Parted (writtenMembers charset indent level members ++ cs) := by
  cases members with
  | nil => rw [writtenMembers]; exact hcs
  | cons m members => cases indent <;> (rw [writtenMembers]; rintro _ ⟨⟩; rfl)

theorem parted_cons {c : Char} (h : isBare c = false) : Parted (c :: cs) := by
  rintro _ ⟨⟩
  exact h

theorem tokens?_key (key : String) :
    tokens? (writtenText charset key ++ ':' :: ' ' :: cs) =
      (tokens? cs).map (.text key :: .colon :: ·) := by
  rw [tokens?_writtenText, tokens?_punctuation rfl (by decide) rfl, tokens?_gap rfl, Option.map_map]
  rfl

mutual

/-- **The text of a value is its row of tokens**, whatever the layout and whatever comes after it. -/
theorem tokens?_written (level : Nat) : ∀ (v : Json) (cs : List Char), Parted cs →
    tokens? (written charset indent level v ++ cs) = (tokens? cs).map (v.tokens ++ ·)
  | .null, cs, hcs => by rw [written]; exact tokens?_bare (by decide) (by decide) rfl hcs
  | .bool true, cs, hcs => by rw [written]; exact tokens?_bare (by decide) (by decide) rfl hcs
  | .bool false, cs, hcs => by rw [written]; exact tokens?_bare (by decide) (by decide) rfl hcs
  | .number n, cs, hcs => tokens?_decimal n hcs
  | .text s, cs, _ => tokens?_writtenText s
  | .array [], cs, _ => by
    rw [written, List.cons_append, tokens?_punctuation rfl (by decide) rfl, List.singleton_append,
      tokens?_punctuation rfl (by decide) rfl, Option.map_map]
    rfl
  | .array (item :: items), cs, _ => by
    have hend : Parted (lineBreak indent level ++ ']' :: cs) := parted_lineBreak (parted_cons rfl)
    simp only [written, List.cons_append, List.append_assoc, List.nil_append]
    rw [tokens?_punctuation rfl (by decide) rfl, tokens?_lineBreak,
      tokens?_written (level + 1) item _ (parted_writtenItems items hend),
      tokens?_writtenItems (level + 1) items _ hend, tokens?_lineBreak,
      tokens?_punctuation rfl (by decide) rfl]
    simp [tokens, Function.comp_def]
  | .object [], cs, _ => by
    rw [written, List.cons_append, tokens?_punctuation rfl (by decide) rfl, List.singleton_append,
      tokens?_punctuation rfl (by decide) rfl, Option.map_map]
    rfl
  | .object ((key, value) :: members), cs, _ => by
    have hend : Parted (lineBreak indent level ++ '\x7d' :: cs) := parted_lineBreak (parted_cons rfl)
    simp only [written, List.cons_append, List.append_assoc, List.nil_append]
    rw [tokens?_punctuation rfl (by decide) rfl, tokens?_lineBreak, tokens?_key,
      tokens?_written (level + 1) value _ (parted_writtenMembers members hend),
      tokens?_writtenMembers (level + 1) members _ hend, tokens?_lineBreak,
      tokens?_punctuation rfl (by decide) rfl]
    simp [tokens, Function.comp_def]

theorem tokens?_writtenItems (level : Nat) : ∀ (items : List Json) (cs : List Char), Parted cs →
    tokens? (writtenItems charset indent level items ++ cs) = (tokens? cs).map (itemTokens items ++ ·)
  | [], cs, _ => by simp [writtenItems, itemTokens]
  | item :: items, cs, hcs => by
    simp only [writtenItems, List.append_assoc]
    rw [tokens?_itemEnd, tokens?_lineBreak,
      tokens?_written level item _ (parted_writtenItems items hcs),
      tokens?_writtenItems level items _ hcs]
    simp [itemTokens, Function.comp_def]

theorem tokens?_writtenMembers (level : Nat) :
    ∀ (members : List (String × Json)) (cs : List Char), Parted cs →
    tokens? (writtenMembers charset indent level members ++ cs) =
      (tokens? cs).map (memberTokens members ++ ·)
  | [], cs, _ => by simp [writtenMembers, memberTokens]
  | (key, value) :: members, cs, hcs => by
    simp only [writtenMembers, List.append_assoc, List.cons_append, List.nil_append]
    rw [tokens?_itemEnd, tokens?_lineBreak, tokens?_key,
      tokens?_written level value _ (parted_writtenMembers members hcs),
      tokens?_writtenMembers level members _ hcs]
    simp [memberTokens, Function.comp_def]

end

/-! ## 6. The value of its tokens -/

/-- The first item of an array is read like any other. -/
theorem run_firstItem (v : Json) (outer : List Frame) (ts : List Token) :
    (Expecting.firstItem outer).run (v.tokens ++ ts) =
      (Expecting.value (.item [] :: outer)).run (v.tokens ++ ts) := by
  cases v with
  | null | bool | number | text => rfl
  | array items => cases items <;> rfl
  | object members => cases members <;> rfl

mutual

/-- **The tokens of a value are the value**, whatever containers it stands in and whatever comes after. -/
theorem run_tokens : ∀ (v : Json) (outer : List Frame) (ts : List Token),
    (Expecting.value outer).run (v.tokens ++ ts) = (Expecting.afterValue v outer).run ts
  | .null, _, _ | .bool _, _, _ | .number _, _, _ | .text _, _, _ => rfl
  | .array [], _, _ | .object [], _, _ => rfl
  | .array (item :: items), outer, ts =>
    calc (Expecting.value outer).run ((array (item :: items)).tokens ++ ts)
      _ = (Expecting.firstItem outer).run (item.tokens ++ (itemTokens items ++ .closeArray :: ts)) := by
        simp [tokens, Expecting.run, Expecting.step, Expecting.valueStep]
      _ = (Expecting.afterValue item (.item [] :: outer)).run (itemTokens items ++ .closeArray :: ts) := by
        rw [run_firstItem, run_tokens item]
      _ = (Expecting.afterValue (.array (item :: items)) outer).run ts := run_itemTokens items _ _ _ _
  | .object ((key, value) :: members), outer, ts =>
    calc (Expecting.value outer).run ((object ((key, value) :: members)).tokens ++ ts)
      _ = (Expecting.value (.member [] key :: outer)).run
            (value.tokens ++ (memberTokens members ++ .closeObject :: ts)) := by
        simp [tokens, Expecting.run, Expecting.step, Expecting.valueStep, Expecting.keyStep]
      _ = (Expecting.afterValue value (.member [] key :: outer)).run
            (memberTokens members ++ .closeObject :: ts) := run_tokens value _ _
      _ = (Expecting.afterValue (.object ((key, value) :: members)) outer).run ts :=
        run_memberTokens members _ _ _ _ _

theorem run_itemTokens : ∀ (items before : List Json) (v : Json) (outer : List Frame) (ts : List Token),
    (Expecting.afterValue v (.item before :: outer)).run (itemTokens items ++ .closeArray :: ts) =
      (Expecting.afterValue (.array (before ++ v :: items)) outer).run ts
  | [], _, _, _, _ => rfl
  | item :: items, before, v, outer, ts =>
    calc (Expecting.afterValue v (.item before :: outer)).run
            (itemTokens (item :: items) ++ .closeArray :: ts)
      _ = (Expecting.value (.item (before ++ [v]) :: outer)).run
            (item.tokens ++ (itemTokens items ++ .closeArray :: ts)) := by
        simp [itemTokens, Expecting.run, Expecting.step, Expecting.afterStep]
      _ = (Expecting.afterValue item (.item (before ++ [v]) :: outer)).run
            (itemTokens items ++ .closeArray :: ts) := run_tokens item _ _
      _ = (Expecting.afterValue (.array (before ++ [v] ++ item :: items)) outer).run ts :=
        run_itemTokens items _ _ _ _
      _ = (Expecting.afterValue (.array (before ++ v :: item :: items)) outer).run ts := by
        rw [List.append_assoc, List.singleton_append]

theorem run_memberTokens : ∀ (members before : List (String × Json)) (key : String) (v : Json)
    (outer : List Frame) (ts : List Token),
    (Expecting.afterValue v (.member before key :: outer)).run
        (memberTokens members ++ .closeObject :: ts) =
      (Expecting.afterValue (.object (before ++ (key, v) :: members)) outer).run ts
  | [], _, _, _, _, _ => rfl
  | (key', value) :: members, before, key, v, outer, ts =>
    calc (Expecting.afterValue v (.member before key :: outer)).run
            (memberTokens ((key', value) :: members) ++ .closeObject :: ts)
      _ = (Expecting.value (.member (before ++ [(key, v)]) key' :: outer)).run
            (value.tokens ++ (memberTokens members ++ .closeObject :: ts)) := by
        simp [memberTokens, Expecting.run, Expecting.step, Expecting.afterStep, Expecting.keyStep]
      _ = (Expecting.afterValue value (.member (before ++ [(key, v)]) key' :: outer)).run
            (memberTokens members ++ .closeObject :: ts) := run_tokens value _ _
      _ = (Expecting.afterValue (.object (before ++ [(key, v)] ++ (key', value) :: members)) outer).run
            ts := run_memberTokens members _ _ _ _ _
      _ = (Expecting.afterValue (.object (before ++ (key, v) :: (key', value) :: members)) outer).run
            ts := by rw [List.append_assoc, List.singleton_append]

end

/-- **Every value is read back from its text**, in either charset and in every layout. -/
theorem read_write (charset : Charset) (indent : Indent) (v : Json) :
    read (v.write charset indent) = some v := by
  have hend : Parted [] := fun _ h => nomatch h
  have htokens : tokens? (v.write charset indent).toList = some v.tokens := by
    rw [write, String.toList_ofList, ← List.append_nil (written charset indent 0 v),
      tokens?_written 0 v [] hend]
    simp [tokens?, Mode.run, Mode.finish]
  rw [read, htokens, Option.bind_some, assemble?, ← List.append_nil v.tokens, run_tokens]
  rfl

-- Reading does not depend on how a value happens to be written.
example : read "\t[ \"\\u00E9\\/\" ,-0]\r\n" = some (.array [.text "é/", .number 0]) := by decide +kernel

end SongSheet.Json

namespace SongSheet

/-- **A document can be read back from its text**, with every member in its place. So two documents with
    one text hold the same, and a document says the same in every layout. -/
theorem document_reads_back (d : Document) (indent : Json.Indent) :
    Json.read (d.write indent) = some d.toJson ∧
      (∀ e : Document, d.write indent = e.write indent ↔ d.toJson = e.toJson) ∧
      ∀ indent' : Json.Indent, Json.read (d.write indent') = Json.read (d.write indent) := by
  have hread : ∀ (e : Document) (indent : Json.Indent), Json.read (e.write indent) = some e.toJson :=
    fun e indent => Json.read_write .unicode indent e.toJson
  refine ⟨hread d indent, fun e => ⟨fun h => ?_, fun h => ?_⟩, fun indent' => ?_⟩
  · have : some d.toJson = some e.toJson := by rw [← hread d indent, h, hread e indent]
    exact Option.some.inj this
  · rw [Document.write, h, Document.write]
  · rw [hread, hread]

end SongSheet
