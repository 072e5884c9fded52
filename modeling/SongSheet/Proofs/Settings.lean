import SongSheet.Proofs.Compile
import SongSheet.Proofs.Line.Refusal

/-!
# Looser settings

Settings are asked at three places: whether a tempo is within the bounds, whether a line is short
enough to be a header, and whether lyrics are written out. A wider range of tempos and longer headers
never make anything else of a song that is accepted. The header test decides twice what a line is,
outside any section and after a pause in a chord block, but where it says no the line is refused, and so
the accepted song never came to such a place (`Reads.loosen`). What remains to show is that a test
passed under the narrower settings is passed under the wider ones.
-/

namespace SongSheet

/-! ## 1. Settings side by side -/

/-- **The second settings are the looser ones**: the same comment mark, a range of tempos that holds the
    other, and headers that may be longer. Nothing is said of lyrics. -/
structure Settings.Loosens (c c' : Settings) : Prop where
  mark : c'.commentMark = c.commentMark
  minBpm : c'.minBpm ≤ c.minBpm
  maxBpm : c.maxBpm ≤ c'.maxBpm
  header : c.maxHeaderLength ≤ c'.maxHeaderLength

variable {c c' : Settings}

/-! ## 2. Single lines -/

/-- A header stays one. -/
theorem Settings.Loosens.isHeader (h : c.Loosens c') {text : String}
    (hl : Section.isHeader c text = true) : Section.isHeader c' text = true := by
  obtain ⟨hne, hlen, hmark, hcomment, hrest⟩ := Line.isHeader_iff.mp hl
  refine Line.isHeader_iff.mpr ⟨hne, Int.le_trans hlen h.header, hmark, ?_, hrest⟩
  rw [h.mark]
  exact hcomment

namespace Directive

/-- A tempo stays one, to the same number. The bounds are written out before anything is read, so the
    new ones must not be too long for that. -/
theorem readTempo_of_loosens (h : c.Loosens c') (hw : c'.IsWritable) {value : String} {line bpm : Int}
    (hv : readTempo c value line = .ok bpm) : readTempo c' value line = .ok bpm := by
  have hbounds := readTempo_eq_ok hv
  have hlow : c'.minBpm ≤ bpm := Int.le_trans h.minBpm hbounds.1
  have hhigh : bpm ≤ c'.maxBpm := Int.le_trans hbounds.2 h.maxBpm
  unfold readTempo at hv ⊢
  dsimp only at hv ⊢
  rw [hw.1, hw.2]
  split at hv
  · cases hv
  · split at hv
    · cases hv
    · rename_i hnum
      split at hv
      · cases hv
      · rename_i n hn
        split at hv
        · cases hv
          simp [hnum, hlow, hhigh]
        · cases hv

theorem map_eq_ok {α β : Type} {x : Except Failure α} {f : α → β} {b : β} (h : x.map f = .ok b) :
    ∃ a, x = .ok a ∧ f a = b := by
  cases x with
  | error e => cases h
  | ok a =>
    cases h
    exact ⟨a, rfl, rfl⟩

theorem readValue_of_loosens (h : c.Loosens c') (hw : c'.IsWritable) {topic : Topic}
    {value : String} {line : Int} {v : Value} (hv : readValue c topic value line = .ok v) :
    readValue c' topic value line = .ok v := by
  unfold readValue at hv ⊢
  cases topic with
  | tempo =>
    obtain ⟨bpm, hbpm, rfl⟩ := map_eq_ok hv
    rw [readTempo_of_loosens h hw hbpm]
    rfl
  | tonality => exact hv
  | meter => exact hv

/-- **A directive stays one, with the same value.** -/
theorem read_of_loosens (h : c.Loosens c') (hw : c'.IsWritable) {l : Line} {d : Directive}
    (hd : Directive.read c l = .ok d) : Directive.read c' l = .ok d := by
  unfold Directive.read at hd ⊢
  split at hd
  · cases hd
  · rename_i key value hparts
    dsimp only at hd ⊢
    split at hd
    · exact hd
    · obtain ⟨v, hv, rfl⟩ := map_eq_ok hd
      rw [readValue_of_loosens h hw hv]
      rfl

end Directive

/-! ## 3. Sessions -/

namespace Session

variable {σ σ' : Session} {l : Line} {ls : List Line}

theorem skips_of_loosens (h : c.Loosens c') (σ : Session) (l : Line) :
    σ.skips c' l = σ.skips c l := by
  unfold skips
  rw [h.mark]

theorem startsNext_of_loosens (h : c.Loosens c') (hl : startsNext c l = true) :
    startsNext c' l = true := by
  rw [startsNext, Bool.or_eq_true] at hl ⊢
  exact hl.imp id h.isHeader

/-- **Every rule carries over.** No rule asks for a line that is not a header. -/
theorem Reads.loosen (h : c.Loosens c') (hw : c'.IsWritable) (hr : Reads c l σ σ') :
    Reads c' l σ σ' := by
  have hcomment : l.isComment c.commentMark = false → l.isComment c'.commentMark = false := by
    intro hc
    rw [h.mark]
    exact hc
  induction hr with
  | comment hk => exact .comment ((skips_of_loosens h _ l).trans hk)
  | blank hs hb => exact .blank hs hb
  | directive hs hc hl hd => exact .directive hs (hcomment hc) hl (Directive.read_of_loosens h hw hd)
  | header hs hc hl => exact .header hs (hcomment hc) (h.isHeader hl)
  | pause hs hb => exact .pause hs hb
  | next hs hm hc hl _ ih => exact .next hs hm (hcomment hc) (startsNext_of_loosens h hl) ih
  | mark hs hc hl => exact .mark hs (hcomment hc) hl
  | measure hs hc hb hl hm => exact .measure hs (hcomment hc) hb hl hm
  | lyric hs hy => exact .lyric hs hy
  | rest hs hb ht => exact .rest hs hb ht

theorem Runs.loosen (h : c.Loosens c') (hw : c'.IsWritable) (hr : Runs c σ ls σ') :
    Runs c' σ ls σ' := by
  induction hr with
  | nil => exact .nil
  | cons hr _ ih => exact .cons (hr.loosen h hw) ih

/-- **Lines that are a song are the same song under looser settings.** -/
theorem songRead_of_loosens (h : c.Loosens c') (hw : c'.IsWritable) {song : Song}
    (hread : (Song.read c ls).result = .ok song) : (Song.read c' ls).result = .ok song := by
  obtain ⟨σ, hr, he⟩ := songRead_eq_ok_iff.mp hread
  exact songRead_eq_ok_iff.mpr ⟨σ, hr.loosen h hw, he⟩

end Session

/-! ## 4. Documents -/

namespace Json

mutual

/-- The value without any member of this key, at any depth. -/
def without (key : String) : Json → Json
  | .array items => .array (withoutItems key items)
  | .object members => .object (withoutMembers key members)
  | value => value

/-- The items of an array, each without any such member. -/
def withoutItems (key : String) : List Json → List Json
  | [] => []
  | item :: items => item.without key :: withoutItems key items

/-- The members of an object without those of this key, and the others without any in them. -/
def withoutMembers (key : String) : List (String × Json) → List (String × Json)
  | [] => []
  | (k, value) :: members =>
    if k = key then withoutMembers key members
    else (k, value.without key) :: withoutMembers key members

end

theorem withoutItems_eq_map (key : String) (items : List Json) :
    withoutItems key items = items.map (without key) := by
  induction items with
  | nil => rfl
  | cons item items ih => rw [withoutItems, ih, List.map_cons]

end Json

/-- Only the lyrics of a section depend on whether lyrics are wanted. -/
theorem Section.toJson_without_lyrics (b b' : Bool) (s : Section) :
    (s.toJson b).without "lyrics" = (s.toJson b').without "lyrics" := by
  have hnone : ∀ b, (s.toJson b).without "lyrics" = (s.toJson false).without "lyrics" := by
    intro b
    cases b with
    | false => rfl
    | true => simp [Section.toJson, Json.without, Json.withoutMembers]
  rw [hnone b, hnone b']

/-- Documents of the same sections and the same prompter differ in nothing but their lyrics. -/
theorem Document.toJson_without_lyrics {d d' : Document} (hs : d'.sections = d.sections)
    (hp : d'.prompter = d.prompter) : d'.toJson.without "lyrics" = d.toJson.without "lyrics" := by
  have hsections : Json.withoutItems "lyrics" (d.sections.map (Section.toJson d'.includeLyrics)) =
      Json.withoutItems "lyrics" (d.sections.map (Section.toJson d.includeLyrics)) := by
    rw [Json.withoutItems_eq_map, Json.withoutItems_eq_map, List.map_map, List.map_map]
    exact List.map_congr_left fun s _ => Section.toJson_without_lyrics _ _ s
  simp only [Document.toJson, Json.without, Json.withoutMembers, hs, hp, hsections]

/-- **Looser settings never change an accepted song.** The document is the same, with the same metadata,
    sections and prompter, and as JSON it differs at most in whether it holds the lyrics. -/
theorem compile_of_looser_settings {c c' : Settings} {text : String} {document : Document}
    (h : c.Loosens c') (hw : c'.IsWritable) (hok : (compile c text).result = .ok document) :
    ∃ document', (compile c' text).result = .ok document' ∧
      document'.metadata = document.metadata ∧ document'.sections = document.sections ∧
      document'.prompter = document.prompter ∧
      document'.toJson.without "lyrics" = document.toJson.without "lyrics" ∧
      (c'.includeLyrics = c.includeLyrics → document'.toJson = document.toJson) := by
  obtain ⟨song, m, hread, hm, rfl⟩ := compile_eq_ok_iff.mp hok
  have hread' := Session.songRead_of_loosens h hw hread
  refine ⟨Document.build c' m song.events, compile_eq_ok_iff.mpr ⟨song, m, hread', hm, rfl⟩, rfl, rfl,
    rfl, Document.toJson_without_lyrics rfl rfl, fun hlyrics => ?_⟩
  rw [Document.build, Document.build, hlyrics]

/-- A song under settings that ask for less and write out its lyrics. -/
theorem compile_of_looser_settings_short :
    ∃ document, (compile { minBpm := 20, maxHeaderLength := 80, includeLyrics := true }
        "@bpm 90\nVerse\nC\n--\nLa _1").result = .ok document ∧
      document.metadata = { tempo := some (.number 90) } ∧
      document.sections = [⟨"Verse", [⟨[⟨"C", ⟨"C", "maj", none⟩, 3⟩], 3⟩], [⟨"La", 1, 5⟩], 2⟩] := by
  have hok : (compile {} "@bpm 90\nVerse\nC\n--\nLa _1").result = .ok (Document.build {}
      { tempo := some (.number 90) } [.part
        ⟨"Verse", [⟨[⟨"C", ⟨"C", "maj", none⟩, 3⟩], 3⟩], [⟨"La", 1, 5⟩], 2⟩]) := by decide +kernel
  have hloose : Settings.Loosens {}
      { minBpm := 20, maxHeaderLength := 80, includeLyrics := true } :=
    ⟨rfl, by decide, by decide, by decide⟩
  obtain ⟨document, hdocument, hmetadata, hsections, _⟩ :=
    compile_of_looser_settings hloose ⟨by decide +kernel, by decide +kernel⟩ hok
  exact ⟨document, hdocument, hmetadata, hsections⟩

end SongSheet
