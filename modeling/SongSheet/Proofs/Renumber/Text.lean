import SongSheet.Proofs.Compile
import SongSheet.Proofs.Layout
import SongSheet.Proofs.Line.Endings
import SongSheet.Proofs.Renumber.Session

/-!
# Empty lines in front of a text

Line feeds put in front of a text are empty lines in front of its lines, and move the numbers of all
others (`Line.scan_append_newlines`). A session that has read nothing yet passes them over, so the song is
the one of the text with its numbers moved (`Song.read_append_newlines`). Metadata and JSON hold no
numbers, and do not change; the measures on the prompter do.

A text with a byte order mark is apart: behind a line feed the mark is a character like any other.
-/

namespace SongSheet

/-! ## 1. Lines -/

namespace Line

/-- Line feeds in front cut off as many empty pieces, and join with nothing behind them. -/
theorem pieces_append_newlines (k : Nat) (cs : List Char) :
    Text.pieces '\n' ((joinEndings (List.replicate k '\n' ++ cs)).map unifyEnding) =
      List.replicate k [] ++ Text.pieces '\n' ((joinEndings cs).map unifyEnding) := by
  induction k with
  | zero => rfl
  | succ k ih =>
    have hjoin : joinEndings ('\n' :: (List.replicate k '\n' ++ cs)) =
        '\n' :: joinEndings (List.replicate k '\n' ++ cs) := rfl
    have hunify : unifyEnding '\n' = '\n' := by decide
    rw [List.replicate_succ, List.cons_append, hjoin, List.map_cons, hunify, Text.pieces, if_pos rfl,
      ih]
    rfl

theorem split_append_newlines {text : String} (h : text.toList.head? ≠ some '\ufeff') (k : Nat) :
    split (String.ofList (List.replicate k '\n') ++ text) = List.replicate k "" ++ split text := by
  have hmark : (List.replicate k '\n' ++ text.toList).head? ≠ some '\ufeff' := by
    cases k with
    | zero => exact h
    | succ k => simp [List.replicate_succ]
  unfold split
  rw [String.toList_append, String.toList_ofList, dropByteOrderMark_eq_self hmark,
    dropByteOrderMark_eq_self h, pieces_append_newlines]
  simp

theorem numbered_append (first : Int) (ts ts' : List String) :
    numbered first (ts ++ ts') = numbered first ts ++ numbered (first + ts.length) ts' := by
  induction ts generalizing first with
  | nil => simp [numbered]
  | cons t ts ih =>
    have hfirst : first + 1 + (ts.length : Int) = first + (t :: ts).length := by
      rw [List.length_cons]
      omega
    rw [List.cons_append, numbered, ih, hfirst]
    rfl

/-- Lines numbered from further on are the lines with their numbers moved. -/
theorem numbered_add (first k : Int) (ts : List String) :
    numbered (first + k) ts = (numbered first ts).map (Line.renumber (· + k)) := by
  induction ts generalizing first with
  | nil => rfl
  | cons t ts ih =>
    have hfirst : first + k + 1 = first + 1 + k := by omega
    rw [numbered, hfirst, ih]
    rfl

/-- **The lines of a text behind line feeds.** -/
theorem scan_append_newlines {text : String} (h : text.toList.head? ≠ some '\ufeff') (k : Nat) :
    ∃ blanks : List Line, (∀ z ∈ blanks, z.isBlank = true) ∧
      scan (String.ofList (List.replicate k '\n') ++ text) =
        blanks ++ (scan text).map (Line.renumber (· + k)) := by
  refine ⟨numbered 1 (List.replicate k ""), fun z hz => ?_, ?_⟩
  · have htext : z.text ∈ List.replicate k "" := by
      rw [← map_text_numbered 1 (List.replicate k "")]
      exact List.mem_map_of_mem hz
    rw [isBlank, List.eq_of_mem_replicate htext]
    decide
  · rw [scan, scan, split_append_newlines h, numbered_append, List.length_replicate, numbered_add]

end Line

/-! ## 2. Songs -/

/-- A session at rest passes over blank lines, as many as there are. -/
theorem Session.readAll_of_atRest {settings : Settings} {σ : Session} (h : σ.AtRest)
    {blanks : List Line} (hb : ∀ z ∈ blanks, z.isBlank = true) :
    σ.readAll settings blanks = σ.stay := by
  induction blanks with
  | nil => rfl
  | cons z blanks ih =>
    have hz := hb z List.mem_cons_self
    rw [readAll, read_of_atRest h hz, stay_andThen]
    exact ih fun z' hz' => hb z' (List.mem_cons_of_mem z hz')

theorem Song.read_append_blanks {settings : Settings} {blanks : List Line}
    (hb : ∀ z ∈ blanks, z.isBlank = true) (ls : List Line) :
    Song.read settings (blanks ++ ls) = Song.read settings ls := by
  have hrest : ({} : Session).AtRest := Or.inl rfl
  rw [Song.read, Song.read, Session.feed, Session.feed, Session.readAll_append,
    Session.readAll_of_atRest hrest hb, Session.stay_andThen]

theorem Song.read_append_newlines {settings : Settings} {text : String}
    (h : text.toList.head? ≠ some '\ufeff') (k : Nat) :
    Song.read settings (Line.scan (String.ofList (List.replicate k '\n') ++ text)) =
      (Song.read settings (Line.scan text)).renumber (· + k) (Song.renumber (· + k)) := by
  obtain ⟨blanks, hb, hscan⟩ := Line.scan_append_newlines h k
  rw [hscan, Song.read_append_blanks hb, Song.read_renumber]

/-! ## 3. Documents -/

/-- A tempo on the prompter has no line; a section shows its measures, which have. -/
def Item.renumber (f : Int → Int) : Item → Item
  | .tempo bpm => .tempo bpm
  | .content name measures => .content name (measures.map (Measure.renumber f))

variable {f : Int → Int}

/-- Metadata hold no line numbers. -/
theorem Metadata.result_add_renumber (m : Metadata) (ds : List Directive) :
    (m.add (ds.map (Directive.renumber f))).result = (m.add ds).result := by
  induction ds generalizing m with
  | nil => rfl
  | cons d ds ih =>
    have hknown : (d.renumber f).known = d.known := rfl
    have hkey : (d.renumber f).key = d.key := rfl
    have hvalue : (d.renumber f).value = d.value := rfl
    rw [List.map_cons, add, add, hknown, hkey, hvalue]
    cases d.known with
    | false => exact ih m
    | true =>
      cases Topic.ofKey? d.key with
      | none => rfl
      | some topic => exact ih (m.set topic d.value)

theorem Measure.texts_renumber (m : Measure) : (m.renumber f).texts = m.texts := by
  unfold texts renumber
  rw [List.map_map]
  rfl

theorem gridJson_renumber (ms : List Measure) :
    gridJson (ms.map (Measure.renumber f)) = gridJson ms := by
  unfold gridJson
  rw [List.map_map]
  refine congrArg Json.array (List.map_congr_left fun m _ => ?_)
  exact congrArg Json.texts m.texts_renumber

theorem Section.toJson_renumber (includeLyrics : Bool) (s : Section) :
    (s.renumber f).toJson includeLyrics = s.toJson includeLyrics := by
  have hlyrics : (s.renumber f).lyrics.map Lyric.toJson = s.lyrics.map Lyric.toJson := by
    rw [Section.renumber, List.map_map]
    rfl
  have hgrid : gridJson (s.renumber f).measures = gridJson s.measures := gridJson_renumber _
  unfold Section.toJson
  rw [hlyrics, hgrid, Section.name_renumber]

theorem Item.toJson_renumber (i : Item) : (i.renumber f).toJson = i.toJson := by
  cases i with
  | tempo bpm => rfl
  | content name measures =>
    simp only [renumber, toJson, gridJson_renumber]

theorem Event.item_renumber (e : Event) : (e.renumber f).item = e.item.renumber f := by
  cases e <;> rfl

theorem timeline_renumber (m : Metadata) (es : List Event) :
    timeline m (es.map (Event.renumber f)) = (timeline m es).map (Item.renumber f) := by
  have htempo : (m.tempo.toList.map Item.tempo).map (Item.renumber f) =
      m.tempo.toList.map Item.tempo := by
    rw [List.map_map]
    rfl
  have hevents : (es.map (Event.renumber f)).map Event.item =
      (es.map Event.item).map (Item.renumber f) := by
    rw [List.map_map, List.map_map]
    exact List.map_congr_left fun e _ => e.item_renumber
  rw [timeline, timeline, List.map_append, htempo, hevents]

theorem Event.filterMap_part?_renumber (es : List Event) :
    (es.map (Event.renumber f)).filterMap Event.part? =
      (es.filterMap Event.part?).map (Section.renumber f) := by
  have hpart : ∀ e : Event, (e.renumber f).part? = e.part?.map (Section.renumber f) := by
    intro e
    cases e <;> rfl
  rw [List.filterMap_map, List.map_filterMap]
  exact List.filterMap_congr fun e _ => hpart e

/-- **As JSON a renumbered song is the song.** -/
theorem Document.toJson_build_renumber (settings : Settings) (m : Metadata) (es : List Event) :
    (Document.build settings m (es.map (Event.renumber f))).toJson =
      (Document.build settings m es).toJson := by
  have hsections : ((es.filterMap Event.part?).map (Section.renumber f)).map
      (Section.toJson settings.includeLyrics) =
      (es.filterMap Event.part?).map (Section.toJson settings.includeLyrics) := by
    rw [List.map_map]
    exact List.map_congr_left fun s _ => s.toJson_renumber _
  have hitems : ((timeline m es).map (Item.renumber f)).map Item.toJson =
      (timeline m es).map Item.toJson := by
    rw [List.map_map]
    exact List.map_congr_left fun i _ => i.toJson_renumber
  unfold Document.toJson Document.build
  rw [Event.filterMap_part?_renumber, timeline_renumber]
  dsimp only
  rw [hsections, hitems]

/-- **Line numbers are carried, never consulted.** Lines numbered in any other way come to the same song
    and the same notices, or fail for the same reason, with every number exchanged for the other. So empty
    lines in front of a text change neither its JSON nor its metadata; they move the numbers of the
    measures and chords on the prompter, or of the line a diagnostic points at. -/
theorem line_numbers_are_carried (settings : Settings) :
    (∀ (f : Int → Int) (ls : List Line), Song.read settings (ls.map (Line.renumber f)) =
      (Song.read settings ls).renumber f (Song.renumber f)) ∧
    ∀ (k : Nat) (text : String), text.toList.head? ≠ some '\ufeff' →
      (∀ document, (compile settings text).result = .ok document →
        ∃ document',
          (compile settings (String.ofList (List.replicate k '\n') ++ text)).result = .ok document' ∧
          document'.toJson = document.toJson ∧ document'.metadata = document.metadata ∧
          document'.prompter = document.prompter.map (Item.renumber (· + k))) ∧
      (∀ e, (compile settings text).result = .error e →
        (compile settings (String.ofList (List.replicate k '\n') ++ text)).result =
          .error (e.renumber (· + k))) := by
  refine ⟨fun f ls => Song.read_renumber ls, fun k text hmark => ⟨fun document hok => ?_,
    fun e herror => ?_⟩⟩
  · obtain ⟨song, m, hread, hm, rfl⟩ := compile_eq_ok_iff.mp hok
    have hread' : (Song.read settings
        (Line.scan (String.ofList (List.replicate k '\n') ++ text))).result =
        .ok (song.renumber (· + k)) := by
      rw [Song.read_append_newlines hmark, Report.renumber, hread]
      rfl
    have hm' : (Metadata.ofDirectives (song.renumber (· + k)).preamble).result = .ok m := by
      rw [← hm]
      exact Metadata.result_add_renumber {} song.preamble
    refine ⟨Document.build settings m (song.renumber (· + k)).events,
      compile_eq_ok_iff.mpr ⟨_, m, hread', hm', rfl⟩, ?_, rfl, ?_⟩
    · exact Document.toJson_build_renumber settings m song.events
    · exact timeline_renumber m song.events
  · rw [compile_eq_error_iff] at herror ⊢
    rw [Song.read_append_newlines hmark, Report.renumber, herror]
    rfl

/-- Two empty lines in front of a song and in front of a text that is none. -/
theorem line_numbers_are_carried_short :
    (∃ document, (compile {} (String.ofList (List.replicate 2 '\n') ++ "Verse\nC")).result =
        .ok document ∧
      document.prompter = [.content "Verse" [⟨[⟨"C", ⟨"C", "maj", none⟩, 4⟩], 4⟩]]) ∧
    (compile {} (String.ofList (List.replicate 2 '\n') ++ "C;G")).result =
      .error (.diagnostic ((Problem.unexpectedLine "C;G" false).on 3)) := by
  obtain ⟨_, hmoved⟩ := line_numbers_are_carried {}
  have hok : (compile {} "Verse\nC").result = .ok (Document.build {} {} [.part
      ⟨"Verse", [⟨[⟨"C", ⟨"C", "maj", none⟩, 2⟩], 2⟩], [], 1⟩]) := by decide +kernel
  have herror : (compile {} "C;G").result =
      .error (.diagnostic ((Problem.unexpectedLine "C;G" false).on 1)) := by decide +kernel
  obtain ⟨document, hdocument, _, _, hprompter⟩ := (hmoved 2 "Verse\nC" (by decide)).1 _ hok
  exact ⟨⟨document, hdocument, hprompter⟩, (hmoved 2 "C;G" (by decide)).2 _ herror⟩

/-- **The prompter is not the same behind an empty line**: its measures and chords know their lines. -/
theorem prompter_moves_with_its_lines :
    ∃ document document', (compile {} "Verse\nC").result = .ok document ∧
      (compile {} (String.ofList (List.replicate 1 '\n') ++ "Verse\nC")).result = .ok document' ∧
      document'.prompter ≠ document.prompter := by
  refine ⟨Document.build {} {} [.part ⟨"Verse", [⟨[⟨"C", ⟨"C", "maj", none⟩, 2⟩], 2⟩], [], 1⟩],
    Document.build {} {} [.part ⟨"Verse", [⟨[⟨"C", ⟨"C", "maj", none⟩, 3⟩], 3⟩], [], 2⟩], ?_, ?_, ?_⟩
  · decide +kernel
  · decide +kernel
  · decide

end SongSheet
