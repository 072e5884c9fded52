import SongSheet.Compile
import SongSheet.Proofs.Session.Entries

/-!
# What a song compiles to

Building a document cannot fail for a song that was read from lines: its directives count as known
only under keys that name a topic. So a text is refused exactly if its lines are
(`compile_eq_error_iff`), and otherwise the document is the one of the song, with metadata in which
for every topic the last directive counts (`compile_eq_ok`).
-/

namespace SongSheet

/-! ## 1. Directives come from lines -/

/-- Every directive of a preamble is the reading of a line. -/
theorem exists_line_of_mem_preamble {settings : Settings} {ls : List Line} {song : Song}
    (h : (Song.read settings ls).result = .ok song) {d : Directive} (hd : d ∈ song.preamble) :
    ∃ l, Directive.read settings l = .ok d := by
  have hmem : Entry.directive d ∈ song.entries :=
    List.mem_append_left _ (List.mem_map_of_mem hd)
  obtain ⟨l, _, hl⟩ := exists_mem_of_forall₂ (Session.entries_of_songRead h) hmem
  exact ⟨l, hl⟩

/-! ## 2. Metadata -/

/-- What a directive is about, if it counts. -/
def Directive.topic? (d : Directive) : Option Topic := if d.known then Topic.ofKey? d.key else none

/-- The value of the last directive on a topic. -/
def Metadata.lastValue? (t : Topic) (ds : List Directive) : Option Value :=
  (ds.filter fun d => d.topic? == some t).getLast?.map (·.value)

/-- A directive read from a line is on the topic that its key names. -/
theorem Directive.topic?_eq_some_iff {settings : Settings} {l : Line} {d : Directive} {t : Topic}
    (h : Directive.read settings l = .ok d) : d.topic? = some t ↔ d.key = t.key := by
  have hkey : d.topic? = Topic.ofKey? d.key := by
    rw [topic?, known_of_read h]
    cases Topic.ofKey? d.key <;> rfl
  rw [hkey]
  constructor
  · intro ht
    exact (Topic.key_of_ofKey? ht).symm
  · intro ht
    rw [ht, Topic.ofKey?_key]

namespace Metadata

/-- Among directives read from lines, those on a topic are those with its key. -/
theorem lastValue?_of_read {settings : Settings} {ds : List Directive}
    (h : ∀ d ∈ ds, ∃ l, Directive.read settings l = .ok d) (t : Topic) :
    lastValue? t ds = ((ds.filter fun d => d.key = t.key).map (·.value)).getLast? := by
  have hfilter : (ds.filter fun d => d.topic? == some t) = ds.filter fun d => d.key = t.key := by
    refine List.filter_congr fun d hd => ?_
    obtain ⟨l, hl⟩ := h d hd
    rw [beq_eq_decide]
    exact decide_eq_decide.mpr (Directive.topic?_eq_some_iff hl)
  rw [lastValue?, hfilter, List.getLast?_map]

theorem lastValue?_cons (t : Topic) (d : Directive) (ds : List Directive) :
    lastValue? t (d :: ds) =
      (lastValue? t ds).or (if d.topic? = some t then some d.value else none) := by
  unfold lastValue?
  by_cases h : d.topic? = some t
  · have hfilter : ((d :: ds).filter fun d => d.topic? == some t) =
        d :: ds.filter fun d => d.topic? == some t := by simp [h]
    rw [hfilter, if_pos h, List.getLast?_cons]
    cases (ds.filter fun d => d.topic? == some t).getLast? <;> rfl
  · simp [h]

/-- **The last directive on a topic counts**, and what was there before if there is none. -/
theorem add_eq_ok {ds : List Directive} (m : Metadata)
    (h : ∀ d ∈ ds, d.known = true → (Topic.ofKey? d.key).isSome = true) :
    ∃ m', (m.add ds).result = .ok m' ∧ ∀ t, m'.get? t = (lastValue? t ds).or (m.get? t) := by
  induction ds generalizing m with
  | nil => exact ⟨m, rfl, fun t => rfl⟩
  | cons d ds ih =>
    have hds : ∀ d ∈ ds, d.known = true → (Topic.ofKey? d.key).isSome = true :=
      fun d' hd' => h d' (List.mem_cons_of_mem _ hd')
    cases hk : d.known with
    | false =>
      obtain ⟨m', hm', hget⟩ := ih m hds
      refine ⟨m', by rw [add, hk]; exact hm', fun t => ?_⟩
      have htopic : d.topic? = none := by simp [Directive.topic?, hk]
      rw [hget, lastValue?_cons, htopic]
      simp
    | true =>
      obtain ⟨topic, htopic⟩ := Option.isSome_iff_exists.mp (h d List.mem_cons_self hk)
      obtain ⟨m', hm', hget⟩ := ih (m.set topic d.value) hds
      refine ⟨m', ?_, fun t => ?_⟩
      · rw [add, hk, htopic]
        exact hm'
      · have htopic' : d.topic? = some topic := by simp [Directive.topic?, hk, htopic]
        rw [hget, lastValue?_cons, get?_set, htopic', Option.or_assoc]
        by_cases ht : topic = t <;> simp [ht]

end Metadata

/-! ## 3. Documents -/

variable {settings : Settings} {text : String}

/-- **A song read from lines always compiles.** -/
theorem Song.compile_of_read {ls : List Line} {song : Song}
    (h : (Song.read settings ls).result = .ok song) :
    ∃ m : Metadata, (∀ t, m.get? t = Metadata.lastValue? t song.preamble) ∧
      (song.compile settings).result = .ok (Document.build settings m song.events) := by
  have hknown : ∀ d ∈ song.preamble, d.known = true → (Topic.ofKey? d.key).isSome = true := by
    intro d hd hk
    obtain ⟨l, hl⟩ := exists_line_of_mem_preamble h hd
    rw [← Directive.known_of_read hl]
    exact hk
  obtain ⟨m, hm, hget⟩ := Metadata.add_eq_ok {} hknown
  refine ⟨m, fun t => ?_, ?_⟩
  · rw [hget]
    cases t <;> exact Option.or_none
  · have hof : (Metadata.ofDirectives song.preamble).result = .ok m := hm
    unfold Song.compile Report.andThen
    rw [hof]
    rfl

/-- **A text is refused exactly if its lines are.** -/
theorem compile_eq_error_iff {e : Failure} :
    (compile settings text).result = .error e ↔
      (Song.read settings (Line.scan text)).result = .error e := by
  unfold compile Report.andThen
  cases hread : (Song.read settings (Line.scan text)).result with
  | error e' => simp
  | ok song =>
    obtain ⟨m, _, hm⟩ := Song.compile_of_read hread
    simp [hm]

/-- What it takes to compile: the lines are a song, and its preamble comes to metadata. -/
theorem compile_eq_ok_iff {document : Document} :
    (compile settings text).result = .ok document ↔
      ∃ (song : Song) (m : Metadata), (Song.read settings (Line.scan text)).result = .ok song ∧
        (Metadata.ofDirectives song.preamble).result = .ok m ∧
        document = Document.build settings m song.events := by
  unfold compile Song.compile Report.andThen
  cases (Song.read settings (Line.scan text)).result with
  | error e => simp
  | ok song =>
    cases hm : (Metadata.ofDirectives song.preamble).result with
    | error e => simp [hm]
    | ok m => simp [hm, Report.saying, Report.ok, eq_comm]

/-- **What a document is made of**: the song on the lines, and of each topic the last value in its
    preamble. -/
theorem compile_eq_ok {document : Document} (h : (compile settings text).result = .ok document) :
    ∃ (song : Song) (m : Metadata), (Song.read settings (Line.scan text)).result = .ok song ∧
      (∀ t, m.get? t = Metadata.lastValue? t song.preamble) ∧
      document = Document.build settings m song.events := by
  unfold compile Report.andThen at h
  cases hread : (Song.read settings (Line.scan text)).result with
  | error e => rw [hread] at h; cases h
  | ok song =>
    obtain ⟨m, hget, hm⟩ := Song.compile_of_read hread
    rw [hread] at h
    dsimp only at h
    rw [hm] at h
    cases h
    exact ⟨song, m, rfl, hget, rfl⟩

end SongSheet
