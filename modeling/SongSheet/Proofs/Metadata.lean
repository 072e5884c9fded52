import Mathlib.Data.Finset.Card
import SongSheet.Proofs.Compile
import SongSheet.Proofs.Line.Directive

/-!
# The last directive counts

Directives come to metadata one after the other, and a later one takes the place of an earlier one with
the same key. So what counts under a key is its last known directive, whatever stands between
(`Metadata.add_eq_ok`); each that takes the place of another says so, in the order of the list
(`Metadata.notices_add`), and the first under each key does not, which is how many do
(`Metadata.length_overriding`). Directives with different keys do not get in each other's way, and those
that are not known do nothing at all: only the order of known directives with one key matters.
-/

namespace SongSheet

namespace Directive

/-- A known directive under a key that no topic has. -/
def IsStray (d : Directive) : Prop := d.known = true ∧ d.key ∉ ["bpm", "original", "time"]

theorem isStray_iff {d : Directive} :
    d.IsStray ↔ d.known = true ∧ Topic.ofKey? d.key = none := by
  rw [IsStray, ← ofKey?_ne_none_iff, not_not]

theorem topic?_eq_some {d : Directive} {t : Topic} :
    d.topic? = some t ↔ d.known = true ∧ d.key = t.key := by
  unfold topic?
  cases d.known with
  | false => simp
  | true =>
    simp only [if_true, true_and]
    constructor
    · intro h
      exact (Topic.key_of_ofKey? h).symm
    · intro h
      rw [h, Topic.ofKey?_key]

end Directive

namespace Metadata

variable {m : Metadata} {ds before : List Directive}

/-! ## 1. What counts -/

/-- Metadata are what they say on every topic. -/
theorem ext_get? {m m' : Metadata} (h : ∀ t, m.get? t = m'.get? t) : m = m' := by
  obtain ⟨tempo, tonality, meter⟩ := m
  obtain ⟨tempo', tonality', meter'⟩ := m'
  obtain rfl : tempo = tempo' := h .tempo
  obtain rfl : tonality = tonality' := h .tonality
  obtain rfl : meter = meter' := h .meter
  rfl

theorem lastValue?_eq (t : Topic) (ds : List Directive) :
    lastValue? t ds = (ds.filter fun d => d.known && d.key == t.key).getLast?.map (·.value) := by
  have hfilter : (ds.filter fun d => d.topic? == some t) =
      ds.filter fun d => d.known && d.key == t.key := by
    refine List.filter_congr fun d _ => ?_
    rw [Bool.eq_iff_iff, beq_iff_eq, Directive.topic?_eq_some, Bool.and_eq_true, beq_iff_eq]
  rw [lastValue?, hfilter]

/-- Directives that are not known do nothing. -/
theorem add_filter_known (m : Metadata) (ds : List Directive) :
    m.add (ds.filter (·.known)) = m.add ds := by
  induction ds generalizing m with
  | nil => rfl
  | cons d ds ih =>
    cases hk : d.known with
    | false =>
      rw [List.filter_cons_of_neg (by simp [hk]), ih, add, hk]
      rfl
    | true =>
      rw [List.filter_cons_of_pos hk, add, add, hk]
      simp only [ih]

/-- **A stray directive is a failure**, and nothing else is. -/
theorem result_add_eq_error_iff (m : Metadata) (ds : List Directive) :
    (∃ key, (m.add ds).result = .error (.unknownKey key)) ↔ ∃ d ∈ ds, d.IsStray := by
  induction ds generalizing m with
  | nil => simp [add, Report.ok]
  | cons d ds ih =>
    rw [List.exists_mem_cons_iff, Directive.isStray_iff, add]
    cases d.known with
    | false => simpa using ih m
    | true =>
      cases Topic.ofKey? d.key with
      | none => simp
      | some topic => simpa [Report.saying] using ih (m.set topic d.value)

/-- Without a stray directive the last value counts on every topic. -/
theorem result_ofDirectives (h : ∀ d ∈ ds, ¬ d.IsStray) :
    ∃ m, (ofDirectives ds).result = .ok m ∧ ∀ t, m.get? t = lastValue? t ds := by
  have hknown : ∀ d ∈ ds, d.known = true → (Topic.ofKey? d.key).isSome = true := by
    intro d hd hk
    rw [Option.isSome_iff_ne_none]
    exact fun hnone => h d hd (Directive.isStray_iff.mpr ⟨hk, hnone⟩)
  obtain ⟨m, hm, hget⟩ := add_eq_ok {} hknown
  refine ⟨m, hm, fun t => ?_⟩
  rw [hget]
  cases t <;> exact Option.or_none

/-! ## 2. What is said -/

/-- The known directives that have another with the same key before them, in order; `before` are
    those in front of the list. -/
def overriding (before : List Directive) : List Directive → List Directive
  | [] => []
  | d :: ds =>
    (if d.known && before.any (fun b => b.known && b.key == d.key) then [d] else []) ++
      overriding (before ++ [d]) ds

/-- The metadata have a value on exactly those topics that came up before. -/
def IsAfter (m : Metadata) (before : List Directive) : Prop :=
  ∀ t : Topic, (m.get? t).isSome = before.any fun b => b.known && b.key == t.key

theorem IsAfter.unknown (h : m.IsAfter before) {d : Directive} (hk : d.known = false) :
    m.IsAfter (before ++ [d]) := by
  intro t
  rw [h t]
  simp [hk]

theorem IsAfter.set (h : m.IsAfter before) {d : Directive} {topic : Topic} (hk : d.known = true)
    (hkey : d.key = topic.key) : (m.set topic d.value).IsAfter (before ++ [d]) := by
  intro t
  rw [get?_set, List.any_append, ← h t]
  by_cases ht : topic = t
  · simp [ht, hk, hkey]
  · have hne : d.key ≠ t.key := by
      intro he
      have hsome : some topic = some t := by
        rw [← Topic.ofKey?_key topic, ← hkey, he, Topic.ofKey?_key]
      exact ht (Option.some.inj hsome)
    simp [ht, hne]

/-- **Each directive that takes the place of another says so.** -/
theorem notices_add (h : m.IsAfter before) (hds : ∀ d ∈ ds, ¬ d.IsStray) :
    (m.add ds).notices = (overriding before ds).map fun d => .overridden d.key d.line := by
  induction ds generalizing m before with
  | nil => rfl
  | cons d ds ih =>
    have hds' : ∀ d' ∈ ds, ¬ d'.IsStray := fun d' hd' => hds d' (List.mem_cons_of_mem d hd')
    rw [add, overriding]
    cases hk : d.known with
    | false =>
      simp only [Bool.false_and, Bool.false_eq_true, if_false, List.nil_append]
      exact ih (h.unknown hk) hds'
    | true =>
      cases htopic : Topic.ofKey? d.key with
      | none => exact absurd (Directive.isStray_iff.mpr ⟨hk, htopic⟩) (hds d List.mem_cons_self)
      | some topic =>
        have hkey := (Topic.key_of_ofKey? htopic).symm
        have hany := h topic
        rw [← hkey] at hany
        simp only [if_true, Bool.true_and, ← hany, Report.saying, overrideNotices,
          ih (h.set hk hkey) hds', List.map_append]
        cases (m.get? topic).isSome <;> rfl

theorem notices_ofDirectives (hds : ∀ d ∈ ds, ¬ d.IsStray) :
    (ofDirectives ds).notices = (overriding [] ds).map fun d => .overridden d.key d.line := by
  have hafter : IsAfter {} [] := by
    intro t
    cases t <;> rfl
  exact notices_add hafter hds

/-- The keys under which there is a known directive. -/
def knownKeys (ds : List Directive) : Finset String := ((ds.filter (·.known)).map (·.key)).toFinset

theorem mem_knownKeys {key : String} :
    key ∈ knownKeys ds ↔ (ds.any fun d => d.known && d.key == key) = true := by
  simp [knownKeys, List.any_eq_true, and_assoc]

theorem knownKeys_snoc (before : List Directive) {d : Directive} (hk : d.known = true) :
    knownKeys (before ++ [d]) = insert d.key (knownKeys before) := by
  ext key
  simp [knownKeys, hk]

theorem knownKeys_snoc_of_unknown (before : List Directive) {d : Directive} (hk : d.known = false) :
    knownKeys (before ++ [d]) = knownKeys before := by
  simp [knownKeys, hk]

/-- **Every known directive takes the place of another or brings up its key.** -/
theorem length_overriding (before ds : List Directive) :
    (overriding before ds).length + (knownKeys (before ++ ds)).card =
      (ds.filter (·.known)).length + (knownKeys before).card := by
  induction ds generalizing before with
  | nil => simp [overriding]
  | cons d ds ih =>
    have ih' := ih (before ++ [d])
    rw [List.append_assoc, List.singleton_append] at ih'
    rw [overriding, List.length_append]
    cases hk : d.known with
    | false =>
      rw [knownKeys_snoc_of_unknown before hk] at ih'
      rw [List.filter_cons_of_neg (by simp [hk])]
      simpa using ih'
    | true =>
      have hfilter : ((d :: ds).filter (·.known)).length = (ds.filter (·.known)).length + 1 := by
        simp [hk]
      rw [knownKeys_snoc before hk] at ih'
      rw [hfilter, Bool.true_and]
      by_cases hmem : d.key ∈ knownKeys before
      · rw [Finset.insert_eq_of_mem hmem] at ih'
        rw [if_pos (mem_knownKeys.mp hmem), List.length_singleton]
        omega
      · rw [Finset.card_insert_of_notMem hmem] at ih'
        rw [if_neg (fun hany => hmem (mem_knownKeys.mpr hany)), List.length_nil]
        omega

end Metadata

/-! ## 3. Songs -/

/-- A directive read from a line is known only under the key of a topic. -/
theorem Directive.not_isStray_of_read {settings : Settings} {l : Line} {d : Directive}
    (h : Directive.read settings l = .ok d) : ¬ d.IsStray := by
  intro hstray
  obtain ⟨hknown, hnone⟩ := isStray_iff.mp hstray
  rw [known_of_read h, hnone] at hknown
  cases hknown

theorem Song.not_isStray_of_read {settings : Settings} {ls : List Line} {song : Song}
    (h : (Song.read settings ls).result = .ok song) : ∀ d ∈ song.preamble, ¬ d.IsStray := by
  intro d hd
  obtain ⟨l, hl⟩ := exists_line_of_mem_preamble h hd
  exact Directive.not_isStray_of_read hl

/-- **The last directive under a key counts.** Directives come to metadata unless a known one among them
    has a key that no topic has. Then each topic has the value of the last known directive under its key,
    if there is one; each directive that takes the place of another says so, in order, and they are as
    many as there are known directives beyond the first under each key. The same metadata come from the
    directives in any other order that leaves those under one key as they are, and with any others added
    or left out that are not known. -/
theorem last_directive_counts (ds : List Directive) :
    ((∃ key, (Metadata.ofDirectives ds).result = .error (.unknownKey key)) ↔
        ∃ d ∈ ds, d.known = true ∧ d.key ∉ ["bpm", "original", "time"]) ∧
      ((∀ d ∈ ds, ¬ (d.known = true ∧ d.key ∉ ["bpm", "original", "time"])) →
        ∃ m, (Metadata.ofDirectives ds).result = .ok m ∧
          (∀ t : Topic, m.get? t =
            (ds.filter fun d => d.known && d.key == t.key).getLast?.map (·.value)) ∧
          (Metadata.ofDirectives ds).notices =
            (Metadata.overriding [] ds).map (fun d => .overridden d.key d.line) ∧
          (Metadata.ofDirectives ds).notices.length + (Metadata.knownKeys ds).card =
            (ds.filter (·.known)).length ∧
          (∀ ds' : List Directive,
            (∀ key, ds'.filter (·.key == key) = ds.filter (·.key == key)) →
              (Metadata.ofDirectives ds').result = .ok m) ∧
          ∀ ds' : List Directive, ds'.filter (·.known) = ds.filter (·.known) →
            (Metadata.ofDirectives ds').result = .ok m) := by
  refine ⟨Metadata.result_add_eq_error_iff {} ds, fun hds => ?_⟩
  obtain ⟨m, hm, hget⟩ := Metadata.result_ofDirectives hds
  have hnotices := Metadata.notices_ofDirectives hds
  refine ⟨m, hm, fun t => by rw [hget, Metadata.lastValue?_eq], hnotices, ?_, fun ds' hds' => ?_,
    fun ds' hds' => ?_⟩
  · have hlength := Metadata.length_overriding [] ds
    rw [List.nil_append] at hlength
    rw [hnotices, List.length_map, hlength]
    rfl
  · -- the directives are the same, and so is the last of them under each key
    have hmem : ∀ d, d ∈ ds' → d ∈ ds := by
      intro d hd
      have hkey : d ∈ ds'.filter (·.key == d.key) := List.mem_filter.mpr ⟨hd, beq_self_eq_true _⟩
      rw [hds'] at hkey
      exact (List.mem_filter.mp hkey).1
    obtain ⟨m', hm', hget'⟩ := Metadata.result_ofDirectives fun d hd => hds d (hmem d hd)
    have hsame : m' = m := by
      refine Metadata.ext_get? fun t => ?_
      have hknown : ∀ es : List Directive, (es.filter fun d => d.known && d.key == t.key) =
          (es.filter (·.key == t.key)).filter (·.known) := fun es => List.filter_filter.symm
      rw [hget', hget, Metadata.lastValue?_eq, Metadata.lastValue?_eq, hknown, hknown, hds']
    rw [hm', hsame]
  · have hadd : Metadata.ofDirectives ds' = Metadata.ofDirectives ds := by
      unfold Metadata.ofDirectives
      rw [← Metadata.add_filter_known, hds', Metadata.add_filter_known]
    rw [hadd, hm]

/-- The second tempo counts and says so; a directive that is not known, and the metre in another place,
    change nothing. -/
theorem last_directive_counts_short :
    (Metadata.ofDirectives [⟨"bpm", .number 90, 1, true⟩, ⟨"capo", .text "2", 2, false⟩,
        ⟨"time", .meter 3 4, 3, true⟩, ⟨"bpm", .number 100, 4, true⟩]).notices =
        [.overridden "bpm" 4] ∧
      (Metadata.ofDirectives [⟨"time", .meter 3 4, 3, true⟩, ⟨"bpm", .number 90, 1, true⟩,
        ⟨"bpm", .number 100, 4, true⟩, ⟨"capo", .text "2", 2, false⟩]).result =
        .ok ⟨some (.number 100), none, some (.meter 3 4)⟩ := by
  have hstray : ∀ d ∈ [(⟨"bpm", .number 90, 1, true⟩ : Directive), ⟨"capo", .text "2", 2, false⟩,
      ⟨"time", .meter 3 4, 3, true⟩, ⟨"bpm", .number 100, 4, true⟩],
      ¬ (d.known = true ∧ d.key ∉ ["bpm", "original", "time"]) := by decide
  obtain ⟨m, hm, hget, hnotices, _, hreordered, _⟩ := (last_directive_counts _).2 hstray
  have hvalues : m = ⟨some (.number 100), none, some (.meter 3 4)⟩ :=
    Metadata.ext_get? fun t => by rw [hget]; cases t <;> decide
  refine ⟨hnotices.trans (by decide), ?_⟩
  rw [← hvalues]
  refine hreordered _ fun key => ?_
  by_cases hbpm : key = "bpm"
  · subst hbpm
    decide
  · by_cases htime : key = "time"
    · subst htime
      decide
    · simp [List.filter_cons, Ne.symm hbpm, Ne.symm htime]

end SongSheet
