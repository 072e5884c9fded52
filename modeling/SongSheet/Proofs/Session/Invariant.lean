import SongSheet.Proofs.Session.Register
import SongSheet.Proofs.Session.Rules

/-!
# What every session keeps

A session may be fed any batches, and it goes on after a failure from wherever the failing line left
it. `Session.Invariant` lists what holds of it all the same, and `Session.Extends` how it may differ
from what it was before a batch. Both are kept by every rule of reading (`Sound.reads`,
`Extends.reads`), by every end of a section and by the end of a batch, so by whole batches and by
any number of them.

Where the open section goes with the stage, the form of a stage says so. That it is no accident of this form
is said of registers, which keep the two apart: fed the same batches, a register is the session's, and what
it holds goes together (`invariant_after_every_batch`).
-/

namespace SongSheet

namespace Stage

/-- A section is open in a chord block and in a lyric block, and nowhere else. -/
theorem isSome_open?_iff (s : Stage) :
    s.open?.isSome = true ↔ s.name = "InChordBlock" ∨ s.name = "InLyricBlock" := by
  cases s <;> simp [open?, name]

theorem name_of_pendingBlank? {s : Stage} (h : s.pendingBlank?.isSome = true) :
    s.name = "InChordBlock" := by
  cases s with
  | chords block blank => rfl
  | awaiting => cases h
  | lyrics block sung => cases h
  | done => cases h

theorem name_of_lyrics {s : Stage} {x : Section} (h : s.open? = some x) (hx : x.lyrics ≠ []) :
    s.name = "InLyricBlock" := by
  cases s with
  | lyrics block sung => rfl
  | chords block blank =>
    cases h
    exact absurd rfl hx
  | awaiting => cases h
  | done => cases h

end Stage

/-- A section as the rules build it, complete or not. -/
structure Section.IsSound (settings : Settings) (s : Section) : Prop where
  name : Section.isHeader settings s.name = true
  measures : ∀ m ∈ s.measures, m.IsPlayable
  spans : ∀ y ∈ s.lyrics, 1 ≤ y.span

namespace Session

/-- What every rule keeps. -/
structure Sound (settings : Settings) (σ : Session) : Prop where
  /-- A header has been seen exactly if a section is open or complete. -/
  seen : σ.seenSection = true ↔ σ.stage.open?.isSome = true ∨ ∃ s, Event.part s ∈ σ.events
  /-- The body of a song starts with a section. -/
  starts : σ.events = [] ∨ ∃ s rest, σ.events = .part s :: rest
  tempos : ∀ d, Event.directive d ∈ σ.events → d.IsTempo settings
  parts : ∀ s, Event.part s ∈ σ.events → s.IsSound settings ∧ s.IsBalanced
  current : ∀ s, σ.stage.open? = some s → s.IsSound settings

/-- **What holds of a session after every batch.** The clauses of its own hold by the form of a stage;
    `Register.Consistent` says the same where no form does. -/
structure Invariant (settings : Settings) (σ : Session) : Prop extends Sound settings σ where
  opened : σ.stage.open?.isSome = true ↔
    σ.stage.name = "InChordBlock" ∨ σ.stage.name = "InLyricBlock"
  /-- Only a chord block has a blank line whose meaning is open. -/
  pending : σ.stage.pendingBlank?.isSome = true → σ.stage.name = "InChordBlock"
  /-- Only a lyric block has lyrics. -/
  sung : ∀ s, σ.stage.open? = some s → s.lyrics ≠ [] → σ.stage.name = "InLyricBlock"

theorem Sound.invariant {settings : Settings} {σ : Session} (h : Sound settings σ) :
    Invariant settings σ :=
  { h with
    opened := σ.stage.isSome_open?_iff
    pending := Stage.name_of_pendingBlank?
    sung := fun _ => Stage.name_of_lyrics }

variable {settings : Settings} {σ σ' σ'' : Session} {l : Line}

theorem sound_start (settings : Settings) : Sound settings {} where
  seen := by simp [Stage.open?]
  starts := Or.inl rfl
  tempos _ h := absurd h List.not_mem_nil
  parts _ h := absurd h List.not_mem_nil
  current _ h := by cases h

/-! ## 1. Steps -/

/-- Ending the open section. -/
theorem Sound.closed (h : Sound settings σ) {s : Section} (hs : σ.stage.open? = some s)
    (ht : s.IsBalanced) : Sound settings (σ.closed s) where
  seen := by
    have hseen : σ.seenSection = true := h.seen.mpr (Or.inl (by rw [hs]; rfl))
    refine ⟨fun _ => Or.inr ⟨s, ?_⟩, fun _ => hseen⟩
    exact List.mem_append_right _ List.mem_cons_self
  starts := by
    refine Or.inr ?_
    rcases h.starts with hnil | ⟨s', rest, hcons⟩
    · exact ⟨s, [], by rw [Session.closed, hnil]; rfl⟩
    · exact ⟨s', rest ++ [.part s], by rw [Session.closed, hcons]; rfl⟩
  tempos d hd := by
    rcases List.mem_append.mp hd with hd | hd
    · exact h.tempos d hd
    · cases List.mem_singleton.mp hd
  parts s' hs' := by
    rcases List.mem_append.mp hs' with hs' | hs'
    · exact h.parts s' hs'
    · cases List.mem_singleton.mp hs'
      exact ⟨h.current s hs, ht⟩
  current _ hc := by cases hc

/-- Changing the stage to one with an open section, or with none as before. -/
theorem Sound.stage (h : Sound settings σ) {st : Stage}
    (ho : st.open?.isSome = σ.stage.open?.isSome)
    (hc : ∀ s, st.open? = some s → s.IsSound settings) :
    Sound settings { σ with stage := st } where
  seen := by
    show σ.seenSection = true ↔ st.open?.isSome = true ∨ _
    rw [ho]
    exact h.seen
  starts := h.starts
  tempos := h.tempos
  parts := h.parts
  current := hc

/-- A directive, outside any section. -/
theorem Sound.take (h : Sound settings σ) (hs : σ.stage.open? = none) {d : Directive}
    (hd : Directive.read settings l = .ok d) : Sound settings (σ.take d).session := by
  rcases take_cases σ d with ⟨_, he⟩ | ⟨hseen, hkey, he⟩ | ⟨_, _, he⟩
  · rw [he]
    exact ⟨h.seen, h.starts, h.tempos, h.parts, h.current⟩
  · -- a section has been seen and none is open, so the events start with one already
    obtain ⟨s, hmem⟩ : ∃ s, Event.part s ∈ σ.events := by
      rcases h.seen.mp hseen with ho | hmem
      · rw [hs] at ho
        cases ho
      · exact hmem
    rw [he]
    refine ⟨?_, ?_, ?_, ?_, h.current⟩
    · exact ⟨fun _ => Or.inr ⟨s, List.mem_append_left _ hmem⟩, fun _ => hseen⟩
    · rcases h.starts with hnil | ⟨s', rest, hcons⟩
      · rw [hnil] at hmem
        cases hmem
      · exact Or.inr ⟨s', rest ++ [.directive d], by rw [hcons]; rfl⟩
    · intro d' hd'
      rcases List.mem_append.mp hd' with hd' | hd'
      · exact h.tempos d' hd'
      · cases List.mem_singleton.mp hd'
        exact (Directive.read_eq_ok hd).2 hkey
    · intro s' hs'
      rcases List.mem_append.mp hs' with hs' | hs'
      · exact h.parts s' hs'
      · cases List.mem_singleton.mp hs'
  · rw [he]
    exact h

/-- A header, outside any section. -/
theorem Sound.opened (h : Sound settings σ) (hl : Section.isHeader settings l.text = true) :
    Sound settings (σ.opened l) where
  seen := ⟨fun _ => Or.inl rfl, fun _ => rfl⟩
  starts := h.starts
  tempos := h.tempos
  parts := h.parts
  current s hs := by
    cases hs
    refine ⟨?_, fun m hm => absurd hm List.not_mem_nil, fun y hy => absurd hy List.not_mem_nil⟩
    rw [← hl]
    exact Line.isHeader_trim settings l.text

/-- **Every rule keeps it.** -/
theorem Sound.reads (hr : Reads settings l σ σ') (h : Sound settings σ) : Sound settings σ' := by
  induction hr with
  | comment _ => exact h
  | blank _ _ => exact h
  | directive hs _ _ hd => exact h.take hs hd
  | header _ _ hl => exact h.opened hl
  | pause hs _ =>
    refine h.stage (by rw [hs]; rfl) fun s hc => ?_
    exact h.current s (by rw [hs]; exact hc)
  | next hs _ _ _ _ ih =>
    exact ih (h.closed (by rw [hs]; rfl) (Block.isBalanced_close_nil _))
  | mark hs _ _ =>
    refine h.stage (by rw [hs]; rfl) fun s hc => ?_
    exact h.current s (by rw [hs]; exact hc)
  | measure hs _ _ _ hm =>
    refine h.stage (by rw [hs]; rfl) fun s hc => ?_
    cases hc
    have hcur := h.current _ (by rw [hs]; rfl)
    refine ⟨hcur.name, fun m' hm' => ?_, hcur.spans⟩
    rcases List.mem_append.mp hm' with hm' | hm'
    · exact hcur.measures m' hm'
    · cases List.mem_singleton.mp hm'
      exact (Measure.read_eq_ok hm).1
  | lyric hs hy =>
    refine h.stage (by rw [hs]; rfl) fun s hc => ?_
    cases hc
    have hcur := h.current _ (by rw [hs]; rfl)
    refine ⟨hcur.name, hcur.measures, fun y' hy' => ?_⟩
    rcases List.mem_append.mp hy' with hy' | hy'
    · exact hcur.spans y' hy'
    · cases List.mem_singleton.mp hy'
      exact (Lyric.read_eq_ok hy).2.1
  | rest hs _ ht => exact h.closed (by rw [hs]; rfl) ht

theorem Sound.runs {ls : List Line} (hr : Runs settings σ ls σ') (h : Sound settings σ) :
    Sound settings σ' := by
  induction hr with
  | nil => exact h
  | cons hr _ ih => exact ih (h.reads hr)

/-- How a session may differ from what it was before. -/
structure Extends (σ σ' : Session) : Prop where
  preamble : σ.preamble <+: σ'.preamble
  events : σ.events <+: σ'.events
  /-- The first header closes the preamble for good. -/
  frozen : σ.seenSection = true → σ'.preamble = σ.preamble
  seen : σ.seenSection = true → σ'.seenSection = true

theorem Extends.refl (σ : Session) : Extends σ σ :=
  ⟨List.prefix_refl _, List.prefix_refl _, fun _ => rfl, fun h => h⟩

theorem Extends.trans (h : Extends σ σ') (h' : Extends σ' σ'') : Extends σ σ'' where
  preamble := h.preamble.trans h'.preamble
  events := h.events.trans h'.events
  frozen hseen := (h'.frozen (h.seen hseen)).trans (h.frozen hseen)
  seen hseen := h'.seen (h.seen hseen)

theorem extends_closed (σ : Session) (s : Section) : Extends σ (σ.closed s) :=
  ⟨List.prefix_refl _, List.prefix_append _ _, fun _ => rfl, fun h => h⟩

theorem extends_stage (σ : Session) (st : Stage) : Extends σ { σ with stage := st } :=
  ⟨List.prefix_refl _, List.prefix_refl _, fun _ => rfl, fun h => h⟩

theorem extends_take (σ : Session) (d : Directive) : Extends σ (σ.take d).session := by
  rcases take_cases σ d with ⟨hseen, he⟩ | ⟨_, _, he⟩ | ⟨_, _, he⟩
  · rw [he]
    refine ⟨List.prefix_append _ _, List.prefix_refl _, fun h => ?_, fun h => h⟩
    rw [hseen] at h
    cases h
  · rw [he]
    exact ⟨List.prefix_refl _, List.prefix_append _ _, fun _ => rfl, fun h => h⟩
  · rw [he]
    exact .refl σ

/-- **Every rule only adds at the end.** -/
theorem Extends.reads (hr : Reads settings l σ σ') : Extends σ σ' := by
  induction hr with
  | comment _ => exact .refl _
  | blank _ _ => exact .refl _
  | directive _ _ _ _ => exact extends_take _ _
  | header _ _ _ => exact ⟨List.prefix_refl _, List.prefix_refl _, fun _ => rfl, fun _ => rfl⟩
  | pause _ _ => exact extends_stage _ _
  | next _ _ _ _ _ ih => exact (extends_closed _ _).trans ih
  | mark _ _ _ => exact extends_stage _ _
  | measure _ _ _ _ _ => exact extends_stage _ _
  | lyric _ _ => exact extends_stage _ _
  | rest _ _ _ => exact extends_closed _ _

/-! ## 2. Batches -/

theorem Sound.feed (h : Sound settings σ) (ls : List Line) :
    Sound settings (σ.feed settings ls).session := by
  refine feed_keeps (fun hr h => h.reads hr) (fun hs ht h => h.closed hs ht) ?_ σ ls h
  intro τ ho hτ
  refine hτ.stage (by rw [ho]; rfl) fun s hs => ?_
  cases hs

theorem extends_feed (σ : Session) (ls : List Line) : Extends σ (σ.feed settings ls).session := by
  refine feed_keeps (P := Extends σ) (fun hr h => h.trans (.reads hr)) ?_ ?_ σ ls (.refl σ)
  · intro τ s _ _ h
    exact h.trans (extends_closed τ s)
  · intro τ _ h
    exact h.trans (extends_stage τ .done)

/-- The session after these batches more, one after the other, whatever failed on the way. -/
def fed (settings : Settings) (σ : Session) (batches : List (List Line)) : Session :=
  batches.foldl (fun σ ls => (σ.feed settings ls).session) σ

theorem fed_cons (settings : Settings) (σ : Session) (ls : List Line)
    (batches : List (List Line)) :
    σ.fed settings (ls :: batches) = (σ.feed settings ls).session.fed settings batches := rfl

theorem fed_snoc (settings : Settings) (σ : Session) (batches : List (List Line))
    (ls : List Line) :
    σ.fed settings (batches ++ [ls]) = ((σ.fed settings batches).feed settings ls).session := by
  simp [fed]

/-- **Batch after batch, a session is fed as its register is.** -/
theorem register_fed (σ : Session) (batches : List (List Line)) :
    (σ.fed settings batches).register = σ.register.fed settings batches := by
  induction batches generalizing σ with
  | nil => rfl
  | cons ls batches ih =>
    have hfeed : (σ.feed settings ls).session.register = (σ.register.feed settings ls).register :=
      congrArg Register.Step.register (register_feed σ ls)
    rw [fed_cons, ih, hfeed]
    rfl

/-- The session after these batches, from the start. -/
def after (settings : Settings) (batches : List (List Line)) : Session := fed settings {} batches

theorem after_snoc (settings : Settings) (batches : List (List Line)) (ls : List Line) :
    after settings (batches ++ [ls]) = ((after settings batches).feed settings ls).session :=
  fed_snoc settings {} batches ls

theorem sound_after (settings : Settings) (batches : List (List Line)) :
    Sound settings (after settings batches) := by
  induction batches using List.reverseRecOn with
  | nil => exact sound_start settings
  | append_singleton batches ls ih =>
    rw [after_snoc]
    exact ih.feed ls

/-- **After every batch, failed or not, the invariant holds, and the batch has only added to what
    there was before it.** A register that was fed the same batches shows the same fields, and its phase,
    its draft, the draft's blank line and its lyrics go together. -/
theorem invariant_after_every_batch (settings : Settings) (batches : List (List Line))
    (ls : List Line) :
    Invariant settings (after settings (batches ++ [ls])) ∧
      Extends (after settings batches) (after settings (batches ++ [ls])) ∧
      Register.fed settings {} (batches ++ [ls]) = (after settings (batches ++ [ls])).register ∧
      (Register.fed settings {} (batches ++ [ls])).Consistent := by
  refine ⟨(sound_after settings _).invariant, ?_, ?_, Register.consistent_start.fed _⟩
  · rw [after_snoc]
    exact extends_feed _ ls
  · exact (register_fed {} (batches ++ [ls])).symm

end Session

end SongSheet
