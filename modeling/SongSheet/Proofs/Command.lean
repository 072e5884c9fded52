import SongSheet.Command
import SongSheet.Proofs.Line.Endings
import SongSheet.Proofs.Text.Pieces

/-!
# The command and the compiler

The command does with a file what the compiler does with its text (`command_agrees_with_compile`): it
succeeds where the compiler does, and then gives the document, printed or in the file asked for; otherwise
it prints nothing and writes nothing. Four things have to be seen for that. A row of arguments means the
same in any order; a plain file name leads to the file of that name; unifying the line endings on the way
does not change what is compiled; and what the command writes of an attempt that succeeded is the document
written out.
-/

namespace SongSheet.Command

/-! ## 1. Arguments -/

/-- One thing asked for on the command line. -/
inductive Part where
  | file
  | pretty
  | lyrics
  | output
  deriving DecidableEq, Repr

variable {f g : String} {parts : List Part}

namespace Part

/-- How it is asked for, with `f` the input file and `g` the output file. -/
def arguments (f g : String) : Part → List String
  | .file => [f]
  | .pretty => ["--pretty"]
  | .lyrics => ["--lyrics"]
  | .output => ["-o", g]

/-- How the arguments look. -/
def words (f g : String) : Part → List Word
  | .file => [.plain f]
  | .pretty => [.option .pretty .long none]
  | .lyrics => [.option .lyrics .long none]
  | .output => [.option .output .short none, .plain g]

/-- What has been asked for, with this too. -/
def ask (f g : String) (p : Progress) : Part → Progress
  | .file => { p with input := some f, fresh := true }
  | .pretty => { p with pretty := true, fresh := false }
  | .lyrics => { p with lyrics := true, fresh := false }
  | .output => { p with output := some g, fresh := false }

/-- The order made up of all that is asked for. -/
def order (f g : String) (parts : List Part) : Order where
  input := f
  output := if .output ∈ parts then some g else none
  pretty := decide (.pretty ∈ parts)
  lyrics := decide (.lyrics ∈ parts)

end Part

/-- The argument does not look like an option. -/
def IsPlain (arg : String) : Prop := arg.toList.head? ≠ some '-'

instance : DecidablePred IsPlain := fun arg => inferInstanceAs (Decidable (arg.toList.head? ≠ some '-'))

theorem ofArgument_of_isPlain {arg : String} (h : IsPlain arg) : Word.ofArgument arg = .ok (.plain arg) := by
  unfold Word.ofArgument
  split
  · rename_i heq
    exact absurd (by rw [heq]; rfl) h
  · rename_i heq
    exact absurd (by rw [heq]; rfl) h
  · rfl

theorem words_cons {arg : String} {args : List String} {w : Word} {ws : List Word} (hne : arg ≠ "--")
    (hw : Word.ofArgument arg = .ok w) (hws : words args = .ok ws) :
    words (arg :: args) = .ok (w :: ws) := by
  rw [words, if_neg hne, hw, hws]
  rfl

theorem words_cons_of_isPlain {arg : String} {args : List String} {ws : List Word} (h : IsPlain arg)
    (hws : words args = .ok ws) : words (arg :: args) = .ok (.plain arg :: ws) := by
  refine words_cons ?_ (ofArgument_of_isPlain h) hws
  rintro rfl
  exact h rfl

namespace Part

theorem words_arguments (hf : IsPlain f) (hg : .output ∈ parts → IsPlain g) :
    Command.words (parts.flatMap (arguments f g)) = .ok (parts.flatMap (words f g)) := by
  induction parts with
  | nil => rfl
  | cons part parts ih =>
    have hrest := ih fun h => hg (List.mem_cons_of_mem _ h)
    rw [List.flatMap_cons, List.flatMap_cons]
    cases part with
    | file => exact words_cons_of_isPlain hf hrest
    | pretty | lyrics => exact words_cons (by decide) (by decide +kernel) hrest
    | output =>
      exact words_cons (by decide) (by decide +kernel)
        (words_cons_of_isPlain (hg List.mem_cons_self) hrest)

theorem take_part {p : Progress} {part : Part} {ws : List Word} (hhelp : p.help = false)
    (hinput : part = .file → p.input = none) :
    p.take (words f g part ++ ws) = (ask f g p part).take ws := by
  cases part with
  | file => simp [words, ask, Progress.take, Progress.takePlain, hinput rfl]
  | pretty | lyrics | output =>
    simp [words, ask, Progress.take, acts, bareAct, Switch.takesValue, Progress.takeActs, Progress.act, hhelp]

/-- **Things asked for in any order, and as often as you like, make one order**, if there is one input
    file. `p` is what was asked for before. -/
theorem take_words {p : Progress} (hhelp : p.help = false) (hleft : p.left = [])
    (hfile : p.input.toList ++ List.replicate (parts.count .file) f = [f]) :
    p.take (parts.flatMap (words f g)) =
      .ok (.compile { input := f
                      output := if .output ∈ parts then some g else p.output
                      pretty := p.pretty || decide (.pretty ∈ parts)
                      lyrics := p.lyrics || decide (.lyrics ∈ parts)
                      verbose := p.verbose }) := by
  induction parts generalizing p with
  | nil =>
    have hinput : p.input = some f := by
      cases hp : p.input with
      | none => simp [hp] at hfile
      | some input => simpa [hp] using hfile
    simp [Progress.take, Progress.request, hinput, hleft]
  | cons part parts ih =>
    have hinput : part = .file → p.input = none := by
      rintro rfl
      cases hp : p.input with
      | none => rfl
      | some input => simp [hp, List.replicate_succ] at hfile
    have hhelp' : (ask f g p part).help = false := by cases part <;> exact hhelp
    have hleft' : (ask f g p part).left = [] := by cases part <;> exact hleft
    have hfile' : (ask f g p part).input.toList ++ List.replicate (parts.count .file) f = [f] := by
      cases part with
      | file => simpa [hinput, ask, List.replicate_succ] using hfile
      | pretty | lyrics | output => simpa [ask] using hfile
    rw [List.flatMap_cons, take_part hhelp hinput, ih hhelp' hleft' hfile']
    cases part <;> simp [ask]

theorem request_arguments (hfile : parts.count .file = 1) (hf : IsPlain f)
    (hg : .output ∈ parts → IsPlain g) :
    request (parts.flatMap (arguments f g)) = .ok (.compile (order f g parts)) := by
  rw [request, words_arguments hf hg]
  dsimp only
  rw [take_words rfl rfl (by simp [hfile])]
  simp [order]

end Part

/-! ## 2. File names -/

/-- A name that a file in a folder can have: one step of a path that is not a step to a folder, without a
    null character, and no longer than a step may be. -/
structure IsFileName (name : String) : Prop where
  ne_nil : name.toList ≠ []
  ne_dot : name.toList ≠ ['.']
  ne_up : name.toList ≠ ['.', '.']
  slash : '/' ∉ name.toList
  null : '\x00' ∉ name.toList
  size : name.utf8ByteSize ≤ maxStepSize

namespace IsFileName

variable {name : String}

theorem rootOf_eq (h : IsFileName name) : Path.rootOf name.toList = [] := by
  unfold Path.rootOf
  split
  · exact absurd (by simp_all) h.slash
  · exact absurd (by simp_all) h.slash
  · exact absurd (by simp_all) h.slash
  · rfl

theorem steps_eq (h : IsFileName name) : Path.steps name.toList = [name.toList] := by
  have hkeep : (!name.toList.isEmpty && name.toList != ['.']) = true := by
    simp [h.ne_nil, h.ne_dot]
  rw [Path.steps, Text.pieces_of_not_mem h.slash]
  exact List.filter_cons_of_pos hkeep

theorem normalize_eq (h : IsFileName name) : Path.normalize name = name := by
  have hpath : Path.rootOf name.toList ++ ['/'].intercalate (Path.steps name.toList) = name.toList := by
    rw [h.rootOf_eq, h.steps_eq]
    simp [List.intercalate]
  unfold Path.normalize
  dsimp only
  rw [hpath, if_neg (by simpa using h.ne_nil), String.ofList_toList]

theorem contains_null (h : IsFileName name) : name.toList.contains '\x00' = false := by
  simpa using h.null

/-- **A file name leads to the file of that name**, or to where it will be. -/
theorem resolve_eq (h : IsFileName name) {folder : Folder} (hb : folder.isBranch [name.toList] = false) :
    folder.resolve name =
      .ok (match folder.get? name with
        | some text => .file name text
        | none => .vacant (some name)) := by
  have hpath : ¬ maxPathSize < name.utf8ByteSize := by
    have := h.size
    simp only [maxStepSize, maxPathSize] at *
    omega
  have henter : folder.enter (.inside []) name.toList =
      .inl (match folder.get? name with
        | some text => .file name text
        | none => .vacant (some name)) := by
    have hjoined : joined [name.toList] = name := by simp [joined, List.intercalate]
    simp only [Folder.enter, List.nil_append, hjoined, hb]
    cases folder.get? name <;> rfl
  unfold Folder.resolve
  rw [h.contains_null, if_neg (by decide), if_neg hpath, h.rootOf_eq, h.steps_eq,
    if_pos List.isEmpty_nil]
  rw [Folder.walk, if_neg h.ne_up, String.ofList_toList, if_neg (Nat.not_lt.mpr h.size), henter]
  rfl

theorem write_eq (h : IsFileName name) {folder : Folder} (hb : folder.isBranch [name.toList] = false)
    (text : String) : folder.write name text = .ok (folder.put name text) := by
  unfold Folder.write
  rw [h.resolve_eq hb]
  cases folder.get? name <;> rfl

end IsFileName

namespace Folder

variable {folder : Folder} {name other text : String}

theorem get?_put_self : (folder.put name text).get? name = some text := List.lookup_cons_self

theorem get?_put_of_ne (h : other ≠ name) : (folder.put name text).get? other = folder.get? other := by
  have hfilter : (folder.filter fun file => file.1 != name).lookup other = folder.lookup other := by
    induction folder with
    | nil => rfl
    | cons file folder ih =>
      obtain ⟨key, value⟩ := file
      by_cases hkey : key = name
      · subst key
        rw [List.filter_cons_of_neg (by simp), ih, List.lookup_cons, beq_eq_false_iff_ne.mpr h]
      · rw [List.filter_cons_of_pos (by simpa using hkey), List.lookup_cons, List.lookup_cons, ih]
  rw [get?, put, List.lookup_cons, beq_eq_false_iff_ne.mpr h]
  exact hfilter

/-- The path leads to a file with this text. -/
def Holds (folder : Folder) (path text : String) : Prop :=
  ∃ name, folder.resolve (Path.normalize path) = .ok (.file name text)

/-- A file of the folder is found under its name. -/
theorem holds_of_get? (h : IsFileName name) (hb : folder.isBranch [name.toList] = false)
    (ht : folder.get? name = some text) : folder.Holds name text :=
  ⟨name, by rw [h.normalize_eq, h.resolve_eq hb, ht]⟩

theorem read_of_holds {path : String} (h : folder.Holds path text) :
    folder.read (Path.normalize path) = .ok (some (Line.withLineFeeds text)) := by
  obtain ⟨name, hname⟩ := h
  rw [Folder.read, hname]

end Folder

/-! ## 3. Orders -/

theorem compile_withLineFeeds (settings : Settings) (text : String) :
    compile settings (Line.withLineFeeds text) = compile settings text := by
  rw [compile, Line.scan_withLineFeeds, compile]

/-- What an attempt shows of a document, written out, is the document written out. -/
theorem write_data? (d : Document) (indent : Json.Indent) :
    ((Attempt.compiled d).data?.getD .null).write .unicode indent = d.write indent := rfl

namespace Order

variable {o : Order} {text : String} {d : Document} {e : Failure}

theorem run_of_ok (h : (compile o.settings text).result = .ok d) :
    ∃ log, o.run text = .ok (match o.output with
      | none => { exit := 0, stdout := d.write o.indent ++ "\n", stderr := log }
      | some path =>
        { exit := 0, stderr := log, written := some (Path.normalize path, d.write o.indent ++ "\n") }) := by
  have hattempt : (attempt o.settings text).result = .ok (.compiled d) := by
    unfold attempt
    dsimp only
    rw [h]
  have hsucceeded : (Attempt.compiled d).succeeded = true := rfl
  unfold run
  dsimp only
  rw [hattempt]
  dsimp only
  rw [hsucceeded, write_data?]
  cases o.output with
  | none => exact ⟨_, rfl⟩
  | some path => exact ⟨_, rfl⟩

theorem run_of_error (h : (compile o.settings text).result = .error e) :
    (∃ log, o.run text = .ok { exit := 1, stderr := log }) ∨ o.run text = .error e := by
  unfold run attempt
  dsimp only
  rw [h]
  cases e with
  | diagnostic d => exact .inl ⟨_, rfl⟩
  | numeral limit | unknownKey key => exact .inr rfl

end Order

/-! ## 4. Runs -/

section Outcome

variable {folder : Folder} {args : List String} {o : Order} {t : String} {d : Document} {e : Failure}

/-- A run with an order is that order carried out on the text of its file. -/
theorem run_of_effect {effect : Effect} (hreq : request args = .ok (.compile o))
    (ht : folder.Holds o.input t) (h : o.run (Line.withLineFeeds t) = .ok effect) :
    run folder args = effect.perform folder := by
  simp only [run, hreq, Order.runIn, Order.inputPath, Folder.read_of_holds ht, h]

theorem run_of_failure (hreq : request args = .ok (.compile o)) (ht : folder.Holds o.input t)
    (h : o.run (Line.withLineFeeds t) = .error e) : run folder args = .error (.failure e) := by
  simp only [run, hreq, Order.runIn, Order.inputPath, Folder.read_of_holds ht, h]

theorem outcome_printed (hreq : request args = .ok (.compile o)) (ht : folder.Holds o.input t)
    (ho : o.output = none) (h : (compile o.settings t).result = .ok d) :
    (outcome folder args).effect.exit = 0 ∧
      (outcome folder args).effect.stdout = d.write o.indent ++ "\n" ∧
      (outcome folder args).folder = folder := by
  rw [← compile_withLineFeeds] at h
  obtain ⟨log, hrun⟩ := Order.run_of_ok h
  rw [ho] at hrun
  rw [outcome, run_of_effect hreq ht hrun]
  exact ⟨rfl, rfl, rfl⟩

theorem outcome_written (hreq : request args = .ok (.compile o)) (ht : folder.Holds o.input t)
    (ho : o.output = some g) (hg : IsFileName g) (hb : folder.isBranch [g.toList] = false)
    (h : (compile o.settings t).result = .ok d) :
    (outcome folder args).effect.exit = 0 ∧ (outcome folder args).effect.stdout = "" ∧
      (outcome folder args).folder = folder.put g (d.write o.indent ++ "\n") := by
  rw [← compile_withLineFeeds] at h
  obtain ⟨log, hrun⟩ := Order.run_of_ok h
  rw [ho] at hrun
  rw [outcome, run_of_effect hreq ht hrun]
  dsimp only [Effect.perform]
  rw [hg.normalize_eq, hg.write_eq hb]
  exact ⟨rfl, rfl, rfl⟩

theorem outcome_refused (hreq : request args = .ok (.compile o)) (ht : folder.Holds o.input t)
    (h : (compile o.settings t).result = .error e) :
    (outcome folder args).effect.exit = 1 ∧ (outcome folder args).effect.stdout = "" ∧
      (outcome folder args).folder = folder := by
  rw [← compile_withLineFeeds] at h
  rcases Order.run_of_error h with ⟨log, hrun⟩ | hrun
  · rw [outcome, run_of_effect hreq ht hrun]
    exact ⟨rfl, rfl, rfl⟩
  · rw [outcome, run_of_failure hreq ht hrun]
    exact ⟨rfl, rfl, rfl⟩

end Outcome

/-- **The command does what the compiler does**, in whatever order it is asked. It succeeds exactly on the
    texts that compile. Then the document is printed and no file changes, or nothing is printed and only
    the output file changes. On any other text nothing is printed and no file changes. -/
theorem command_agrees_with_compile {folder : Folder} {f g t : String} {parts : List Part}
    (hfile : parts.count .file = 1) (hf : IsPlain f) (ht : folder.Holds f t)
    (hg : .output ∈ parts → IsPlain g ∧ IsFileName g ∧ folder.isBranch [g.toList] = false) :
    let settings : Settings := { includeLyrics := decide (.lyrics ∈ parts) }
    let json (d : Document) : String := d.write (if .pretty ∈ parts then some 2 else none) ++ "\n"
    let result := (compile settings t).result
    let after := outcome folder (parts.flatMap (Part.arguments f g))
    (after.effect.exit = 0 ↔ ∃ d, result = .ok d) ∧
      (∀ d, result = .ok d → .output ∉ parts → after.effect.stdout = json d ∧ after.folder = folder) ∧
      (∀ d, result = .ok d → .output ∈ parts → after.effect.stdout = "" ∧
        after.folder.get? g = some (json d) ∧
        ∀ name, name ≠ g → after.folder.get? name = folder.get? name) ∧
      ∀ e, result = .error e →
        after.effect.exit = 1 ∧ after.effect.stdout = "" ∧ after.folder = folder := by
  intro settings json result after
  have hreq := Part.request_arguments hfile hf fun h => (hg h).1
  have hindent : (Part.order f g parts).indent = if .pretty ∈ parts then some 2 else none := by
    simp [Order.indent, Part.order]
  have hprinted : ∀ d, result = .ok d → .output ∉ parts →
      after.effect.exit = 0 ∧ after.effect.stdout = json d ∧ after.folder = folder := by
    intro d hd hout
    have := outcome_printed hreq ht (if_neg hout) hd
    rwa [hindent] at this
  have hwritten : ∀ d, result = .ok d → .output ∈ parts →
      after.effect.exit = 0 ∧ after.effect.stdout = "" ∧ after.folder = folder.put g (json d) := by
    intro d hd hout
    have := outcome_written hreq ht (if_pos hout) (hg hout).2.1 (hg hout).2.2 hd
    rwa [hindent] at this
  have hrefused : ∀ e, result = .error e →
      after.effect.exit = 1 ∧ after.effect.stdout = "" ∧ after.folder = folder :=
    fun e he => outcome_refused hreq ht he
  refine ⟨⟨fun hexit => ?_, ?_⟩, fun d hd hout => (hprinted d hd hout).2, fun d hd hout => ?_, hrefused⟩
  · cases hr : result with
    | ok d => exact ⟨d, rfl⟩
    | error e =>
      rw [(hrefused e hr).1] at hexit
      cases hexit
  · rintro ⟨d, hd⟩
    by_cases hout : .output ∈ parts
    · exact (hwritten d hd hout).1
    · exact (hprinted d hd hout).1
  · obtain ⟨_, hstdout, hfolder⟩ := hwritten d hd hout
    rw [hfolder]
    exact ⟨hstdout, Folder.get?_put_self, fun name hname => Folder.get?_put_of_ne hname⟩

theorem command_rewrites_old_output :
    ∃ d, (compile { includeLyrics := true } "\ufeffVerse\r\nC\r--\nLa _1").result = .ok d ∧
      (outcome [("song.txt", "\ufeffVerse\r\nC\r--\nLa _1"), ("song.json", "old")]
        ["-o", "song.json", "song.txt", "--lyrics"]).effect.exit = 0 ∧
      (outcome [("song.txt", "\ufeffVerse\r\nC\r--\nLa _1"), ("song.json", "old")]
        ["-o", "song.json", "song.txt", "--lyrics"]).folder.get? "song.json" =
        some (d.write none ++ "\n") := by
  have hf : IsFileName "song.txt" := by constructor <;> decide +kernel
  have hg : IsFileName "song.json" := by constructor <;> decide +kernel
  have hd : (compile { includeLyrics := true } "\ufeffVerse\r\nC\r--\nLa _1").result =
      .ok (Document.build { includeLyrics := true } {}
        [.part ⟨"Verse", [⟨[⟨"C", ⟨"C", "maj", none⟩, 2⟩], 2⟩], [⟨"La", 1, 4⟩], 1⟩]) := by decide +kernel
  have hargs : [Part.output, .file, .lyrics].flatMap (Part.arguments "song.txt" "song.json") =
      ["-o", "song.json", "song.txt", "--lyrics"] := rfl
  have hlyrics : decide (Part.lyrics ∈ [Part.output, .file, .lyrics]) = true := rfl
  have hpretty : Part.pretty ∉ [Part.output, .file, .lyrics] := by decide
  have h := @command_agrees_with_compile
    [("song.txt", "\ufeffVerse\r\nC\r--\nLa _1"), ("song.json", "old")] "song.txt" "song.json" _
    [.output, .file, .lyrics] rfl (by decide) (Folder.holds_of_get? hf (by decide +kernel) rfl)
    fun _ => ⟨by decide, hg, by decide +kernel⟩
  dsimp only at h
  rw [hargs, hlyrics, if_neg hpretty] at h
  obtain ⟨hexit, _, hwritten, _⟩ := h
  exact ⟨_, hd, hexit.mpr ⟨_, hd⟩, (hwritten _ hd (by decide)).2.1⟩

end SongSheet.Command
