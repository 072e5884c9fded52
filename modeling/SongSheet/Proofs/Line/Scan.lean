import SongSheet.Proofs.Line
import SongSheet.Proofs.Line.Endings
import SongSheet.Proofs.Text.Pieces

/-!
# A text is cut in one pass

Line endings are unified in two passes over the whole text, and only then is it cut. `Line.cut` does it
in one, from left to right: a carriage return with a line feed behind it is one ending, and so is either
alone. The first pass makes line feeds that stand beside others, and the second makes more; that none of
them is taken for a part of an ending it does not belong to is what `Line.pieces_unified` says.

The other way round, a text can be put together from lines, with any ending between two of them.
`Line.Written` is such a text before it is one. The one thing to be kept apart is a carriage return and a
line feed with nothing between them, which would be one ending and not two. It is cut into the lines it
was put together from (`text_is_cut_in_one_pass`).
-/

namespace SongSheet

namespace Line

open Text (pieces)

/-! ## 1. One pass -/

/-- The lines of a text, found in one pass. -/
def cut : List Char → List (List Char)
  | [] => [[]]
  | '\r' :: '\n' :: cs => [] :: cut cs
  | c :: cs => if c = '\r' ∨ c = '\n' then [] :: cut cs else (cut cs).modifyHead (c :: ·)

/-- How many endings a text has. -/
def endingCount : List Char → Nat
  | [] => 0
  | '\r' :: '\n' :: cs => endingCount cs + 1
  | c :: cs => endingCount cs + if c = '\r' ∨ c = '\n' then 1 else 0

/-- The characters of a text, without a byte order mark in front. -/
def body (text : String) : List Char :=
  if text.toList.head? = some '\ufeff' then text.toList.tail else text.toList

/-- **Two passes and a cut come to the same as one pass.** -/
theorem pieces_unified (cs : List Char) : pieces '\n' (unified cs) = cut cs := by
  unfold unified
  fun_induction cut cs with
  | case1 => rfl
  | case2 cs ih =>
    rw [joinEndings, List.map_cons, show unifyEnding '\n' = '\n' from by decide, pieces, if_pos rfl, ih]
  | case3 c cs hpair hend ih =>
    have hunify : unifyEnding c = '\n' := by
      rcases hend with rfl | rfl <;> decide
    rw [joinEndings, List.map_cons, hunify, pieces, if_pos rfl, ih]
    exact hpair
  | case4 c cs hpair hend ih =>
    rw [not_or] at hend
    have hunify : unifyEnding c = c := if_neg hend.1
    rw [joinEndings, List.map_cons, hunify, pieces, if_neg hend.2, ih]
    exact hpair

theorem dropByteOrderMark_eq_body (text : String) : dropByteOrderMark text.toList = body text := by
  unfold body
  split
  · rename_i hmark
    obtain ⟨rest, hrest⟩ := List.head?_eq_some_iff.mp hmark
    rw [hrest]
    rfl
  · rename_i hmark
    exact dropByteOrderMark_eq_self hmark

theorem split_eq_cut (text : String) : split text = (cut (body text)).map String.ofList := by
  show (pieces '\n' (unified (dropByteOrderMark text.toList))).map String.ofList = _
  rw [dropByteOrderMark_eq_body, pieces_unified]

/-- One line more than there are endings. -/
theorem length_cut (cs : List Char) : (cut cs).length = endingCount cs + 1 := by
  fun_induction cut cs with
  | case1 => rfl
  | case2 cs ih => rw [endingCount, List.length_cons, ih]
  | case3 c cs hpair hend ih =>
    rw [endingCount, if_pos hend, List.length_cons, ih]
    exact hpair
  | case4 c cs hpair hend ih =>
    rw [endingCount, if_neg hend, List.length_modifyHead, ih, Nat.add_zero]
    exact hpair

/-- The mark is no ending. -/
theorem endingCount_body (text : String) : endingCount (body text) = endingCount text.toList := by
  unfold body
  split
  · rename_i hmark
    obtain ⟨rest, hrest⟩ := List.head?_eq_some_iff.mp hmark
    rw [hrest]
    rfl
  · rfl

/-- A text without an ending in it. -/
def IsPlain (s : String) : Prop := '\r' ∉ s.toList ∧ '\n' ∉ s.toList

theorem isPlain_of_mem_split {text s : String} (h : s ∈ split text) : IsPlain s := by
  obtain ⟨p, hp, rfl⟩ := List.mem_map.mp h
  rw [IsPlain, String.toList_ofList]
  have hchars : ∀ c ∈ p, c ∈ unified (dropByteOrderMark text.toList) ∧ c ≠ '\n' :=
    fun c hc => Text.exists_mem_pieces_iff.mp ⟨p, hp, hc⟩
  exact ⟨fun hr => return_not_mem_unified _ (hchars _ hr).1, fun hn => (hchars _ hn).2 rfl⟩

theorem map_number_numbered (first : Int) (ts : List String) :
    (numbered first ts).map number = (List.range ts.length).map fun i : Nat => first + (i : Int) := by
  induction ts generalizing first with
  | nil => rfl
  | cons t ts ih =>
    rw [numbered, List.map_cons, ih, List.length_cons, List.range_succ_eq_map, List.map_cons,
      List.map_map]
    refine congrArg₂ List.cons (Int.add_zero first).symm (List.map_congr_left fun i _ => ?_)
    show first + 1 + (i : Int) = first + ((i + 1 : Nat) : Int)
    omega

/-! ## 2. Lines put together -/

/-- What may stand between two lines. -/
inductive Ending where
  | lineFeed
  | carriageReturn
  | both
  deriving DecidableEq

/-- The characters of an ending. -/
def Ending.chars : Ending → List Char
  | .lineFeed => ['\n']
  | .carriageReturn => ['\r']
  | .both => ['\r', '\n']

/-- A line with the ending in front of it. -/
structure Follower where
  ending : Ending
  line : String

/-- Two endings that cannot grow into one: not a carriage return and, behind an empty line, a line
    feed. -/
def Follower.Apart (r r' : Follower) : Prop :=
  ¬ (r.ending = .carriageReturn ∧ r.line = "" ∧ r'.ending = .lineFeed)

/-- Lines and what stands between them. -/
structure Written where
  first : String
  rest : List Follower
  first_plain : IsPlain first
  first_unmarked : first.toList.head? ≠ some '\ufeff'
  rest_plain : ∀ r ∈ rest, IsPlain r.line
  rest_apart : rest.IsChain Follower.Apart

namespace Written

/-- The lines, without what stands between them. -/
def lines (w : Written) : List String := w.first :: w.rest.map (·.line)

/-- What comes behind the first line. -/
def following (rest : List Follower) : List Char :=
  rest.flatMap fun r => r.ending.chars ++ r.line.toList

/-- The text, perhaps with a byte order mark in front. -/
def text (w : Written) (marked : Bool) : String :=
  String.ofList ((if marked then ['\ufeff'] else []) ++ (w.first.toList ++ following w.rest))

end Written

/-- What holds no ending is part of the first line. -/
theorem cut_append_of_isPlain {s : String} (h : IsPlain s) (cs : List Char) :
    cut (s.toList ++ cs) = (cut cs).modifyHead (s.toList ++ ·) := by
  obtain ⟨hr, hn⟩ := h
  generalize s.toList = bs at hr hn
  induction bs with
  | nil =>
    rw [List.nil_append]
    cases cut cs <;> rfl
  | cons b bs ih =>
    rw [List.mem_cons, not_or] at hr hn
    have hend : ¬ (b = '\r' ∨ b = '\n') := by
      rintro (rfl | rfl)
      · exact hr.1 rfl
      · exact hn.1 rfl
    rw [List.cons_append, cut, if_neg hend, ih hr.2 hn.2]
    · cases cut cs <;> rfl
    · intro _ hb
      exact absurd hb.symm hr.1

/-- An ending cuts once, unless the text goes on as if it were the longer one. -/
theorem cut_ending {e : Ending} {cs : List Char}
    (h : e = .carriageReturn → cs.head? ≠ some '\n') : cut (e.chars ++ cs) = [] :: cut cs := by
  cases e with
  | lineFeed =>
    show cut ('\n' :: cs) = _
    rw [cut, if_pos (Or.inr rfl)]
    intro _ hc
    cases hc
  | both => rfl
  | carriageReturn =>
    show cut ('\r' :: cs) = _
    rw [cut, if_pos (Or.inl rfl)]
    rintro rest _ rfl
    exact h rfl rfl

theorem head?_following {r : Follower} {rest : List Follower} (hr : IsPlain r.line)
    (hapart : (r :: rest).IsChain Follower.Apart) (hreturn : r.ending = .carriageReturn) :
    (r.line.toList ++ Written.following rest).head? ≠ some '\n' := by
  intro hhead
  cases hline : r.line.toList with
  | cons c cs =>
    rw [hline] at hhead
    obtain rfl : c = '\n' := Option.some.inj hhead
    exact hr.2 (by rw [hline]; exact List.mem_cons_self)
  | nil =>
    rw [hline, List.nil_append] at hhead
    cases rest with
    | nil => cases hhead
    | cons r' rest =>
      have hfeed : r'.ending = .lineFeed := by
        cases hend : r'.ending with
        | lineFeed => rfl
        | carriageReturn => simp [Written.following, hend, Ending.chars] at hhead
        | both => simp [Written.following, hend, Ending.chars] at hhead
      have hempty : r.line = "" := String.toList_eq_nil_iff.mp hline
      exact (List.isChain_cons_cons.mp hapart).1 ⟨hreturn, hempty, hfeed⟩

/-- **Every ending starts a line, and every line goes to the next ending.** -/
theorem cut_following {rest : List Follower} (hplain : ∀ r ∈ rest, IsPlain r.line)
    (hapart : rest.IsChain Follower.Apart) :
    cut (Written.following rest) = [] :: rest.map fun r => r.line.toList := by
  induction rest with
  | nil => rfl
  | cons r rest ih =>
    have hr := hplain r List.mem_cons_self
    have ih' := ih (fun r' hr' => hplain r' (List.mem_cons_of_mem r hr')) hapart.of_cons
    have hcons : Written.following (r :: rest) =
        r.ending.chars ++ (r.line.toList ++ Written.following rest) := by
      simp [Written.following]
    rw [hcons, cut_ending (head?_following hr hapart), cut_append_of_isPlain hr, ih']
    simp

theorem body_text (w : Written) (marked : Bool) :
    body (w.text marked) = w.first.toList ++ Written.following w.rest := by
  unfold body Written.text
  rw [String.toList_ofList]
  cases marked with
  | true => rfl
  | false =>
    rw [if_neg]
    · rfl
    · show (w.first.toList ++ Written.following w.rest).head? ≠ some '\ufeff'
      cases hfirst : w.first.toList with
      | cons c cs =>
        have hmark := w.first_unmarked
        rw [hfirst] at hmark
        exact hmark
      | nil =>
        cases w.rest with
        | nil => simp [Written.following]
        | cons r rest => cases hend : r.ending <;> simp [Written.following, hend, Ending.chars]

/-- Lines put together are cut into the same lines. -/
theorem split_text (w : Written) (marked : Bool) : split (w.text marked) = w.lines := by
  rw [split_eq_cut, body_text, cut_append_of_isPlain w.first_plain,
    cut_following w.rest_plain w.rest_apart, Written.lines]
  simp

end Line

/-- **A text is cut in one pass.** Its lines are those found from left to right, each up to the next
    ending; none of them holds an ending, and they are numbered from one to one more than there are
    endings. Lines put together with any endings between them, and perhaps a byte order mark in front, are
    cut into the same lines again, as long as no two endings grow into one. -/
theorem text_is_cut_in_one_pass :
    (∀ text : String,
      Line.split text = (Line.cut (Line.body text)).map String.ofList ∧
      (∀ s ∈ Line.split text, '\r' ∉ s.toList ∧ '\n' ∉ s.toList) ∧
      (Line.scan text).map Line.text = Line.split text ∧
      (Line.scan text).map Line.number =
        (List.range (Line.endingCount text.toList + 1)).map fun i : Nat => 1 + (i : Int)) ∧
    ∀ (w : Line.Written) (marked : Bool), Line.split (w.text marked) = w.lines := by
  refine ⟨fun text => ⟨Line.split_eq_cut text, fun s hs => Line.isPlain_of_mem_split hs,
    Line.map_text_numbered 1 _, ?_⟩, Line.split_text⟩
  rw [Line.scan, Line.map_number_numbered, Line.split_eq_cut, List.length_map, Line.length_cut,
    Line.endingCount_body]

/-- A carriage return, both together and a line feed, one right behind the other. -/
def Line.allEndings : Line.Written where
  first := "Verse"
  rest := [⟨.carriageReturn, ""⟩, ⟨.both, ""⟩, ⟨.lineFeed, "C"⟩]
  first_plain := ⟨by decide, by decide⟩
  first_unmarked := by decide
  rest_plain := by simp [Line.IsPlain]
  rest_apart := by simp [Line.Follower.Apart]

/-- The three endings stay three, behind a byte order mark too. -/
theorem text_with_all_endings_is_cut :
    Line.split "\ufeffVerse\r\r\n\nC" = ["Verse", "", "", "C"] := by
  have htext : Line.allEndings.text true = "\ufeffVerse\r\r\n\nC" := by decide +kernel
  rw [← htext]
  exact text_is_cut_in_one_pass.2 Line.allEndings true

end SongSheet
