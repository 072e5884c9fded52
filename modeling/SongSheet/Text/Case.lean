import SongSheet.Text.Case.Table

/-!
# Upper and lower case

Both mappings are the full ones, so the counterpart of a letter may be several characters. Upper
case looks at one letter at a time. Lower case looks around at one place only: a capital sigma
that ends a word becomes the final sigma.
-/

namespace SongSheet.Text

/-- The counterpart of `c` in a pair of tables; `c` itself if they do not list it. -/
def caseImage (runs : List CaseRun) (sequences : List (Nat × List Nat)) (c : Char) : List Char :=
  match sequences.lookup c.toNat with
  | some image => image.map Char.ofNat
  | none =>
    match runs.find? (·.contains c) with
    | some run => [run.image c]
    | none => [c]

/-- A character in upper case. -/
def upperChar (c : Char) : List Char := caseImage upperRuns upperSequences c

/-- A character in lower case, wherever it stands. -/
def lowerChar (c : Char) : List Char := caseImage lowerRuns lowerSequences c

/-! ## Lower case of a text -/

/-- The character has a case, be it upper, lower or title case. -/
def isCased (c : Char) : Bool := casedRanges.contains c

/-- The character is looked through when the end of a word is looked for. -/
def isCaseIgnorable (c : Char) : Bool := caseIgnorableRanges.contains c

/-- The next character that counts has a case. -/
def casedAhead (cs : List Char) : Bool := (cs.find? fun c => !isCaseIgnorable c).any isCased

/-- Lower case of a text that follows a letter (`afterCased`) or does not. -/
def lowerFrom (afterCased : Bool) : List Char → List Char
  | [] => []
  | c :: rest =>
    if c = 'Σ' then
      (if afterCased && !casedAhead rest then 'ς' else 'σ') :: lowerFrom true rest
    else
      lowerChar c ++ lowerFrom (if isCaseIgnorable c then afterCased else isCased c) rest

/-- A text in lower case. -/
def lower (s : String) : String := String.ofList (lowerFrom false s.toList)

end SongSheet.Text
