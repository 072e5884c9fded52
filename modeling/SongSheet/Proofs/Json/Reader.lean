import SongSheet.Json.Basic

/-!
# Reading JSON

The other half of the format: which value a text stands for. A text is first cut into tokens by a
machine that goes over its characters (`Json.tokens?`), and then put together by one that goes over the
tokens with the containers not yet closed on a stack (`Json.assemble?`). Blanks may stand between any two
tokens and nowhere else. Numbers are whole, as values have no others; an object keeps its members as they
come.
-/

namespace SongSheet.Json

/-! ## 1. Tokens -/

/-- The least parts of a text. -/
inductive Token where
  | openArray
  | closeArray
  | openObject
  | closeObject
  | comma
  | colon
  /-- A value written without quotes: `null`, a truth value or a number. -/
  | bare (v : Json)
  /-- A quoted text, be it a value or a key. -/
  | text (s : String)
  deriving DecidableEq, Repr

/-- The token that is one character long. -/
def Token.punctuation? (c : Char) : Option Token :=
  if c = '[' then some .openArray
  else if c = ']' then some .closeArray
  else if c = '\x7b' then some .openObject
  else if c = '\x7d' then some .closeObject
  else if c = ',' then some .comma
  else if c = ':' then some .colon
  else none

/-- What may stand between tokens. -/
def isGap (c : Char) : Bool := c = ' ' || c = '\n' || c = '\r' || c = '\t'

/-- What a value without quotes is made of: whatever does not end it. -/
def isBare (c : Char) : Bool := !isGap c && (Token.punctuation? c).isNone && c != '"'

/-! ## 2. Values without quotes -/

/-- A number without sign, and without a zero in front unless it is zero. -/
def natural? (ds : List Char) : Option Nat :=
  if ds ≠ [] ∧ ds.all Char.isDigit ∧ (ds.head? = some '0' → ds = ['0']) then
    some (Nat.ofDigitChars 10 ds 0)
  else none

/-- The value a word without quotes stands for. -/
def bareValue? (cs : List Char) : Option Json :=
  if cs = "null".toList then some .null
  else if cs = "true".toList then some (.bool true)
  else if cs = "false".toList then some (.bool false)
  else
    match cs with
    | '-' :: ds => (natural? ds).map fun (n : Nat) => .number (-n)
    | ds => (natural? ds).map fun (n : Nat) => .number n

/-! ## 3. Quoted texts -/

/-- The value of a hexadecimal digit. -/
def hexValue? (c : Char) : Option Nat :=
  if c.isDigit then some (c.toNat - '0'.toNat)
  else if 'a' ≤ c ∧ c ≤ 'f' then some (c.toNat - 'a'.toNat + 10)
  else if 'A' ≤ c ∧ c ≤ 'F' then some (c.toNat - 'A'.toNat + 10)
  else none

/-- The code of the character that a backslash and `c` stand for. -/
def escaped? (c : Char) : Option Nat :=
  if c = '"' ∨ c = '\\' ∨ c = '/' then some c.toNat
  else if c = 'b' then some 0x08
  else if c = 'f' then some 0x0C
  else if c = 'n' then some 0x0A
  else if c = 'r' then some 0x0D
  else if c = 't' then some 0x09
  else none

/-- The characters of a row of codes, in which a character beyond the first plane may be a pair of
    surrogates. Half a pair is no character. -/
def characters? : List Nat → Option (List Char)
  | [] => some []
  | code :: codes =>
    if 0xD800 ≤ code ∧ code < 0xDC00 then
      match codes with
      | low :: codes =>
        if 0xDC00 ≤ low ∧ low < 0xE000 then
          (characters? codes).map
            (Char.ofNat (0x10000 + (code - 0xD800) * 0x400 + (low - 0xDC00)) :: ·)
        else none
      | [] => none
    else if 0xDC00 ≤ code ∧ code < 0xE000 then none
    else (characters? codes).map (Char.ofNat code :: ·)

/-! ## 4. Cutting a text into tokens -/

/-- Where the reader is, with what it has read of the token it is in. -/
inductive Mode where
  | between
  | bare (cs : List Char)
  | text (codes : List Nat)
  /-- After a backslash. -/
  | escape (codes : List Nat)
  /-- Among the four digits of a unit, with its value so far and how many digits come after the next. -/
  | unit (codes : List Nat) (value left : Nat)
  deriving Repr

namespace Mode

/-- The mode and the tokens that `c` leads to when it is not part of a token begun before it. -/
def start (c : Char) : Option (Mode × List Token) :=
  if isGap c then some (.between, [])
  else if c = '"' then some (.text [], [])
  else
    match Token.punctuation? c with
    | some t => some (.between, [t])
    | none => some (.bare [c], [])

/-- Where a character leads, and the tokens it completes. -/
def step : Mode → Char → Option (Mode × List Token)
  | .between, c => start c
  | .bare cs, c =>
    if isBare c then some (.bare (cs ++ [c]), [])
    else (bareValue? cs).bind fun v => (start c).map fun (m, ts) => (m, .bare v :: ts)
  | .text codes, c =>
    if c = '"' then (characters? codes).map fun cs => (.between, [.text (String.ofList cs)])
    else if c = '\\' then some (.escape codes, [])
    else if c.toNat < 0x20 then none
    else some (.text (codes ++ [c.toNat]), [])
  | .escape codes, c =>
    if c = 'u' then some (.unit codes 0 3, [])
    else (escaped? c).map fun code => (.text (codes ++ [code]), [])
  | .unit codes value left, c =>
    (hexValue? c).map fun digit =>
      match left with
      | 0 => (.text (codes ++ [16 * value + digit]), [])
      | left + 1 => (.unit codes (16 * value + digit) left, [])

/-- The token that the end of the text completes. -/
def finish : Mode → Option (List Token)
  | .between => some []
  | .bare cs => (bareValue? cs).map fun v => [.bare v]
  | .text _ | .escape _ | .unit _ _ _ => none

/-- The tokens of a text that is read on from a mode. -/
def run (m : Mode) : List Char → Option (List Token)
  | [] => m.finish
  | c :: cs => (m.step c).bind fun (m', ts) => (m'.run cs).map (ts ++ ·)

end Mode

/-- The tokens of a text. -/
def tokens? (cs : List Char) : Option (List Token) := Mode.between.run cs

/-! ## 5. Putting tokens together -/

/-- A container that is not closed yet, with what stands in it before the value that is read next. -/
inductive Frame where
  | item (before : List Json)
  | member (before : List (String × Json)) (key : String)
  deriving Repr

/-- What may come next, and inside which containers, the innermost first. -/
inductive Expecting where
  | value (outer : List Frame)
  /-- The first item of an array or its end. -/
  | firstItem (outer : List Frame)
  /-- The first key of an object or its end. -/
  | firstKey (outer : List Frame)
  | nextKey (before : List (String × Json)) (outer : List Frame)
  | colon (before : List (String × Json)) (key : String) (outer : List Frame)
  /-- What comes after a value. -/
  | afterValue (v : Json) (outer : List Frame)
  deriving Repr

namespace Expecting

/-- A value is a token of its own or starts a container. -/
def valueStep (outer : List Frame) : Token → Option Expecting
  | .bare v => some (.afterValue v outer)
  | .text s => some (.afterValue (.text s) outer)
  | .openArray => some (.firstItem outer)
  | .openObject => some (.firstKey outer)
  | _ => none

/-- A key is a quoted text. -/
def keyStep (before : List (String × Json)) (outer : List Frame) : Token → Option Expecting
  | .text key => some (.colon before key outer)
  | _ => none

/-- A value is followed by a comma or by the end of the container it is in. -/
def afterStep (v : Json) : List Frame → Token → Option Expecting
  | .item before :: outer, .comma => some (.value (.item (before ++ [v]) :: outer))
  | .item before :: outer, .closeArray => some (.afterValue (.array (before ++ [v])) outer)
  | .member before key :: outer, .comma => some (.nextKey (before ++ [(key, v)]) outer)
  | .member before key :: outer, .closeObject =>
    some (.afterValue (.object (before ++ [(key, v)])) outer)
  | _, _ => none

/-- Where a token leads. -/
def step : Expecting → Token → Option Expecting
  | .value outer, t => valueStep outer t
  | .firstItem outer, t =>
    if t = .closeArray then some (.afterValue (.array []) outer) else valueStep (.item [] :: outer) t
  | .firstKey outer, t =>
    if t = .closeObject then some (.afterValue (.object []) outer) else keyStep [] outer t
  | .nextKey before outer, t => keyStep before outer t
  | .colon before key outer, t =>
    if t = .colon then some (.value (.member before key :: outer)) else none
  | .afterValue v outer, t => afterStep v outer t

/-- The one value, when no container is open. -/
def finish : Expecting → Option Json
  | .afterValue v [] => some v
  | _ => none

/-- The value of a row of tokens that is read on from here. -/
def run (e : Expecting) : List Token → Option Json
  | [] => e.finish
  | t :: ts => (e.step t).bind fun e' => e'.run ts

end Expecting

/-- The value of a row of tokens. -/
def assemble? (ts : List Token) : Option Json := (Expecting.value []).run ts

/-- The value a text stands for, if it is JSON. -/
def read (text : String) : Option Json := (tokens? text.toList).bind assemble?

end SongSheet.Json
