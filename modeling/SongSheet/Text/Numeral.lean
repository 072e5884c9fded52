import SongSheet.Text.Digit

/-!
# Numerals and their limit

A numeral is a run of decimal digits of any scripts, read in base ten, leading zeros and all. No
number is read from, or written as, more than `digitLimit` digits.
-/

namespace SongSheet

/-- A number that does not pass between value and digits. -/
inductive NumeralLimit where
  /-- A numeral of this many digits was to be read. -/
  | reading (digits : Nat)
  /-- A number with too many digits was to be written. -/
  | writing
  deriving DecidableEq, Repr

namespace Text

/-- The most digits a number is read from or written as. -/
def digitLimit : Nat := 4300

/-! ## 1. Reading -/

/-- The value of a run of digits. A character that is no digit counts as zero. -/
def numeralValue (ds : List Char) : Nat :=
  ds.foldl (fun n d => 10 * n + (digitValue? d).getD 0) 0

/-- Reads a run of digits, unless there are too many of them. -/
def readNumeral (ds : List Char) : Except NumeralLimit Nat :=
  if ds.length ≤ digitLimit then .ok (numeralValue ds) else .error (.reading ds.length)

/-- At least one digit and nothing else. -/
def isNumeral (cs : List Char) : Bool := !cs.isEmpty && cs.all isDigit

/-! ## 2. Writing -/

/-- Base ten in ASCII digits, with a minus sign in front of a negative number. -/
def decimal (n : Int) : String :=
  match n with
  | .ofNat k => String.ofList (Nat.toDigits 10 k)
  | .negSucc k => String.ofList ('-' :: Nat.toDigits 10 (k + 1))

/-- Written with no more digits than the limit allows. -/
def isWritable (n : Int) : Bool := decide (n.natAbs < Nat.pow 10 digitLimit)

end Text

open Text in
/-- The wording of what went over the limit. -/
def NumeralLimit.message : NumeralLimit → String
  | .reading digits =>
    s!"Exceeds the limit ({decimal digitLimit} digits) for integer string conversion: "
      ++ s!"value has {decimal digits} digits; "
      ++ "use sys.set_int_max_str_digits() to increase the limit"
  | .writing =>
    s!"Exceeds the limit ({decimal digitLimit} digits) for integer string conversion; "
      ++ "use sys.set_int_max_str_digits() to increase the limit"

end SongSheet
