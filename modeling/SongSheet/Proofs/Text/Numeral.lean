import Mathlib.Data.List.Basic
import Mathlib.Tactic.Ring
import SongSheet.Text.Blank
import SongSheet.Text.Numeral

/-!
# How large a numeral is

A numeral of `n` digits is less than ten to the `n`. So is a sum of numerals that have `n` digits
together, however many they are, as a product of powers of ten is never less than their sum less one:
numbers read from digits can be added and written as long as there were not too many digits in all.
A number that can be written is read back from its decimal digits.
-/

namespace SongSheet.Text

/-! ## 1. Values and their size -/

theorem digitValue?_lt {c : Char} {v : Nat} (h : digitValue? c = some v) : v < 10 := by
  obtain ⟨z, _, hz⟩ := List.exists_of_findSome?_eq_some h
  split at hz
  · cases hz
    omega
  · cases hz

theorem digitValue?_getD_lt (c : Char) : (digitValue? c).getD 0 < 10 := by
  cases h : digitValue? c with
  | none => decide
  | some v => exact digitValue?_lt h

/-- Digits read after a number take it no further than the number after it would get. -/
theorem foldl_digits_lt (ds : List Char) (n : Nat) :
    ds.foldl (fun n d => 10 * n + (digitValue? d).getD 0) n < (n + 1) * 10 ^ ds.length := by
  induction ds generalizing n with
  | nil => simp
  | cons d ds ih =>
    have hd := digitValue?_getD_lt d
    rw [List.foldl_cons, List.length_cons]
    calc ds.foldl _ (10 * n + (digitValue? d).getD 0)
        < (10 * n + (digitValue? d).getD 0 + 1) * 10 ^ ds.length := ih _
      _ ≤ ((n + 1) * 10) * 10 ^ ds.length := Nat.mul_le_mul_right _ (by omega)
      _ = (n + 1) * 10 ^ (ds.length + 1) := by rw [Nat.pow_succ']; ring

/-- **A numeral is less than ten to the number of its digits.** -/
theorem numeralValue_lt (ds : List Char) : numeralValue ds < 10 ^ ds.length := by
  have h := foldl_digits_lt ds 0
  rwa [Nat.zero_add, Nat.one_mul] at h

/-- **Digits may be counted together**: a sum has no more of them than its two terms have. -/
theorem add_lt_pow_add {x y a b : Nat} (hx : x < 10 ^ a) (hy : y < 10 ^ b) :
    x + y < 10 ^ (a + b) := by
  calc x + y < (x + 1) * (y + 1) := by
        have hexpand : (x + 1) * (y + 1) = x * y + (x + y) + 1 := by ring
        omega
    _ ≤ 10 ^ a * 10 ^ b := Nat.mul_le_mul hx hy
    _ = 10 ^ (a + b) := (Nat.pow_add 10 a b).symm

theorem isWritable_iff {n : Nat} : isWritable n = true ↔ n < 10 ^ digitLimit := by
  have hpow : ∀ m, Nat.pow 10 m = 10 ^ m := fun _ => rfl
  rw [isWritable, decide_eq_true_eq, Int.natAbs_natCast, hpow]

theorem isWritable_of_lt {n k : Nat} (h : n < 10 ^ k) (hk : k ≤ digitLimit) :
    isWritable n = true :=
  isWritable_iff.mpr (Nat.lt_of_lt_of_le h (Nat.pow_le_pow_right (by decide) hk))

/-- What is smaller than a number that can be written can be written. -/
theorem isWritable_of_le {n m : Int} (hm : isWritable m = true) (hn : 0 ≤ n) (hle : n ≤ m) :
    isWritable n = true := by
  unfold isWritable at hm ⊢
  rw [decide_eq_true_eq] at hm ⊢
  omega

/-! ## 2. Decimal digits -/

theorem toNat_of_isDigit {c : Char} (h : c.isDigit = true) : 48 ≤ c.toNat ∧ c.toNat < 58 := by
  simp only [Char.isDigit, Bool.and_eq_true, decide_eq_true_eq] at h
  exact ⟨h.1, Nat.lt_succ_of_le h.2⟩

theorem digitValue?_of_isDigit {c : Char} (h : c.isDigit = true) :
    digitValue? c = some (c.toNat - '0'.toNat) := by
  unfold digitValue? digitZeros
  rw [List.findSome?_cons, if_pos (toNat_of_isDigit h)]
  rfl

/-- No digit, of whatever script, is a blank. -/
theorem isBlank_of_isDigit {c : Char} (h : isDigit c = true) : isBlank c = false := by
  have hapart : (digitZeros.all fun z => blankRanges.all fun r =>
      decide (z + 10 ≤ r.1) || decide (r.2 < z)) = true := by decide
  obtain ⟨v, hv⟩ := Option.isSome_iff_exists.mp h
  obtain ⟨z, hz, hc⟩ := List.exists_of_findSome?_eq_some hv
  rw [Bool.eq_false_iff]
  intro hblank
  obtain ⟨r, hr, hlow, hhigh⟩ := (Ranges.contains_iff _ _).mp hblank
  have hzr := List.all_eq_true.mp (List.all_eq_true.mp hapart z hz) r hr
  rw [Bool.or_eq_true, decide_eq_true_eq, decide_eq_true_eq] at hzr
  split at hc
  · omega
  · cases hc

theorem toList_decimal (n : Nat) : (decimal n).toList = Nat.toDigits 10 n :=
  String.toList_ofList

theorem isDigit_of_mem_decimal {n : Nat} {c : Char} (h : c ∈ (decimal n).toList) :
    c.isDigit = true := by
  rw [toList_decimal] at h
  exact Nat.isDigit_of_mem_toDigits (by decide) (by decide) h

theorem isNumeral_decimal (n : Nat) : isNumeral (decimal n).toList = true := by
  have hne : (decimal n).toList ≠ [] := by
    rw [toList_decimal]
    exact Nat.toDigits_ne_nil
  have hall : ∀ c ∈ (decimal n).toList, isDigit c = true := by
    intro c hc
    rw [isDigit, digitValue?_of_isDigit (isDigit_of_mem_decimal hc)]
    rfl
  simp only [isNumeral, Bool.and_eq_true, Bool.not_eq_true', List.isEmpty_eq_false_iff,
    List.all_eq_true]
  exact ⟨hne, hall⟩

theorem numeralValue_of_isDigit {ds : List Char} (h : ∀ c ∈ ds, c.isDigit = true) :
    numeralValue ds = Nat.ofDigitChars 10 ds 0 := by
  unfold numeralValue Nat.ofDigitChars
  refine List.foldl_ext _ _ _ fun n c hc => ?_
  rw [digitValue?_of_isDigit (h c hc)]
  rfl

theorem numeralValue_decimal (n : Nat) : numeralValue (decimal n).toList = n := by
  rw [numeralValue_of_isDigit fun c => isDigit_of_mem_decimal, toList_decimal,
    Nat.ofDigitChars_ten_toDigits]

theorem length_decimal_le {n : Nat} (h : isWritable n = true) :
    (decimal n).toList.length ≤ digitLimit := by
  rw [toList_decimal]
  exact (Nat.length_toDigits_le_iff (by decide) (by decide)).mpr (isWritable_iff.mp h)

/-- **A number that can be written is read back from its digits.** -/
theorem readNumeral_decimal {n : Nat} (h : isWritable n = true) :
    readNumeral (decimal n).toList = .ok n := by
  rw [readNumeral, if_pos (length_decimal_le h), numeralValue_decimal]

end SongSheet.Text
