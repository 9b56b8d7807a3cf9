import Mathlib.Algebra.Group.Nat.Defs
import OpeningHours.Calendar.Civil

/-!
# OpeningHours — numbers of a fixed width

Stamps write a number with zeros in front of it up to a width, and dates are read from digits of a
fixed count. The two agree on every number that the width has room for. Digits behind a point are
read as a fraction, and cut after the third.

## Results

* `number_append`       — the number of a longer run of digits.
* `readDigits_padded`   — a padded number is read back.
* `fractionMillis_eq`   — the milliseconds of a fraction, rounded down.
-/

namespace OpeningHours

namespace Text

/-- The characters are ASCII digits. -/
def AllDigits (cs : List Char) : Prop :=
  ∀ c ∈ cs, c.isDigit = true

theorem digit_bounds {c : Char} (h : c.isDigit = true) : 48 ≤ c.toNat ∧ c.toNat ≤ 57 := by
  simp only [Char.isDigit, Bool.and_eq_true, decide_eq_true_eq] at h
  exact ⟨UInt32.le_iff_toNat_le.mp h.1, UInt32.le_iff_toNat_le.mp h.2⟩

theorem AllDigits.exists_three {cs : List Char} (h : AllDigits cs) (hlength : 3 ≤ cs.length) :
    ∃ a b c rest, cs = a :: b :: c :: rest ∧ a.isDigit = true ∧ b.isDigit = true ∧
      c.isDigit = true := by
  match cs, hlength with
  | a :: b :: c :: rest, _ =>
    exact ⟨a, b, c, rest, rfl, h a (by simp), h b (by simp), h c (by simp)⟩

theorem numberFrom_eq (n : Nat) (cs : List Char) : numberFrom n cs = Nat.ofDigitChars 10 cs n := by
  induction cs generalizing n with
  | nil => rfl
  | cons c cs ih =>
    calc numberFrom n (c :: cs) = numberFrom (n * 10 + (c.toNat - 48)) cs := rfl
      _ = Nat.ofDigitChars 10 cs (n * 10 + (c.toNat - 48)) := ih _
      _ = Nat.ofDigitChars 10 (c :: cs) n := by
        rw [Nat.ofDigitChars_cons, Nat.mul_comm 10 n]
        rfl

theorem number_eq (cs : List Char) : number cs = Nat.ofDigitChars 10 cs 0 :=
  numberFrom_eq 0 cs

/-- The number of a longer run of digits. -/
theorem number_append (front back : List Char) :
    number (front ++ back) = 10 ^ back.length * number front + number back := by
  rw [number_eq, number_eq, number_eq, Nat.ofDigitChars_append,
    Nat.ofDigitChars_eq_ofDigitChars_zero]

/-- So many digits write a number below that power of ten. -/
theorem number_lt {cs : List Char} (h : AllDigits cs) : number cs < 10 ^ cs.length := by
  induction cs with
  | nil => exact Nat.one_pos
  | cons c cs ih =>
    obtain ⟨hc, hcs⟩ := List.forall_mem_cons.mp h
    have hdigit : number [c] ≤ 9 := by
      have hbounds := digit_bounds hc
      show 0 * 10 + (c.toNat - 48) ≤ 9
      omega
    have hcons : number (c :: cs) = 10 ^ cs.length * number [c] + number cs := number_append [c] cs
    have hrest := ih hcs
    calc number (c :: cs) < 10 ^ cs.length * number [c] + 10 ^ cs.length := by omega
      _ = 10 ^ cs.length * (number [c] + 1) := by rw [Nat.mul_add, Nat.mul_one]
      _ ≤ 10 ^ cs.length * 10 := Nat.mul_le_mul_left _ (by omega)
      _ = 10 ^ (c :: cs).length := (Nat.pow_succ ..).symm

theorem number_zeros (k : Nat) : number (List.replicate k '0') = 0 := by
  induction k with
  | zero => rfl
  | succ k ih => exact ih

/-- Reading a fixed count of digits takes them all. -/
theorem readDigits_append {ds : List Char} (h : AllDigits ds) (rest : List Char) :
    readDigits ds.length (ds ++ rest) = some (number ds, rest) := by
  rw [readDigits, List.take_left, List.drop_left, if_pos ⟨rfl, List.all_eq_true.mpr h⟩]

end Text

namespace Calendar

open Text

section

variable {width n : Nat} (h : n < 10 ^ width) (hwidth : 0 < width)
include h hwidth

theorem length_padded : (padded width n).toList.length = width := by
  have hle : (Nat.toDigits 10 n).length ≤ width :=
    (Nat.length_toDigits_le_iff (by decide) hwidth).mpr h
  rw [padded, String.toList_ofList, List.length_append, List.length_replicate]
  omega

end

/-- A padded number is written in digits. -/
theorem allDigits_padded (width n : Nat) : AllDigits (padded width n).toList := by
  intro c hc
  rw [padded, String.toList_ofList, List.mem_append] at hc
  rcases hc with hzero | hdigit
  · rw [List.eq_of_mem_replicate hzero]
    rfl
  · exact Nat.isDigit_of_mem_toDigits (by decide) (by decide) hdigit

/-- A padded number is the number. -/
theorem number_padded (width n : Nat) : number (padded width n).toList = n := by
  rw [padded, String.toList_ofList, number_append, number_zeros, number_eq,
    Nat.ofDigitChars_ten_toDigits]
  omega

/-- A padded number is read back. -/
theorem readDigits_padded {width n : Nat} (h : n < 10 ^ width) (hwidth : 0 < width)
    (rest : List Char) : readDigits width ((padded width n).toList ++ rest) = some (n, rest) := by
  have hread := readDigits_append (allDigits_padded width n) rest
  rwa [length_padded h hwidth, number_padded] at hread

/-- The milliseconds of a fraction, rounded down. -/
theorem fractionMillis_eq {ds : List Char} (h : AllDigits ds) :
    fractionMillis ds = number ds * 1000 / 10 ^ ds.length := by
  -- the digits with three zeros behind them are cut after the third
  have hall : AllDigits (ds ++ ['0', '0', '0']) :=
    List.forall_mem_append.mpr ⟨h, List.all_eq_true.mp (by decide)⟩
  have hlength : ((ds ++ ['0', '0', '0']).drop 3).length = ds.length := by simp
  have hcut := number_append ((ds ++ ['0', '0', '0']).take 3) ((ds ++ ['0', '0', '0']).drop 3)
  have hlow := number_lt fun c hc => hall c (List.mem_of_mem_drop (i := 3) hc)
  have hzeros : number (ds ++ ['0', '0', '0']) = number ds * 1000 := by
    have hnone : number ['0', '0', '0'] = 0 := number_zeros 3
    rw [number_append, hnone, Nat.add_zero, Nat.mul_comm]
    rfl
  rw [List.take_append_drop, hlength, hzeros] at hcut
  rw [hlength] at hlow
  rw [fractionMillis, hcut, Nat.mul_add_div (Nat.pow_pos (by decide)), Nat.div_eq_of_lt hlow,
    Nat.add_zero]

end Calendar

end OpeningHours
