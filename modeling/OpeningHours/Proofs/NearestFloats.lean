import Mathlib
import OpeningHours.Decimal.Literal
import OpeningHours.Text

/-!
# OpeningHours — the float that a literal stands for

A finite float is so many steps of a power of two: less than 2^53 of them, each no smaller than
2^-1074. A literal stands for the nearest number of this kind, and of two equally near ones for the
one with the even count. The power may be as large as need be for this, so that a literal beyond all
floats is not mistaken for the largest one. No literal stands for two floats.

* `stepsOf? x`         — the steps of a float, where it is finite.
* `Steps.NearestTo s v` — no number of this kind is nearer.
* `Literal.Rounds l x` — the literal stands for the float.

## Results

* `stepsOf?_eq`            — the steps of a float, taken from its bits.
* `stepsOf?_inj`           — a finite float is known by its steps.
* `Literal.Rounds.unique`  — a literal stands for at most one float.
-/

namespace OpeningHours.Decimal

open Float.Model (UnpackedFloat Format)
open Float.Model.UnpackedFloat (Sign unpack unpackMantissa unpackExponent unpackSign)

/-- A sign and a number of steps, each two to the power `power`. -/
structure Steps where
  negative : Bool
  count : Nat
  power : Int
deriving DecidableEq

/-- The size of so many steps. -/
def Steps.size (s : Steps) : ℚ :=
  s.count * 2 ^ s.power

/-- The steps of an unpacked float, where it is finite. -/
def Steps.ofUnpacked? : UnpackedFloat → Option Steps
  | .zero sign => some ⟨sign == .negative, 0, -1074⟩
  | .finite sign count power _ => some ⟨sign == .negative, count, power⟩
  | _ => none

/-- The steps of a float, where it is finite. -/
def stepsOf? (x : Float) : Option Steps :=
  Steps.ofUnpacked? x.toModel.unpack

/-- The float with these fields has so many steps. -/
def stepsOfFields? (negative : Bool) (exponent fraction : Nat) : Option Steps :=
  if exponent = 2047 then none
  else if exponent = 0 then some ⟨negative, fraction, -1074⟩
  else some ⟨negative, fraction + twoTo 52, (exponent : Int) - 1075⟩

theorem twoTo_eq (n : Nat) : twoTo n = 2 ^ n := rfl

section

variable (b : BitVec Format.binary64.numBits)

theorem toNat_unpackMantissa :
    (unpackMantissa b).toNat = b.toNat % twoTo 52 := by
  simp [unpackMantissa, twoTo_eq]

theorem toNat_unpackExponent :
    (unpackExponent b).toNat = b.toNat / twoTo 52 % twoTo 11 := by
  simp [unpackExponent, twoTo_eq, Nat.shiftRight_eq_div_pow]

theorem ofBitVec_unpackSign :
    (Sign.ofBitVec (unpackSign b) == .negative) = decide (signedBound ≤ b.toNat) := by
  have hb : b.toNat < 2 ^ 64 := b.isLt
  have hbit : (unpackSign b).toNat = b.toNat / 2 ^ 63 % 2 := by
    simp [unpackSign, Nat.shiftRight_eq_div_pow]
  have hzero : unpackSign b = 0#1 ↔ ¬ signedBound ≤ b.toNat := by
    rw [← BitVec.toNat_inj, hbit, BitVec.toNat_zero, signedBound, twoTo_eq]
    omega
  by_cases h : signedBound ≤ b.toNat
  · rw [Sign.ofBitVec, if_neg (by rw [hzero]; exact not_not_intro h), decide_eq_true h]
    rfl
  · rw [Sign.ofBitVec, if_pos (hzero.mpr h), decide_eq_false h]
    rfl

theorem ofUnpacked?_unpack :
    Steps.ofUnpacked? (unpack .binary64 b) =
      stepsOfFields? (Sign.ofBitVec (unpackSign b) == .negative) (unpackExponent b).toNat
        (unpackMantissa b).toNat := by
  have hall : unpackExponent b = -1#11 ↔ (unpackExponent b).toNat = 2047 := by
    rw [← BitVec.toNat_inj]
    rfl
  have hlow : unpackExponent b = 0#11 ↔ (unpackExponent b).toNat = 0 := by
    rw [← BitVec.toNat_inj]
    rfl
  have hhidden : (1#1 ++ unpackMantissa b).toNat = (unpackMantissa b).toNat + twoTo 52 := by
    show 1 <<< 52 ||| (unpackMantissa b).toNat = _
    rw [← Nat.shiftLeft_add_eq_or_of_lt (unpackMantissa b).isLt, Nat.add_comm]
    rfl
  simp only [unpack, stepsOfFields?]
  by_cases h : unpackExponent b = -1#11
  · rw [if_pos h, if_pos (hall.mp h)]
    split <;> rfl
  rw [if_neg h, if_neg (mt hall.mpr h)]
  by_cases h : unpackExponent b = 0#11
  · rw [if_pos h, if_pos (hlow.mp h)]
    split
    · rename_i hm
      rw [hm]
      rfl
    · rw [hlow.mp h]
      rfl
  · rw [if_neg h, if_neg (mt hlow.mpr h), ← hhidden]
    rfl

end

/-- The steps of a float, taken from its bits. -/
theorem stepsOf?_eq (x : Float) :
    stepsOf? x = stepsOfFields? (decide (signedBound ≤ x.toBits.toNat))
      (x.toBits.toNat / twoTo 52 % twoTo 11) (x.toBits.toNat % twoTo 52) := by
  calc stepsOf? x = Steps.ofUnpacked? (unpack .binary64 x.toBits.toBitVec) := rfl
    _ = _ := by
      rw [ofUnpacked?_unpack, ofBitVec_unpackSign, toNat_unpackExponent, toNat_unpackMantissa]
      rfl

/-- The sign, the count and the power of a finite float's steps. -/
theorem fields_of_stepsOf? {x : Float} {s : Steps} (h : stepsOf? x = some s) :
    s.negative = decide (signedBound ≤ x.toBits.toNat) ∧
      ((x.toBits.toNat / twoTo 52 % twoTo 11 = 0 ∧ s.count = x.toBits.toNat % twoTo 52 ∧
          s.power = -1074) ∨
        (x.toBits.toNat / twoTo 52 % twoTo 11 ≠ 0 ∧
          s.count = x.toBits.toNat % twoTo 52 + twoTo 52 ∧
          s.power = (x.toBits.toNat / twoTo 52 % twoTo 11 : Nat) - 1075)) := by
  rw [stepsOf?_eq, stepsOfFields?] at h
  split at h
  · exact absurd h (by simp)
  · split at h
    · rename_i hlow
      obtain rfl := Option.some.inj h
      exact ⟨rfl, .inl ⟨hlow, rfl, rfl⟩⟩
    · rename_i hlow
      obtain rfl := Option.some.inj h
      exact ⟨rfl, .inr ⟨hlow, rfl, rfl⟩⟩

/-- A finite float is known by its steps. -/
theorem stepsOf?_inj {x y : Float} {s : Steps} (hx : stepsOf? x = some s)
    (hy : stepsOf? y = some s) : x = y := by
  have hx64 := x.toBits.toNat_lt
  have hy64 := y.toBits.toNat_lt
  obtain ⟨hxsign, hx⟩ := fields_of_stepsOf? hx
  obtain ⟨hysign, hy⟩ := fields_of_stepsOf? hy
  have hsign : signedBound ≤ x.toBits.toNat ↔ signedBound ≤ y.toBits.toNat :=
    decide_eq_decide.mp (hxsign.symm.trans hysign)
  have hbits : x.toBits.toNat = y.toBits.toNat := by
    simp only [twoTo_eq, signedBound] at hx hy hsign
    omega
  obtain ⟨⟨xbits, hxvalid⟩⟩ := x
  obtain ⟨⟨ybits, hyvalid⟩⟩ := y
  obtain rfl : xbits = ybits := UInt64.toNat_inj.mp hbits
  rfl

/-- The steps are of those that a float can have, but for too large a power. -/
structure Steps.Fits (s : Steps) : Prop where
  count_lt : s.count < 2 ^ 53
  power_ge : -1074 ≤ s.power

/-- The steps are as small as a float can have them. -/
structure Steps.Lawful (s : Steps) : Prop extends s.Fits where
  full : s.power = -1074 ∨ 2 ^ 52 ≤ s.count

/-- The steps of a float are in their bounds. -/
theorem lawful_of_stepsOf? {x : Float} {s : Steps} (h : stepsOf? x = some s) : s.Lawful := by
  obtain ⟨-, h⟩ := fields_of_stepsOf? h
  simp only [twoTo_eq] at h
  exact ⟨⟨by omega, by omega⟩, by omega⟩

/-- Every finite float has steps. -/
theorem exists_stepsOf? {x : Float} (h : x.isFinite = true) : ∃ s, stepsOf? x = some s := by
  change x.toModel.unpack.isFinite = true at h
  rw [stepsOf?]
  cases hx : x.toModel.unpack with
  | zero sign => exact ⟨_, rfl⟩
  | finite sign count power hpos => exact ⟨_, rfl⟩
  | infinity sign => simp [hx, UnpackedFloat.isFinite] at h
  | notANumber => simp [hx, UnpackedFloat.isFinite] at h

-- ---------------------------------------------------------------------------
-- Sizes
-- ---------------------------------------------------------------------------

theorem twoPow_pos (e : Int) : (0 : ℚ) < 2 ^ e :=
  zpow_pos (by norm_num) e

/-- Steps counted in smaller ones. -/
theorem Steps.size_eq_finer {s : Steps} {e : Int} (h : e ≤ s.power) :
    s.size = (s.count * 2 ^ (s.power - e).toNat : Nat) * 2 ^ e := by
  obtain ⟨k, hk⟩ := Int.le.dest h
  rw [Steps.size, ← hk, add_sub_cancel_left, Int.toNat_natCast, zpow_add₀ two_ne_zero, zpow_natCast]
  push_cast
  ring

/-- Between a float and the next larger one there is nothing that fits. -/
theorem Steps.Lawful.succ_le {s t : Steps} (hs : s.Lawful) (ht : t.Fits) (h : s.size < t.size) :
    (s.count + 1 : Nat) * 2 ^ s.power ≤ t.size := by
  have hpos := twoPow_pos s.power
  rcases le_or_gt s.power t.power with hle | hlt
  · rw [size_eq_finer hle] at h ⊢
    have hcount := lt_of_mul_lt_mul_right h hpos.le
    gcongr
    exact_mod_cast hcount
  · -- the other power is smaller, and so the other number is
    have hfull : 2 ^ 52 ≤ s.count := hs.full.resolve_left fun h => by
      have := ht.power_ge
      omega
    have hsmall : t.size ≤ s.size :=
      calc t.size ≤ (2 ^ 53 : Nat) * 2 ^ t.power := by
            rw [Steps.size]
            gcongr
            exact ht.count_lt.le
        _ ≤ (2 ^ 53 : Nat) * 2 ^ (s.power - 1) := by
            gcongr
            · norm_num
            · omega
        _ = (2 ^ 52 : Nat) * 2 ^ s.power := by
            rw [zpow_sub_one₀ two_ne_zero]
            push_cast
            ring
        _ ≤ s.size := by
            rw [Steps.size]
            gcongr
    exact absurd h hsmall.not_gt

/-- Floats of one size have the same steps. -/
theorem Steps.Lawful.power_le {s t : Steps} (hs : s.Lawful) (ht : t.Lawful)
    (h : s.size = t.size) : t.power ≤ s.power := by
  by_contra hlt
  have hfull : 2 ^ 52 ≤ t.count := ht.full.resolve_left fun h => by
    have := hs.power_ge
    omega
  have hcount : s.count = t.count * 2 ^ (t.power - s.power).toNat := by
    rw [size_eq_finer (by omega : s.power ≤ t.power), Steps.size] at h
    exact_mod_cast mul_right_cancel₀ (twoPow_pos s.power).ne' h
  have htwo : 2 ^ 1 ≤ 2 ^ (t.power - s.power).toNat := Nat.pow_le_pow_right (by norm_num) (by omega)
  have := hs.count_lt
  have := Nat.mul_le_mul hfull htwo
  omega

/-- Of one sign there is one way to write a size in steps. -/
theorem Steps.Lawful.eq_of_size {s t : Steps} (hs : s.Lawful) (ht : t.Lawful)
    (hnegative : s.negative = t.negative) (h : s.size = t.size) : s = t := by
  have hpower : s.power = t.power := le_antisymm (ht.power_le hs h.symm) (hs.power_le ht h)
  have hcount : s.count = t.count := by
    rw [Steps.size, Steps.size, hpower] at h
    exact_mod_cast mul_right_cancel₀ (twoPow_pos t.power).ne' h
  cases s
  cases t
  simp_all

-- ---------------------------------------------------------------------------
-- Rounding
-- ---------------------------------------------------------------------------

/-- No number that fits is nearer, and of two equally near ones this has the even count. -/
structure Steps.NearestTo (s : Steps) (v : ℚ) : Prop where
  near (t : Steps) (ht : t.Fits) : |v - s.size| ≤ |v - t.size|
  even (t : Steps) (ht : t.Fits) (hne : t.size ≠ s.size) (h : |v - s.size| = |v - t.size|) :
    Even s.count

/-- The power of ten of an exponent. -/
def exponentPower : Option Exponent → Int
  | none => 0
  | some e => if e.negative then -(Text.number e.digits : Int) else Text.number e.digits

/-- The size of the number that a literal writes. -/
def Literal.size (l : Literal) : ℚ :=
  Text.number (l.whole ++ l.fraction) * 10 ^ (exponentPower l.exponent - l.fraction.length)

/-- The literal stands for the float. -/
def Literal.Rounds (l : Literal) (x : Float) : Prop :=
  ∃ s, stepsOf? x = some s ∧ s.negative = l.negative ∧ s.NearestTo l.size

/-- Between a float and the next smaller one there is nothing that fits. The distance, in halves of
a step, is two, but above the least number of a power it is one. -/
theorem Steps.Lawful.le_pred {s t : Steps} (hs : s.Lawful) (ht : t.Fits) (h : t.size < s.size)
    {below : Nat} (hbelow : below ≤ 2)
    (hleast : s.count = 2 ^ 52 → s.power ≠ -1074 → below ≤ 1) :
    t.size ≤ s.size - below * 2 ^ (s.power - 1) := by
  have hpos := twoPow_pos (s.power - 1)
  have hbelow' : (below : ℚ) ≤ 2 := by exact_mod_cast hbelow
  have hstep : (2 : ℚ) ^ s.power = 2 * 2 ^ (s.power - 1) := by
    rw [zpow_sub_one₀ two_ne_zero]
    ring
  rcases le_or_gt s.power t.power with hle | hlt
  · rw [size_eq_finer hle] at h ⊢
    rw [Steps.size] at h ⊢
    have hcount : t.count * 2 ^ (t.power - s.power).toNat + 1 ≤ s.count := by
      exact_mod_cast lt_of_mul_lt_mul_right h (twoPow_pos s.power).le
    have hcount' : ((t.count * 2 ^ (t.power - s.power).toNat : Nat) : ℚ) + 1 ≤ s.count := by
      exact_mod_cast hcount
    rw [hstep]
    nlinarith
  · have hfull : 2 ^ 52 ≤ s.count := hs.full.resolve_left fun h => by
      have := ht.power_ge
      omega
    have hwide : 2 ^ 53 + below ≤ 2 * s.count + 1 := by
      have := ht.power_ge
      omega
    have hwide' : (2 : ℚ) ^ 53 + below ≤ 2 * s.count + 1 := by exact_mod_cast hwide
    have hcount : (t.count : ℚ) ≤ 2 ^ 53 - 1 := by
      rw [le_sub_iff_add_le]
      exact_mod_cast ht.count_lt
    calc t.size ≤ (2 ^ 53 - 1) * 2 ^ t.power :=
          mul_le_mul_of_nonneg_right hcount (twoPow_pos t.power).le
      _ ≤ (2 ^ 53 - 1) * 2 ^ (s.power - 1) := by
          gcongr
          · norm_num
          · omega
      _ ≤ (2 * s.count - below) * 2 ^ (s.power - 1) :=
          mul_le_mul_of_nonneg_right (by linarith) hpos.le
      _ = s.size - below * 2 ^ (s.power - 1) := by
          rw [Steps.size, hstep]
          ring

/-- A number no further off than halfway to the next floats is nearest to the one between them, if
an even count settles the ties. -/
theorem Steps.Lawful.nearestTo_of_between {s : Steps} (hs : s.Lawful) {below : Nat}
    (hbelow : below ≤ 2) (hleast : s.count = 2 ^ 52 → s.power ≠ -1074 → below ≤ 1) {v : ℚ}
    (hlow : s.size - below * 2 ^ (s.power - 2) ≤ v) (hhigh : v ≤ s.size + 2 * 2 ^ (s.power - 2))
    (hends : v = s.size - below * 2 ^ (s.power - 2) ∨ v = s.size + 2 * 2 ^ (s.power - 2) →
      Even s.count) : s.NearestTo v := by
  have hquarter := twoPow_pos (s.power - 2)
  have hhalf : (2 : ℚ) ^ (s.power - 1) = 2 * 2 ^ (s.power - 2) := by
    rw [← zpow_one_add₀ two_ne_zero]
    congr 1
    ring
  have hstep : (2 : ℚ) ^ s.power = 4 * 2 ^ (s.power - 2) := by
    rw [show (4 : ℚ) = 2 ^ (2 : Int) by norm_num, ← zpow_add₀ two_ne_zero]
    congr 1
    ring
  have hnear : ∀ t : Steps, t.Fits → t.size ≠ s.size →
      |v - s.size| ≤ |v - t.size| ∧ (|v - s.size| = |v - t.size| → Even s.count) := by
    intro t ht hne
    rcases lt_or_gt_of_ne hne with hlt | hgt
    · have hgap := hs.le_pred ht hlt hbelow hleast
      rw [hhalf, mul_left_comm] at hgap
      have hwidth : (0 : ℚ) ≤ below * 2 ^ (s.power - 2) := by positivity
      rw [abs_of_nonneg (by linarith : 0 ≤ v - t.size)]
      rcases abs_cases (v - s.size) with ⟨habs, -⟩ | ⟨habs, -⟩ <;> rw [habs]
      · exact ⟨by linarith, fun h => absurd (by linarith) hne⟩
      · exact ⟨by linarith, fun h => hends (.inl (by linarith))⟩
    · have hgap := hs.succ_le ht hgt
      rw [Nat.cast_succ, add_one_mul, ← Steps.size, hstep] at hgap
      rw [abs_of_nonpos (by linarith : v - t.size ≤ 0)]
      rcases abs_cases (v - s.size) with ⟨habs, -⟩ | ⟨habs, -⟩ <;> rw [habs]
      · exact ⟨by linarith, fun h => hends (.inr (by linarith))⟩
      · exact ⟨by linarith, fun h => absurd (by linarith) hne⟩
  refine ⟨fun t ht => ?_, fun t ht hne => (hnear t ht hne).2⟩
  by_cases hne : t.size = s.size
  · rw [hne]
  · exact (hnear t ht hne).1

/-- What is above one nearest float is not nearest itself. -/
theorem Steps.NearestTo.not_size_lt {s t : Steps} {v : ℚ} (hs : s.Lawful) (ht : t.Lawful)
    (hsv : s.NearestTo v) (htv : t.NearestTo v) : ¬ s.size < t.size := by
  intro hlt
  have hequal : |v - s.size| = |v - t.size| :=
    le_antisymm (hsv.near t ht.toFits) (htv.near s hs.toFits)
  obtain ⟨k, hk⟩ := hsv.even t ht.toFits hlt.ne' hequal
  obtain ⟨n, hn⟩ := htv.even s hs.toFits hlt.ne hequal.symm
  -- the count is even, so one more step is a number that fits
  have hcount := hs.count_lt
  let next : Steps := ⟨s.negative, s.count + 1, s.power⟩
  have hnext : next.Lawful :=
    ⟨⟨show s.count + 1 < 2 ^ 53 by omega, hs.power_ge⟩, hs.full.imp_right Nat.le_succ_of_le⟩
  have hle : next.size ≤ t.size := hs.succ_le ht.toFits hlt
  have hstep : s.size < next.size := by
    simp only [Steps.size, next]
    have := twoPow_pos s.power
    push_cast
    linarith
  -- what is between the two is nearer to their middle than they are
  have hmiddle : 2 * v = s.size + t.size := by
    rcases abs_eq_abs.mp hequal with h | h <;> linarith
  have hend : next.size = t.size := by
    by_contra hne
    have hinner : next.size < t.size := lt_of_le_of_ne hle hne
    have hnearer : |v - next.size| < |v - s.size| := by
      rw [abs_of_nonneg (by linarith : 0 ≤ v - s.size), abs_lt]
      constructor <;> linarith
    exact absurd (hsv.near next hnext.toFits) hnearer.not_ge
  have hodd : t = { next with negative := t.negative } :=
    ht.eq_of_size ⟨⟨hnext.count_lt, hnext.power_ge⟩, hnext.full⟩ rfl hend.symm
  have hcount : t.count = s.count + 1 := congrArg Steps.count hodd
  omega

/-- A literal stands for at most one float. -/
theorem Literal.Rounds.unique {l : Literal} {x y : Float} (hx : l.Rounds x) (hy : l.Rounds y) :
    x = y := by
  obtain ⟨s, hs, hsign, hnear⟩ := hx
  obtain ⟨t, ht, htsign, htnear⟩ := hy
  have hslawful := lawful_of_stepsOf? hs
  have htlawful := lawful_of_stepsOf? ht
  have hsize : s.size = t.size :=
    le_antisymm (not_lt.mp (htnear.not_size_lt htlawful hslawful hnear))
      (not_lt.mp (hnear.not_size_lt hslawful htlawful htnear))
  obtain rfl := hslawful.eq_of_size htlawful (hsign.trans htsign.symm) hsize
  exact stepsOf?_inj hs ht

end OpeningHours.Decimal
