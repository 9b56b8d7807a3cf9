import OpeningHours.Decimal.Shortest
import OpeningHours.Proofs.NearestFloats

/-!
# OpeningHours — the shortest digits stand for their float

The digits that are written of a float are searched on coarser grids first, from a magnitude that is
only estimated. All that matters for reading them back is that they are in the interval of the
float, and that the search finds some: a magnitude too small by a few powers of ten costs digits,
one too large would cost the result.

* `Quarters.Measures q s` — the quarters are those of the steps.
* `Quarters.Holds q v`    — the number is in the interval of the float.

## Results

* `roundsTo_iff`        — the comparisons between natural numbers decide the interval.
* `tenPow_magnitude_le` — the magnitude is at most one power of ten too large.
* `nearestAt_seventeen` — seventeen digits are enough.
* `holds_shortest`      — the shortest digits are in the interval of the float.
-/

namespace OpeningHours.Decimal

-- ---------------------------------------------------------------------------
-- Floats in quarters
-- ---------------------------------------------------------------------------

/-- The quarters are those of the steps. -/
structure Quarters.Measures (q : Quarters) (s : Steps) : Prop where
  count_eq : q.count = 4 * s.count
  power_eq : q.power = s.power - 2
  above_eq : q.above = 2
  below_eq : q.below = 2 ∨ q.below = 1 ∧ s.count = 2 ^ 52
  least : s.count = 2 ^ 52 → s.power ≠ -1074 → q.below = 1
  even_iff : q.even = true ↔ Even s.count

/-- The quarters of a float measure its steps. -/
theorem measures_ofBits {x : Float} {s : Steps} (h : stepsOf? x = some s) :
    (Quarters.ofBits x.toBits.toNat).Measures s := by
  obtain ⟨-, h⟩ := fields_of_stepsOf? h
  unfold Quarters.ofBits
  generalize hfraction : x.toBits.toNat % twoTo 52 = fraction at h ⊢
  generalize hexponent : x.toBits.toNat / twoTo 52 % twoTo 11 = exponent at h ⊢
  have hlt : fraction < 2 ^ 52 := hfraction ▸ Nat.mod_lt _ (by decide)
  simp only [twoTo_eq] at h ⊢
  rcases h with ⟨hlow, hcount, hpower⟩ | ⟨hlow, hcount, hpower⟩
  · rw [if_pos hlow]
    refine ⟨?_, ?_, rfl, .inl rfl, ?_, ?_⟩
    · dsimp only; omega
    · dsimp only; omega
    · omega
    · simp [Nat.even_iff, hcount]
  · rw [if_neg hlow]
    refine ⟨?_, ?_, rfl, ?_, ?_, ?_⟩ <;> dsimp only
    · omega
    · omega
    · split <;> omega
    · intro _ _
      rw [if_pos (by omega)]
    · rw [hcount, decide_eq_true_iff, Nat.even_iff]
      omega

/-- The number is in the interval of the float, whose ends belong to it if the float is even. -/
structure Quarters.Holds (q : Quarters) (v : ℚ) : Prop where
  low : ((q.count - q.below : Nat) : ℚ) * 2 ^ q.power ≤ v
  high : v ≤ ((q.count + q.above : Nat) : ℚ) * 2 ^ q.power
  ends : v = ((q.count - q.below : Nat) : ℚ) * 2 ^ q.power ∨
    v = ((q.count + q.above : Nat) : ℚ) * 2 ^ q.power → q.even = true

/-- The float is nearest to the numbers of its interval. -/
theorem Quarters.Measures.nearestTo {q : Quarters} {s : Steps} (h : q.Measures s) (hs : s.Lawful)
    (hpos : 0 < s.count) {v : ℚ} (hv : q.Holds v) : s.NearestTo v := by
  have hsize : s.size = 4 * s.count * 2 ^ (s.power - 2) := by
    rw [Steps.size, mul_comm (4 : ℚ), mul_assoc, show (4 : ℚ) = 2 ^ (2 : Int) by norm_num,
      ← zpow_add₀ two_ne_zero]
    congr 2
    ring
  have hbelow : q.below ≤ 2 := by
    rcases h.below_eq with h | ⟨h, -⟩ <;> omega
  have hlow : ((q.count - q.below : Nat) : ℚ) * 2 ^ q.power =
      s.size - q.below * 2 ^ (s.power - 2) := by
    rw [h.count_eq, h.power_eq, Nat.cast_sub (by omega), hsize]
    push_cast
    ring
  have hhigh : ((q.count + q.above : Nat) : ℚ) * 2 ^ q.power =
      s.size + 2 * 2 ^ (s.power - 2) := by
    rw [h.count_eq, h.power_eq, h.above_eq, hsize]
    push_cast
    ring
  obtain ⟨hvlow, hvhigh, hends⟩ := hv
  rw [hlow] at hvlow hends
  rw [hhigh] at hvhigh hends
  exact hs.nearestTo_of_between hbelow (fun h1 h2 => (h.least h1 h2).le) hvlow hvhigh
    fun hv => h.even_iff.mp (hends hv)

-- ---------------------------------------------------------------------------
-- Comparing
-- ---------------------------------------------------------------------------

/-- A power of two or ten, freed of its negative exponents. -/
theorem zpow_mul_pow_neg {b : ℚ} (hb : b ≠ 0) (n : Int) :
    b ^ n * b ^ (-n).toNat = b ^ n.toNat := by
  rw [← zpow_natCast, ← zpow_natCast, ← zpow_add₀ hb]
  congr 1
  omega

section

variable (q : Quarters) (power : Int)

/-- The two factors are a power of ten and a power of two, times one number. -/
theorem exists_gridFactors : ∃ c : ℚ, 0 < c ∧ 10 ^ power * c = (gridFactors q power).1 ∧
    2 ^ q.power * c = (gridFactors q power).2 := by
  refine ⟨10 ^ (-power).toNat * 2 ^ (-q.power).toNat, by positivity, ?_, ?_⟩
  · rw [← mul_assoc, zpow_mul_pow_neg (by norm_num)]
    simp [gridFactors, tenTo, twoTo]
  · rw [mul_left_comm, zpow_mul_pow_neg (by norm_num)]
    simp [gridFactors, tenTo, twoTo, mul_comm]

/-- Decimals are compared to quarters by the two factors. -/
theorem gridFactors_le_iff (d n : Nat) :
    (d * (gridFactors q power).1 ≤ n * (gridFactors q power).2 ↔
        (d : ℚ) * 10 ^ power ≤ n * 2 ^ q.power) ∧
      (n * (gridFactors q power).2 ≤ d * (gridFactors q power).1 ↔
        (n : ℚ) * 2 ^ q.power ≤ d * 10 ^ power) := by
  obtain ⟨c, hc, hten, htwo⟩ := exists_gridFactors q power
  have hd : ((d * (gridFactors q power).1 : Nat) : ℚ) = d * 10 ^ power * c := by
    rw [Nat.cast_mul, ← hten, mul_assoc]
  have hn : ((n * (gridFactors q power).2 : Nat) : ℚ) = n * 2 ^ q.power * c := by
    rw [Nat.cast_mul, ← htwo, mul_assoc]
  constructor <;> rw [← @Nat.cast_le ℚ, hd, hn, mul_le_mul_iff_left₀ hc]

/-- What the comparison with a power of ten stands for. -/
theorem isBelow_iff : isBelow q power = true ↔ (q.count : ℚ) * 2 ^ q.power < 10 ^ power := by
  have h := (gridFactors_le_iff q power 1 q.count).1
  rw [Nat.one_mul, Nat.cast_one, one_mul] at h
  rw [isBelow, decide_eq_true_iff, ← not_le, h, not_le]

/-- What the test of a decimal stands for. -/
theorem roundsTo_iff (d : Nat) : roundsTo q power d = true ↔ q.Holds (d * 10 ^ power) := by
  obtain ⟨hlow', hlow⟩ := gridFactors_le_iff q power d (q.count - q.below)
  obtain ⟨hhigh, hhigh'⟩ := gridFactors_le_iff q power d (q.count + q.above)
  rw [roundsTo]
  cases heven : q.even with
  | true =>
    simp only [if_true, decide_eq_true_eq, hlow, hhigh]
    exact ⟨fun h => ⟨h.1, h.2, fun _ => heven⟩, fun h => ⟨h.low, h.high⟩⟩
  | false =>
    simp only [Bool.false_eq_true, if_false, decide_eq_true_eq, ← not_le, hlow', hhigh']
    simp only [not_le]
    constructor
    · rintro ⟨hlow, hhigh⟩
      exact ⟨hlow.le, hhigh.le, fun hv => (hv.elim hlow.ne' hhigh.ne).elim⟩
    · intro h
      have hends := fun hv => Bool.false_ne_true (heven.symm.trans (h.ends hv))
      exact ⟨lt_of_le_of_ne h.low fun hv => hends (.inl hv.symm),
        lt_of_le_of_ne h.high fun hv => hends (.inr hv)⟩

end

-- ---------------------------------------------------------------------------
-- The search
-- ---------------------------------------------------------------------------

section

variable {q : Quarters} {power : Int}

/-- The nearest decimal rounds to the float. -/
theorem holds_of_nearestAt {d : Digits} (h : nearestAt q power = some d) :
    q.Holds (d.number * 10 ^ d.power) := by
  suffices hd : roundsTo q d.power d.number = true from (roundsTo_iff q d.power d.number).mp hd
  simp only [nearestAt] at h
  split at h
  · exact absurd h (by simp)
  · rename_i hlower _
    obtain rfl := Option.some.inj h
    exact hlower
  · rename_i _ hupper
    obtain rfl := Option.some.inj h
    exact hupper
  · rename_i hlower hupper
    split at h
    · obtain rfl := Option.some.inj h
      exact hlower
    · split at h
      · obtain rfl := Option.some.inj h
        exact hupper
      · obtain rfl := Option.some.inj h
        dsimp only
        split
        · exact hlower
        · exact hupper

/-- What is not in the interval is beyond one of its ends. -/
theorem Quarters.le_or_ge_of_not_holds {v : ℚ} (h : ¬ q.Holds v) :
    v ≤ (q.count - q.below : Nat) * 2 ^ q.power ∨ (q.count + q.above : Nat) * 2 ^ q.power ≤ v := by
  by_contra hv
  obtain ⟨hlow, hhigh⟩ := not_or.mp hv
  rw [not_le] at hlow hhigh
  exact h ⟨hlow.le, hhigh.le, fun hv => (hv.elim hlow.ne' hhigh.ne).elim⟩

/-- A grid finer than the interval is wide has a number in it. -/
theorem nearestAt_ne_none (hle : q.below ≤ q.count) (habove : 0 < q.above)
    (h : (10 : ℚ) ^ power < (q.below + q.above : Nat) * 2 ^ q.power) :
    nearestAt q power ≠ none := by
  intro hnone
  have hpos := twoPow_pos q.power
  have hgrid : 0 < (gridFactors q power).1 := by
    simp only [gridFactors, tenTo, twoTo, Nat.pow_eq]
    positivity
  -- the two numbers looked at are the ones around the float
  obtain ⟨lower, hlower⟩ :
      ∃ lower, lower = q.count * (gridFactors q power).2 / (gridFactors q power).1 := ⟨_, rfl⟩
  have hbefore : (lower : ℚ) * 10 ^ power ≤ q.count * 2 ^ q.power := by
    rw [← (gridFactors_le_iff q power lower q.count).1, hlower]
    exact Nat.div_mul_le_self _ _
  have hbehind : (q.count : ℚ) * 2 ^ q.power < (lower + 1 : Nat) * 10 ^ power := by
    rw [← not_le, ← (gridFactors_le_iff q power (lower + 1) q.count).1, not_le,
      ← Nat.div_lt_iff_lt_mul hgrid, ← hlower]
    exact Nat.lt_succ_self lower
  have hneither : ¬ q.Holds (lower * 10 ^ power) ∧ ¬ q.Holds ((lower + 1 : Nat) * 10 ^ power) := by
    rw [← roundsTo_iff, ← roundsTo_iff, hlower]
    simp only [nearestAt] at hnone
    split at hnone
    · rename_i h1 h2
      simp [h1, h2]
    · simp at hnone
    · simp at hnone
    · split at hnone
      · simp at hnone
      · split at hnone <;> simp at hnone
  -- neither is in the interval, so they are further apart than it is wide
  have hfirst : (lower : ℚ) * 10 ^ power ≤ (q.count - q.below : Nat) * 2 ^ q.power := by
    refine (Quarters.le_or_ge_of_not_holds hneither.1).resolve_right (not_le.mpr ?_)
    refine hbefore.trans_lt (mul_lt_mul_of_pos_right ?_ hpos)
    exact_mod_cast Nat.lt_add_of_pos_right habove
  have hsecond : ((q.count + q.above : Nat) : ℚ) * 2 ^ q.power ≤
      (lower + 1 : Nat) * 10 ^ power := by
    refine (Quarters.le_or_ge_of_not_holds hneither.2).resolve_left (not_le.mpr ?_)
    refine lt_of_le_of_lt (mul_le_mul_of_nonneg_right ?_ hpos.le) hbehind
    exact_mod_cast Nat.sub_le _ _
  rw [Nat.cast_sub hle] at hfirst
  push_cast at hfirst hsecond h
  linarith

end

-- ---------------------------------------------------------------------------
-- The magnitude
-- ---------------------------------------------------------------------------

/-- Powers compared by a power of each that is known to be smaller than one of the other. -/
theorem pow_le_pow_of_ratio {a b p r n k : Nat} (ha : 0 < a) (hr : r ≠ 0) (hpow : a ^ p ≤ b ^ r)
    (h : r * n ≤ p * k) : a ^ n ≤ b ^ k := by
  refine (Nat.pow_le_pow_iff_left hr).mp ?_
  calc (a ^ n) ^ r = a ^ (r * n) := by rw [← pow_mul, Nat.mul_comm]
    _ ≤ a ^ (p * k) := Nat.pow_le_pow_right ha h
    _ = (a ^ p) ^ k := pow_mul a p k
    _ ≤ (b ^ r) ^ k := Nat.pow_le_pow_left hpow k
    _ = (b ^ k) ^ r := by rw [← pow_mul, ← pow_mul, Nat.mul_comm]

/-- The decimal logarithm of a power of two, rounded down with a margin of two. -/
theorem tenPow_le_twoPow {l : Int} (h : -8192 ≤ l) :
    (10 : ℚ) ^ (l * 1233 / 4096 - 2) ≤ 2 ^ l := by
  rcases le_or_gt 0 l with hl | hl
  · obtain ⟨k, rfl⟩ := Int.eq_ofNat_of_zero_le hl
    have hpow : 10 ^ (k * 1233 / 4096) ≤ 2 ^ k :=
      pow_le_pow_of_ratio (by norm_num) (by norm_num : (4096 : Nat) ≠ 0)
        (by decide +kernel : 10 ^ 1233 ≤ 2 ^ 4096) (by omega)
    calc (10 : ℚ) ^ ((k : Int) * 1233 / 4096 - 2) ≤ 10 ^ ((k * 1233 / 4096 : Nat) : Int) :=
          zpow_le_zpow_right₀ (by norm_num) (by omega)
      _ ≤ 2 ^ (k : Int) := by
          rw [zpow_natCast, zpow_natCast]
          exact_mod_cast hpow
  · obtain ⟨k, hk⟩ : ∃ k : Nat, l = -k := ⟨(-l).toNat, by omega⟩
    obtain ⟨n, hn⟩ : ∃ n : Nat, l * 1233 / 4096 - 2 = -n :=
      ⟨(-(l * 1233 / 4096 - 2)).toNat, by omega⟩
    have hpow : 2 ^ k ≤ 10 ^ n :=
      pow_le_pow_of_ratio (by norm_num) (by norm_num : (1234 : Nat) ≠ 0)
        (by decide +kernel : 2 ^ 4096 ≤ 10 ^ 1234) (by omega)
    rw [hn, hk, zpow_neg, zpow_neg, zpow_natCast, zpow_natCast]
    exact inv_anti₀ (by positivity) (by exact_mod_cast hpow)

/-- The search for the magnitude ends at its first candidate, or behind one that is not above the
float. -/
theorem magnitude_le_or_not_isBelow (q : Quarters) :
    magnitude q ≤ ((Nat.log2 q.count : Int) + q.power) * 1233 / 4096 - 1 ∨
      isBelow q (magnitude q - 1) = false := by
  rw [magnitude]
  generalize ((Nat.log2 q.count : Int) + q.power) * 1233 / 4096 - 1 = estimate
  rw [List.find?_map]
  cases hfind : (List.range 6).find? (isBelow q ∘ fun k : Nat => estimate + k) with
  | none =>
    right
    have hlast := List.find?_eq_none.mp hfind 5 (by decide)
    simpa [add_sub_assoc] using hlast
  | some k =>
    obtain ⟨-, -, hbefore⟩ := List.find?_range_eq_some.mp hfind
    cases k with
    | zero => left; simp
    | succ k =>
      right
      have hprevious := hbefore k (Nat.lt_succ_self k)
      simpa [add_sub_assoc] using hprevious

/-- The magnitude is no more than one power of ten too large. -/
theorem tenPow_magnitude_le {q : Quarters} (hcount : 0 < q.count) (hpower : -8192 ≤ q.power) :
    (10 : ℚ) ^ (magnitude q - 1) ≤ q.count * 2 ^ q.power := by
  rcases magnitude_le_or_not_isBelow q with hle | hnot
  · calc (10 : ℚ) ^ (magnitude q - 1)
        ≤ 10 ^ (((Nat.log2 q.count : Int) + q.power) * 1233 / 4096 - 2) :=
          zpow_le_zpow_right₀ (by norm_num) (by omega)
      _ ≤ 2 ^ ((Nat.log2 q.count : Int) + q.power) := tenPow_le_twoPow (by omega)
      _ = (2 ^ Nat.log2 q.count : Nat) * 2 ^ q.power := by
          rw [zpow_add₀ two_ne_zero, zpow_natCast]
          norm_cast
      _ ≤ q.count * 2 ^ q.power := by
          gcongr
          exact Nat.log2_self_le hcount.ne'
  · rw [← not_lt, ← isBelow_iff, hnot]
    exact Bool.false_ne_true

-- ---------------------------------------------------------------------------
-- The shortest digits
-- ---------------------------------------------------------------------------

/-- The number that digits write. -/
def Digits.size (d : Digits) : ℚ :=
  d.number * 10 ^ d.power

/-- Stripping zeros keeps the size. -/
theorem size_stripZeros (n : Nat) (d : Digits) : (stripZeros n d).size = d.size := by
  induction n generalizing d with
  | zero => rfl
  | succ n ih =>
    rw [stripZeros]
    split
    · rename_i hzero
      have hnumber : d.number = 10 * (d.number / 10) := by omega
      rw [ih, Digits.size, Digits.size, zpow_add_one₀ (by norm_num)]
      conv_rhs => rw [hnumber]
      push_cast
      ring
    · rfl

section

variable {q : Quarters} {s : Steps} (h : q.Measures s) (hs : s.Lawful) (hpos : 0 < s.count)
include h hs hpos

/-- Seventeen digits are enough to tell a float from its neighbours. -/
theorem nearestAt_seventeen : nearestAt q (magnitude q - 17) ≠ none := by
  have hcount := h.count_eq
  have hbelow := h.below_eq
  have hlt := hs.count_lt
  have hge := hs.power_ge
  refine nearestAt_ne_none (by omega) (by rw [h.above_eq]; norm_num) ?_
  have hmagnitude : (10 : ℚ) ^ (magnitude q - 1) ≤ q.count * 2 ^ q.power :=
    tenPow_magnitude_le (by omega) (by rw [h.power_eq]; omega)
  have hwide : q.count < 10 ^ 16 * (q.below + q.above) := by
    rw [h.above_eq]
    omega
  have hgrid : (10 : ℚ) ^ (magnitude q - 1) = 10 ^ 16 * 10 ^ (magnitude q - 17) := by
    rw [← zpow_natCast, ← zpow_add₀ (by norm_num)]
    congr 1
    ring
  have hscaled : (10 : ℚ) ^ 16 * 10 ^ (magnitude q - 17) <
      10 ^ 16 * ((q.below + q.above : Nat) * 2 ^ q.power) := by
    calc (10 : ℚ) ^ 16 * 10 ^ (magnitude q - 17) ≤ q.count * 2 ^ q.power := hgrid ▸ hmagnitude
      _ < (10 ^ 16 * (q.below + q.above) : Nat) * 2 ^ q.power :=
          mul_lt_mul_of_pos_right (by exact_mod_cast hwide) (twoPow_pos q.power)
      _ = 10 ^ 16 * ((q.below + q.above : Nat) * 2 ^ q.power) := by
          push_cast
          ring
  exact lt_of_mul_lt_mul_left hscaled (by positivity)

/-- The shortest digits are in the interval of the float. -/
theorem holds_shortest : q.Holds (shortest q).size := by
  rw [shortest]
  split
  · rename_i d hd
    obtain ⟨n, -, hn⟩ := List.exists_of_findSome?_eq_some hd
    rw [size_stripZeros]
    exact holds_of_nearestAt hn
  · rename_i hnone
    have hlast := List.findSome?_eq_none_iff.mp hnone 16 (by decide)
    exact absurd hlast (nearestAt_seventeen h hs hpos)

theorem shortest_number_pos : 0 < (shortest q).number := by
  have hlow := (holds_shortest h hs hpos).low
  have hbelow := h.below_eq
  have hcount := h.count_eq
  have hend : (0 : ℚ) < (q.count - q.below : Nat) * 2 ^ q.power := by
    have := twoPow_pos q.power
    have : 0 < q.count - q.below := by omega
    positivity
  refine Nat.pos_of_ne_zero fun hzero => ?_
  rw [Digits.size, hzero, Nat.cast_zero, zero_mul] at hlow
  exact absurd hlow hend.not_ge

end

end OpeningHours.Decimal
