import OpeningHours.Proofs.JsonGrammar
import OpeningHours.Proofs.PaddedNumbers
import OpeningHours.Proofs.ShortestDigits

/-!
# OpeningHours — floats as they are written

The shortest digits of a float are laid out in one of four ways: a whole number, digits around a
point, zeros behind a point, or an exponent. None of them changes the number, and all of them follow
the grammar of JSON numbers, so a finite float is read back from what is written of it.

## Results

* `size_ofDigits`       — the layout of digits keeps their number.
* `rounds_ofFloat`      — the literal of a finite float stands for the float.
* `writesNumber_ofFloat` — the literal of a finite float follows the grammar.
-/

namespace OpeningHours

namespace Text

/-- The digits of a number write it. -/
theorem number_toDigits (n : Nat) : number (Nat.toDigits 10 n) = n := by
  rw [number_eq, Nat.ofDigitChars_ten_toDigits]

theorem allDigits_toDigits (n : Nat) : AllDigits (Nat.toDigits 10 n) :=
  fun _ hc => Nat.isDigit_of_mem_toDigits (by decide) (by decide) hc

/-- The first digit of a number above zero is not zero. -/
theorem head?_toDigits {n : Nat} (h : 0 < n) : (Nat.toDigits 10 n).head? ≠ some '0' := by
  intro hzero
  obtain ⟨rest, hrest⟩ := List.head?_eq_some_iff.mp hzero
  have hdigits : AllDigits rest := by
    have hall := allDigits_toDigits n
    rw [hrest] at hall
    exact (List.forall_mem_cons.mp hall).2
  have hnumber : n = number rest := by
    rw [← number_toDigits n, hrest]
    exact (number_append ['0'] rest).trans (Nat.zero_add _)
  have hlt : n < 10 ^ rest.length := hnumber.trans_lt (number_lt hdigits)
  have hlength : (Nat.toDigits 10 n).length = rest.length + 1 := by rw [hrest, List.length_cons]
  have hpos : 0 < rest.length := by
    rw [List.length_pos_iff]
    rintro rfl
    exact h.ne' hnumber
  have hle := (Nat.length_toDigits_le_iff (by decide) hpos).mpr hlt
  omega

end Text

namespace Decimal

open Text (AllDigits number_append number_zeros number_toDigits allDigits_toDigits)

/-- Zeros around the digits change the number by a power of ten only. -/
theorem size_of_padded {l : Literal} {d : Digits} (front back : Nat)
    (hdigits : l.whole ++ l.fraction = zeros front ++ Nat.toDigits 10 d.number ++ zeros back)
    (hpower : exponentPower l.exponent - l.fraction.length = d.power - back) :
    l.size = d.size := by
  have hback : (10 : ℚ) ^ d.power = 10 ^ back * 10 ^ (d.power - back) := by
    rw [← zpow_natCast, ← zpow_add₀ (by norm_num), add_sub_cancel]
  rw [Literal.size, hdigits, hpower, number_append, number_append, zeros, zeros, number_zeros,
    number_zeros, number_toDigits, List.length_replicate, Digits.size, hback]
  push_cast
  ring

theorem exponentPower_ofInt (n : Int) :
    exponentPower (some ⟨decide (n < 0), Nat.toDigits 10 n.natAbs⟩) = n := by
  simp only [exponentPower, number_toDigits, decide_eq_true_eq]
  split <;> omega

/-- The layout of the digits keeps their size. -/
theorem size_ofDigits (negative : Bool) (d : Digits) :
    (Literal.ofDigits negative d).size = d.size := by
  have hlength : 0 < (Nat.toDigits 10 d.number).length := Nat.length_toDigits_pos
  unfold Literal.ofDigits
  dsimp only
  split
  · rename_i hwhole
    refine size_of_padded 0 (d.power.toNat + 1) ?_ ?_
    · simp [zeros, List.replicate_succ']
    · simp only [exponentPower, List.length_singleton]
      omega
  split
  · rename_i hpoint
    refine size_of_padded 0 0 ?_ ?_
    · simp [zeros]
    · simp only [exponentPower, List.length_drop]
      omega
  split
  · rename_i hpoint
    refine size_of_padded ((-((Nat.toDigits 10 d.number).length + d.power)).toNat + 1) 0 ?_ ?_
    · simp [zeros, List.replicate_succ]
    · simp only [exponentPower, List.length_append, zeros, List.length_replicate]
      omega
  · refine size_of_padded 0 0 ?_ ?_
    · rw [List.take_append_drop]
      simp [zeros]
    · rw [exponentPower_ofInt, List.length_drop]
      omega

-- ---------------------------------------------------------------------------
-- The grammar
-- ---------------------------------------------------------------------------

open Json (Run WritesNumber WritesFraction WritesExponent)

/-- A literal in its normal form is written by the grammar. -/
theorem writesNumber_text {l : Literal} (hwhole : Run l.whole)
    (hzero : l.whole.head? = some '0' → l.whole = ['0']) (hfraction : AllDigits l.fraction)
    (hexponent : ∀ e, l.exponent = some e → Run e.digits) : WritesNumber l.text l := by
  obtain ⟨negative, whole, fraction, exponent⟩ := l
  have hfs : WritesFraction (fractionText fraction) fraction := by
    cases fraction with
    | nil => exact .absent
    | cons c cs => exact .digits ⟨List.cons_ne_nil c cs, hfraction⟩
  rw [Literal.text, List.append_assoc, List.append_assoc]
  refine .mk hwhole hzero hfs ?_
  cases exponent with
  | none => exact .absent
  | some e =>
    obtain ⟨negative, ds⟩ := e
    have hrun : Run ds := hexponent _ rfl
    cases negative with
    | true => exact .minus (.inl rfl) hrun
    | false => exact .plus (.inl rfl) hrun

theorem run_toDigits (n : Nat) : Run (Nat.toDigits 10 n) :=
  ⟨Nat.toDigits_ne_nil, allDigits_toDigits n⟩

theorem allDigits_zeros (n : Nat) : AllDigits (zeros n) := by
  intro c hc
  rw [List.eq_of_mem_replicate hc]
  rfl

/-- The digits of a float are written by the grammar. -/
theorem writesNumber_ofDigits (negative : Bool) {d : Digits} (h : 0 < d.number) :
    WritesNumber (Literal.ofDigits negative d).text (Literal.ofDigits negative d) := by
  have hrun := run_toDigits d.number
  have hhead := Text.head?_toDigits h
  obtain ⟨c, rest, hds, -⟩ := hrun.exists_cons
  unfold Literal.ofDigits
  dsimp only
  generalize Nat.toDigits 10 d.number = ds at hrun hhead hds
  subst hds
  have hc : c ≠ '0' := by simpa using hhead
  split
  · refine writesNumber_text ⟨by simp, ?_⟩ ?_ ?_ ?_
    · exact List.forall_mem_append.mpr ⟨hrun.digits, allDigits_zeros _⟩
    · simp [hc]
    · simp [AllDigits]
    · simp
  split
  · rename_i hpoint
    obtain ⟨n, hn⟩ : ∃ n, ((c :: rest).length + d.power).toNat = n + 1 :=
      ⟨((c :: rest).length + d.power).toNat - 1, by omega⟩
    rw [hn]
    refine writesNumber_text ⟨by simp, ?_⟩ ?_ ?_ ?_
    · exact fun x hx => hrun.digits x (List.mem_of_mem_take hx)
    · simp [hc]
    · exact fun x hx => hrun.digits x (List.mem_of_mem_drop hx)
    · simp
  split
  · refine writesNumber_text ⟨by simp, ?_⟩ ?_ ?_ ?_
    · simp
    · simp
    · exact List.forall_mem_append.mpr ⟨allDigits_zeros _, hrun.digits⟩
    · simp
  · refine writesNumber_text ⟨by simp, ?_⟩ ?_ ?_ ?_
    · exact fun x hx => hrun.digits x (List.mem_of_mem_take hx)
    · simp [hc]
    · exact fun x hx => hrun.digits x (List.mem_of_mem_drop hx)
    · rintro _ ⟨⟩
      exact run_toDigits _

-- ---------------------------------------------------------------------------
-- Floats
-- ---------------------------------------------------------------------------

/-- Zero is nearest to itself. -/
theorem nearestTo_zero {s : Steps} (h : s.count = 0) : s.NearestTo 0 := by
  have hsize : s.size = 0 := by rw [Steps.size, h, Nat.cast_zero, zero_mul]
  refine ⟨fun t _ => ?_, fun t _ _ _ => ?_⟩
  · rw [hsize, sub_zero, abs_zero]
    exact abs_nonneg _
  · rw [h]
    exact Even.zero

theorem negative_ofDigits (negative : Bool) (d : Digits) :
    (Literal.ofDigits negative d).negative = negative := by
  unfold Literal.ofDigits
  dsimp only
  split
  · rfl
  split
  · rfl
  split <;> rfl

/-- The literal of a float with so many steps. -/
theorem ofFloat_eq {x : Float} {s : Steps} (hs : stepsOf? x = some s) :
    Literal.ofFloat x =
      if s.count = 0 then ⟨s.negative, ['0'], ['0'], none⟩
      else .ofDigits s.negative (shortest (.ofBits x.toBits.toNat)) := by
  have hcount := (measures_ofBits hs).count_eq
  rw [Literal.ofFloat, ← (fields_of_stepsOf? hs).1]
  by_cases hzero : s.count = 0
  · rw [if_pos hzero, if_pos (by omega)]
  · rw [if_neg hzero, if_neg (by omega)]

/-- The literal of a finite float stands for the float. -/
theorem rounds_ofFloat {x : Float} (h : x.isFinite = true) : (Literal.ofFloat x).Rounds x := by
  obtain ⟨s, hs⟩ := exists_stepsOf? h
  refine ⟨s, hs, ?_⟩
  rw [ofFloat_eq hs]
  split
  · rename_i hzero
    have hsize : Literal.size ⟨s.negative, ['0'], ['0'], none⟩ = 0 :=
      (congrArg (· * _) Nat.cast_zero).trans (zero_mul _)
    exact ⟨rfl, hsize ▸ nearestTo_zero hzero⟩
  · rename_i hzero
    have hpos := Nat.pos_of_ne_zero hzero
    have hlawful := lawful_of_stepsOf? hs
    have hmeasures := measures_ofBits hs
    rw [negative_ofDigits, size_ofDigits]
    exact ⟨rfl, hmeasures.nearestTo hlawful hpos (holds_shortest hmeasures hlawful hpos)⟩

/-- The literal of a finite float is written by the grammar. -/
theorem writesNumber_ofFloat {x : Float} (h : x.isFinite = true) :
    WritesNumber (Literal.ofFloat x).text (Literal.ofFloat x) := by
  obtain ⟨s, hs⟩ := exists_stepsOf? h
  rw [ofFloat_eq hs]
  split
  · exact writesNumber_text ⟨by simp, by simp⟩ (fun _ => rfl) (by simp [AllDigits]) (by simp)
  · rename_i hzero
    exact writesNumber_ofDigits s.negative (shortest_number_pos (measures_ofBits hs)
      (lawful_of_stepsOf? hs) (Nat.pos_of_ne_zero hzero))

end Decimal

end OpeningHours
