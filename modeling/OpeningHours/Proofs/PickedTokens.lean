import Mathlib.Data.List.Forall2
import Mathlib.Data.List.Nodup
import OpeningHours.Proofs.TokenGrammar

/-!
# OpeningHours — the tokens that are picked

Of the range tokens of a text the leftmost one is picked, then the leftmost one that starts no
sooner than the picked one ends, and so on. There is one such list, and the scan gives it: where it
passes a character over, no token starts there or the character belongs to the token picked last.

A picked token counts if its digits are ASCII, its clocks can be shown and the first is the earlier
one. The others are passed over, but the places they take are taken.

* `Picks hours n l`        — the tokens picked from a place on.
* `RangeToken.Possible`    — the token counts.
* `RangeToken.StandsFor`   — the span that a token stands for.

## Results

* `exists_picks`       — the scan gives the picked tokens.
* `span?_eq_some_iff`  — a token is read as a span if it counts and stands for it.
* `spans_picked`       — the spans of an hours text are those of its picked tokens that count.
-/

namespace OpeningHours.Schedule

open Text

-- ---------------------------------------------------------------------------
-- Picking
-- ---------------------------------------------------------------------------

/-- The tokens picked from a place on: the leftmost one that starts there or later, then those
picked from the place behind it on. -/
inductive Picks (hours : List Char) : Nat → List Placed → Prop where
  | done {n : Nat} (h : ∀ q, IsToken hours q → q.start < n) : Picks hours n []
  | pick {n : Nat} {p : Placed} {rest : List Placed} (htoken : IsToken hours p)
      (hfrom : n ≤ p.start) (hleft : ∀ q, IsToken hours q → n ≤ q.start → p.start ≤ q.start)
      (hrest : Picks hours p.stop rest) : Picks hours n (p :: rest)

/-- Only one list of tokens is picked. -/
theorem Picks.unique {hours : List Char} {n : Nat} {picked picked' : List Placed}
    (h : Picks hours n picked) (h' : Picks hours n picked') : picked = picked' := by
  induction h generalizing picked' with
  | done hnone =>
    cases h' with
    | done _ => rfl
    | pick htoken hfrom _ _ =>
      have := hnone _ htoken
      omega
  | @pick n p rest htoken hfrom hleft _ ih =>
    cases h' with
    | done hnone =>
      have := hnone _ htoken
      omega
    | @pick _ q rest' htoken' hfrom' hleft' hrest' =>
      -- both are leftmost
      have hle := hleft _ htoken' hfrom'
      have hge := hleft' _ htoken hfrom
      obtain rfl := htoken.unique htoken' (by omega)
      rw [ih hrest']

/-- Picking from a place where no token starts is picking from the next one. -/
theorem Picks.of_none {hours : List Char} {n : Nat} {picked : List Placed}
    (hnone : tokenAt? hours n = none) (h : Picks hours (n + 1) picked) : Picks hours n picked := by
  have hne : ∀ q, IsToken hours q → q.start ≠ n := by
    rintro q hq rfl
    rw [isToken_iff.mp hq] at hnone
    simp at hnone
  cases h with
  | done hdone =>
    refine .done ?_
    intro q hq
    have := hdone q hq
    have := hne q hq
    omega
  | pick htoken hfrom hleft hrest =>
    refine .pick htoken (by omega) ?_ hrest
    intro q hq hn
    have := hne q hq
    exact hleft q hq (by omega)

/-- The token at a place is picked there. -/
theorem Picks.of_some {hours : List Char} {n : Nat} {p : Placed} {rest : List Placed}
    (hsome : tokenAt? hours n = some p) (hstart : p.start = n) (h : Picks hours p.stop rest) :
    Picks hours n (p :: rest) := by
  subst hstart
  exact .pick (isToken_iff.mpr hsome) (Nat.le_refl _) (fun _ _ hn => hn) h

/-- The picked tokens stand in the text. -/
theorem Picks.isToken {hours : List Char} {n : Nat} {picked : List Placed}
    (h : Picks hours n picked) : ∀ p ∈ picked, IsToken hours p := by
  induction h with
  | done _ => simp
  | pick htoken _ _ _ ih => exact List.forall_mem_cons.mpr ⟨htoken, ih⟩

/-- The picked tokens start no sooner than the picking. -/
theorem Picks.le_start {hours : List Char} {n : Nat} {picked : List Placed}
    (h : Picks hours n picked) : ∀ p ∈ picked, n ≤ p.start := by
  induction h with
  | done _ => simp
  | @pick n p rest htoken hfrom _ _ ih =>
    refine List.forall_mem_cons.mpr ⟨hfrom, ?_⟩
    intro q hq
    have := ih q hq
    have := htoken.start_lt_stop
    omega

/-- No token is picked twice. -/
theorem Picks.nodup {hours : List Char} {n : Nat} {picked : List Placed}
    (h : Picks hours n picked) : picked.Nodup := by
  induction h with
  | done _ => exact List.nodup_nil
  | @pick n p rest htoken _ _ hrest ih =>
    refine List.nodup_cons.mpr ⟨?_, ih⟩
    intro hp
    have := hrest.le_start p hp
    have := htoken.start_lt_stop
    omega

/-- A token that overlaps no other one is picked. -/
theorem Picks.mem_of_alone {hours : List Char} {n : Nat} {picked : List Placed} {p : Placed}
    (h : Picks hours n picked) (hp : IsToken hours p) (hn : n ≤ p.start) (halone : Alone hours p) :
    p ∈ picked := by
  induction h with
  | done hnone =>
    have := hnone p hp
    omega
  | @pick n q rest htoken _ hleft _ ih =>
    by_cases hover : q.Overlaps p
    · obtain rfl := halone q htoken hover
      exact List.mem_cons_self ..
    · -- the picked token ends before this one, which is still to be picked
      have := hleft p hp hn
      have := hp.start_lt_stop
      unfold Placed.Overlaps at hover
      exact List.mem_cons_of_mem _ (ih (by omega))

-- ---------------------------------------------------------------------------
-- The scan
-- ---------------------------------------------------------------------------

/-- One step of the scan: the token at the place is taken, if there is one. -/
theorem tokensFrom_step (front : List Char) (c : Char) (cs : List Char) :
    tokensFrom (endsInWord false front) 0 (c :: cs) =
      match tokenAt? (front ++ c :: cs) front.length with
      | some p => p.token :: tokensFrom (isWord c) (p.stop - (front.length + 1)) cs
      | none => tokensFrom (isWord c) 0 cs := by
  rw [tokensFrom, tokenAt?, List.take_left, List.drop_left]
  cases endsInWord false front with
  | true => rfl
  | false =>
    simp only [Bool.false_eq_true, if_false]
    cases readToken (c :: cs) with
    | none => rfl
    | some found =>
      have hskip : (front ++ c :: cs).length - found.2.length - (front.length + 1) =
          cs.length - found.2.length := by
        simp only [List.length_append, List.length_cons]
        omega
      simp only [Option.map_some, hskip]

/-- The scan gives the picked tokens: with `skip` characters still to be passed over, those picked
behind them. -/
theorem exists_picks (front cs : List Char) (skip : Nat) :
    ∃ picked, Picks (front ++ cs) (front.length + skip) picked ∧
      picked.map Placed.token = tokensFrom (endsInWord false front) skip cs := by
  -- the induction is on what is left of the text, for every text in front of it
  induction cs generalizing front skip with
  | nil =>
    refine ⟨[], .done ?_, ?_⟩
    · intro q hq
      have hlt := hq.start_lt_stop
      have hle := hq.stop_le_length
      simp only [List.append_nil] at hle
      omega
    · cases skip <;> rfl
  | cons c cs ih =>
    have hnext := ih (front ++ [c])
    simp only [endsInWord_concat, List.append_assoc, List.singleton_append, List.length_append,
      List.length_singleton] at hnext
    cases skip with
    | succ skip =>
      obtain ⟨picked, hpicks, htokens⟩ := hnext skip
      rw [Nat.add_assoc, Nat.add_comm 1] at hpicks
      exact ⟨picked, hpicks, htokens⟩
    | zero =>
      rw [tokensFrom_step]
      cases hat : tokenAt? (front ++ c :: cs) front.length with
      | none =>
        obtain ⟨picked, hpicks, htokens⟩ := hnext 0
        exact ⟨picked, hpicks.of_none hat, htokens⟩
      | some p =>
        have hstart := start_of_tokenAt? hat
        have hlt := (isToken_iff.mpr (hstart ▸ hat)).start_lt_stop
        obtain ⟨picked, hpicks, htokens⟩ := hnext (p.stop - (front.length + 1))
        rw [show front.length + 1 + (p.stop - (front.length + 1)) = p.stop by omega] at hpicks
        refine ⟨p :: picked, hpicks.of_some hat hstart, ?_⟩
        rw [List.map_cons, htokens]

-- ---------------------------------------------------------------------------
-- Tokens that count
-- ---------------------------------------------------------------------------

/-- The token counts: ASCII digits, clocks that can be shown, and the first one the earlier. -/
structure RangeToken.Possible (t : RangeToken) : Prop where
  ascii : ∀ c ∈ t.digits, c.isDigit = true
  startHour : number t.startHour.chars < 24
  startMinute : number t.startMinute.chars < 60
  stopHour : number t.stopHour.chars < 24
  stopMinute : number t.stopMinute.chars < 60
  inOrder : number t.startHour.chars * 60 + number t.startMinute.chars <
    number t.stopHour.chars * 60 + number t.stopMinute.chars

/-- The span runs from the first clock of the token to the second. -/
structure RangeToken.StandsFor (t : RangeToken) (s : Span) : Prop where
  start : s.start.minutes = number t.startHour.chars * 60 + number t.startMinute.chars
  stop : s.stop.minutes = number t.stopHour.chars * 60 + number t.stopMinute.chars

theorem number_chars (p : DigitPair) :
    number p.chars = (p.tens.toNat - 48) * 10 + (p.ones.toNat - 48) := by
  show (0 * 10 + (p.tens.toNat - 48)) * 10 + (p.ones.toNat - 48) = _
  rw [Nat.zero_mul, Nat.zero_add]

/-- A pair has a value exactly if its digits are ASCII digits. -/
theorem value?_eq_some_iff {p : DigitPair} {n : Nat} :
    p.value? = some n ↔ (∀ c ∈ p.chars, c.isDigit = true) ∧ number p.chars = n := by
  have hdigits : (∀ c ∈ p.chars, c.isDigit = true) ↔ p.tens.isDigit ∧ p.ones.isDigit := by
    simp [DigitPair.chars]
  rw [DigitPair.value?, number_chars, hdigits]
  by_cases h : p.tens.isDigit ∧ p.ones.isDigit
  · rw [if_pos h, Option.some.injEq, and_iff_right h]
  · rw [if_neg h]
    exact iff_of_false (Option.some_ne_none n).symm (mt And.left h)

/-- A token is read as a span if it counts and stands for it. -/
theorem span?_eq_some_iff {t : RangeToken} {s : Span} :
    t.span? = some s ↔ t.Possible ∧ t.StandsFor s := by
  rw [RangeToken.span?]
  constructor
  · intro h
    obtain ⟨_, hvalue₁, h⟩ := Option.bind_eq_some_iff.mp h
    obtain ⟨_, hvalue₂, h⟩ := Option.bind_eq_some_iff.mp h
    obtain ⟨start, hclock, h⟩ := Option.bind_eq_some_iff.mp h
    obtain ⟨_, hvalue₃, h⟩ := Option.bind_eq_some_iff.mp h
    obtain ⟨_, hvalue₄, h⟩ := Option.bind_eq_some_iff.mp h
    obtain ⟨stop, hclock', hspan⟩ := Option.bind_eq_some_iff.mp h
    obtain ⟨hascii₁, rfl⟩ := value?_eq_some_iff.mp hvalue₁
    obtain ⟨hascii₂, rfl⟩ := value?_eq_some_iff.mp hvalue₂
    obtain ⟨hascii₃, rfl⟩ := value?_eq_some_iff.mp hvalue₃
    obtain ⟨hascii₄, rfl⟩ := value?_eq_some_iff.mp hvalue₄
    obtain ⟨hshown, hstart⟩ := TimeOfDay.ofClock?_eq_some_iff.mp hclock
    obtain ⟨hshown', hstop⟩ := TimeOfDay.ofClock?_eq_some_iff.mp hclock'
    obtain ⟨rfl, rfl⟩ := Span.between?_eq_some_iff.mp hspan
    have hlt := s.start_lt_stop
    rw [hstart, hstop] at hlt
    refine ⟨⟨?_, hshown.1, hshown.2, hshown'.1, hshown'.2, hlt⟩, ⟨hstart, hstop⟩⟩
    simp only [RangeToken.digits, List.forall_mem_append]
    exact ⟨⟨⟨hascii₁, hascii₂⟩, hascii₃⟩, hascii₄⟩
  · rintro ⟨hpossible, hstands⟩
    have hascii := hpossible.ascii
    simp only [RangeToken.digits, List.forall_mem_append] at hascii
    obtain ⟨⟨⟨hascii₁, hascii₂⟩, hascii₃⟩, hascii₄⟩ := hascii
    rw [value?_eq_some_iff.mpr ⟨hascii₁, rfl⟩, value?_eq_some_iff.mpr ⟨hascii₂, rfl⟩,
      value?_eq_some_iff.mpr ⟨hascii₃, rfl⟩, value?_eq_some_iff.mpr ⟨hascii₄, rfl⟩]
    simp only [Option.bind_eq_bind, Option.bind_some]
    rw [TimeOfDay.ofClock?_eq_some_iff.mpr
        ⟨⟨hpossible.startHour, hpossible.startMinute⟩, hstands.start⟩,
      TimeOfDay.ofClock?_eq_some_iff.mpr
        ⟨⟨hpossible.stopHour, hpossible.stopMinute⟩, hstands.stop⟩]
    exact Span.between?_eq_some_iff.mpr ⟨rfl, rfl⟩

/-- A token that counts stands for a span. -/
theorem RangeToken.Possible.exists_standsFor {t : RangeToken} (h : t.Possible) :
    ∃ s, t.StandsFor s := by
  have hstop : number t.stopHour.chars * 60 + number t.stopMinute.chars < minutesPerDay := by
    have := h.stopHour
    have := h.stopMinute
    unfold minutesPerDay
    omega
  exact ⟨⟨⟨_, Nat.lt_trans h.inOrder hstop⟩, ⟨_, hstop⟩, h.inOrder⟩, rfl, rfl⟩

/-- A token stands for a span exactly if it is possible. -/
theorem isSome_span?_iff {t : RangeToken} : t.span?.isSome = true ↔ t.Possible := by
  rw [Option.isSome_iff_exists]
  constructor
  · rintro ⟨s, hs⟩
    exact (span?_eq_some_iff.mp hs).1
  · intro h
    obtain ⟨s, hs⟩ := h.exists_standsFor
    exact ⟨s, span?_eq_some_iff.mpr ⟨h, hs⟩⟩

instance (t : RangeToken) : Decidable t.Possible :=
  decidable_of_iff _ isSome_span?_iff

/-- The tokens of a list that count. -/
def possibleOf (placed : List Placed) : List Placed :=
  placed.filter fun p => p.token.Possible

/-- What is read of tokens are the spans of those that count, in order. -/
theorem forall₂_standsFor (placed : List Placed) :
    List.Forall₂ (fun p s => p.token.StandsFor s) (possibleOf placed)
      ((placed.map Placed.token).filterMap RangeToken.span?) := by
  induction placed with
  | nil => exact .nil
  | cons p placed ih =>
    rw [possibleOf, List.filter_cons, List.map_cons]
    cases hspan : p.token.span? with
    | none =>
      have hnot : ¬ p.token.Possible := by simp [← isSome_span?_iff, hspan]
      rw [List.filterMap_cons_none hspan, if_neg (by simpa using hnot)]
      exact ih
    | some s =>
      obtain ⟨hpossible, hstands⟩ := span?_eq_some_iff.mp hspan
      rw [List.filterMap_cons_some hspan, if_pos (by simpa using hpossible)]
      exact .cons hstands ih

/-- **The spans of an hours text.** One list of tokens is picked, from the start of the text and
from left to right, and the spans are those of the tokens in it that count, in order. A token that
counts and overlaps no other one is among them once. -/
theorem spans_picked (hours : List Char) :
    ∃ picked, (∀ other, Picks hours 0 other ↔ other = picked) ∧
      List.Forall₂ (fun p s => p.token.StandsFor s) (possibleOf picked) (spans hours) ∧
      ∀ p, IsToken hours p → p.token.Possible → Alone hours p →
        (possibleOf picked).count p = 1 := by
  obtain ⟨picked, hpicks, htokens⟩ := exists_picks [] hours 0
  refine ⟨picked, ?_, ?_, ?_⟩
  · intro other
    constructor
    · intro hother
      exact hother.unique hpicks
    · rintro rfl
      exact hpicks
  · rw [spans, tokens, show tokensFrom false 0 hours = picked.map Placed.token from htokens.symm]
    exact forall₂_standsFor picked
  · intro p hp hpossible halone
    have hmem : p ∈ possibleOf picked :=
      List.mem_filter.mpr ⟨hpicks.mem_of_alone hp (Nat.zero_le _) halone, by simpa using hpossible⟩
    exact List.count_eq_one_of_mem (hpicks.nodup.filter _) hmem

/-- A token that counts between one that does not and one with blanks around its dash. -/
theorem spans_picked_middle :
    IsToken "25:00-26:00/08:00-12:00/13:00 - 16:00".toList
      ⟨12, 23, ⟨⟨'0', '8'⟩, ⟨'0', '0'⟩, ⟨'1', '2'⟩, ⟨'0', '0'⟩⟩⟩ ∧
    Alone "25:00-26:00/08:00-12:00/13:00 - 16:00".toList
      ⟨12, 23, ⟨⟨'0', '8'⟩, ⟨'0', '0'⟩, ⟨'1', '2'⟩, ⟨'0', '0'⟩⟩⟩ ∧
    ∃ picked, Picks "25:00-26:00/08:00-12:00/13:00 - 16:00".toList 0 picked ∧
      (possibleOf picked).count
        ⟨12, 23, ⟨⟨'0', '8'⟩, ⟨'0', '0'⟩, ⟨'1', '2'⟩, ⟨'0', '0'⟩⟩⟩ = 1 := by
  have htoken : IsToken "25:00-26:00/08:00-12:00/13:00 - 16:00".toList
      ⟨12, 23, ⟨⟨'0', '8'⟩, ⟨'0', '0'⟩, ⟨'1', '2'⟩, ⟨'0', '0'⟩⟩⟩ := by decide
  have halone : Alone "25:00-26:00/08:00-12:00/13:00 - 16:00".toList
      ⟨12, 23, ⟨⟨'0', '8'⟩, ⟨'0', '0'⟩, ⟨'1', '2'⟩, ⟨'0', '0'⟩⟩⟩ := by decide
  obtain ⟨picked, hpicked, -, honce⟩ := spans_picked "25:00-26:00/08:00-12:00/13:00 - 16:00".toList
  exact ⟨htoken, halone, picked, (hpicked picked).mpr rfl, honce _ htoken (by decide) halone⟩

end OpeningHours.Schedule
