import OpeningHours.Decimal.Literal

/-!
# OpeningHours — writing floats

A finite float is a whole number of units, each a power of two. The reals that round to it form an
interval, which holds its ends if the number of units is even. Of the decimals in that interval the
ones with the fewest digits are looked for, of these the nearest one is taken, and of two equally
near ones the even one. All comparisons are made between natural numbers.

With one decimal a float is rounded to tenths by its exact value, a half going to the even
neighbour.

* `shortest`       — the digits and the power of ten of a positive float.
* `Literal.ofFloat` — the literal of a float, in plain notation for exponents from -5 to 15.
* `oneDecimal`     — a float with one decimal.

## Results

* `roundHalfEven_near` — rounding moves a quotient by at most a half.
-/

namespace OpeningHours.Decimal

-- ---------------------------------------------------------------------------
-- The shortest digits
-- ---------------------------------------------------------------------------

/-- A float without its sign: so many quarter units, each two to the power `power`, with the
distances to the ends of its interval. -/
structure Quarters where
  count : Nat
  below : Nat
  above : Nat
  power : Int
  even : Bool

/-- The quarters of the float with these bits. -/
def Quarters.ofBits (bits : Nat) : Quarters :=
  let fraction : Nat := bits % twoTo 52
  let exponent : Nat := bits / twoTo 52 % twoTo 11
  -- floats near zero have the step of the least normal ones and no hidden bit
  if exponent = 0 then
    ⟨4 * fraction, 2, 2, -1076, fraction % 2 = 0⟩
  -- the step below a power of two is half of the one above it
  else
    ⟨4 * (fraction + twoTo 52), if fraction = 0 ∧ exponent > 1 then 1 else 2, 2,
      (exponent : Int) - 1077, fraction % 2 = 0⟩

/-- Digits, written as one number, and the power of ten that the last of them counts. -/
structure Digits where
  number : Nat
  power : Int
deriving DecidableEq

/-- Two numbers whose quotient is a power of ten over a power of two: a decimal with digits `d` at
that power of ten compares to a number of quarters `n` as `d * .1` to `n * .2`. -/
def gridFactors (q : Quarters) (power : Int) : Nat × Nat :=
  (tenTo power.toNat * twoTo (-q.power).toNat, twoTo q.power.toNat * tenTo (-power).toNat)

/-- The number with its digits at a power of ten rounds to the float. -/
def roundsTo (q : Quarters) (power : Int) (d : Nat) : Bool :=
  let (a, b) := gridFactors q power
  if q.even then (q.count - q.below) * b ≤ d * a ∧ d * a ≤ (q.count + q.above) * b
  else (q.count - q.below) * b < d * a ∧ d * a < (q.count + q.above) * b

/-- The nearest number with its digits at a power of ten that rounds to the float, if one does. -/
def nearestAt (q : Quarters) (power : Int) : Option Digits :=
  let (a, b) := gridFactors q power
  let lower := q.count * b / a
  let upper := lower + 1
  match roundsTo q power lower, roundsTo q power upper with
  | false, false => none
  | true, false => some ⟨lower, power⟩
  | false, true => some ⟨upper, power⟩
  | true, true =>
    let twice := 2 * (q.count * b)
    let middle := (lower + upper) * a
    if twice < middle then some ⟨lower, power⟩
    else if middle < twice then some ⟨upper, power⟩
    else some ⟨if lower % 2 = 0 then lower else upper, power⟩

/-- The float is below a power of ten. -/
def isBelow (q : Quarters) (power : Int) : Bool :=
  let (a, b) := gridFactors q power
  q.count * b < a

/-- The least power of ten above the float, searched from an estimate on. -/
def magnitude (q : Quarters) : Int :=
  -- 1233 / 4096 is a little less than the decimal logarithm of two
  let estimate : Int := ((Nat.log2 q.count : Int) + q.power) * 1233 / 4096 - 1
  (((List.range 6).map fun (k : Nat) => estimate + k).find? (isBelow q)).getD (estimate + 6)

/-- Moves zeros at the end of the digits into the power of ten, at most so many. -/
def stripZeros : Nat → Digits → Digits
  | 0, d => d
  | n + 1, d => if d.number % 10 = 0 then stripZeros n ⟨d.number / 10, d.power + 1⟩ else d

/-- The shortest digits that round to a float above zero. -/
def shortest (q : Quarters) : Digits :=
  let top := magnitude q
  -- seventeen digits always suffice to tell a float from its neighbours
  match (List.range 17).findSome? fun n => nearestAt q (top - (n + 1 : Nat)) with
  | some d => stripZeros 17 d
  | none => ⟨0, 0⟩

/-- So many zeros. -/
def zeros (n : Nat) : List Char :=
  List.replicate n '0'

/-- Lays digits out: in plain notation, with a digit on each side of the point, as long as the
decimal exponent is from -5 to 15, else with an exponent. -/
def Literal.ofDigits (negative : Bool) (d : Digits) : Literal :=
  let ds := Nat.toDigits 10 d.number
  let point : Int := ds.length + d.power
  if 0 ≤ d.power ∧ point ≤ 16 then ⟨negative, ds ++ zeros d.power.toNat, ['0'], none⟩
  else if 0 < point ∧ point ≤ 16 then
    ⟨negative, ds.take point.toNat, ds.drop point.toNat, none⟩
  else if -5 < point ∧ point ≤ 0 then ⟨negative, ['0'], zeros (-point).toNat ++ ds, none⟩
  else
    ⟨negative, ds.take 1, ds.drop 1,
      some ⟨decide (point - 1 < 0), Nat.toDigits 10 (point - 1).natAbs⟩⟩

/-- The literal of a finite float. -/
def Literal.ofFloat (x : Float) : Literal :=
  let bits := x.toBits.toNat
  let negative := decide (signedBound ≤ bits)
  let q := Quarters.ofBits bits
  if q.count = 0 then ⟨negative, ['0'], ['0'], none⟩ else .ofDigits negative (shortest q)

-- ---------------------------------------------------------------------------
-- One decimal
-- ---------------------------------------------------------------------------

/-- The whole number nearest to a quotient, the even one of two equally near ones. -/
def roundHalfEven (num den : Nat) : Nat :=
  let quotient := num / den
  let twice := 2 * (num % den)
  if twice < den then quotient
  else if den < twice then quotient + 1
  else if quotient % 2 = 0 then quotient
  else quotient + 1

/-- The tenths of a float that is not negative. -/
def tenths (x : Float) : Nat :=
  let q := Quarters.ofBits x.toBits.toNat
  roundHalfEven (q.count * twoTo q.power.toNat * 10) (twoTo (-q.power).toNat)

/-- A float that is not negative, with one decimal. -/
def oneDecimal (x : Float) : List Char :=
  Nat.toDigits 10 (tenths x / 10) ++ '.' :: Nat.toDigits 10 (tenths x % 10)

/-- Rounding moves a quotient by at most a half. -/
theorem roundHalfEven_near {num den : Nat} (h : 0 < den) :
    2 * num ≤ 2 * (roundHalfEven num den * den) + den ∧
      2 * (roundHalfEven num den * den) ≤ 2 * num + den := by
  have hdiv : num / den * den + num % den = num := Nat.div_add_mod' num den
  have hmod : num % den < den := Nat.mod_lt _ h
  simp only [roundHalfEven]
  split
  · omega
  · split
    · rw [Nat.add_mul]
      omega
    · split
      · omega
      · rw [Nat.add_mul]
        omega

end OpeningHours.Decimal
