import OpeningHours.Text

/-!
# OpeningHours — decimal literals

A number as it is written: a sign, whole digits, perhaps a fraction, perhaps a power of ten. An
exponent is always written with its sign.

A literal without fraction and exponent is an integer if one word of 64 bits holds it. Every other
literal is read as a significand of one word, scaled by a power of ten: digits that the significand
cannot hold only count as powers of ten, or not at all behind the point. The significand is rounded
to a float first and scaled in floats, a large negative power in steps. A literal beyond the largest
float has no value.

* `Literal.number?` — the value of a literal.
-/

namespace OpeningHours.Decimal

-- ---------------------------------------------------------------------------
-- Words and powers
-- ---------------------------------------------------------------------------

/-- A power of two. -/
def twoTo (n : Nat) : Nat := Nat.pow 2 n

/-- A power of ten. -/
def tenTo (n : Nat) : Nat := Nat.pow 10 n

/-- The numbers of a word without sign are below this bound. -/
def wordBound : Nat := twoTo 64

/-- The size of the numbers of a word with a sign is below this bound, which itself may be
negative. -/
def signedBound : Nat := twoTo 63

/-- A word with a sign holds the number. -/
def fitsSigned (n : Int) : Bool :=
  -(signedBound : Int) ≤ n && n < (signedBound : Int)

-- ---------------------------------------------------------------------------
-- Literals
-- ---------------------------------------------------------------------------

/-- The power of ten behind a number. -/
structure Exponent where
  negative : Bool
  digits : List Char
deriving DecidableEq

/-- A number as it is written, an empty fraction standing for none. -/
structure Literal where
  negative : Bool
  whole : List Char
  fraction : List Char
  exponent : Option Exponent
deriving DecidableEq

/-- The minus sign, where there is one. -/
def minus (negative : Bool) : List Char :=
  if negative then ['-'] else []

/-- The written form of an exponent. -/
def Exponent.text (e : Exponent) : List Char :=
  'e' :: (if e.negative then '-' else '+') :: e.digits

/-- The written form of a fraction. -/
def fractionText (fraction : List Char) : List Char :=
  if fraction.isEmpty then [] else '.' :: fraction

/-- The written form of a number. -/
def Literal.text (l : Literal) : List Char :=
  minus l.negative ++ l.whole ++ fractionText l.fraction ++
    (match l.exponent with
    | none => []
    | some e => e.text)

/-- The literal of a natural number. -/
def Literal.ofNat (n : Nat) : Literal where
  negative := false
  whole := Nat.toDigits 10 n
  fraction := []
  exponent := none

/-- The literal of an integer. -/
def Literal.ofInt (n : Int) : Literal :=
  { Literal.ofNat n.natAbs with negative := decide (n < 0) }

-- ---------------------------------------------------------------------------
-- The value of a literal
-- ---------------------------------------------------------------------------

/-- The value of a number: an integer, or a float. -/
inductive Number where
  | integer (n : Int)
  | real (x : Float)

/-- The value as a float. -/
def Number.toFloat : Number → Float
  | integer n => Float.ofInt n
  | real x => x

/-- The exponents that are read digit by digit are below this bound. -/
def exponentBound : Nat := twoTo 31

/-- The largest power of ten that a float holds. -/
def maxPower : Nat := 308

/-- Appends digits to a significand as long as they fit, and gives the digits left over. -/
def fill (significand : Nat) : List Char → Nat × List Char
  | [] => (significand, [])
  | c :: cs =>
    if significand * 10 + (c.toNat - 48) < wordBound then
      fill (significand * 10 + (c.toNat - 48)) cs
    else (significand, c :: cs)

/-- A power of ten as a float. -/
def powerOfTen (k : Nat) : Float :=
  Float.ofScientific 1 false k

/-- Multiplies by a power of ten, unless the product is beyond all floats. -/
def multiply? (x : Float) (power : Nat) : Option Float :=
  if power ≤ maxPower then
    let product := x * powerOfTen power
    if product.isInf then none else some product
  else if x == 0 then some x
  else none

/-- Divides by the largest power of ten so many times, until nothing is left. -/
def divideRepeatedly (x : Float) : Nat → Float
  | 0 => x
  | n + 1 => if x == 0 then x else divideRepeatedly (x / powerOfTen maxPower) n

/-- Divides by a power of ten, in steps that floats can hold. -/
def divide (x : Float) (power : Nat) : Float :=
  let steps := (power - 1) / maxPower
  divideRepeatedly x steps / powerOfTen (power - steps * maxPower)

/-- The float of a significand and a power of ten. -/
def scale? (significand : Nat) (power : Int) : Option Float :=
  let x := Float.ofNat significand
  if 0 ≤ power then multiply? x power.toNat else some (divide x power.natAbs)

/-- The integer of a sign and its digits, a float if one word does not hold it or it is a negative
zero. -/
def signedInteger (negative : Bool) (n : Nat) : Number :=
  if !negative then .integer n
  else if 1 ≤ n ∧ n ≤ signedBound then .integer (-n)
  else .real (-Float.ofNat n)

/-- The float of a significand whose last digit counts `power` powers of ten, with a further
exponent. An exponent out of bounds leaves nothing of the number, or is too large for it. -/
def scaleBy? (significand : Nat) (power : Int) : Option Exponent → Option Float
  | none => scale? significand power
  | some e =>
    if Text.number e.digits < exponentBound then
      scale? significand
        (if e.negative then power - Text.number e.digits else power + Text.number e.digits)
    else if significand ≠ 0 ∧ !e.negative then none
    else some 0

/-- The value of a literal, if it is not beyond all floats. -/
def Literal.number? (l : Literal) : Option Number :=
  let (wholePart, unheld) := fill 0 l.whole
  if unheld.isEmpty ∧ l.fraction.isEmpty ∧ l.exponent.isNone then
    some (signedInteger l.negative wholePart)
  else
    let (significand, dropped) := fill wholePart l.fraction
    -- digits left over before the point are powers of ten, those behind it are lost
    let power : Int := unheld.length - (l.fraction.length - dropped.length : Nat)
    (scaleBy? significand power l.exponent).map fun x => .real (if l.negative then -x else x)

end OpeningHours.Decimal
