/-!
# Doubles and their shortest decimals

A double is a significand of at most 53 bits times a power of two, where the
power is no less than the least one. A decimal number stands for the nearest
double, and of two equally near ones for that with an even significand. The text
of a double is the shortest decimal that stands for it, nearest to it among
those of its length, and of two equally near ones the greater, in positional
notation.
-/

namespace JvmGenerics.Binary64

/-- A decimal number: a sign, and a significand times a power of ten. -/
structure Decimal where
  isNegative : Bool
  significand : Nat
  exponent : Int
deriving DecidableEq

/-- What a literal can stand for. -/
inductive Literal
  | finite (value : Decimal)
  | infinite (isNegative : Bool)
  | notANumber
deriving DecidableEq

/-- A double without its sign: a significand times a power of two. -/
structure Magnitude where
  significand : Nat
  exponent : Int
deriving DecidableEq

def leastExponent : Int := -1074

/-- The fraction `numerator * 2 ^ exponent / denominator` as a numerator and a denominator. -/
def shift (numerator denominator : Nat) (exponent : Int) : Nat × Nat :=
  (numerator * Nat.pow 2 exponent.toNat, denominator * Nat.pow 2 (-exponent).toNat)

/-- The nearest integer to a fraction; a half goes to the even neighbour. -/
def roundDiv (numerator denominator : Nat) : Nat :=
  let floor := numerator / denominator
  let double := 2 * (numerator % denominator)
  if double < denominator || (double = denominator && floor % 2 = 0) then floor else floor + 1

/-- The number of decimal places in front of the point of a fraction, where a
negative number counts the zeros behind it. -/
def places (value : Decimal) : Int :=
  (Nat.toDigits 10 value.significand).length + value.exponent

def nearest (numerator denominator : Nat) : Magnitude :=
  let estimate : Int := (numerator.log2 : Int) - denominator.log2 - 52
  let (scaledUp, scaledDown) := shift numerator denominator (-estimate)
  let exact := if scaledUp < Nat.pow 2 52 * scaledDown then estimate - 1 else estimate
  let exponent := max leastExponent exact
  let (scaledUp, scaledDown) := shift numerator denominator (-exponent)
  let significand := roundDiv scaledUp scaledDown
  if significand = Nat.pow 2 53 then ⟨Nat.pow 2 52, exponent + 1⟩ else ⟨significand, exponent⟩

/-- The double that a decimal stands for, if it is not too large. A decimal of more
than 310 places is too large, and one of less than -330 places is next to zero. -/
def ofDecimal (value : Decimal) : Option Magnitude :=
  if value.significand = 0 || places value < -330 then some ⟨0, leastExponent⟩
  else if 310 < places value then none
  else
    let double := nearest (value.significand * Nat.pow 10 value.exponent.toNat)
      (Nat.pow 10 (-value.exponent).toNat)
    if double.exponent ≤ 971 then some double else none

/-- Whether `first * 10 ^ place` is less than `second * 2 ^ exponent`. -/
def decimalLess (first : Nat) (place : Int) (second : Nat) (exponent : Int) : Bool :=
  first * Nat.pow 10 place.toNat * Nat.pow 2 (-exponent).toNat
    < second * Nat.pow 2 exponent.toNat * Nat.pow 10 (-place).toNat

/-- Whether `first * 2 ^ exponent` is less than `second * 10 ^ place`. -/
def binaryLess (first : Nat) (exponent : Int) (second : Nat) (place : Int) : Bool :=
  first * Nat.pow 2 exponent.toNat * Nat.pow 10 (-place).toNat
    < second * Nat.pow 10 place.toNat * Nat.pow 2 (-exponent).toNat

namespace Magnitude

/-- Whether `digits * 10 ^ place` stands for the double. Half the distance to either
neighbour belongs to it, with the ends if its significand is even; the lower
neighbour of a power of two is nearer. -/
def isNamedBy (double : Magnitude) (digits : Nat) (place : Int) : Bool :=
  let below := if double.significand = Nat.pow 2 52 && leastExponent < double.exponent then 1 else 2
  let low := 4 * double.significand - below
  let high := 4 * double.significand + 2
  let exponent := double.exponent - 2
  if double.significand % 2 = 0 then
    !decimalLess digits place low exponent && !binaryLess high exponent digits place
  else binaryLess low exponent digits place && decimalLess digits place high exponent

/-- The nearer of the two neighbours of a double on a decimal grid that stands for
it; the upper one counts as the nearer half way between them. -/
def neighbour? (double : Magnitude) (place : Int) : Option Nat :=
  let (numerator, denominator) := shift double.significand 1 double.exponent
  let scaledUp := numerator * Nat.pow 10 (-place).toNat
  let scaledDown := denominator * Nat.pow 10 place.toNat
  let floor := scaledUp / scaledDown
  let isUpperNearer := scaledDown ≤ 2 * (scaledUp % scaledDown)
  let inOrder := if isUpperNearer then [floor + 1, floor] else [floor, floor + 1]
  inOrder.find? fun digits => double.isNamedBy digits place

def tenAbove (double : Magnitude) : Int :=
  let candidates := (List.range 640).map fun (index : Nat) => (index : Int) - 330
  (candidates.find? fun place => binaryLess double.significand double.exponent 1 place).getD 310

/-- The shortest decimal that stands for a double that is not zero: its digits, and
the place of the last of them. -/
def shortest (double : Magnitude) : Nat × Int :=
  let top := double.tenAbove
  let found := (List.range 17).findSome? fun (count : Nat) =>
    let place := top - (count + 1)
    (double.neighbour? place).map fun digits =>
      if digits = Nat.pow 10 (count + 1) then (1, top) else (digits, place)
  found.getD (0, 0)

end Magnitude

/-- Digits in positional notation, with at least one of them behind the point. -/
def positional (digits : Nat) (place : Int) : String :=
  let written := Nat.toDigits 10 digits
  String.ofList <|
    if 0 ≤ place then written ++ List.replicate place.toNat '0' ++ ['.', '0']
    else
      let behind := (-place).toNat
      let padded := List.replicate (behind + 1 - written.length) '0' ++ written
      padded.take (padded.length - behind) ++ '.' :: padded.drop (padded.length - behind)

/-- The text of the double that a decimal stands for. -/
def textOf (value : Decimal) : String :=
  let sign := if value.isNegative then "-" else ""
  match ofDecimal value with
  | none => sign ++ "inf"
  | some double =>
    if double.significand = 0 then sign ++ "0.0"
    else sign ++ positional double.shortest.1 double.shortest.2

/-- The text of the double that a literal stands for. -/
def Literal.text : Literal → String
  | finite value => textOf value
  | infinite isNegative => if isNegative then "-inf" else "inf"
  | notANumber => "NaN"

end JvmGenerics.Binary64
