/-!
Binary floating-point numbers of 64 bits, as exact data.

A finite number is a sign, a mantissa below `2 ^ 53` and an exponent; its value is the mantissa
times the power of two.  The mantissa reaches `2 ^ 52` unless the exponent is the least one, so each
value other than zero has one form.  Every operation forms the exact result as a ratio of natural
numbers and rounds it once, to the nearest number and at a tie to the one with an even mantissa.
-/

namespace ContractTypes

inductive Binary64 where
  | finite (isNegative : Bool) (mantissa : Nat) (exponent : Int)
  | infinite (isNegative : Bool)
  | notANumber
deriving DecidableEq

namespace Binary64

def leastExponent : Int := -1074

def greatestExponent : Int := 971

def leastNormal : Nat := 0x10000000000000

def zero (isNegative : Bool) : Binary64 := .finite isNegative 0 leastExponent

/-- A ratio times a power of two, as a numerator and a denominator. -/
def scaled (numerator denominator : Nat) (exponent : Int) : Nat × Nat :=
  match exponent with
  | .ofNat up => (numerator * Nat.pow 2 up, denominator)
  | .negSucc down => (numerator, denominator * Nat.pow 2 (down + 1))

/-- The natural number nearest to a ratio, the even one of two at a tie. -/
def nearest (numerator denominator : Nat) : Nat :=
  let floor := numerator / denominator
  let twice := 2 * (numerator % denominator)
  if twice < denominator then floor
  else if denominator < twice then floor + 1
  else if floor % 2 = 0 then floor
  else floor + 1

def normalExponent (numerator denominator : Nat) : Int :=
  let guess : Int := Int.ofNat numerator.log2 - Int.ofNat denominator.log2 - 52
  let trial := scaled numerator denominator (-guess)
  if trial.1 / trial.2 < leastNormal then guess - 1 else guess

def ofRatio (isNegative : Bool) (numerator denominator : Nat) : Binary64 :=
  if numerator = 0 then zero isNegative
  else
    let exponent := max leastExponent (normalExponent numerator denominator)
    let ratio := scaled numerator denominator (-exponent)
    let mantissa := nearest ratio.1 ratio.2
    let carried := if mantissa = 2 * leastNormal then (leastNormal, exponent + 1) else
      (mantissa, exponent)
    if greatestExponent < carried.2 then .infinite isNegative
    else .finite isNegative carried.1 carried.2

/-- The number nearest to a decimal, a natural number times a power of ten.  Decimals far outside
the range are settled by their count of digits, before any power is formed. -/
def ofDecimal (isNegative : Bool) (digits : Nat) (power : Int) : Binary64 :=
  let places := Int.ofNat (Nat.toDigits 10 digits).length + power
  if digits = 0 then zero isNegative
  else if 400 < places then .infinite isNegative
  else if places < -400 then zero isNegative
  else roundTenth isNegative digits power
where
  /-- The rounding proper. -/
  roundTenth (isNegative : Bool) (digits : Nat) (power : Int) : Binary64 :=
    match power with
    | .ofNat up => ofRatio isNegative (digits * Nat.pow 10 up) 1
    | .negSucc down => ofRatio isNegative digits (Nat.pow 10 (down + 1))

def ratio (mantissa : Nat) (exponent : Int) : Nat × Nat := scaled mantissa 1 exponent

def ofInt? (integer : Int) : Option Binary64 :=
  match ofRatio (decide (integer < 0)) integer.natAbs 1 with
  | .infinite _ => none
  | number => some number

def toInt? : Binary64 → Option Int
  | .finite isNegative mantissa exponent =>
      let size := ratio mantissa exponent
      if size.1 % size.2 = 0 then
        some (if isNegative then -(Int.ofNat (size.1 / size.2)) else Int.ofNat (size.1 / size.2))
      else none
  | _ => none

def negated : Binary64 → Binary64
  | .finite isNegative mantissa exponent => .finite (!isNegative) mantissa exponent
  | .infinite isNegative => .infinite (!isNegative)
  | .notANumber => .notANumber

def mul : Binary64 → Binary64 → Binary64
  | .finite leftNegative leftMantissa leftExponent,
      .finite rightNegative rightMantissa rightExponent =>
      let size := scaled (leftMantissa * rightMantissa) 1 (leftExponent + rightExponent)
      ofRatio (leftNegative != rightNegative) size.1 size.2
  | .infinite leftNegative, .infinite rightNegative => .infinite (leftNegative != rightNegative)
  | .infinite leftNegative, .finite rightNegative mantissa _ =>
      if mantissa = 0 then .notANumber else .infinite (leftNegative != rightNegative)
  | .finite leftNegative mantissa _, .infinite rightNegative =>
      if mantissa = 0 then .notANumber else .infinite (leftNegative != rightNegative)
  | _, _ => .notANumber

def units (isNegative : Bool) (mantissa : Nat) (exponent : Int) : Int :=
  let size := Int.ofNat (mantissa * Nat.pow 2 (exponent - leastExponent).toNat)
  if isNegative then -size else size

/-- The sum of two numbers.  A sum of zero is positive unless both are negative. -/
def add : Binary64 → Binary64 → Binary64
  | .finite leftNegative leftMantissa leftExponent,
      .finite rightNegative rightMantissa rightExponent =>
      let sum := units leftNegative leftMantissa leftExponent +
        units rightNegative rightMantissa rightExponent
      if sum = 0 then zero (leftNegative && rightNegative)
      else ofRatio (decide (sum < 0)) sum.natAbs (Nat.pow 2 1074)
  | .infinite leftNegative, .infinite rightNegative =>
      if leftNegative = rightNegative then .infinite leftNegative else .notANumber
  | .infinite isNegative, .finite _ _ _ => .infinite isNegative
  | .finite _ _ _, .infinite isNegative => .infinite isNegative
  | _, _ => .notANumber

/-- Equality of values: the two zeros are equal, and no number is equal to what is not a number. -/
def sameValue : Binary64 → Binary64 → Bool
  | .finite leftNegative leftMantissa leftExponent,
      .finite rightNegative rightMantissa rightExponent =>
      units leftNegative leftMantissa leftExponent == units rightNegative rightMantissa
        rightExponent
  | .infinite leftNegative, .infinite rightNegative => leftNegative == rightNegative
  | _, _ => false

end Binary64

end ContractTypes
