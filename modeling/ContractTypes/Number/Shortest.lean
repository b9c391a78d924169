import ContractTypes.Number.Binary64
import ContractTypes.Text.CodePoint

/-!
The written form of a floating-point number.

The digits are the fewest that read back as the number, and among those of that length the nearest
to it, at a tie those that end evenly; 17 digits always suffice.  They are written with a point
where it lies among the first sixteen places or at most three zeros follow it, and otherwise with a
power of ten.  A number that is an integer shows one zero after the point.
-/

namespace ContractTypes.Binary64

/-- The power of ten at or below a positive ratio, between a lower bound and a number of steps above
it. -/
def powerBelow (numerator denominator : Nat) : Nat → Int → Int
  | 0, power => power
  | steps + 1, power =>
      let next := power + 1
      let reached :=
        match next with
        | .ofNat up => decide (denominator * Nat.pow 10 up ≤ numerator)
        | .negSucc down => decide (denominator ≤ numerator * Nat.pow 10 (down + 1))
      if reached then powerBelow numerator denominator steps next else power

def neighbours (numerator denominator : Nat) (power : Int) : Nat × Nat :=
  let moved : Nat × Nat :=
    match power with
    | .ofNat up => (numerator * Nat.pow 10 up, denominator)
    | .negSucc down => (numerator, denominator * Nat.pow 10 (down + 1))
  let floor := moved.1 / moved.2
  (floor, if moved.1 % moved.2 = 0 then floor else floor + 1)

/-- The nearest of the two decimals of some length around a number, of those that read back as it;
at a tie the even one. -/
def readable (number : Binary64) (numerator denominator : Nat) (power : Int) : Option Nat :=
  let near := neighbours numerator denominator power
  let reads (digits : Nat) : Bool := decide (ofDecimal false digits (-power) = number)
  let twice := neighbours (2 * numerator) denominator power
  let sum := near.1 + near.2
  let isNearLower := decide (twice.1 < sum) || (decide (twice.2 = sum) && decide (near.1 % 2 = 0))
  match reads near.1, reads near.2 with
  | true, true => some (if isNearLower then near.1 else near.2)
  | true, false => some near.1
  | false, true => some near.2
  | false, false => none

/-- The first length, from some on, at which a decimal reads back: its digits and its power of
ten. -/
def shortestFrom (number : Binary64) (numerator denominator : Nat) (top : Int) :
    Nat → Nat → Nat × Int
  | 0, _ => (0, 0)
  | tries + 1, length =>
      let power := Int.ofNat length - 1 - top
      match readable number numerator denominator power with
      | some digits => (digits, -power)
      | none => shortestFrom number numerator denominator top tries (length + 1)

def shortest (mantissa : Nat) (exponent : Int) : List Char × Int :=
  let size := ratio mantissa exponent
  let top := powerBelow size.1 size.2 700 (-330)
  let found := shortestFrom (.finite false mantissa exponent) size.1 size.2 top 17 1
  let digits := Nat.toDigits 10 found.1
  let kept := (digits.reverse.dropWhile (· == '0')).reverse
  (kept, Int.ofNat digits.length + found.2)

def exponentText (exponent : Int) : String :=
  let digits := toString exponent.natAbs
  (if exponent < 0 then "-" else "+") ++ (if digits.length < 2 then "0" ++ digits else digits)

def placed (digits : List Char) (place : Int) : String :=
  if 16 < place || place < -3 then
    let tail := digits.drop 1
    String.ofList (digits.take 1) ++ (if tail.isEmpty then "" else "." ++ String.ofList tail) ++
      "e" ++ exponentText (place - 1)
  else
    match place with
    | .ofNat 0 => "0." ++ String.ofList digits
    | .negSucc below => "0." ++ String.ofList (List.replicate (below + 1) '0' ++ digits)
    | .ofNat above =>
        if digits.length ≤ above then
          String.ofList (digits ++ List.replicate (above - digits.length) '0') ++ ".0"
        else String.ofList (digits.take above) ++ "." ++ String.ofList (digits.drop above)

def written : Binary64 → Text
  | .finite isNegative mantissa exponent =>
      let body :=
        if mantissa = 0 then "0.0"
        else
          let found := shortest mantissa exponent
          placed found.1 found.2
      Text.ofString ((if isNegative then "-" else "") ++ body)
  | .infinite isNegative => Text.ofString (if isNegative then "-inf" else "inf")
  | .notANumber => "nan"

end ContractTypes.Binary64
