import ContractTypes.Text.DecimalDigit
import ContractTypes.Text.Quoted

/-!
What can be wrong with a YAML text.

Most faults are one: the text breaks a rule of the language or of the schema.  The others are
scalars that have a form of the schema and no value, such as a date in a thirteenth month.
-/

namespace ContractTypes.Yaml

inductive Fault where
  | malformed
  | noCodePoint
  /-- An escape writes a number that is beyond 31 bits. -/
  | wideEscape
  | longInteger (digits : Nat)
  | unwritableInteger
  | noInteger (base : Nat) (text : Text)
  | noFloat (text : Text)
  /-- A power of sixty that no floating-point number reaches. -/
  | greatFactor
  | emptyNumber
  | noTruth (text : Text)
  | noMoment
  /-- A point in time that is given by a mapping. -/
  | momentMapping
  /-- The year zero. -/
  | yearRange
  | monthRange
  | dayRange
  | hourRange
  | minuteRange
  | secondRange
  /-- A distance from universal time of a day or more, in minutes. -/
  | offsetRange (minutes : Int)
deriving DecidableEq

/-- The wording of a time span, given in minutes, that is a day or more on one side. -/
def spanText (minutes : Int) : Text :=
  let days := Int.fdiv minutes 1440
  let seconds := Int.fmod minutes 1440 * 60
  "datetime.timedelta(days=" ++ Text.ofInt days ++
    (if seconds = 0 then Text.ofString "" else ", seconds=" ++ Text.ofInt seconds) ++ ")"

def quoteLimit : Nat := 200

def Fault.message : Fault → Text
  | malformed => ""
  | noCodePoint => "chr() arg not in range(0x110000)"
  | wideEscape => "Python int too large to convert to C int"
  | longInteger digits => Text.longIntegerMessage digits
  | unwritableInteger =>
      Text.overLimitMessage ++ "; use sys.set_int_max_str_digits() to increase the limit"
  | noInteger base text =>
      "invalid literal for int() with base " ++ Text.ofNat base ++ ": " ++
        text.quoted.take quoteLimit
  | noFloat text => "could not convert string to float: " ++ text.quoted
  | greatFactor => "int too large to convert to float"
  | emptyNumber => "string index out of range"
  | noTruth text => text.quoted
  | noMoment => "'NoneType' object has no attribute 'groupdict'"
  | momentMapping => "expected string or bytes-like object, got 'list'"
  | yearRange => "year 0 is out of range"
  | monthRange => "month must be in 1..12"
  | dayRange => "day is out of range for month"
  | hourRange => "hour must be in 0..23"
  | minuteRange => "minute must be in 0..59"
  | secondRange => "second must be in 0..59"
  | offsetRange minutes =>
      "offset must be a timedelta strictly between -timedelta(hours=24) and " ++
        "timedelta(hours=24), not " ++ spanText minutes ++ "."

end ContractTypes.Yaml
