import ContractTypes.Number.Numeral
import ContractTypes.Number.Shortest
import ContractTypes.Text.Base64
import ContractTypes.Yaml.Tag

/-!
The values of YAML nodes.

A scalar has a value of its own.  Of a collection only its kind is kept, because nothing looks into
one but for the entries of the outermost mapping, which are kept beside it.

Two scalars are the same key if they are equal, and numbers and truth values are compared as
numbers.  A number that is not a number is the same key only as itself.
-/

namespace ContractTypes.Yaml

inductive Value where
  | null
  | truth (value : Bool)
  | integer (value : Int)
  | float (value : Binary64)
  | text (value : Text)
  | bytes (value : Bytes)
  | date (value : Date)
  | moment (value : Moment)
  | sequence
  | set
  | mapping
deriving DecidableEq

namespace Value

def isKey : Value → Bool
  | sequence => false
  | set => false
  | mapping => false
  | _ => true

def integer? : Value → Option Int
  | integer value => some value
  | truth value => some (if value then 1 else 0)
  | float value => value.toInt?
  | _ => none

def sameKey (left right : Value) : Bool :=
  match left.integer?, right.integer? with
  | some first, some second => first == second
  | some _, none => false
  | none, some _ => false
  | none, none =>
      match left, right with
      | float first, float second => first.sameValue second
      | moment first, moment second => first.same second
      | _, _ => decide (left = right)

def byteText (quote : CodePoint) (byte : UInt8) : Text :=
  let point := Utf8.point byte.toNat
  if point = quote || point = '\\' then ['\\', point]
  else if point = '\n' then "\\n"
  else if point = '\r' then "\\r"
  else if point = '\t' then "\\t"
  else if point.isBetween 0x20 0x7E then [point]
  else "\\x" ++ Text.ofHex 2 byte.toNat

def bytesText (bytes : Bytes) : Text :=
  let quote := Text.quoteOf (bytes.map (fun byte => Utf8.point byte.toNat))
  "b" ++ [quote] ++ bytes.flatMap (byteText quote) ++ [quote]

def written : Value → Except Fault Text
  | null => .ok "None"
  | truth value => .ok (if value then "True" else "False")
  | integer value =>
      if Text.digitLimit < (Text.ofNat value.natAbs).length then .error .unwritableInteger
      else .ok (Text.ofInt value)
  | float value => .ok value.written
  | text value => .ok value
  | bytes value => .ok (bytesText value)
  | date value => .ok value.text
  | moment value => .ok value.text
  | sequence => .ok "[]"
  | set => .ok "set()"
  | mapping => .ok "\x7b\x7d"

def withoutUnderscores (text : Text) : Text := text.filter (fun point => decide (point ≠ '_'))

/-- The sign of a numeral that has at least one code point, true for a minus sign, and the rest. -/
def signedNumeral (text : Text) : Except Fault (Bool × Text) :=
  if text.isEmpty then .error .emptyNumber else .ok (text.signed)

def numeral (base : Nat) (text : Text) : Except Fault Int :=
  match Numeral.integer base text with
  | .ok value => .ok value
  | .error .invalid => .error (.noInteger base text)
  | .error (.long digits) => .error (.longInteger digits)

def sizeOfInteger (text : Text) : Except Fault Int :=
  if text = "0" then .ok 0
  else if text.startsWith "0b" then numeral 2 (text.drop 2)
  else if text.startsWith "0x" then numeral 16 (text.drop 2)
  else
    match text with
    | [] => .error .emptyNumber
    | point :: _ =>
        if point = '0' then numeral 8 text
        else if text.contains (CodePoint.ofChar ':') then
          ((text.splitAt ':').mapM (numeral 10)).map (fun parts =>
            parts.foldl (fun number part => number * 60 + part) 0)
        else numeral 10 text

def ofInteger (text : Text) : Except Fault Value := do
  let (isNegative, body) ← signedNumeral (withoutUnderscores text)
  let size ← sizeOfInteger body
  return .integer (if isNegative then -size else size)

def decimal (text : Text) : Except Fault Binary64 :=
  match Numeral.float? text with
  | some value => .ok value
  | none => .error (.noFloat text)

/-- The sum of parts in powers of sixty, from the last part on. -/
def sexagesimal (sum : Binary64) (factor : Int) : List Binary64 → Except Fault Binary64
  | [] => .ok sum
  | part :: rest =>
      match Binary64.ofInt? factor with
      | none => .error .greatFactor
      | some power => sexagesimal (sum.add (part.mul power)) (factor * 60) rest

def sizeOfFloat (text : Text) : Except Fault Binary64 :=
  if text = ".inf" then .ok (.infinite false)
  else if text = ".nan" then .ok .notANumber
  else if text.contains (CodePoint.ofChar ':') then do
    let parts ← (text.splitAt ':').mapM decimal
    sexagesimal (Binary64.zero false) 1 parts.reverse
  else decimal text

def ofFloat (text : Text) : Except Fault Value := do
  let (isNegative, body) ← signedNumeral (withoutUnderscores text).small
  let size ← sizeOfFloat body
  return .float (if isNegative then size.negated else size)

/-- Whether a scalar writes what is not a number by the word for it, rather than as a numeral. -/
def isNanWord (text : Text) : Bool :=
  (withoutUnderscores text).small.signed.2 == Text.ofString ".nan"

def truths : List (Text × Bool) := [
  ("yes", true), ("no", false), ("true", true), ("false", false), ("on", true), ("off", false)]

def ofTruth (text : Text) : Except Fault Value :=
  match truths.lookup text.small with
  | some value => .ok (.truth value)
  | none => .error (.noTruth text.small)

def ofBytes (text : Text) : Except Fault Value :=
  match if text.all CodePoint.isAscii then Base64.decode text else none with
  | some value => .ok (.bytes value)
  | none => .error .malformed

def ofMoment (text : Text) : Except Fault Value :=
  match writtenMoment (Tag.formText text) with
  | none => .error .noMoment
  | some written =>
      match written.time with
      | none => (written.date.checked).map .date
      | some time => (Moment.checked written.date time).map .moment

end Value

end ContractTypes.Yaml
