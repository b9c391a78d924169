import ContractTypes.Yaml.Cursor
import ContractTypes.Yaml.Moment

/-!
Tags of the YAML schema.

A tag says what kind of value a node has.  A plain scalar without a tag has the tag of the first
form that its text has, and is a text if it has none of them.  A form ends at the end of the text or
before a line feed there.
-/

namespace ContractTypes.Yaml

inductive Tag where
  | null
  | truth
  | integer
  | float
  | bytes
  | moment
  | orderedMapping
  | pairs
  | set
  | text
  | sequence
  | mapping
  /-- The key whose value is merged into its mapping. -/
  | merge
  /-- The key whose value stands for its mapping where a scalar is wanted. -/
  | standIn
  | unknown
deriving DecidableEq

namespace Tag

def schemaStart : Text := "tag:yaml.org,2002:"

def names : List (Text × Tag) := [
  ("null", .null), ("bool", .truth), ("int", .integer), ("float", .float), ("binary", .bytes),
  ("timestamp", .moment), ("omap", .orderedMapping), ("pairs", .pairs), ("set", .set),
    ("str", .text),
  ("seq", .sequence), ("map", .mapping), ("merge", .merge), ("value", .standIn)]

def ofFullName (name : Text) : Tag :=
  if name.startsWith schemaStart then (names.lookup (name.drop schemaStart.length)).getD .unknown
  else .unknown

def unsigned (text : Text) : Text :=
  match text with
  | point :: rest => if point = '+' || point = '-' then rest else text
  | [] => []

def isDigitOrLine (point : CodePoint) : Bool := point.isDigit || point = '_'

def allOf (holds : CodePoint → Bool) (text : Text) : Bool := !text.isEmpty && text.all holds

def isDigits (text : Text) : Bool :=
  (text.head?.any CodePoint.isDigit) && text.all isDigitOrLine

def isSixtieth : Text → Bool
  | [point] => point.isDigit
  | [tens, ones] => tens.isBetween 0x30 0x35 && ones.isDigit
  | _ => false

def isSexagesimal (isFirst : Text → Bool) (text : Text) : Bool :=
  match text.splitAt ':' with
  | first :: second :: rest => isFirst first && (second :: rest).all isSixtieth
  | _ => false

def isCount (text : Text) : Bool :=
  (text.head?.any (fun point => point.isBetween 0x31 0x39)) && text.all isDigitOrLine

def isInteger (text : Text) : Bool :=
  let body := unsigned text
  body == "0" || isCount body || isSexagesimal isCount body ||
    (match body with
      | point :: rest =>
          point = '0' &&
            (allOf (fun digit => digit.isBetween 0x30 0x37 || digit = '_') rest ||
              (match rest with
                | letter :: digits =>
                    (letter = 'b' && allOf (fun digit => isOneOf digit "01_") digits) ||
                      (letter = 'x' && allOf (fun digit => digit.hexValue?.isSome || digit = '_')
                        digits)
                | [] => false))
      | [] => false)

def isFraction (text : Text) : Bool :=
  match text.dropWhile isDigitOrLine with
  | [] => true
  | letter :: rest =>
      (letter = 'e' || letter = 'E') &&
        (match rest with
          | sign :: digits => (sign = '+' || sign = '-') && allOf CodePoint.isDigit digits
          | [] => false)

def isFloat (text : Text) : Bool :=
  let body := unsigned text
  let whole := body.takeWhile (fun point : CodePoint => decide (point ≠ '.'))
  match body.drop whole.length with
  | [] => false
  | _ :: fraction =>
      (isDigits whole && isFraction fraction) ||
        (isSexagesimal isDigits whole && fraction.all isDigitOrLine) ||
        (body == text && whole.isEmpty && fraction.head?.any CodePoint.isDigit &&
          isFraction fraction) ||
        (whole.isEmpty && (fraction == "inf" || fraction == "Inf" || fraction == "INF")) ||
        (body == text && whole.isEmpty &&
          (fraction == "nan" || fraction == "NaN" || fraction == "NAN"))

def truthWords : List Text := [
  "yes", "Yes", "YES", "no", "No", "NO", "true", "True", "TRUE", "false", "False", "FALSE",
  "on", "On", "ON", "off", "Off", "OFF"]

def nullWords : List Text := ["~", "null", "Null", "NULL", ""]

/-- The form of a date or a point in time.  A date alone has two digits for month and day. -/
def isMoment (text : Text) : Bool :=
  match writtenMoment text with
  | some written => written.isWide || written.time.isSome
  | none => false

def forms : List (Tag × (Text → Bool)) := [
  (.truth, truthWords.contains),
  (.float, isFloat),
  (.integer, isInteger),
  (.merge, fun text => text == "<<"),
  (.null, nullWords.contains),
  (.moment, isMoment),
  (.standIn, fun text => text == "="),
  (.unknown, fun text => text == "!" || text == "&" || text == "*")]

/-- A text without a line feed at its end, where one may follow a form; a line feed alone follows
none. -/
def formText (text : Text) : Text :=
  if 1 < text.length && text.getLast? == some (CodePoint.ofChar '\n') then text.dropLast else text

def ofPlain (text : Text) : Tag :=
  ((forms.find? (fun form => form.2 (formText text))).map (·.1)).getD .text

end Tag

end ContractTypes.Yaml
