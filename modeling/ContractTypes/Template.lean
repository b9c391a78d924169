import ContractTypes.Text.DecimalDigit
import ContractTypes.Text.Quoted

/-!
Message templates.

In a template a brace written twice stands for itself, and a single opening brace starts a
replacement field that runs to its closing brace.  A field is empty, or names its value by a number
or a word; a conversion may follow after `!` and a form after `:`.

The templates of this library have one value, which their first field takes.  The text read here is
the part behind that field, so no field in it can be filled: an empty field asks for a second value,
a number may not follow an empty field, and no value has a name.
-/

namespace ContractTypes

inductive TemplateError where
  | singleClosing
  | singleOpening
  | openingInField
  | noConversion
  | noColon
  | unmatchedOpening
  | unclosed
  | longNumber
  | numberAfterEmpty
  | noSecondValue
  | noNamedValue (name : Text)
deriving DecidableEq

def TemplateError.message : TemplateError → Text
  | singleClosing => "Single '\x7d' encountered in format string"
  | singleOpening => "Single '\x7b' encountered in format string"
  | openingInField => "unexpected '\x7b' in field name"
  | noConversion => "end of string while looking for conversion specifier"
  | noColon => "expected ':' after conversion specifier"
  | unmatchedOpening => "unmatched '\x7b' in format spec"
  | unclosed => "expected '\x7d' before end of string"
  | longNumber => "Too many decimal digits in format string"
  | numberAfterEmpty => "cannot switch from automatic field numbering to manual field specification"
  | noSecondValue => "Replacement index 1 out of range for positional args tuple"
  | noNamedValue name => name.quoted

namespace Template

def opening : CodePoint := '\x7b'

def closing : CodePoint := '\x7d'

/-- The name of a field, whose part in square brackets may hold any mark, with the mark that ends it
and the text after that mark. -/
def fieldName : Bool → Text → Except TemplateError (Text × CodePoint × Text)
  | _, [] => .error .unclosed
  | true, point :: rest =>
      (fieldName (decide (point ≠ ']')) rest).map (fun read => (point :: read.1, read.2))
  | false, point :: rest =>
      if point = opening then .error .openingInField
      else if point = closing || point = ':' || point = '!' then .ok ([], point, rest)
      else (fieldName (decide (point = '[')) rest).map (fun read => (point :: read.1, read.2))

/-- Whether the form of a field is closed; the number counts the braces still open. -/
def isClosed : Nat → Text → Bool
  | _, [] => false
  | depth, point :: rest =>
      if point = opening then isClosed (depth + 1) rest
      else if point = closing then
        match depth with
        | 0 => true
        | below + 1 => isClosed below rest
      else isClosed depth rest

def fieldEnd (mark : CodePoint) (input : Text) : Except TemplateError Unit :=
  let form (rest : Text) : Except TemplateError Unit :=
    if isClosed 0 rest then .ok () else .error .unmatchedOpening
  if mark = closing then .ok ()
  else if mark = ':' then form input
  else
    match input with
    | [] => .error .noConversion
    | [_] => .error .unmatchedOpening
    | _ :: next :: rest =>
        if next = closing then .ok ()
        else if next = ':' then form rest
        else .error .noColon

def numberLimit : Nat := 0x7FFFFFFFFFFFFFFF

def wordNumber : Nat → Text → Except TemplateError (Option Nat)
  | number, [] => .ok (some number)
  | number, point :: rest =>
      match point.decimalValue? with
      | none => .ok none
      | some digit =>
          if (numberLimit - digit) / 10 < number then .error .longNumber
          else wordNumber (number * 10 + digit) rest

def fieldError (name : Text) : TemplateError :=
  let word := name.takeWhile (fun point : CodePoint => decide (point ≠ '.') && decide (point ≠ '['))
  if word.isEmpty then .noSecondValue
  else
    match wordNumber 0 word with
    | .error error => error
    | .ok (some _) => .numberAfterEmpty
    | .ok none => .noNamedValue word

def failedField (input : Text) : TemplateError :=
  match fieldName false input with
  | .error error => error
  | .ok (name, mark, rest) =>
      match fieldEnd mark rest with
      | .error error => error
      | .ok () => fieldError name

def remainder : Text → Except TemplateError Text
  | [] => .ok []
  | point :: rest =>
      if point = opening then
        match rest with
        | [] => .error .singleOpening
        | next :: after =>
            if next = opening then (remainder after).map (opening :: ·)
            else .error (failedField (next :: after))
      else if point = closing then
        match rest with
        | [] => .error .singleClosing
        | next :: after =>
            if next = closing then (remainder after).map (closing :: ·) else .error .singleClosing
      else (remainder rest).map (point :: ·)

end Template

end ContractTypes
