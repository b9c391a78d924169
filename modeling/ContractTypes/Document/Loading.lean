import ContractTypes.Document.Reader
import ContractTypes.Json.Place
import ContractTypes.Text.Utf8

/-!
Loading a document.

Bytes are decoded as UTF-8, the text is read as JSON, and the value must be an object with the shape
of a document.  The first of these steps that fails gives the error.
-/

namespace ContractTypes

inductive LoadError where
  | notUtf8 (fault : Utf8.Fault) (total : Nat)
  | notJson (fault : Json.Fault) (place : Json.Place)
  | notObject (kind : Text)
  | notDocument (problems : List ShapeProblem)
  | longInteger (digits : Nat)
deriving DecidableEq

namespace LoadError

def message : LoadError → Text
  | notUtf8 fault total => "ABI is not valid UTF-8: " ++ fault.message total
  | notJson fault place => "ABI is not valid JSON: " ++ fault.messageAt place
  | notObject kind => "ABI must be a JSON object, got " ++ kind
  | notDocument _ => "Invalid ABI document"
  | longInteger digits => Text.longIntegerMessage digits

/-- Whether an error finds the document malformed.  An integer with too many digits is the one
failure of another kind. -/
def isMalformed : LoadError → Bool
  | longInteger _ => false
  | _ => true

end LoadError

namespace Document

def ofValue (json : Json) : Except LoadError Document :=
  match json with
  | .object members =>
      match Document.ofJson (.object members) with
      | .valid document => .ok document
      | .faulty problems => .error (.notDocument problems)
  | other => .error (.notObject other.kindWord)

def ofText (text : Text) : Except LoadError Document :=
  match Json.ofText text with
  | .ok json => ofValue json
  | .error (.fault fault rest) => .error (.notJson fault (Json.Place.ofRest text rest))
  | .error (.longInteger digits) => .error (.longInteger digits)

def ofBytes (bytes : Bytes) : Except LoadError Document :=
  match Utf8.decode bytes with
  | .ok text => ofText text
  | .error fault => .error (.notUtf8 fault bytes.length)

end Document

end ContractTypes
