import ContractTypes.Text.CodePoint

/-!
The tokens of a YAML text.

Collections written by indentation have tokens for their start and their end as those with brackets
do.
-/

namespace ContractTypes.Yaml

inductive Directive where
  | version (major minor : Nat)
  | handle (handle start : Text)
  | other
deriving DecidableEq

/-- A tag as it is written: a handle, which stands for the start of the tag, and the rest. -/
structure WrittenTag where
  handle : Option Text
  suffix : Text
deriving DecidableEq

inductive Token where
  | streamStart
  | streamEnd
  | directive (directive : Directive)
  | documentStart
  | documentEnd
  | blockSequenceStart
  | blockMappingStart
  | blockEnd
  | flowSequenceStart
  | flowSequenceEnd
  | flowMappingStart
  | flowMappingEnd
  | blockEntry
  | flowEntry
  | key
  | value
  | alias (name : Text)
  | anchor (name : Text)
  | tag (tag : WrittenTag)
  | scalar (text : Text) (isPlain : Bool)
deriving DecidableEq

end ContractTypes.Yaml
