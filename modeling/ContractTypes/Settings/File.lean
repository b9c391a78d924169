import ContractTypes.Files.WorkDir
import ContractTypes.Settings.Basic
import ContractTypes.Yaml.Root

/-!
Settings files.

A settings file is a YAML mapping from the names of settings to their values; an empty file chooses
nothing.  A name that no setting has is an error, and so is a value of the wrong kind; of several
wrong values the first in the order of the settings is reported.

A few files are not reported as wrong but stop a run: those that are no text, and those with a
scalar that has a form of the YAML schema and no value.
-/

namespace ContractTypes

inductive SettingsKey where
  | convention
  | namePrefix
  | indent
  | useTabs
  | exported
deriving DecidableEq

namespace SettingsKey

def word : SettingsKey → Text
  | convention => "naming-convention"
  | namePrefix => "prefix"
  | indent => "indent"
  | useTabs => "use-tabs"
  | exported => "export"

def all : List SettingsKey := [.convention, .namePrefix, .indent, .useTabs, .exported]

def demand : SettingsKey → Text
  | convention => "must be one of: " ++ Text.joined ", " (Convention.all.map Convention.word)
  | namePrefix => "must be a string"
  | indent => "must be a non-negative integer"
  | useTabs => "must be true or false"
  | exported => "must be true or false"

end SettingsKey

inductive SettingsFault where
  | invalidYaml
  | notMapping
  | unknownKeys (names : List Text)
  | wrongValue (key : SettingsKey)
deriving DecidableEq

def SettingsFault.message (label : Text) : SettingsFault → Text
  | invalidYaml => "Invalid YAML in " ++ label
  | notMapping => label ++ ": settings must be a YAML mapping"
  | unknownKeys names => label ++ ": unknown setting(s): " ++ Text.joined ", " names
  | wrongValue key => label ++ ": '" ++ key.word ++ "' " ++ key.demand

inductive SettingsError where
  | notFound (path : Text)
  | unreadable (error : FileError)
  | faulty (label : Text) (fault : SettingsFault)
deriving DecidableEq

def SettingsError.message : SettingsError → Text
  | notFound path => "Settings file not found: " ++ path
  | unreadable error => "Cannot read settings file: " ++ error.message
  | faulty label fault => fault.message label

inductive SettingsFailure where
  | reported (error : SettingsError)
  | notUtf8 (fault : Utf8.Fault) (total : Nat)
  | noValue (fault : Yaml.Fault)
  | badPath (error : FileError)
deriving DecidableEq

def SettingsFailure.message : SettingsFailure → Text
  | reported error => error.message
  | notUtf8 fault total => fault.message total
  | noValue fault => fault.message
  | badPath error => error.message

namespace Settings

def entry? (key : SettingsKey) (entries : List (Yaml.Value × Yaml.Value)) : Option Yaml.Value :=
  (entries.find? (fun entry => decide (entry.1 = .text key.word))).map (·.2)

/-- The convention that a value names, in letters of any case. -/
def conventionOf? : Yaml.Value → Option Convention
  | .text word => Convention.ofWord? word.small
  | _ => none

def namePrefixOf? : Yaml.Value → Option (Option Text)
  | .null => some none
  | .text text => some (some text)
  | _ => none

def widthOf? : Yaml.Value → Option Int
  | .integer width => if 0 ≤ width then some width else none
  | _ => none

def truthOf? : Yaml.Value → Option Bool
  | .truth value => some value
  | _ => none

def setting {Kind : Type} (key : SettingsKey) (read : Yaml.Value → Option Kind) (usual : Kind)
    (entries : List (Yaml.Value × Yaml.Value)) : Except SettingsFault Kind :=
  match entry? key entries with
  | none => .ok usual
  | some value =>
      match read value with
      | some result => .ok result
      | none => .error (.wrongValue key)

def ofKnownEntries (entries : List (Yaml.Value × Yaml.Value)) : Except SettingsFault Settings := do
  let convention ← setting .convention conventionOf? standard.convention entries
  let namePrefix ← setting .namePrefix namePrefixOf? standard.namePrefix entries
  let indentWidth ← setting .indent widthOf? standard.indentWidth entries
  let useTabs ← setting .useTabs truthOf? standard.useTabs entries
  let exported ← setting .exported truthOf? standard.exported entries
  return { convention, namePrefix, indentWidth, useTabs, exported }

def isKnown (key : Yaml.Value) : Bool :=
  SettingsKey.all.any (fun known => decide (key = .text known.word))

def unknownKeys (entries : List (Yaml.Value × Yaml.Value)) : List Yaml.Value :=
  (entries.map (·.1)).filter (fun key => !isKnown key)

/-- The settings that the value of a file chooses.  An unknown key that has no written form is a
failure of another kind, because it cannot be reported. -/
def ofRoot (root : Yaml.Root) : Except (SettingsFault ⊕ Yaml.Fault) Settings :=
  match root with
  | .single .null => .ok standard
  | .single _ => .error (.inl .notMapping)
  | .mapping entries =>
      match (unknownKeys entries).mapM Yaml.Value.written with
      | .error fault => .error (.inr fault)
      | .ok [] => (ofKnownEntries entries).mapError .inl
      | .ok names => .error (.inl (.unknownKeys (Text.sorted names)))

def withLineFeeds : Text → Text
  | [] => []
  | [point] => if point = '\r' then ['\n'] else [point]
  | point :: next :: rest =>
      if point = '\r' then
        if next = '\n' then '\n' :: withLineFeeds rest else '\n' :: withLineFeeds (next :: rest)
      else point :: withLineFeeds (next :: rest)

def ofBytes (label : Text) (bytes : Bytes) : Except SettingsFailure Settings :=
  match Utf8.decode bytes with
  | .error fault => .error (.notUtf8 fault bytes.length)
  | .ok text =>
      match Yaml.Root.ofText (withLineFeeds text) with
      | .error .malformed => .error (.reported (.faulty label .invalidYaml))
      | .error fault => .error (.noValue fault)
      | .ok root =>
          match ofRoot root with
          | .ok settings => .ok settings
          | .error (.inl fault) => .error (.reported (.faulty label fault))
          | .error (.inr fault) => .error (.noValue fault)

def load (dir : WorkDir) (path : Path) (label : Text) : Except SettingsFailure Settings :=
  match dir.read path label with
  | .ok bytes => ofBytes label bytes
  | .error (.failed .notFound _) => .error (.reported (.notFound label))
  | .error (.failed fault shown) => .error (.reported (.unreadable (.failed fault shown)))
  | .error .zeroInPath => .error (.badPath .zeroInPath)

end Settings

end ContractTypes
