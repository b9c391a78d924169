import ContractTypes.Naming.Convention
import ContractTypes.Number.Numeral
import ContractTypes.Text.Quoted

/-!
The options of the command line.

A word of the command line is an option if it starts with a hyphen and names one.  A long name may
be cut short as long as only one option has the beginning; short names may be joined behind one
hyphen.  A value stands behind an equals sign, directly behind a short name, or in the next word.
Words that look like negative numbers and words with a space in them are no options, unless they
name one, and neither is any word behind two hyphens.

The words are first told apart and then taken in order.  An option that shows a text ends the
reading, so what is wrong behind it goes unnoticed, unless the words cannot be told apart at all.
-/

namespace ContractTypes

inductive CliOption where
  | help
  | version
  | input
  | namePrefix
  | indent
  | useTabs
  | exported
  | config
  | quiet
  | convention (convention : Convention)
deriving DecidableEq

namespace CliOption

def names : CliOption → List Text
  | help => ["-h", "--help"]
  | version => ["--version"]
  | input => ["-i", "--input"]
  | namePrefix => ["-p", "--prefix"]
  | indent => ["-n", "--indent"]
  | useTabs => ["-t", "--use-tabs"]
  | exported => ["-e", "--export"]
  | config => ["--config"]
  | quiet => ["-q", "--quiet"]
  | convention .pascal => ["-a", "--pascal-case"]
  | convention .camel => ["-c", "--camel-case"]
  | convention .snake => ["-s", "--snake-case"]

def all : List CliOption := [
  .help, .version, .input, .namePrefix, .indent, .useTabs, .exported, .config, .quiet] ++
  Convention.all.map .convention

def table : List (Text × CliOption) :=
  all.flatMap (fun option => option.names.map (fun name => (name, option)))

def takesValue : CliOption → Bool
  | input => true
  | namePrefix => true
  | indent => true
  | config => true
  | _ => false

def title (option : CliOption) : Text := Text.joined "/" option.names

end CliOption

inductive UsageError where
  | ambiguous (word : Text) (names : List Text)
  | ignoredValue (option : CliOption) (value : Text)
  | noValue (option : CliOption)
  | noInteger (value : Text)
  | notAllowed (convention other : Convention)
  | unrecognized (words : List Text)
deriving DecidableEq

def UsageError.message : UsageError → Text
  | ambiguous word names => "ambiguous option: " ++ word ++ " could match " ++
      Text.joined ", " names
  | ignoredValue option value =>
      "argument " ++ option.title ++ ": ignored explicit argument " ++ value.quoted
  | noValue option => "argument " ++ option.title ++ ": expected one argument"
  | noInteger value => "argument " ++ CliOption.indent.title ++ ": invalid int value: " ++
      value.quoted
  | notAllowed convention other =>
      "argument " ++ (CliOption.convention convention).title ++ ": not allowed with argument " ++
        (CliOption.convention other).title
  | unrecognized words => "unrecognized arguments: " ++ Text.joined " " words

/-- An indent as it is given: a width, or two hyphens in the place of one. -/
inductive GivenIndent where
  | width (value : Int)
  | hyphens
deriving DecidableEq

structure Arguments where
  input : Option Text
  namePrefix : Option Text
  indent : Option GivenIndent
  useTabs : Bool
  exported : Bool
  config : Option Text
  quiet : Bool
  convention : Option Convention
  output : Option Text
deriving DecidableEq

namespace Arguments

def none : Arguments :=
  ⟨Option.none, Option.none, Option.none, false, false, Option.none, false, Option.none,
    Option.none⟩

end Arguments

inductive CliRequest where
  | run (arguments : Arguments)
  | showHelp
  | showVersion
deriving DecidableEq

namespace CommandLine

/-! ### Telling words apart -/

inductive Word where
  /-- An option by the name found, with a value in the same word; no option for an unknown name. -/
  | option (option : Option CliOption) (name : Text) (value : Option Text) (text : Text)
  | plain (text : Text)
  /-- Two hyphens, behind which every word is plain. -/
  | hyphens

def hyphen : CodePoint := '-'

def splitValue (text : Text) : Text × Option Text :=
  let name := text.takeWhile (fun point : CodePoint => decide (point ≠ '='))
  if name.length < text.length then (name, some (text.drop (name.length + 1))) else (text, none)

def isNumber (text : Text) : Bool :=
  let isDecimal (point : CodePoint) : Bool := point.decimalValue?.isSome
  let whole := text.takeWhile isDecimal
  match text.drop whole.length with
  | [] => !whole.isEmpty
  | point :: rest => decide (point = '.') && !rest.isEmpty && rest.all isDecimal

/-- Whether a word looks like a negative number; a line feed may end it. -/
def isNegativeNumber (text : Text) : Bool :=
  match text with
  | [] => false
  | point :: rest =>
      decide (point = hyphen) &&
        (isNumber rest || (rest.getLast? == some (CodePoint.ofChar '\n') && isNumber rest.dropLast))

def candidates (text : Text) : List (CliOption × Text × Option Text) :=
  match text with
  | first :: second :: rest =>
      if second = hyphen then
        let parts := splitValue text
        (CliOption.table.filter (fun entry => entry.1.startsWith parts.1)).map
          (fun entry => (entry.2, entry.1, parts.2))
      else
        CliOption.table.filterMap (fun entry =>
          if entry.1 = [first, second] then some (entry.2, entry.1, some rest)
          else if entry.1.startsWith text then some (entry.2, entry.1, none)
          else none)
  | _ => []

def classify (text : Text) : Except UsageError Word :=
  let parts := splitValue text
  if text.head? != some hyphen then .ok (.plain text)
  else
    match CliOption.table.lookup text with
    | some option => .ok (.option (some option) text none text)
    | none =>
        if text.length = 1 then .ok (.plain text)
        else
          match if parts.2.isSome then CliOption.table.lookup parts.1 else none with
          | some option => .ok (.option (some option) parts.1 parts.2 text)
          | none =>
              match candidates text with
              | [] =>
                  if isNegativeNumber text || text.contains (CodePoint.ofChar ' ') then
                    .ok (.plain text)
                  else .ok (.option none text none text)
              | [(option, name, value)] => .ok (.option (some option) name value text)
              | several => .error (.ambiguous text (several.map (fun candidate => candidate.2.1)))

def wordsOf : List Text → Except UsageError (List Word)
  | [] => .ok []
  | text :: rest =>
      if text = "--" then .ok (.hyphens :: rest.map .plain)
      else
        match classify text with
        | .error error => .error error
        | .ok word => (wordsOf rest).map (word :: ·)

/-! ### Taking words -/

/-- What has been read of a command line: the choices, whether the output was given or cannot be
given any more, and the words that nothing takes. -/
structure State where
  arguments : Arguments
  hasOutput : Bool
  extras : List Text

inductive Step where
  | next (state : State)
  | show (request : CliRequest)

def valueOf (value : Text) : Text := if value = "--" then [] else value

def takeOption (state : State) (option : CliOption) (value : Text) : Except UsageError Step :=
  let arguments := state.arguments
  let choose (arguments : Arguments) : Except UsageError Step :=
    .ok (.next { state with arguments := arguments })
  match option with
  | .help => .ok (.show .showHelp)
  | .version => .ok (.show .showVersion)
  | .input => choose { arguments with input := some (valueOf value) }
  | .namePrefix => choose { arguments with namePrefix := some (valueOf value) }
  | .config => choose { arguments with config := some (valueOf value) }
  | .indent =>
      if value = "--" then choose { arguments with indent := some .hyphens }
      else
        match Numeral.integer 10 value with
        | .ok width => choose { arguments with indent := some (.width width) }
        | .error _ => .error (.noInteger value)
  | .useTabs => choose { arguments with useTabs := true }
  | .exported => choose { arguments with exported := true }
  | .quiet => choose { arguments with quiet := true }
  | .convention convention =>
      match arguments.convention with
      | none => choose { arguments with convention := some convention }
      | some other =>
          if other = convention then choose arguments else .error (.notAllowed convention other)

def takeOptions (state : State) : List (CliOption × Text) → Except UsageError Step
  | [] => .ok (.next state)
  | (option, value) :: rest =>
      match takeOption state option value with
      | .error error => .error error
      | .ok (.show request) => .ok (.show request)
      | .ok (.next state) => takeOptions state rest

/-- The options in one word with a value behind the first of them, and whether the last of them
takes its value from the next word. -/
def joinedOptions (option : CliOption) (isShort : Bool) :
    Option Text → Except UsageError (List (CliOption × Text) × Option CliOption)
  | none => .ok (if option.takesValue then ([], some option) else ([(option, [])], none))
  | some value =>
      if option.takesValue then .ok ([(option, value)], none)
      else
        match value with
        | [] => .error (.ignoredValue option [])
        | letter :: rest =>
            if isShort then
              match CliOption.table.lookup [hyphen, letter] with
              | none => .error (.ignoredValue option (letter :: rest))
              | some next => (afterLetter next rest).map
                (fun more => ((option, []) :: more.1, more.2))
            else .error (.ignoredValue option (letter :: rest))
where
  afterLetter (option : CliOption) : Text →
      Except UsageError (List (CliOption × Text) × Option CliOption)
    | [] => .ok (if option.takesValue then ([], some option) else ([(option, [])], none))
    | letter :: rest =>
        if option.takesValue then .ok ([(option, letter :: rest)], none)
        else
          match CliOption.table.lookup [hyphen, letter] with
          | none => .error (.ignoredValue option (letter :: rest))
          | some next => (afterLetter next rest).map (fun more => ((option, []) :: more.1, more.2))

def Word.text : Word → Text
  | option _ _ _ text => text
  | plain text => text
  | hyphens => "--"

def State.withOutput (state : State) (output : Text) : State :=
  { state with arguments := { state.arguments with output := some output }, hasOutput := true }

def State.withExtra (state : State) (text : Text) : State :=
  { state with extras := state.extras ++ [text] }

def takeWords (state : State) : List Word → Except UsageError Step
  | [] => .ok (.next state)
  | .plain text :: rest =>
      if state.hasOutput then takeWords (state.withExtra text) rest
      else
        match rest with
        | .hyphens :: more => takeWords (state.withOutput text) more
        | words => takeWords (state.withOutput text) words
  | .hyphens :: rest =>
      if state.hasOutput then takeWords (state.withExtra "--") rest
      else
        match rest with
        | [] => .ok (.next { state with hasOutput := true })
        | word :: more => takeWords (state.withOutput word.text) more
  | .option none _ _ text :: rest => takeWords (state.withExtra text) rest
  | .option (some option) name value _ :: rest =>
      match joinedOptions option (decide (name.length = 2)) value with
      | .error error => .error error
      | .ok (taken, none) =>
          match takeOptions state taken with
          | .ok (.next state) => takeWords state rest
          | other => other
      | .ok (taken, some last) =>
          match rest with
          | .plain text :: more =>
              match takeOptions state (taken ++ [(last, text)]) with
              | .ok (.next state) => takeWords state more
              | other => other
          | _ => .error (.noValue last)

def read (texts : List Text) : Except UsageError CliRequest := do
  let words ← wordsOf texts
  match ← takeWords ⟨Arguments.none, false, []⟩ words with
  | .show request => return request
  | .next state =>
      if state.extras.isEmpty then return .run state.arguments
      else throw (.unrecognized state.extras)

end CommandLine

end ContractTypes
