import ContractTypes.CommandLine.Usage
import ContractTypes.Document.Loading
import ContractTypes.Settings.File
import ContractTypes.Warning

/-!
Runs of the command line.

A run reads its settings, then its document, shows the warnings about the document, and writes the
declarations.  The first step that fails ends it.  Most failures are reported, and the exit status
is then one; a command line that cannot be read gives two.  The few that are not reported break the
run off.

All effects of a run are in its outcome: the two output streams and the work directory as it is
left.
-/

namespace ContractTypes

inductive RunFault where
  | settings (failure : SettingsFailure)
  | hyphensForIndent
  | layout (error : LayoutError)
  | path (error : FileError)
  | document (error : LoadError)
  | warning (error : TemplateError)
  | encoding (fault : Utf8.SurrogateFault)
deriving DecidableEq

def RunFault.message : RunFault → Text
  | settings failure => failure.message
  | hyphensForIndent => "'<' not supported between instances of 'list' and 'int'"
  | layout error => error.message
  | path error => error.message
  | document error => error.message
  | warning error => error.message
  | encoding fault => fault.message

inductive RunEnd where
  | exit (status : Nat)
  | broken (fault : RunFault)
deriving DecidableEq

inductive StepError where
  | reported (message : Text)
  | broken (fault : RunFault)
deriving DecidableEq

structure Outcome where
  ending : RunEnd
  output : Bytes
  messages : Text
  directory : WorkDir

namespace CommandLine

def settingsName : Text := ".abi2ts.yaml"

def given? : Option Text → Option Text
  | some (point :: rest) => some (point :: rest)
  | _ => none

/-- The settings of the file that the command line names, or else of the file of the standard name,
if there is one. -/
def fileSettings (dir : WorkDir) (arguments : Arguments) : Except SettingsFailure Settings :=
  match given? arguments.config with
  | some config =>
      let path := Path.ofText config
      Settings.load dir path path.text
  | none =>
      let path := Path.ofText settingsName
      let label := ((Path.ofText dir.location).join path).text
      if dir.reaches path then Settings.load dir path label
      else .ok Settings.standard

/-- Settings in which the choices of the command line take the place of others; two hyphens choose
no width. -/
def override (arguments : Arguments) (settings : Settings) : Settings where
  convention := arguments.convention.getD settings.convention
  namePrefix :=
    match arguments.namePrefix with
    | some text => some text
    | none => settings.namePrefix
  indentWidth :=
    match arguments.indent with
    | some (.width width) => width
    | _ => settings.indentWidth
  useTabs := arguments.useTabs || settings.useTabs
  exported := arguments.exported || settings.exported

def layout (dir : WorkDir) (arguments : Arguments) : Except StepError Layout :=
  match fileSettings dir arguments with
  | .error (.reported error) => .error (.reported error.message)
  | .error failure => .error (.broken (.settings failure))
  | .ok settings =>
      if arguments.indent = some .hyphens then .error (.broken .hyphensForIndent)
      else
        match (override arguments settings).layout with
        | .ok layout => .ok layout
        | .error (.negativeIndent width) =>
            .error (.reported (LayoutError.negativeIndent width).message)
        | .error error => .error (.broken (.layout error))

/-! ### The document -/

def fileStep (purpose : Text) : FileError → StepError
  | .zeroInPath => .broken (.path .zeroInPath)
  | .failed fault path =>
      .reported ("cannot " ++ purpose ++ ": " ++ (FileError.failed fault path).message)

def input (dir : WorkDir) (stream : Bytes) (arguments : Arguments) : Except StepError Bytes :=
  match given? arguments.input with
  | some name =>
      let path := Path.ofText name
      (dir.read path path.text).mapError (fileStep "read input")
  | none => .ok stream

def document (bytes : Bytes) : Except StepError Document :=
  (Document.ofBytes bytes).mapError (fun error =>
    if error.isMalformed then .reported error.message else .broken (.document error))

def warnings (arguments : Arguments) (document : Document) : Except StepError (List Text) :=
  if arguments.quiet then .ok []
  else document.warningMessages.mapError (fun error => .broken (.warning error))

def declarations (layout : Layout) (document : Document) : Except StepError Text :=
  match document.lines layout with
  | .ok lines => .ok (textOfLines lines)
  | .error error => .error (.reported error.message)

def readsStream (words : List Text) : Bool :=
  match read words with
  | .ok (.run arguments) => (given? arguments.input).isNone
  | _ => false

def paths (words : List Text) : List Path :=
  match read words with
  | .ok (.run arguments) =>
      Path.ofText settingsName ::
        ([arguments.config, arguments.input, arguments.output].filterMap given?).map Path.ofText
  | _ => []

def stop (dir : WorkDir) (messages : Text) : StepError → Outcome
  | .reported message => ⟨.exit 1, [], messages ++ textOfLines ["Error: " ++ message], dir⟩
  | .broken fault => ⟨.broken fault, [], messages, dir⟩

/-- Writes a text to the file that the command line names, or else to the output stream.  The file
is emptied before the text is encoded. -/
def write (dir : WorkDir) (messages : Text) (arguments : Arguments) (text : Text) : Outcome :=
  match given? arguments.output with
  | some name =>
      let path := Path.ofText name
      match dir.writable path path.text with
      | .error error => stop dir messages (fileStep "write output" error)
      | .ok place =>
          match Utf8.encode text with
          | .ok bytes => ⟨.exit 0, [], messages, dir.put place bytes⟩
          | .error fault => ⟨.broken (.encoding fault), [], messages, dir.put place []⟩
  | none =>
      match Utf8.encode text with
      | .ok bytes => ⟨.exit 0, bytes, messages, dir⟩
      | .error fault => ⟨.broken (.encoding fault), [], messages, dir⟩

def prepare (dir : WorkDir) (stream : Bytes) (arguments : Arguments) :
    Except StepError (Document × Layout) := do
  let layout ← layout dir arguments
  let bytes ← input dir stream arguments
  let document ← document bytes
  return (document, layout)

def runArguments (dir : WorkDir) (stream : Bytes) (arguments : Arguments) : Outcome :=
  match prepare dir stream arguments with
  | .error error => stop dir [] error
  | .ok (document, layout) =>
      match warnings arguments document with
      | .error error => stop dir [] error
      | .ok warnings =>
          let messages := textOfLines (warnings.map (fun warning => "Warning: " ++ warning))
          match declarations layout document with
          | .error error => stop dir messages error
          | .ok text => write dir messages arguments text

def showText (dir : WorkDir) (text : Text) : Outcome := ⟨.exit 0, Utf8.encodeScalar text, [], dir⟩

def run (dir : WorkDir) (stream : Bytes) (words : List Text) : Outcome :=
  match read words with
  | .error error => ⟨.exit 2, [], usageErrorText error, dir⟩
  | .ok .showHelp => showText dir helpText
  | .ok .showVersion => showText dir versionText
  | .ok (.run arguments) => runArguments dir stream arguments

def runAll (dir : WorkDir) : List (Bytes × List Text) → List Outcome
  | [] => []
  | (stream, words) :: rest =>
      let outcome := run dir stream words
      outcome :: runAll outcome.directory rest

end CommandLine

end ContractTypes
