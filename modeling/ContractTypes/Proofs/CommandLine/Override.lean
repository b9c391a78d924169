import ContractTypes.Proofs.CommandLine.SettingsFile
import ContractTypes.Proofs.Files.WorkDir

/-!
Settings from a file and from the command line.

The command line takes the place of the settings file field by field.  So it does not matter which
of the two gives the settings: runs with the same settings, the same input and the same place for
the output have the same outcome.
-/

namespace ContractTypes.CommandLine

variable {dir : WorkDir} {stream : Bytes} {words : List Text} {arguments : Arguments}
  {file settings : Settings}

/-- Settings that are those of a file but for the fields that a command line gives.  The convention
is chosen by the three flags, of which at most one is set. -/
structure Overridden (arguments : Arguments) (file settings : Settings) : Prop where
  conventionGiven : ∀ convention, arguments.convention = some convention →
    Convention.select (convention = .pascal) (convention = .camel) (convention = .snake) =
      .ok settings.convention
  conventionKept : arguments.convention = none → settings.convention = file.convention
  prefixGiven : ∀ text, arguments.namePrefix = some text → settings.namePrefix = some text
  prefixKept : arguments.namePrefix = none → settings.namePrefix = file.namePrefix
  indentGiven : ∀ width, arguments.indent = some (.width width) → settings.indentWidth = width
  indentKept : arguments.indent = none → settings.indentWidth = file.indentWidth
  useTabs : settings.useTabs = (file.useTabs || arguments.useTabs)
  exported : settings.exported = (file.exported || arguments.exported)

theorem select_flag (convention : Convention) :
    Convention.select (convention = .pascal) (convention = .camel) (convention = .snake) =
      .ok convention := by
  cases convention <;> rfl

theorem overridden_override (arguments : Arguments) (file : Settings) :
    Overridden arguments file (override arguments file) where
  conventionGiven := by
    intro convention given
    rw [select_flag, override, given]
    rfl
  conventionKept := by
    intro none
    rw [override, none]
    rfl
  prefixGiven := by
    intro text given
    simp only [override, given]
  prefixKept := by
    intro none
    simp only [override, none]
  indentGiven := by
    intro width given
    simp only [override, given]
  indentKept := by
    intro none
    simp only [override, none]
  useTabs := Bool.or_comm _ _
  exported := Bool.or_comm _ _

theorem Overridden.eq_override (overridden : Overridden arguments file settings)
    (width : arguments.indent ≠ some .hyphens) : settings = override arguments file := by
  obtain ⟨convention, namePrefix, indentWidth, useTabs, exported⟩ := settings
  rw [override, Settings.mk.injEq]
  refine ⟨?_, ?_, ?_, ?_, ?_⟩
  · cases given : arguments.convention with
    | none => exact overridden.conventionKept given
    | some other =>
        have selected := overridden.conventionGiven other given
        rw [select_flag] at selected
        exact (Except.ok.inj selected).symm
  · cases given : arguments.namePrefix with
    | none => exact overridden.prefixKept given
    | some text => exact overridden.prefixGiven text given
  · cases given : arguments.indent with
    | none => exact overridden.indentKept given
    | some indent =>
        cases indent with
        | width other => exact overridden.indentGiven other given
        | hyphens => exact absurd given width
  · exact overridden.useTabs.trans (Bool.or_comm _ _)
  · exact overridden.exported.trans (Bool.or_comm _ _)

theorem chosen_iff (loaded : fileSettings dir arguments = .ok file)
    (width : arguments.indent ≠ some .hyphens) :
    Chosen dir arguments settings ↔ Overridden arguments file settings := by
  constructor
  · rintro ⟨_, other, found, rfl⟩
    rw [loaded] at found
    cases found
    exact overridden_override arguments file
  · intro overridden
    exact ⟨width, file, loaded, overridden.eq_override width⟩

def layoutStep (settings : Settings) : Except StepError Layout :=
  match settings.layout with
  | .ok layout => .ok layout
  | .error (.negativeIndent width) => .error (.reported (LayoutError.negativeIndent width).message)
  | .error error => .error (.broken (.layout error))

theorem layout_of_chosen (chosen : Chosen dir arguments settings) :
    CommandLine.layout dir arguments = layoutStep settings := by
  obtain ⟨width, file, loaded, rfl⟩ := chosen
  unfold CommandLine.layout layoutStep
  rw [loaded]
  refine (if_neg width).trans ?_
  cases (override arguments file).layout with
  | ok layout => rfl
  | error error => cases error <;> rfl

/-! ### Runs with the same settings -/

structure Outcome.Alike (leftDir rightDir : WorkDir) (left right : Outcome) : Prop where
  ending : left.ending = right.ending
  output : left.output = right.output
  messages : left.messages = right.messages
  written : ∃ target bytes, left.directory = leftDir.putAt target bytes ∧
    right.directory = rightDir.putAt target bytes

theorem alike_stop (leftDir rightDir : WorkDir) (messages : Text) (error : StepError) :
    Outcome.Alike leftDir rightDir (stop leftDir messages error)
      (stop rightDir messages error) := by
  cases error <;> exact ⟨rfl, rfl, rfl, none, [], rfl, rfl⟩

theorem alike_deliver (leftDir rightDir : WorkDir) (messages : Text) (target : Option (List Text))
    (text : Text) :
    Outcome.Alike leftDir rightDir (deliver leftDir messages target text)
      (deliver rightDir messages target text) := by
  unfold deliver
  cases Utf8.encode text with
  | ok bytes => exact ⟨rfl, rfl, rfl, target, bytes, rfl, rfl⟩
  | error fault => exact ⟨rfl, rfl, rfl, target, [], rfl, rfl⟩

/-- What two runs have in common that differ in nothing but where their settings come from. -/
structure SameErrand (leftDir : WorkDir) (left : Arguments) (rightDir : WorkDir) (right : Arguments)
    (stream : Bytes) : Prop where
  quiet : left.quiet = right.quiet
  input : CommandLine.input leftDir stream left = CommandLine.input rightDir stream right
  output : destination leftDir left = destination rightDir right

theorem alike_runArguments {leftDir rightDir : WorkDir} {left right : Arguments} {stream : Bytes}
    (errand : SameErrand leftDir left rightDir right stream)
    (laidOut : CommandLine.layout leftDir left = CommandLine.layout rightDir right) :
    Outcome.Alike leftDir rightDir (runArguments leftDir stream left)
      (runArguments rightDir stream right) := by
  have prepared : prepare leftDir stream left = prepare rightDir stream right := by
    unfold prepare
    rw [laidOut, errand.input]
  unfold runArguments
  rw [prepared]
  cases prepare rightDir stream right with
  | error error => exact alike_stop leftDir rightDir [] error
  | ok both =>
      obtain ⟨document, layout⟩ := both
      have warned : warnings left document = warnings right document := by
        unfold warnings
        rw [errand.quiet]
      dsimp only
      rw [warned]
      cases warnings right document with
      | error error => exact alike_stop leftDir rightDir [] error
      | ok messages =>
          dsimp only
          cases declarations layout document with
          | error error => exact alike_stop leftDir rightDir _ error
          | ok text =>
              dsimp only
              rw [write_eq_deliver, write_eq_deliver, errand.output]
              cases destination rightDir right with
              | error error => exact alike_stop leftDir rightDir _ _
              | ok target => exact alike_deliver leftDir rightDir _ target text

/-- Runs with the same settings and the same errand are alike, wherever their settings come from. -/
theorem alike_of_chosen {leftDir rightDir : WorkDir} {left right : Arguments} {stream : Bytes}
    {leftWords rightWords : List Text} (leftParsed : read leftWords = .ok (.run left))
    (rightParsed : read rightWords = .ok (.run right)) (leftChosen : Chosen leftDir left settings)
    (rightChosen : Chosen rightDir right settings)
    (errand : SameErrand leftDir left rightDir right stream) :
    Outcome.Alike leftDir rightDir (run leftDir stream leftWords)
      (run rightDir stream rightWords) := by
  have laidOut := (layout_of_chosen leftChosen).trans (layout_of_chosen rightChosen).symm
  rw [run, run, leftParsed, rightParsed]
  exact alike_runArguments errand laidOut

/-! ### Settings from one place -/

structure Silent (arguments : Arguments) : Prop where
  convention : arguments.convention = none
  namePrefix : arguments.namePrefix = none
  indent : arguments.indent = none
  useTabs : arguments.useTabs = false
  exported : arguments.exported = false

/-- Settings that come from the command line alone. -/
structure ByFlags (dir : WorkDir) (arguments : Arguments) (settings : Settings) : Prop where
  noFile : settingsFile? dir arguments = none
  width : arguments.indent ≠ some .hyphens
  given : Overridden arguments Settings.standard settings

/-- Settings that come from a file alone. -/
structure ByFile (dir : WorkDir) (arguments : Arguments) (settings : Settings) : Prop where
  loaded : ∃ path label, settingsFile? dir arguments = some (path, label) ∧
    Settings.load dir path label = .ok settings
  silent : Silent arguments

theorem ByFlags.chosen (flags : ByFlags dir arguments settings) :
    Chosen dir arguments settings := by
  have loaded : fileSettings dir arguments = .ok Settings.standard := by
    rw [fileSettings_eq, flags.noFile]
    rfl
  exact (chosen_iff loaded flags.width).2 flags.given

theorem Silent.override_eq (silent : Silent arguments) (settings : Settings) :
    override arguments settings = settings := by
  rw [override, silent.convention, silent.namePrefix, silent.indent, silent.useTabs,
    silent.exported]
  rfl

theorem ByFile.chosen (fromFile : ByFile dir arguments settings) :
    Chosen dir arguments settings := by
  obtain ⟨path, label, named, loaded⟩ := fromFile.loaded
  refine ⟨by rw [fromFile.silent.indent]; nofun, settings, ?_,
    (fromFile.silent.override_eq settings).symm⟩
  rw [fileSettings_eq, named]
  exact loaded

theorem path_settingsName : Path.ofText settingsName = ⟨[], [settingsName]⟩ := by decide +kernel

theorem settingsFile?_eq_none_iff : settingsFile? dir arguments = none ↔
    given? arguments.config = none ∧ dir.reaches (Path.ofText settingsName) = false := by
  unfold settingsFile?
  cases given? arguments.config with
  | some config => exact ⟨nofun, nofun⟩
  | none =>
      cases dir.reaches (Path.ofText settingsName) with
      | true => exact ⟨nofun, nofun⟩
      | false => exact ⟨fun _ => ⟨rfl, rfl⟩, fun _ => rfl⟩

theorem target_settingsName (absent : dir.reaches (Path.ofText settingsName) = false) :
    dir.target (Path.ofText settingsName) = .ok (.free [settingsName]) := by
  have child : settingsName ≠ Path.parentName := by decide +kernel
  have shortPath : ¬WorkDir.pathLimit <
      (Utf8.encodeScalar (Path.text ⟨[], [settingsName]⟩)).length := by
    decide +kernel
  have shortName : ¬WorkDir.nameLimit < (Utf8.encodeScalar settingsName).length := by decide +kernel
  have next : WorkDir.below [] settingsName = [settingsName] := if_neg child
  have target : dir.target ⟨[], [settingsName]⟩ = dir.follow [] [settingsName] := if_neg shortPath
  rw [path_settingsName] at absent ⊢
  -- One name leads to a directory, to a file or to nothing, and the first two would have been
  -- reached.
  unfold WorkDir.reaches at absent
  rw [target] at absent ⊢
  rcases WorkDir.follow_single child shortName with found | ⟨contents, found⟩ | found
  · rw [found] at absent
    cases absent
  · rw [found] at absent
    cases absent
  · rw [found, next]

theorem settingsFile?_put (absent : dir.reaches (Path.ofText settingsName) = false)
    (unnamed : given? arguments.config = none) (contents : Bytes) : ∃ path label,
      settingsFile? (dir.put [settingsName] contents) arguments = some (path, label) ∧
        (dir.put [settingsName] contents).Holds path contents := by
  have reached := WorkDir.target_put contents (target_settingsName absent) rfl
  refine ⟨Path.ofText settingsName,
    ((Path.ofText (dir.put [settingsName] contents).location).join (Path.ofText settingsName)).text,
      ?_,
    by decide +kernel, [settingsName], reached⟩
  unfold settingsFile? WorkDir.reaches
  rw [unnamed, reached]
  rfl

theorem byFile_put (absent : dir.reaches (Path.ofText settingsName) = false)
    (unnamed : given? arguments.config = none) (silent : Silent arguments) {bytes : Bytes}
    (gives : Settings.Gives bytes settings) :
    ByFile (dir.put [settingsName] bytes) arguments settings := by
  obtain ⟨path, label, named, holds⟩ := settingsFile?_put absent unnamed bytes
  refine ⟨⟨path, label, named, ?_⟩, silent⟩
  rw [Settings.load_of_holds holds]
  exact Settings.ofBytes_eq_ok_iff.2 gives

/-- Command lines that ask for the same, but for the settings, and name no path through the standard
settings file. -/
structure SameRequest (left right : Arguments) : Prop where
  quiet : left.quiet = right.quiet
  input : left.input = right.input
  output : left.output = right.output
  inputApart : ∀ name, given? left.input = some name → settingsName ∉ (Path.ofText name).names
  outputApart : ∀ name, given? left.output = some name → settingsName ∉ (Path.ofText name).names

theorem sameErrand_put {left right : Arguments} (request : SameRequest left right)
    (contents stream : Bytes) :
    SameErrand dir left (dir.put [settingsName] contents) right stream where
  quiet := request.quiet
  input := by
    unfold CommandLine.input
    rw [← request.input]
    cases given : given? left.input with
    | none => rfl
    | some name =>
        dsimp only
        rw [← List.nil_append [settingsName],
          WorkDir.read_put_apart contents (request.inputApart name given)]
  output := by
    unfold destination
    rw [← request.output]
    cases given : given? left.output with
    | none => rfl
    | some name =>
        dsimp only
        rw [← List.nil_append [settingsName],
          WorkDir.writable_put_apart contents (request.outputApart name given)]

/-! ### Runs with settings -/

/-- The settings of a run are those of its settings file, or the standard ones, but for the fields
that the command line gives.  It does not matter which of the two gives them, and a settings file
that gives none ends the run whatever else the command line gives. -/
theorem settings_overridden (dir : WorkDir) (stream : Bytes) (words : List Text)
    (arguments : Arguments) (parsed : read words = .ok (.run arguments)) :
    (∀ file, fileSettings dir arguments = .ok file →
      (arguments.indent = some .hyphens →
        run dir stream words = ⟨.broken .hyphensForIndent, [], [], dir⟩) ∧
      (arguments.indent ≠ some .hyphens → ∃ settings, Overridden arguments file settings ∧
        (∀ other, Overridden arguments file other → other = settings) ∧
          CommandLine.layout dir arguments = layoutStep settings)) ∧
    (∀ otherDir otherWords other settings, read otherWords = .ok (.run other) →
      ByFlags dir arguments settings →
      ByFile otherDir other settings → SameErrand dir arguments otherDir other stream →
        Outcome.Alike dir otherDir (run dir stream words) (run otherDir stream otherWords)) ∧
    (∀ otherWords other settings bytes, read otherWords = .ok (.run other) →
      ByFlags dir arguments settings →
      Silent other → given? other.config = none → Settings.Gives bytes settings →
        SameRequest arguments other →
        Outcome.Alike dir (dir.put [settingsName] bytes) (run dir stream words)
          (run (dir.put [settingsName] bytes) stream otherWords)) ∧
    (∀ failure, fileSettings dir arguments = .error failure →
      (run dir stream words).ending ≠ .exit 0 ∧ (run dir stream words).output = [] ∧
        (run dir stream words).directory = dir ∧
          ∀ error, failure = .reported error → (run dir stream words).ending = .exit 1) := by
  refine ⟨?_, ?_, ?_, ?_⟩
  · intro file loaded
    constructor
    · intro hyphens
      have stopped : CommandLine.layout dir arguments = .error (.broken .hyphensForIndent) := by
        rw [CommandLine.layout, loaded]
        exact if_pos hyphens
      exact run_of_no_layout parsed stopped
    · intro width
      refine ⟨override arguments file, overridden_override arguments file,
        fun other overridden => overridden.eq_override width, ?_⟩
      exact layout_of_chosen ⟨width, file, loaded, rfl⟩
  · intro otherDir otherWords other settings otherParsed flags fromFile errand
    exact alike_of_chosen parsed otherParsed flags.chosen fromFile.chosen errand
  · intro otherWords other settings bytes otherParsed flags silent unnamed gives request
    -- The run by flags has no settings file, so the place of one is free for the run by file.
    have fromFile := byFile_put (settingsFile?_eq_none_iff.1 flags.noFile).2 unnamed silent gives
    exact alike_of_chosen parsed otherParsed flags.chosen fromFile.chosen
      (sameErrand_put request bytes stream)
  · intro failure failed
    rw [run_of_failed parsed failed]
    refine ⟨stop_ending_ne [] _, stop_output [] _, stop_directory [] _, ?_⟩
    rintro error rfl
    rfl

def drawerSettings : Settings := ⟨.snake, some [], 2, true, false⟩

def drawerArguments : Arguments :=
  { Arguments.none with
    convention := some .snake
    namePrefix := some []
    indent := some (.width 2)
    useTabs := true }

def drawerFile : Bytes :=
  Utf8.encodeScalar "indent: 2\nprefix: ''\nnaming-convention: Snake\nuse-tabs: true\n"

def drawerContract : Bytes :=
  Utf8.encodeScalar
    "\x7b\"version\": \"1.0\", \"structs\": [\x7b\"name\": \"aB\", \"fields\": []\x7d]\x7d"

theorem drawer_settings_overridden :
    read ["-tsp", "", "-n2"] = .ok (.run drawerArguments) ∧
      ByFlags (WorkDir.empty "/") drawerArguments drawerSettings ∧
        Settings.Gives drawerFile drawerSettings ∧
        Outcome.Alike (WorkDir.empty "/") ((WorkDir.empty "/").put [settingsName] drawerFile)
          (run (WorkDir.empty "/") drawerContract ["-tsp", "", "-n2"])
          (run ((WorkDir.empty "/").put [settingsName] drawerFile) drawerContract []) := by
  have parsed : read ["-tsp", "", "-n2"] = .ok (.run drawerArguments) := by decide +kernel
  have flags : ByFlags (WorkDir.empty "/") drawerArguments drawerSettings :=
    ⟨by decide +kernel, nofun, overridden_override drawerArguments Settings.standard⟩
  have loaded : Settings.ofBytes settingsName drawerFile = .ok drawerSettings := by decide +kernel
  have gives := Settings.ofBytes_eq_ok_iff.1 loaded
  have request : SameRequest drawerArguments Arguments.none := ⟨rfl, rfl, rfl, nofun, nofun⟩
  have alike := (settings_overridden (WorkDir.empty "/") drawerContract _ _ parsed).2.2.1
    [] Arguments.none
    drawerSettings drawerFile rfl flags ⟨rfl, rfl, rfl, rfl, rfl⟩ rfl gives request
  exact ⟨parsed, flags, gives, alike⟩

end ContractTypes.CommandLine
