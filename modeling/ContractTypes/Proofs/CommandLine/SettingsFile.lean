import ContractTypes.Proofs.CommandLine.Steps
import ContractTypes.Proofs.Settings.Loading
import ContractTypes.Proofs.Yaml.Values

/-!
Runs with a settings file.

A run loads its settings from the file that the command line names, or from the one of the standard
name where there is one.  A file that gives no settings ends the run before it reads its document:
it reports the error and ends with the status one, unless the failure is one of those that escape.
-/

namespace ContractTypes.CommandLine

variable {dir : WorkDir} {stream : Bytes} {words : List Text} {arguments : Arguments}
  {failure : SettingsFailure}

/-- The file that the settings of a run come from, with the name that errors call it by. -/
def settingsFile? (dir : WorkDir) (arguments : Arguments) : Option (Path × Text) :=
  match given? arguments.config with
  | some config => some (Path.ofText config, (Path.ofText config).text)
  | none =>
      if dir.reaches (Path.ofText settingsName) then
        some (Path.ofText settingsName,
          ((Path.ofText dir.location).join (Path.ofText settingsName)).text)
      else none

theorem fileSettings_eq (dir : WorkDir) (arguments : Arguments) :
    fileSettings dir arguments = (settingsFile? dir arguments).elim (.ok Settings.standard)
      (fun file => Settings.load dir file.1 file.2) := by
  unfold fileSettings settingsFile?
  cases given? arguments.config with
  | some config => rfl
  | none =>
      dsimp only
      split <;> rfl

def settingsStep : SettingsFailure → StepError
  | .reported error => .reported error.message
  | failure => .broken (.settings failure)

theorem settingsStep_of_not_isReported (unreported : ¬failure.IsReported) :
    settingsStep failure = .broken (.settings failure) := by
  cases failure with
  | reported error => exact absurd ⟨error, rfl⟩ unreported
  | _ => rfl

/-- Without a layout a run ends at once, whatever else it has been given. -/
theorem run_of_no_layout (parsed : read words = .ok (.run arguments)) {error : StepError}
    (stopped : layout dir arguments = .error error) : run dir stream words = stop dir [] error := by
  rw [run, parsed]
  dsimp only
  rw [runArguments, prepare, stopped]
  rfl

theorem run_of_failed (parsed : read words = .ok (.run arguments))
    (failed : fileSettings dir arguments = .error failure) :
    run dir stream words = stop dir [] (settingsStep failure) := by
  refine run_of_no_layout parsed ?_
  rw [layout, failed]
  cases failure <;> rfl

/-- A settings file is loaded, or its fault is reported and the run ends with the status one, unless
its path or its contents have one of the faults that escape.  A text of YAML that breaks no rule and
still has no value misspells a token or writes a scalar that has no value, but for a point in time
that is given as a mapping. -/
theorem settings_outcome (dir : WorkDir) :
    (∀ path label, Settings.Settles (Settings.load dir path label) ↔
      ∀ failure, ¬Settings.Escapes dir path failure) ∧
    (∀ path label failure, Settings.Escapes dir path failure ↔
      Settings.load dir path label = .error failure ∧ ¬failure.IsReported) ∧
    (∀ text fault, Yaml.Root.ofText text = .error fault →
      fault.Arises (Yaml.TokenStream.ofText text).Writes) ∧
    (∀ stream words arguments path label, read words = .ok (.run arguments) →
      settingsFile? dir arguments = some (path, label) →
        (∀ error, Settings.load dir path label = .error (.reported error) →
          run dir stream words = ⟨.exit 1, [], textOfLines ["Error: " ++ error.message], dir⟩) ∧
        (∀ failure, Settings.Escapes dir path failure →
          run dir stream words = ⟨.broken (.settings failure), [], [], dir⟩)) := by
  refine ⟨fun path label => Settings.settles_load_iff, fun path label failure =>
    Settings.escapes_iff, fun text fault => Yaml.Root.fault_of_ofText, ?_⟩
  intro stream words arguments path label parsed named
  have load : fileSettings dir arguments = Settings.load dir path label := by
    rw [fileSettings_eq, named]
    rfl
  constructor
  · intro error failed
    rw [run_of_failed parsed (load.trans failed)]
    rfl
  · intro failure escapes
    obtain ⟨failed, unreported⟩ := Settings.escapes_iff.1 escapes
    rw [run_of_failed parsed (load.trans failed), settingsStep_of_not_isReported unreported]
    rfl

def strayDir : WorkDir := (WorkDir.empty "/").put ["settings.yaml"] [0xFF]

theorem not_settles_strayDir :
    Settings.load strayDir (Path.ofText "settings.yaml") "settings.yaml" =
        .error (.notUtf8 ⟨1, 1, 0xFF, .startByte⟩ 1) ∧
      ¬Settings.Settles (Settings.load strayDir (Path.ofText "settings.yaml") "settings.yaml") := by
  have failed : Settings.load strayDir (Path.ofText "settings.yaml") "settings.yaml" =
      .error (.notUtf8 ⟨1, 1, 0xFF, .startByte⟩ 1) := by decide +kernel
  refine ⟨failed, fun settles => ?_⟩
  exact Settings.settles_iff.1 settles _ ⟨failed, nofun⟩

end ContractTypes.CommandLine
