import ContractTypes.CommandLine.Run
import ContractTypes.Proofs.Result
import ContractTypes.Proofs.Text.Scalar

/-!
Steps of a run.

A run that gets as far as its output has gone through all other steps: it has read its words, chosen
its settings, read and loaded its document, made its lines and found the place for them.  All that
is left to it is to deliver the lines.  Every other run shows a text that was asked for, or fails
and has no effect.
-/

namespace ContractTypes

def WorkDir.putAt (dir : WorkDir) (target : Option (List Text)) (contents : Bytes) : WorkDir :=
  match target with
  | some place => dir.put place contents
  | none => dir

namespace CommandLine

variable {dir : WorkDir} {stream : Bytes} {words : List Text} {arguments : Arguments}

/-- The settings of a run: those of its settings file with the choices of the command line in their
place. -/
def Chosen (dir : WorkDir) (arguments : Arguments) (settings : Settings) : Prop :=
  arguments.indent ≠ some .hyphens ∧
    ∃ file, fileSettings dir arguments = .ok file ∧ settings = override arguments file

/-- The place of the file that the command line names for the output, if it names one. -/
def destination (dir : WorkDir) (arguments : Arguments) : Except FileError (Option (List Text)) :=
  match given? arguments.output with
  | some name => (dir.writable (Path.ofText name) (Path.ofText name).text).map some
  | none => .ok none

def deliver (dir : WorkDir) (messages : Text) (target : Option (List Text)) (text : Text) :
    Outcome :=
  match Utf8.encode text with
  | .ok bytes => ⟨.exit 0, if target.isNone then bytes else [], messages, dir.putAt target bytes⟩
  | .error fault => ⟨.broken (.encoding fault), [], messages, dir.putAt target []⟩

def warningText (messages : List Text) : Text :=
  textOfLines (messages.map (fun message => "Warning: " ++ message))

/-- What a run has worked out when it comes to its output. -/
structure Work (dir : WorkDir) (stream : Bytes) (words : List Text) where
  arguments : Arguments
  settings : Settings
  layout : Layout
  source : Bytes
  document : Document
  warnings : List Text
  lines : List Text
  target : Option (List Text)
  parsed : read words = .ok (.run arguments)
  chosen : Chosen dir arguments settings
  laidOut : settings.layout = .ok layout
  provided : input dir stream arguments = .ok source
  loaded : Document.ofBytes source = .ok document
  warned : CommandLine.warnings arguments document = .ok warnings
  made : document.lines layout = .ok lines
  opened : destination dir arguments = .ok target

theorem stop_ending_ne (messages : Text) (error : StepError) :
    (stop dir messages error).ending ≠ .exit 0 := by
  cases error <;> nofun

theorem stop_output (messages : Text) (error : StepError) :
    (stop dir messages error).output = [] := by
  cases error <;> rfl

theorem stop_directory (messages : Text) (error : StepError) :
    (stop dir messages error).directory = dir := by
  cases error <;> rfl

theorem layout_eq_ok_iff {layout : Layout} :
    CommandLine.layout dir arguments = .ok layout ↔
      ∃ settings, Chosen dir arguments settings ∧ settings.layout = .ok layout := by
  unfold CommandLine.layout Chosen
  cases fileSettings dir arguments with
  | error failure =>
      constructor
      · intro laidOut
        cases failure <;> cases laidOut
      · rintro ⟨_, ⟨_, _, found, _⟩, _⟩
        cases found
  | ok file =>
      dsimp only
      by_cases hyphens : arguments.indent = some .hyphens
      · rw [if_pos hyphens]
        constructor
        · nofun
        · rintro ⟨_, ⟨width, _⟩, _⟩
          exact absurd hyphens width
      · rw [if_neg hyphens]
        constructor
        · intro laidOut
          refine ⟨override arguments file, ⟨hyphens, file, rfl, rfl⟩, ?_⟩
          cases found : (override arguments file).layout with
          | ok other =>
              rw [found] at laidOut
              exact congrArg Except.ok (Except.ok.inj laidOut)
          | error failure =>
              rw [found] at laidOut
              cases failure <;> cases laidOut
        · rintro ⟨_, ⟨_, _, found, rfl⟩, laidOut⟩
          cases found
          rw [laidOut]

theorem prepare_eq_ok_iff {document : Document} {layout : Layout} :
    prepare dir stream arguments = .ok (document, layout) ↔
      CommandLine.layout dir arguments = .ok layout ∧
        ∃ source, input dir stream arguments = .ok source ∧
          Document.ofBytes source = .ok document := by
  unfold prepare
  constructor
  · intro prepared
    obtain ⟨format, laidOut, prepared⟩ := exists_of_bind_eq_ok prepared
    obtain ⟨source, provided, prepared⟩ := exists_of_bind_eq_ok prepared
    obtain ⟨loaded, found, prepared⟩ := exists_of_bind_eq_ok prepared
    cases prepared
    exact ⟨laidOut, source, provided, eq_ok_of_mapError_eq_ok found⟩
  · rintro ⟨laidOut, source, provided, loaded⟩
    rw [laidOut, provided]
    change (CommandLine.document source >>= _) = _
    unfold CommandLine.document
    rw [loaded]
    rfl

theorem write_eq_deliver (messages text : Text) :
    write dir messages arguments text =
      match destination dir arguments with
      | .error error => stop dir messages (fileStep "write output" error)
      | .ok target => deliver dir messages target text := by
  unfold write destination deliver
  cases given? arguments.output with
  | none => cases Utf8.encode text <;> rfl
  | some name =>
      dsimp only
      cases dir.writable (Path.ofText name) (Path.ofText name).text with
      | error error => rfl
      | ok place => cases Utf8.encode text <;> rfl

theorem deliver_of_encoded {messages text : Text} {target : Option (List Text)} {bytes : Bytes}
    (encoded : Utf8.encode text = .ok bytes) : deliver dir messages target text =
      ⟨.exit 0, if target.isNone then bytes else [], messages, dir.putAt target bytes⟩ := by
  unfold deliver
  rw [encoded]

theorem deliver_of_not_isScalar (dir : WorkDir) (messages : Text) (target : Option (List Text))
    {text : Text} (broken : ¬text.isScalar = true) : ∃ fault, Utf8.encode text = .error fault ∧
      deliver dir messages target text =
        ⟨.broken (.encoding fault), [], messages, dir.putAt target []⟩ := by
  cases encoded : Utf8.encode text with
  | ok bytes => exact absurd (Utf8.exists_encode_iff.1 ⟨bytes, encoded⟩) broken
  | error fault =>
      refine ⟨fault, rfl, ?_⟩
      unfold deliver
      rw [encoded]

theorem deliver_ending_iff {messages text : Text} {target : Option (List Text)} :
    (deliver dir messages target text).ending = .exit 0 ↔
    ∃ bytes, Utf8.encode text = .ok bytes := by
  unfold deliver
  cases Utf8.encode text with
  | ok bytes => exact ⟨fun _ => ⟨bytes, rfl⟩, fun _ => rfl⟩
  | error fault =>
      constructor
      · intro done
        cases done
      · rintro ⟨bytes, same⟩
        cases same

/-! ### Whole runs -/

theorem Work.run_eq (work : Work dir stream words) :
    run dir stream words =
      deliver dir (warningText work.warnings) work.target (textOfLines work.lines) := by
  have laidOut := layout_eq_ok_iff.2 ⟨work.settings, work.chosen, work.laidOut⟩
  have prepared := prepare_eq_ok_iff.2 ⟨laidOut, work.source, work.provided, work.loaded⟩
  unfold run
  rw [work.parsed]
  dsimp only
  unfold runArguments
  rw [prepared]
  dsimp only
  rw [work.warned]
  dsimp only
  unfold declarations
  rw [work.made]
  dsimp only
  rw [write_eq_deliver, work.opened]
  rfl

structure Idle (dir : WorkDir) (words : List Text) (outcome : Outcome) : Prop where
  directory : outcome.directory = dir
  asked : outcome.ending = .exit 0 → read words = .ok .showHelp ∨ read words = .ok .showVersion
  output : outcome.ending ≠ .exit 0 → outcome.output = []

theorem idle_stop (messages : Text) (error : StepError) :
    Idle dir words (stop dir messages error) where
  directory := stop_directory messages error
  asked := fun done => absurd done (stop_ending_ne messages error)
  output := fun _ => stop_output messages error

theorem idle_showText {text : Text}
    (asked : read words = .ok .showHelp ∨ read words = .ok .showVersion) :
    Idle dir words (showText dir text) where
  directory := rfl
  asked := fun _ => asked
  output := fun failed => absurd rfl failed

theorem runArguments_cases (parsed : read words = .ok (.run arguments)) :
    Idle dir words (runArguments dir stream arguments) ∨ Nonempty (Work dir stream words) := by
  unfold runArguments
  cases prepared : prepare dir stream arguments with
  | error error => exact .inl (idle_stop _ error)
  | ok both =>
      obtain ⟨document, layout⟩ := both
      obtain ⟨laidOut, source, provided, loaded⟩ := prepare_eq_ok_iff.1 prepared
      obtain ⟨settings, chosen, given⟩ := layout_eq_ok_iff.1 laidOut
      dsimp only
      cases warned : warnings arguments document with
      | error error => exact .inl (idle_stop _ error)
      | ok warnings =>
          dsimp only
          unfold declarations
          cases made : document.lines layout with
          | error error => exact .inl (idle_stop _ _)
          | ok lines =>
              dsimp only
              rw [write_eq_deliver]
              cases opened : destination dir arguments with
              | error error => exact .inl (idle_stop _ _)
              | ok target =>
                  exact .inr
                    ⟨⟨arguments, settings, layout, source, document, warnings, lines, target,
                      parsed,
                    chosen, given, provided, loaded, warned, made, opened⟩⟩

theorem run_cases (dir : WorkDir) (stream : Bytes) (words : List Text) :
    Idle dir words (run dir stream words) ∨ Nonempty (Work dir stream words) := by
  unfold run
  cases parsed : read words with
  | error error =>
      refine .inl ⟨rfl, fun done => ?_, fun _ => rfl⟩
      cases done
  | ok request =>
      cases request with
      | showHelp => exact .inl (idle_showText (.inl parsed))
      | showVersion => exact .inl (idle_showText (.inr parsed))
      | run arguments => exact runArguments_cases parsed

end CommandLine

end ContractTypes
