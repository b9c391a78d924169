import ContractTypes.Proofs.CommandLine.Steps
import ContractTypes.Proofs.Warning

/-!
Runs with and without warnings.

A run that shows the warnings about its document and one that does not have the same steps before
and behind the warnings.  They have the same result, in which only the messages differ, exactly
where each warning has a message: a run that shows warnings breaks off at one that has none.
-/

namespace ContractTypes

namespace Outcome

/-- The same end, output and files; the messages may differ. -/
structure SameResult (left right : Outcome) : Prop where
  ending : left.ending = right.ending
  output : left.output = right.output
  directory : left.directory = right.directory

def behind (shown : Text) (outcome : Outcome) : Outcome :=
  { outcome with messages := shown ++ outcome.messages }

theorem sameResult_behind (shown : Text) (outcome : Outcome) :
    (outcome.behind shown).SameResult outcome :=
  ⟨rfl, rfl, rfl⟩

end Outcome

namespace CommandLine

variable (dir : WorkDir) (stream : Bytes) (arguments : Arguments)

theorem stop_behind (shown : Text) (error : StepError) :
    stop dir shown error = (stop dir [] error).behind shown := by
  cases error with
  | reported message => rfl
  | broken fault => simp only [stop, Outcome.behind, List.append_nil]

theorem deliver_behind (shown text : Text) (target : Option (List Text)) :
    deliver dir shown target text = (deliver dir [] target text).behind shown := by
  unfold deliver
  cases Utf8.encode text <;> simp only [Outcome.behind, List.append_nil]

theorem write_behind (shown text : Text) :
    write dir shown arguments text = (write dir [] arguments text).behind shown := by
  rw [write_eq_deliver, write_eq_deliver]
  cases destination dir arguments with
  | error error => exact stop_behind dir shown _
  | ok target => exact deliver_behind dir shown text target

theorem write_ending_ne_warning (messages text : Text) (cause : TemplateError) :
    (write dir messages arguments text).ending ≠ .broken (.warning cause) := by
  rw [write_eq_deliver]
  cases destination dir arguments with
  | error error => cases error <;> nofun
  | ok target =>
      dsimp only
      unfold deliver
      cases Utf8.encode text <;> nofun

def finish (messages : Text) (layout : Layout) (document : Document) : Outcome :=
  match declarations layout document with
  | .error error => stop dir messages error
  | .ok text => write dir messages arguments text

theorem finish_behind (shown : Text) (layout : Layout) (document : Document) :
    finish dir arguments shown layout document =
      (finish dir arguments [] layout document).behind shown := by
  unfold finish
  cases declarations layout document with
  | error error => exact stop_behind dir shown error
  | ok text => exact write_behind dir arguments shown text

theorem finish_ending_ne_warning (messages : Text) (layout : Layout) (document : Document)
    (cause : TemplateError) :
    (finish dir arguments messages layout document).ending ≠ .broken (.warning cause) := by
  unfold finish declarations
  cases document.lines layout with
  | error error => nofun
  | ok lines => exact write_ending_ne_warning dir arguments messages _ cause

/-- A run of the same command line with or without `--quiet`. -/
def runQuiet (quiet : Bool) : Outcome := runArguments dir stream { arguments with quiet := quiet }

variable {dir stream arguments} {document : Document} {layout : Layout}

theorem runQuiet_of_unprepared {error : StepError}
    (unprepared : prepare dir stream arguments = .error error) (quiet : Bool) :
    runQuiet dir stream arguments quiet = stop dir [] error := by
  unfold runQuiet runArguments
  -- The steps that prepare a run do not read whether it is quiet.
  change prepare dir stream { arguments with quiet := quiet } = .error error at unprepared
  rw [unprepared]

theorem runQuiet_true (prepared : prepare dir stream arguments = .ok (document, layout)) :
    runQuiet dir stream arguments true = finish dir arguments [] layout document := by
  unfold runQuiet runArguments
  change prepare dir stream { arguments with quiet := true } = .ok (document, layout) at prepared
  rw [prepared]
  rfl

theorem runQuiet_false (prepared : prepare dir stream arguments = .ok (document, layout)) :
    runQuiet dir stream arguments false =
      match document.warningMessages with
      | .error cause => ⟨.broken (.warning cause), [], [], dir⟩
      | .ok messages => finish dir arguments (warningText messages) layout document := by
  unfold runQuiet runArguments warnings
  change prepare dir stream { arguments with quiet := false } = .ok (document, layout) at prepared
  rw [prepared]
  dsimp only
  rw [if_neg Bool.false_ne_true]
  cases document.warningMessages <;> rfl

theorem runQuiet_false_of_messages {messages : List Text}
    (prepared : prepare dir stream arguments = .ok (document, layout))
    (shown : document.warningMessages = .ok messages) :
    runQuiet dir stream arguments false =
      (runQuiet dir stream arguments true).behind (warningText messages) := by
  rw [runQuiet_false prepared, shown, runQuiet_true prepared]
  exact finish_behind dir arguments (warningText messages) layout document

theorem runQuiet_false_of_no_message {cause : TemplateError}
    (prepared : prepare dir stream arguments = .ok (document, layout))
    (failed : document.warningMessages = .error cause) :
    runQuiet dir stream arguments false = ⟨.broken (.warning cause), [], [], dir⟩ := by
  rw [runQuiet_false prepared, failed]

theorem sameResult_iff_of_prepared (prepared :
      prepare dir stream arguments = .ok (document, layout)) :
    (runQuiet dir stream arguments false).SameResult (runQuiet dir stream arguments true) ↔
      document.BracesPaired := by
  rw [← Document.exists_warningMessages_iff]
  cases shown : document.warningMessages with
  | ok messages =>
      rw [runQuiet_false_of_messages prepared shown]
      exact ⟨fun _ => ⟨messages, rfl⟩, fun _ => Outcome.sameResult_behind _ _⟩
  | error cause =>
      rw [runQuiet_false_of_no_message prepared shown, runQuiet_true prepared]
      constructor
      · intro same
        exact absurd same.ending.symm
          (finish_ending_ne_warning dir arguments [] layout document cause)
      · rintro ⟨messages, found⟩
        cases found

variable (dir stream arguments)

/-- Whether the warnings are shown makes no difference to the result of a run exactly where the
braces in the name of each struct with a repeated field stand in pairs.  A run that has its document
then shows the warnings in front of its other messages.  Where they do not, it breaks off and writes
nothing, whatever the quiet run does. -/
theorem runQuiet_outcome :
    ((runQuiet dir stream arguments false).SameResult (runQuiet dir stream arguments true) ↔
      ∀ document layout, prepare dir stream arguments = .ok (document, layout) →
        document.BracesPaired) ∧
    (∀ document layout, prepare dir stream arguments = .ok (document, layout) →
      document.BracesPaired →
      ∃ messages, document.warningMessages = .ok messages ∧
        runQuiet dir stream arguments false =
          (runQuiet dir stream arguments true).behind (warningText messages)) ∧
    ∀ document layout, prepare dir stream arguments = .ok (document, layout) →
      ¬document.BracesPaired →
      ∃ cause, document.warningMessages = .error cause ∧
        runQuiet dir stream arguments false = ⟨.broken (.warning cause), [], [], dir⟩ := by
  refine ⟨?_, ?_, ?_⟩
  · cases prepared : prepare dir stream arguments with
    | error error =>
        rw [runQuiet_of_unprepared prepared, runQuiet_of_unprepared prepared]
        refine ⟨fun _ document layout found => ?_, fun _ => ⟨rfl, rfl, rfl⟩⟩
        cases found
    | ok found =>
        obtain ⟨document, layout⟩ := found
        rw [sameResult_iff_of_prepared prepared]
        constructor
        · intro paired other format same
          cases same
          exact paired
        · intro all
          exact all document layout rfl
  · intro document layout prepared paired
    obtain ⟨messages, shown⟩ := Document.exists_warningMessages_iff.2 paired
    exact ⟨messages, shown, runQuiet_false_of_messages prepared shown⟩
  · intro document layout prepared unpaired
    cases shown : document.warningMessages with
    | ok messages => exact absurd (Document.exists_warningMessages_iff.1 ⟨messages, shown⟩) unpaired
    | error cause => exact ⟨cause, rfl, runQuiet_false_of_no_message prepared shown⟩

def bracedContract : Bytes :=
  Utf8.encodeScalar
    ("\x7b\"version\": \"1.0\", \"structs\": [\x7b\"name\": \"\x7b\x7d\", \"fields\": [" ++
      "\x7b\"name\": \"x\", \"type\": \"name\"\x7d, " ++
      "\x7b\"name\": \"x\", \"type\": \"name\"\x7d]\x7d]\x7d")

theorem not_sameResult_bracedContract :
    (runQuiet (WorkDir.empty "/") bracedContract Arguments.none false).ending =
        .broken (.warning .noSecondValue) ∧
      (runQuiet (WorkDir.empty "/") bracedContract Arguments.none true).ending = .exit 0 ∧
      ¬∀ dir stream arguments,
        (runQuiet dir stream arguments false).SameResult (runQuiet dir stream arguments true) := by
  have loud : (runQuiet (WorkDir.empty "/") bracedContract Arguments.none false).ending =
      .broken (.warning .noSecondValue) := by decide +kernel
  have quiet : (runQuiet (WorkDir.empty "/") bracedContract Arguments.none true).ending =
      .exit 0 := by
    decide +kernel
  refine ⟨loud, quiet, fun all => ?_⟩
  have same := (all (WorkDir.empty "/") bracedContract Arguments.none).ending
  rw [loud, quiet] at same
  cases same

end CommandLine

end ContractTypes
