import ContractTypes.Proofs.CommandLine.Steps
import ContractTypes.Proofs.Declaration.Encoding
import ContractTypes.Proofs.Files.WorkDir

/-!
What runs do to files.

A run touches at most the file that its command line names for the output, and it touches that one
last, when all other steps have a result.  So a run that fails leaves every file as it was, with one
exception: the file is emptied before the lines are encoded, and it stays empty where they cannot
be.  Over runs one after another in the same work directory, where one may read what another has
written, no other file ever changes.
-/

namespace ContractTypes.CommandLine

structure Attempt where
  before : WorkDir
  stream : Bytes
  words : List Text

def attempts (dir : WorkDir) : List (Bytes × List Text) → List Attempt
  | [] => []
  | (stream, words) :: rest => ⟨dir, stream, words⟩ ::
      attempts (run dir stream words).directory rest

def leftBy (dir : WorkDir) : List (Bytes × List Text) → WorkDir
  | [] => dir
  | (stream, words) :: rest => leftBy (run dir stream words).directory rest

namespace Attempt

def outcome (attempt : Attempt) : Outcome := run attempt.before attempt.stream attempt.words

/-- The command line names the file at a place for the output. -/
def Opens (attempt : Attempt) (place : List Text) : Prop :=
  ∃ arguments, read attempt.words = .ok (.run arguments) ∧
    destination attempt.before arguments = .ok (some place)

def NamesOutput (attempt : Attempt) : Prop :=
  ∃ arguments name, read attempt.words = .ok (.run arguments) ∧ given? arguments.output = some name

/-- The run comes to its output, which is for the file at a place, with lines that cannot be
encoded. -/
def Loses (attempt : Attempt) (place : List Text) : Prop :=
  ∃ work : Work attempt.before attempt.stream attempt.words, work.target = some place ∧
    ¬(textOfLines work.lines).isScalar = true

/-- What a run may do to the files and to the output stream. -/
structure Framed (attempt : Attempt) : Prop where
  silent : attempt.outcome.ending ≠ .exit 0 → attempt.outcome.output = []
  kept : attempt.outcome.ending ≠ .exit 0 →
    attempt.outcome.directory = attempt.before ∨ ∃ place, attempt.Loses place
  emptied : ∀ place, attempt.Loses place →
    attempt.outcome.ending ≠ .exit 0 ∧ attempt.outcome.directory = attempt.before.put place []
  /-- Where no name in the document has a surrogate, only the text in front of names can bring one
  in. -/
  unencoded : ∀ work : Work attempt.before attempt.stream attempt.words, work.document.ScalarNames →
    (¬(textOfLines work.lines).isScalar = true ↔
      ¬(work.settings.namePrefix.getD []).isScalar = true ∧
      work.document.structNames ++ work.document.variantNames ≠ [])
  written : attempt.outcome.ending = .exit 0 → attempt.outcome.directory = attempt.before ∨
    ∃ place bytes, attempt.Opens place ∧ attempt.outcome.directory = attempt.before.put place bytes
  filed : attempt.outcome.ending = .exit 0 → attempt.NamesOutput → attempt.outcome.output = []

variable {attempt : Attempt}

theorem outcome_of_work (work : Work attempt.before attempt.stream attempt.words) :
    attempt.outcome =
    deliver attempt.before (warningText work.warnings) work.target (textOfLines work.lines) :=
  work.run_eq

theorem ending_iff_of_work (work : Work attempt.before attempt.stream attempt.words) :
    attempt.outcome.ending = .exit 0 ↔ (textOfLines work.lines).isScalar = true := by
  rw [outcome_of_work work, deliver_ending_iff, Utf8.exists_encode_iff]

theorem emptied_of_work (work : Work attempt.before attempt.stream attempt.words)
    (broken : ¬(textOfLines work.lines).isScalar = true) :
    attempt.outcome.output = [] ∧ attempt.outcome.directory = attempt.before.putAt work.target
      [] := by
  obtain ⟨fault, _, outcome⟩ :=
    deliver_of_not_isScalar attempt.before (warningText work.warnings) work.target broken
  rw [outcome_of_work work, outcome]
  exact ⟨rfl, rfl⟩

theorem written_of_work (work : Work attempt.before attempt.stream attempt.words)
    (done : attempt.outcome.ending = .exit 0) : ∃ bytes,
      attempt.outcome.output = (if work.target.isNone then bytes else []) ∧
        attempt.outcome.directory = attempt.before.putAt work.target bytes := by
  obtain ⟨bytes, encoded⟩ := Utf8.exists_encode_iff.2 ((ending_iff_of_work work).1 done)
  rw [outcome_of_work work, deliver_of_encoded encoded]
  exact ⟨bytes, rfl, rfl⟩

theorem destination_ne_none {dir : WorkDir} {arguments : Arguments} {name : Text}
    (named : given? arguments.output = some name) {target : Option (List Text)}
    (opened : destination dir arguments = .ok target) : target.isNone = false := by
  unfold destination at opened
  rw [named] at opened
  obtain ⟨place, _, rfl⟩ := exists_of_map_eq_ok opened
  rfl

theorem framed_of_work (work : Work attempt.before attempt.stream attempt.words) :
    attempt.Framed where
  silent := by
    intro failed
    exact (emptied_of_work work (mt (ending_iff_of_work work).2 failed)).1
  kept := by
    intro failed
    have broken := mt (ending_iff_of_work work).2 failed
    cases target : work.target with
    | none =>
        have left := (emptied_of_work work broken).2
        rw [target] at left
        exact .inl left
    | some place => exact .inr ⟨place, work, target, broken⟩
  emptied := by
    rintro place ⟨other, target, broken⟩
    have left := (emptied_of_work other broken).2
    rw [target] at left
    exact ⟨mt (ending_iff_of_work other).1 broken, left⟩
  unencoded := by
    intro other scalar
    rw [Document.isScalar_lines_iff scalar other.laidOut other.made, not_or]
  written := by
    intro done
    obtain ⟨bytes, _, left⟩ := written_of_work work done
    cases target : work.target with
    | none =>
        rw [target] at left
        exact .inl left
    | some place =>
        rw [target] at left
        exact .inr ⟨place, bytes, ⟨work.arguments, work.parsed, target ▸ work.opened⟩, left⟩
  filed := by
    rintro done ⟨arguments, name, parsed, named⟩
    obtain ⟨bytes, output, _⟩ := written_of_work work done
    cases parsed.symm.trans work.parsed
    rw [output, destination_ne_none named work.opened]
    rfl

theorem framed_of_idle (idle : Idle attempt.before attempt.words attempt.outcome)
    (none : Work attempt.before attempt.stream attempt.words → False) : attempt.Framed where
  silent := idle.output
  kept := fun _ => .inl idle.directory
  emptied := by
    rintro place ⟨work, _⟩
    exact (none work).elim
  unencoded := fun work => (none work).elim
  written := fun _ => .inl idle.directory
  filed := by
    rintro done ⟨arguments, name, parsed, _⟩
    rcases idle.asked done with help | version
    · cases parsed.symm.trans help
    · cases parsed.symm.trans version

theorem framed (attempt : Attempt) : attempt.Framed := by
  by_cases some : Nonempty (Work attempt.before attempt.stream attempt.words)
  · obtain ⟨work⟩ := some
    exact framed_of_work work
  · have idle := (run_cases attempt.before attempt.stream attempt.words).resolve_right some
    exact framed_of_idle idle (fun work => some ⟨work⟩)

theorem opens_of_loses {place : List Text} (loses : attempt.Loses place) : attempt.Opens place := by
  obtain ⟨work, target, _⟩ := loses
  exact ⟨work.arguments, work.parsed, target ▸ work.opened⟩

/-- A file that a run changes is the one that its command line names, and the run ends well or loses
it. -/
theorem opens_of_changed {place : List Text}
    (changed : attempt.outcome.directory.contents? place ≠ attempt.before.contents? place) :
    attempt.Opens place ∧ (attempt.outcome.ending = .exit 0 ∨ attempt.Loses place) := by
  have frame := attempt.framed
  by_cases done : attempt.outcome.ending = .exit 0
  · rcases frame.written done with same | ⟨other, bytes, opens, left⟩
    · exact absurd (congrArg (WorkDir.contents? · place) same) changed
    · rw [left] at changed
      obtain rfl := WorkDir.eq_of_contents?_put_ne changed
      exact ⟨opens, .inl done⟩
  · rcases frame.kept done with same | ⟨other, loses⟩
    · exact absurd (congrArg (WorkDir.contents? · place) same) changed
    · rw [(frame.emptied other loses).2] at changed
      obtain rfl := WorkDir.eq_of_contents?_put_ne changed
      exact ⟨opens_of_loses loses, .inr loses⟩

end Attempt

/-! ### Runs one after another -/

theorem runAll_eq_map_attempts (dir : WorkDir) (runs : List (Bytes × List Text)) :
    runAll dir runs = (attempts dir runs).map Attempt.outcome := by
  induction runs generalizing dir with
  | nil => rfl
  | cons first rest ih =>
      obtain ⟨stream, words⟩ := first
      exact congrArg (run dir stream words :: ·) (ih _)

/-- In any sequence of runs, a run that fails writes nothing on the output stream, and it changes no
file unless it comes to its output with lines that cannot be encoded: then it empties the file for
them, and for a document with scalar names the text in front of names is to blame.  A run that ends
well changes at most the file that its command line names, and where there is a name it writes
nothing on the stream.  So a file with other contents after all runs than before is the output file
of one of them. -/
theorem runs_framed (dir : WorkDir) (runs : List (Bytes × List Text)) :
    runAll dir runs = (attempts dir runs).map Attempt.outcome ∧
    (∀ attempt ∈ attempts dir runs, attempt.Framed) ∧
    ∀ place, (leftBy dir runs).contents? place ≠ dir.contents? place →
      ∃ attempt ∈ attempts dir runs, attempt.Opens place ∧
        (attempt.outcome.ending = .exit 0 ∨ attempt.Loses place) := by
  refine ⟨runAll_eq_map_attempts dir runs, fun attempt _ => attempt.framed, ?_⟩
  intro place changed
  induction runs generalizing dir with
  | nil => exact absurd rfl changed
  | cons first rest ih =>
      obtain ⟨stream, words⟩ := first
      by_cases here : (run dir stream words).directory.contents? place = dir.contents? place
      · rw [← here] at changed
        obtain ⟨attempt, member, named⟩ := ih _ changed
        exact ⟨attempt, List.mem_cons_of_mem _ member, named⟩
      · exact ⟨⟨dir, stream, words⟩, List.mem_cons_self, Attempt.opens_of_changed here⟩

def receiptContract : Bytes :=
  Utf8.encodeScalar
    "\x7b\"version\": \"1.0\", \"structs\": [\x7b\"name\": \"a\", \"fields\": []\x7d]\x7d"

def receiptDir : WorkDir :=
  ((WorkDir.empty "/").put [settingsName] (Utf8.encodeScalar "prefix: \"\\ud800\"\n")).put
    ["out.ts"]
    (Utf8.encodeScalar "old")

theorem not_kept_receiptDir :
    (run receiptDir receiptContract ["out.ts"]).ending =
        .broken (.encoding ⟨10, ⟨0xD800, by decide⟩, 1⟩) ∧
      receiptDir.contents? ["out.ts"] = some (Utf8.encodeScalar "old") ∧
      (run receiptDir receiptContract ["out.ts"]).directory.contents? ["out.ts"] = some [] ∧
      ¬∀ attempt : Attempt,
        (∀ arguments source document, read attempt.words = .ok (.run arguments) →
          input attempt.before attempt.stream arguments = .ok source →
          Document.ofBytes source = .ok document → document.ScalarNames) →
        attempt.outcome.ending ≠ .exit 0 → attempt.outcome.directory = attempt.before := by
  have ending : (run receiptDir receiptContract ["out.ts"]).ending =
      .broken (.encoding ⟨10, ⟨0xD800, by decide⟩, 1⟩) := by decide +kernel
  have before : receiptDir.contents? ["out.ts"] = some (Utf8.encodeScalar "old") := by
    decide +kernel
  have after : (run receiptDir receiptContract ["out.ts"]).directory.contents? ["out.ts"] =
      some [] := by
    decide +kernel
  refine ⟨ending, before, after, fun all => ?_⟩
  have scalar (arguments : Arguments) (source : Bytes) (document : Document)
      (parsed : read ["out.ts"] = .ok (.run arguments))
      (provided : input receiptDir receiptContract arguments = .ok source)
      (loaded : Document.ofBytes source = .ok document) : document.ScalarNames := by
    have words : read ["out.ts"] = .ok (.run { Arguments.none with output := some "out.ts" }) := by
      decide +kernel
    cases words.symm.trans parsed
    cases provided
    have contract : Document.ofBytes receiptContract =
        .ok ⟨"1.0", [], [⟨"a", [], []⟩], [], [], [], [], [], []⟩ := by decide +kernel
    cases contract.symm.trans loaded
    exact ⟨by decide, by decide, by decide⟩
  have failed : (run receiptDir receiptContract ["out.ts"]).ending ≠ .exit 0 := by
    rw [ending]
    nofun
  have kept := all ⟨receiptDir, receiptContract, ["out.ts"]⟩ scalar failed
  have contents := congrArg (WorkDir.contents? · ["out.ts"]) kept
  change (run receiptDir receiptContract ["out.ts"]).directory.contents? ["out.ts"] = _ at contents
  rw [after, before] at contents
  exact absurd contents (by decide +kernel)

end ContractTypes.CommandLine
