import ContractTypes.Proofs.CommandLine.Steps
import ContractTypes.Proofs.Declaration.Encoding
import ContractTypes.Proofs.Files.WorkDir

/-!
What a run generates.

A quiet run is nothing but its steps, one after another: it ends well exactly if each of them has a
result.  What it produces depends on its settings and on the bytes of the document alone, and not on
the way in or out.
-/

namespace ContractTypes.CommandLine

/-- Settings and the bytes of a document give the bytes of its declarations. -/
def Generates (settings : Settings) (source bytes : Bytes) : Prop :=
  ∃ layout document lines, settings.layout = .ok layout ∧ Document.ofBytes source = .ok document ∧
    document.lines layout = .ok lines ∧ Utf8.encode (textOfLines lines) = .ok bytes

theorem Generates.unique {settings : Settings} {source bytes others : Bytes}
    (given : Generates settings source bytes) (again : Generates settings source others) :
    others = bytes := by
  obtain ⟨layout, document, lines, laidOut, loaded, made, encoded⟩ := given
  obtain ⟨_, _, _, laidOut', loaded', made', encoded'⟩ := again
  cases laidOut.symm.trans laidOut'
  cases loaded.symm.trans loaded'
  cases made.symm.trans made'
  exact Except.ok.inj (encoded'.symm.trans encoded)

/-- For a document with scalar names, nothing but the text in front of names can keep lines from
being encoded. -/
theorem exists_generates_iff {settings : Settings} {layout : Layout} {source : Bytes}
    {document : Document} {lines : List Text} (laidOut : settings.layout = .ok layout)
    (loaded : Document.ofBytes source = .ok document) (made : document.lines layout = .ok lines)
    (scalar : document.ScalarNames) : (∃ bytes, Generates settings source bytes) ↔
      (settings.namePrefix.getD []).isScalar = true ∨
      document.structNames ++ document.variantNames = [] := by
  rw [← Document.isScalar_lines_iff scalar laidOut made, ← Utf8.exists_encode_iff]
  constructor
  · rintro ⟨bytes, _, _, _, laidOut', loaded', made', encoded⟩
    cases laidOut.symm.trans laidOut'
    cases loaded.symm.trans loaded'
    cases made.symm.trans made'
    exact ⟨bytes, encoded⟩
  · rintro ⟨bytes, encoded⟩
    exact ⟨bytes, layout, document, lines, laidOut, loaded, made, encoded⟩

/-- The bytes that a run leaves in the file that its command line names, or else on the output
stream. -/
def produced (arguments : Arguments) (outcome : Outcome) : Except FileError Bytes :=
  match given? arguments.output with
  | some name => outcome.directory.read (Path.ofText name) (Path.ofText name).text
  | none => .ok outcome.output

variable {dir : WorkDir} {stream : Bytes} {words : List Text} {arguments : Arguments}

theorem produced_of_destination {target : Option (List Text)} {ending : RunEnd} {messages : Text}
    {bytes : Bytes} (opened : destination dir arguments = .ok target) :
    produced arguments ⟨ending, if target.isNone then bytes else [], messages,
      dir.putAt target bytes⟩ =
      .ok bytes := by
  unfold destination at opened
  unfold produced
  cases named : given? arguments.output with
  | none =>
      rw [named] at opened
      cases opened
      rfl
  | some name =>
      rw [named] at opened
      obtain ⟨place, writable, rfl⟩ := exists_of_map_eq_ok opened
      exact WorkDir.read_put writable bytes _

theorem exists_generates_of_work (parsed : read words = .ok (.run arguments))
    (work : Work dir stream words) {bytes : Bytes}
    (encoded : Utf8.encode (textOfLines work.lines) = .ok bytes) :
    ∃ settings source bytes target, Chosen dir arguments settings ∧
      input dir stream arguments = .ok source ∧
      Generates settings source bytes ∧ destination dir arguments = .ok target := by
  cases parsed.symm.trans work.parsed
  have generated : Generates work.settings work.source bytes :=
    ⟨work.layout, work.document, work.lines, work.laidOut, work.loaded, work.made, encoded⟩
  exact ⟨work.settings, work.source, bytes, work.target, work.chosen, work.provided, generated,
    work.opened⟩

section Quiet

variable {settings : Settings} {source bytes : Bytes} {target : Option (List Text)}

theorem run_of_generates (parsed : read words = .ok (.run arguments))
    (quiet : arguments.quiet = true) (chosen : Chosen dir arguments settings)
    (provided : input dir stream arguments = .ok source)
    (generated : Generates settings source bytes)
    (opened : destination dir arguments = .ok target) : run dir stream words =
      ⟨.exit 0, if target.isNone then bytes else [], [], dir.putAt target bytes⟩ := by
  obtain ⟨layout, document, lines, laidOut, loaded, made, encoded⟩ := generated
  have warned : warnings arguments document = .ok [] := if_pos quiet
  rw [Work.run_eq ⟨arguments, settings, layout, source, document, [], lines, target, parsed, chosen,
    laidOut, provided, loaded, warned, made, opened⟩]
  exact deliver_of_encoded encoded

end Quiet

/-- A quiet run exits with status zero exactly if it has settings, can read its input, generates
bytes from these two, and finds the place for its output.  These bytes, and no others, are then what
it leaves at its output: in the file, where nothing is written on the stream and no other file
changes, or on the stream.  Settings and a document with scalar names that give lines generate bytes
unless the text in front of names is not scalar. -/
theorem run_quiet (dir : WorkDir) (stream : Bytes) (parsed : read words = .ok (.run arguments))
    (quiet : arguments.quiet = true) :
    ((run dir stream words).ending = .exit 0 ↔
      ∃ settings source bytes target, Chosen dir arguments settings ∧
        input dir stream arguments = .ok source ∧
        Generates settings source bytes ∧ destination dir arguments = .ok target) ∧
    (∀ settings source bytes target, Chosen dir arguments settings →
      input dir stream arguments = .ok source →
      Generates settings source bytes → destination dir arguments = .ok target →
        run dir stream words =
          ⟨.exit 0, if target.isNone then bytes else [], [], dir.putAt target bytes⟩ ∧
        produced arguments (run dir stream words) = .ok bytes ∧
        ∀ others, Generates settings source others → others = bytes) ∧
    ∀ settings layout source document lines, settings.layout = .ok layout →
      Document.ofBytes source = .ok document → document.lines layout = .ok lines →
        document.ScalarNames →
        ((∃ bytes, Generates settings source bytes) ↔
          (settings.namePrefix.getD []).isScalar = true ∨
            document.structNames ++ document.variantNames = []) := by
  refine ⟨⟨fun done => ?_, ?_⟩, ?_, fun settings layout source document lines =>
    exists_generates_iff⟩
  · rcases run_cases dir stream words with idle | ⟨⟨work⟩⟩
    · rcases idle.asked done with help | version
      · cases parsed.symm.trans help
      · cases parsed.symm.trans version
    · rw [work.run_eq, deliver_ending_iff] at done
      obtain ⟨bytes, encoded⟩ := done
      exact exists_generates_of_work parsed work encoded
  · rintro ⟨settings, source, bytes, target, chosen, provided, generated, opened⟩
    rw [run_of_generates parsed quiet chosen provided generated opened]
  · intro settings source bytes target chosen provided generated opened
    have whole := run_of_generates parsed quiet chosen provided generated opened
    refine ⟨whole, ?_, fun others again => generated.unique again⟩
    rw [whole]
    exact produced_of_destination opened

def paymentContract : Bytes :=
  Utf8.encodeScalar
    ("\x7b\"version\": \"1.0\", \"structs\": [\x7b\"name\": \"paid\", \"fields\": [" ++
    "\x7b\"name\": \"by\", \"type\": \"name\"\x7d]\x7d]\x7d")

def paymentLines : List Text := ["export interface Paid \x7b", "    By: string", "\x7d"]

def paymentDir : WorkDir := (WorkDir.empty "/").put ["contract.json"] paymentContract

theorem generates_payment : Generates { Settings.standard with exported := true } paymentContract
    (Utf8.encodeScalar (textOfLines paymentLines)) := by
  refine ⟨_, ⟨"1.0", [], [⟨"paid", [], [⟨"by", "name"⟩]⟩], [], [], [], [], [], []⟩, paymentLines,
    rfl, ?_, ?_, ?_⟩
  · decide +kernel
  · decide +kernel
  · decide +kernel

theorem run_quiet_payment :
    run paymentDir [] ["-q", "-e", "-i", "contract.json", "types.ts"] =
        ⟨.exit 0, [], [], paymentDir.put ["types.ts"]
          (Utf8.encodeScalar (textOfLines paymentLines))⟩ ∧
      run (WorkDir.empty "/") paymentContract ["-q", "-e"] =
        ⟨.exit 0, Utf8.encodeScalar (textOfLines paymentLines), [], WorkDir.empty "/"⟩ := by
  have chosen (input output : Option Text) (dir : WorkDir)
      (found : fileSettings dir { Arguments.none with
        input := input, quiet := true, exported := true, output := output } =
          .ok Settings.standard) :
      Chosen dir { Arguments.none with input := input, quiet := true, exported := true, output :=
        output }
        { Settings.standard with exported := true } :=
    ⟨nofun, Settings.standard, found, rfl⟩
  constructor
  · have parsed : read ["-q", "-e", "-i", "contract.json", "types.ts"] =
      .ok (.run { Arguments.none with
        input := some "contract.json", quiet := true, exported := true, output :=
          some "types.ts" }) := by
      decide +kernel
    exact ((run_quiet paymentDir [] parsed rfl).2.1 _ paymentContract _ (some ["types.ts"])
      (chosen _ _ _ (by decide +kernel)) (by decide +kernel) generates_payment
        (by decide +kernel)).1
  · have parsed : read ["-q", "-e"] =
      .ok (.run { Arguments.none with quiet := true, exported := true }) := by
      decide +kernel
    exact ((run_quiet (WorkDir.empty "/") paymentContract parsed rfl).2.1 _ paymentContract _ none
      (chosen _ _ _ (by decide +kernel)) rfl generates_payment rfl).1

end ContractTypes.CommandLine
