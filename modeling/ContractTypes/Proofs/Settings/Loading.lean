import ContractTypes.Proofs.Settings.Choices
import ContractTypes.Proofs.Text.Utf8

/-!
How the loading of a settings file ends.

Most failures are reported.  The others escape: a path that has the code point zero in it, a file of
bytes that are no text, a text that has no value though it breaks no rule of the language, and a key
that is an integer of too many digits to be written.
-/

namespace ContractTypes

namespace WorkDir

def Holds (dir : WorkDir) (path : Path) (bytes : Bytes) : Prop :=
  hasZero path = false ∧ ∃ place, dir.target path = .ok (.file place bytes)

variable {dir : WorkDir} {path : Path} {shown : Text}

theorem read_eq_ok_iff {bytes : Bytes} : dir.read path shown = .ok bytes ↔
    dir.Holds path bytes := by
  unfold read Holds
  cases zero : hasZero path with
  | true => exact ⟨nofun, fun both => by cases both.1⟩
  | false =>
      rw [if_neg Bool.false_ne_true]
      cases dir.target path with
      | error fault => exact ⟨nofun, fun ⟨_, _, same⟩ => by cases same⟩
      | ok target =>
          cases target with
          | file place contents =>
              exact ⟨fun same => ⟨rfl, place, by cases same; rfl⟩, fun ⟨_, _, same⟩ =>
                by cases same; rfl⟩
          | _ => exact ⟨nofun, fun ⟨_, _, same⟩ => by cases same⟩

theorem read_eq_zero_iff : dir.read path shown = .error .zeroInPath ↔ hasZero path = true := by
  fun_cases WorkDir.read dir path shown with
  | case1 zero => exact ⟨fun _ => zero, fun _ => rfl⟩
  | case2 zeroless => exact ⟨nofun, fun zero => absurd zero zeroless⟩
  | case3 zeroless => exact ⟨nofun, fun zero => absurd zero zeroless⟩
  | case4 zeroless => exact ⟨nofun, fun zero => absurd zero zeroless⟩
  | case5 zeroless => exact ⟨nofun, fun zero => absurd zero zeroless⟩

end WorkDir

def SettingsFailure.IsReported (failure : SettingsFailure) : Prop :=
  ∃ error, failure = .reported error

namespace Settings

/-- The loading ends in settings, or in an error that is reported. -/
def Settles (result : Except SettingsFailure Settings) : Prop :=
  (∃ settings, result = .ok settings) ∨ ∃ error, result = .error (.reported error)

theorem settles_iff {result : Except SettingsFailure Settings} :
    Settles result ↔ ∀ failure, ¬(result = .error failure ∧ ¬failure.IsReported) := by
  constructor
  · rintro (⟨settings, rfl⟩ | ⟨error, rfl⟩) failure ⟨same, unreported⟩
    · cases same
    · cases same
      exact unreported ⟨error, rfl⟩
  · intro reported
    cases result with
    | ok settings => exact .inl ⟨settings, rfl⟩
    | error failure =>
        obtain ⟨error, rfl⟩ := Classical.not_not.1
          (fun unreported => reported failure ⟨rfl, unreported⟩)
        exact .inr ⟨error, rfl⟩

/-- The failures of contents that are not reported. -/
inductive Breaks (bytes : Bytes) : SettingsFailure → Prop
  | noText {fault : Utf8.Fault} (broken : Utf8.decode bytes = .error fault) :
      Breaks bytes (.notUtf8 fault bytes.length)
  | noValue {text : Text} {fault : Yaml.Fault} (encoded : Utf8.encode text = .ok bytes)
      (failed : Yaml.Root.ofText (withLineFeeds text) = .error fault)
      (wellFormed : fault ≠ .malformed) :
      Breaks bytes (.noValue fault)
  | longKey {text : Text} {root : Yaml.Root} (encoded : Utf8.encode text = .ok bytes)
      (read : Yaml.Root.ofText (withLineFeeds text) = .ok root) (unwritable : ¬Writable root) :
      Breaks bytes (.noValue .unwritableInteger)

/-- The failures of the file at a path that are not reported. -/
inductive Escapes (dir : WorkDir) (path : Path) : SettingsFailure → Prop
  | zeroInPath (zero : WorkDir.hasZero path = true) : Escapes dir path (.badPath .zeroInPath)
  | contents {bytes : Bytes} {failure : SettingsFailure} (holds : dir.Holds path bytes)
      (breaks : Breaks bytes failure) : Escapes dir path failure

variable {dir : WorkDir} {path : Path} {label : Text} {bytes : Bytes} {failure : SettingsFailure}

theorem breaks_iff : Breaks bytes failure ↔ ofBytes label bytes = .error failure ∧
    ¬failure.IsReported := by
  constructor
  · intro breaks
    cases breaks with
    | noText broken =>
        rw [ofBytes, broken]
        exact ⟨rfl, nofun⟩
    | @noValue text fault encoded failed wellFormed =>
        rw [ofBytes, Utf8.decode_eq_ok_iff.2 encoded]
        dsimp only
        rw [failed]
        cases fault with
        | malformed => exact absurd rfl wellFormed
        | _ => exact ⟨rfl, nofun⟩
    | longKey encoded read unwritable =>
        rw [ofBytes, Utf8.decode_eq_ok_iff.2 encoded]
        dsimp only
        rw [read]
        dsimp only
        rw [ofRoot_eq_inr_iff.2 ⟨rfl, unwritable⟩]
        exact ⟨rfl, nofun⟩
  · rintro ⟨failed, unreported⟩
    revert failed
    fun_cases ofBytes label bytes with
    | case1 fault broken =>
        intro failed
        cases failed
        exact .noText broken
    | case2 text read malformed =>
        intro failed
        cases failed
        exact absurd ⟨_, rfl⟩ unreported
    | case3 text read fault other broken =>
        intro failed
        cases failed
        exact .noValue (Utf8.decode_eq_ok_iff.1 read) broken (fun same => other same)
    | case4 => nofun
    | case5 text read root found fault refused =>
        intro failed
        cases failed
        exact absurd ⟨_, rfl⟩ unreported
    | case6 text read root found fault unwritten =>
        intro failed
        cases failed
        obtain ⟨rfl, unwritable⟩ := ofRoot_eq_inr_iff.1 unwritten
        exact .longKey (Utf8.decode_eq_ok_iff.1 read) found unwritable

def Gives (bytes : Bytes) (settings : Settings) : Prop :=
  ∃ text root, Utf8.encode text = .ok bytes ∧ Yaml.Root.ofText (withLineFeeds text) = .ok root ∧
    Chooses root settings

theorem ofBytes_eq_ok_iff {settings : Settings} : ofBytes label bytes = .ok settings ↔
    Gives bytes settings := by
  constructor
  · intro loaded
    revert loaded
    fun_cases ofBytes label bytes with
    | case4 text read root found chosen made =>
        intro loaded
        cases loaded
        exact ⟨text, root, Utf8.decode_eq_ok_iff.1 read, found, ofRoot_eq_ok_iff.1 made⟩
    | _ => nofun
  · rintro ⟨text, root, encoded, found, chosen⟩
    rw [ofBytes, Utf8.decode_eq_ok_iff.2 encoded]
    dsimp only
    rw [found]
    dsimp only
    rw [ofRoot_eq_ok_iff.2 chosen]

theorem load_of_holds (holds : dir.Holds path bytes) (label : Text) :
    load dir path label = ofBytes label bytes := by
  rw [load, WorkDir.read_eq_ok_iff.2 holds]

theorem escapes_iff : Escapes dir path failure ↔ load dir path label = .error failure ∧
    ¬failure.IsReported := by
  constructor
  · intro escapes
    cases escapes with
    | zeroInPath zero =>
        rw [load, WorkDir.read_eq_zero_iff.2 zero]
        exact ⟨rfl, nofun⟩
    | contents holds breaks =>
        rw [load_of_holds holds]
        exact breaks_iff.1 breaks
  · rintro ⟨failed, unreported⟩
    revert failed
    fun_cases load dir path label with
    | case1 bytes read =>
        intro failed
        exact .contents (WorkDir.read_eq_ok_iff.1 read) (breaks_iff.2 ⟨failed, unreported⟩)
    | case2 =>
        intro failed
        cases failed
        exact absurd ⟨_, rfl⟩ unreported
    | case3 =>
        intro failed
        cases failed
        exact absurd ⟨_, rfl⟩ unreported
    | case4 zero =>
        intro failed
        cases failed
        exact .zeroInPath (WorkDir.read_eq_zero_iff.1 zero)

theorem settles_load_iff : Settles (load dir path label) ↔
    ∀ failure, ¬Escapes dir path failure := by
  rw [settles_iff]
  exact forall_congr' (fun _ => not_congr escapes_iff.symm)

end Settings

end ContractTypes
