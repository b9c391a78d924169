import ContractTypes.Proofs.Result
import ContractTypes.Settings.File

/-!
What a settings file chooses.

Each setting has its own kind of value and sets one field of the settings.  A mapping is taken
exactly if its keys are names of settings and every value is of the kind of its setting; otherwise
the unknown keys are reported, or the first setting whose value is of another kind.
-/

namespace ContractTypes

/-- What it means for settings that a value is given for a setting. -/
def SettingsKey.Sets : SettingsKey → Yaml.Value → Settings → Prop
  | .convention, value, settings => ∃ text, value = .text text ∧
      text.small = settings.convention.word
  | .namePrefix, value, settings =>
      (value = .null ∧ settings.namePrefix = none) ∨ ∃ text, value = .text text ∧
      settings.namePrefix = some text
  | .indent, value, settings => value = .integer settings.indentWidth ∧ 0 ≤ settings.indentWidth
  | .useTabs, value, settings => value = .truth settings.useTabs
  | .exported, value, settings => value = .truth settings.exported

/-- Whether a value is of the kind of a setting. -/
def SettingsKey.Takes : SettingsKey → Yaml.Value → Prop
  | .convention, value => ∃ text convention, value = .text text ∧
      text.small = Convention.word convention
  | .namePrefix, value => value = .null ∨ ∃ text, value = .text text
  | .indent, value => ∃ width : Int, value = .integer width ∧ 0 ≤ width
  | .useTabs, value => ∃ truth, value = .truth truth
  | .exported, value => ∃ truth, value = .truth truth

/-- Whether settings are the standard ones in the field of a setting. -/
def SettingsKey.IsUsual : SettingsKey → Settings → Prop
  | .convention, settings => settings.convention = Settings.standard.convention
  | .namePrefix, settings => settings.namePrefix = Settings.standard.namePrefix
  | .indent, settings => settings.indentWidth = Settings.standard.indentWidth
  | .useTabs, settings => settings.useTabs = Settings.standard.useTabs
  | .exported, settings => settings.exported = Settings.standard.exported

namespace Settings

variable {entries : List (Yaml.Value × Yaml.Value)} {key : SettingsKey}

def IsName (key : Yaml.Value) : Prop := ∃ known : SettingsKey, key = .text known.word

theorem mem_all (key : SettingsKey) : key ∈ SettingsKey.all := by
  cases key <;> decide

theorem isKnown_iff {key : Yaml.Value} : isKnown key = true ↔ IsName key := by
  rw [isKnown, List.any_eq_true]
  constructor
  · rintro ⟨known, _, same⟩
    exact ⟨known, of_decide_eq_true same⟩
  · rintro ⟨known, same⟩
    exact ⟨known, mem_all known, decide_eq_true same⟩

instance : DecidablePred IsName := fun _ => decidable_of_iff _ isKnown_iff

def Fits (entries : List (Yaml.Value × Yaml.Value)) (key : SettingsKey) : Prop :=
  ∀ value, entries.lookup (.text key.word) = some value → key.Takes value

/-- Whether settings are what a mapping makes of the field of a setting. -/
def Follows (entries : List (Yaml.Value × Yaml.Value)) (settings : Settings)
    (key : SettingsKey) : Prop :=
  (entries.lookup (.text key.word) = none ∧ key.IsUsual settings) ∨
    ∃ value, entries.lookup (.text key.word) = some value ∧ key.Sets value settings

/-- The settings that the value of a file chooses. -/
inductive Chooses : Yaml.Root → Settings → Prop
  | nothing : Chooses (.single .null) standard
  | mapping {entries : List (Yaml.Value × Yaml.Value)} {settings : Settings}
      (known : ∀ entry ∈ entries, IsName entry.1) (each : ∀ key, Follows entries settings key) :
      Chooses (.mapping entries) settings

/-- What is reported of the value of a file. -/
inductive Refused : Yaml.Root → SettingsFault → Prop
  | notMapping {value : Yaml.Value} (filled : value ≠ .null) : Refused (.single value) .notMapping
  | unknownKeys {entries : List (Yaml.Value × Yaml.Value)} {names : List Text}
      (unknown : ∃ entry ∈ entries, ¬IsName entry.1)
      (written : List.Forall₂ (fun key name => key.written = .ok name)
        ((entries.map (·.1)).filter (fun key => ¬IsName key)) names) :
      Refused (.mapping entries) (.unknownKeys (Text.sorted names))
  | wrongValue {entries : List (Yaml.Value × Yaml.Value)} {before after : List SettingsKey}
      {key : SettingsKey}
      (known : ∀ entry ∈ entries, IsName entry.1) (order : SettingsKey.all = before ++ key :: after)
      (wrong : ¬Fits entries key) (first : ∀ earlier ∈ before, Fits entries earlier) :
      Refused (.mapping entries) (.wrongValue key)

theorem unknownKeys_eq_filter (entries : List (Yaml.Value × Yaml.Value)) :
    unknownKeys entries = (entries.map (·.1)).filter (fun key => ¬IsName key) := by
  refine List.filter_congr (fun key _ => ?_)
  rw [Bool.eq_iff_iff, Bool.not_eq_true', decide_eq_true_iff, ← isKnown_iff, Bool.not_eq_true]

theorem mem_unknownKeys_iff {key : Yaml.Value} :
    key ∈ unknownKeys entries ↔ key ∈ entries.map (·.1) ∧ ¬IsName key := by
  rw [unknownKeys_eq_filter, List.mem_filter, decide_eq_true_iff]

theorem unknownKeys_eq_nil_iff : unknownKeys entries = [] ↔ ∀ entry ∈ entries, IsName entry.1 := by
  rw [List.eq_nil_iff_forall_not_mem]
  constructor
  · intro none entry listed
    by_contra unknown
    exact none entry.1 (mem_unknownKeys_iff.2 ⟨List.mem_map_of_mem listed, unknown⟩)
  · intro known key listed
    obtain ⟨among, unknown⟩ := mem_unknownKeys_iff.1 listed
    obtain ⟨entry, member, rfl⟩ := List.mem_map.1 among
    exact unknown (known entry member)

theorem ofWord?_eq_some_iff {word : Text} {convention : Convention} :
    Convention.ofWord? word = some convention ↔ word = convention.word := by
  constructor
  · intro found
    have same := List.find?_some found
    exact (eq_of_beq same).symm
  · rintro rfl
    cases convention <;> rfl

theorem conventionOf?_eq_some_iff {value : Yaml.Value} {convention : Convention} :
    conventionOf? value = some convention ↔ ∃ text, value = .text text ∧
      text.small = convention.word := by
  cases value with
  | text text =>
      rw [conventionOf?, ofWord?_eq_some_iff]
      constructor
      · exact fun same => ⟨text, rfl, same⟩
      · rintro ⟨other, same, small⟩
        cases same
        exact small
  | _ => exact ⟨nofun, nofun⟩

theorem namePrefixOf?_eq_some_iff {value : Yaml.Value} {namePrefix : Option Text} :
    namePrefixOf? value = some namePrefix ↔
      (value = .null ∧ namePrefix = none) ∨ ∃ text, value = .text text ∧
      namePrefix = some text := by
  cases value with
  | null =>
      constructor
      · exact fun same => .inl ⟨rfl, (Option.some.inj same).symm⟩
      · rintro (⟨_, rfl⟩ | ⟨text, same, _⟩)
        · rfl
        · cases same
  | text text =>
      constructor
      · exact fun same => .inr ⟨text, rfl, (Option.some.inj same).symm⟩
      · rintro (⟨same, _⟩ | ⟨other, same, rfl⟩)
        · cases same
        · cases same
          rfl
  | _ => exact ⟨nofun, nofun⟩

theorem widthOf?_eq_some_iff {value : Yaml.Value} {width : Int} :
    widthOf? value = some width ↔ value = .integer width ∧ 0 ≤ width := by
  cases value with
  | integer given =>
      rw [widthOf?, Option.ite_none_right_eq_some]
      constructor
      · rintro ⟨bound, same⟩
        cases same
        exact ⟨rfl, bound⟩
      · rintro ⟨same, bound⟩
        cases same
        exact ⟨bound, rfl⟩
  | _ => exact ⟨nofun, nofun⟩

theorem truthOf?_eq_some_iff {value : Yaml.Value} {truth : Bool} :
    truthOf? value = some truth ↔ value = .truth truth := by
  cases value with
  | truth given =>
      rw [truthOf?, Option.some.injEq, Yaml.Value.truth.injEq]
  | _ => exact ⟨nofun, nofun⟩

theorem entry?_eq_lookup (key : SettingsKey) (entries : List (Yaml.Value × Yaml.Value)) :
    entry? key entries = entries.lookup (.text key.word) := by
  unfold entry?
  induction entries with
  | nil => rfl
  | cons entry rest ih =>
      rw [List.find?_cons, List.lookup_cons, ← ih]
      by_cases same : entry.1 = .text key.word
      · rw [decide_eq_true same, same, beq_self_eq_true]
        rfl
      · rw [decide_eq_false same, beq_eq_false_iff_ne.2 (Ne.symm same)]

/-! ### One setting -/

variable {Kind : Type} {read : Yaml.Value → Option Kind} {usual result : Kind} {settings : Settings}

theorem setting_eq_ok_iff : setting key read usual entries = .ok result ↔
    (entries.lookup (.text key.word) = none ∧ result = usual) ∨
      ∃ value, entries.lookup (.text key.word) = some value ∧ read value = some result := by
  rw [setting, entry?_eq_lookup]
  cases entries.lookup (.text key.word) with
  | none =>
      constructor
      · exact fun same => .inl ⟨rfl, (Except.ok.inj same).symm⟩
      · rintro (⟨_, rfl⟩ | ⟨value, found, _⟩)
        · rfl
        · cases found
  | some value =>
      dsimp only
      constructor
      · intro same
        refine .inr ⟨value, rfl, ?_⟩
        cases found : read value with
        | none =>
            rw [found] at same
            cases same
        | some chosen =>
            rw [found] at same
            rw [Except.ok.inj same]
      · rintro (⟨none, _⟩ | ⟨other, same, found⟩)
        · cases none
        · cases same
          rw [found]

theorem follows_iff (whenAbsent : key.IsUsual settings ↔ result = usual)
    (sets : ∀ value, key.Sets value settings ↔ read value = some result) :
    Follows entries settings key ↔ setting key read usual entries = .ok result := by
  rw [setting_eq_ok_iff, Follows, whenAbsent]
  exact or_congr Iff.rfl (exists_congr (fun value => and_congr Iff.rfl (sets value)))

def takes : SettingsKey → Yaml.Value → Bool
  | .convention, value => (conventionOf? value).isSome
  | .namePrefix, value => (namePrefixOf? value).isSome
  | .indent, value => (widthOf? value).isSome
  | .useTabs, value => (truthOf? value).isSome
  | .exported, value => (truthOf? value).isSome

theorem takes_iff {value : Yaml.Value} : takes key value = true ↔ key.Takes value := by
  cases key with
  | convention =>
      simp only [takes, Option.isSome_iff_exists, conventionOf?_eq_some_iff]
      exact exists_comm
  | namePrefix =>
      simp only [takes, Option.isSome_iff_exists, namePrefixOf?_eq_some_iff, exists_or]
      refine or_congr ⟨fun found => found.elim fun _ both => both.1, fun null => ⟨none, null, rfl⟩⟩
        ?_
      rw [exists_comm]
      exact exists_congr (fun text =>
        ⟨fun found => found.elim fun _ both => both.1, fun same => ⟨some text, same, rfl⟩⟩)
  | indent =>
      simp only [takes, Option.isSome_iff_exists, widthOf?_eq_some_iff]
      rfl
  | useTabs =>
      simp only [takes, Option.isSome_iff_exists, truthOf?_eq_some_iff]
      rfl
  | exported =>
      simp only [takes, Option.isSome_iff_exists, truthOf?_eq_some_iff]
      rfl

def wrongValue? (entries : List (Yaml.Value × Yaml.Value)) (key : SettingsKey) :
    Option SettingsFault :=
  (entries.lookup (.text key.word)).bind
    (fun value => if takes key value then none else some (.wrongValue key))

theorem wrongValue?_eq_none_iff : wrongValue? entries key = none ↔ Fits entries key := by
  rw [wrongValue?, Option.bind_eq_none_iff]
  exact forall₂_congr (fun value _ => by rw [ite_eq_left_iff, ← takes_iff]; simp)

theorem wrongValue?_eq_some_iff {fault : SettingsFault} :
    wrongValue? entries key = some fault ↔ ¬Fits entries key ∧ fault = .wrongValue key := by
  rw [← wrongValue?_eq_none_iff, wrongValue?]
  cases entries.lookup (.text key.word) with
  | none => exact ⟨nofun, fun both => absurd rfl both.1⟩
  | some value =>
      rw [Option.bind_some]
      split
      · exact ⟨nofun, fun both => absurd rfl both.1⟩
      · exact ⟨fun same => ⟨nofun, (Option.some.inj same).symm⟩, fun both => by rw [both.2]⟩

theorem faultOf_setting (same : ∀ value, (read value).isSome = takes key value) :
    faultOf (setting key read usual entries) = wrongValue? entries key := by
  unfold setting wrongValue?
  rw [entry?_eq_lookup]
  cases entries.lookup (.text key.word) with
  | none => rfl
  | some value =>
      rw [Option.bind_some, ← same]
      dsimp only
      cases read value <;> rfl

theorem faultOf_setting_bind (same : ∀ value, (read value).isSome = takes key value)
    {next : Kind → Except SettingsFault Settings} {later : List SettingsKey}
    (after : ∀ kind, faultOf (next kind) = later.findSome? (wrongValue? entries)) :
    faultOf (setting key read usual entries >>= next) =
      (key :: later).findSome? (wrongValue? entries) := by
  rw [faultOf_bind after, faultOf_setting same, List.findSome?_cons]
  cases wrongValue? entries key <;> rfl

theorem faultOf_ofKnownEntries (entries : List (Yaml.Value × Yaml.Value)) :
    faultOf (ofKnownEntries entries) = SettingsKey.all.findSome? (wrongValue? entries) := by
  unfold ofKnownEntries
  refine faultOf_setting_bind (fun _ => rfl) (fun _ => ?_)
  refine faultOf_setting_bind (fun _ => rfl) (fun _ => ?_)
  refine faultOf_setting_bind (fun _ => rfl) (fun _ => ?_)
  refine faultOf_setting_bind (fun _ => rfl) (fun _ => ?_)
  exact faultOf_setting_bind (fun _ => rfl) (fun _ => rfl)

theorem ofKnownEntries_eq_error_iff {fault : SettingsFault} :
    ofKnownEntries entries = .error fault ↔
    ∃ before key after, SettingsKey.all = before ++ key :: after ∧ ¬Fits entries key ∧
      fault = .wrongValue key ∧
      ∀ earlier ∈ before, Fits entries earlier := by
  simp only [← faultOf_eq_some_iff, faultOf_ofKnownEntries, List.findSome?_eq_some_iff,
    wrongValue?_eq_some_iff, wrongValue?_eq_none_iff, and_assoc]

theorem ofKnownEntries_eq_ok_iff : ofKnownEntries entries = .ok settings ↔
    ∀ key, Follows entries settings key := by
  have convention : Follows entries settings .convention ↔ _ :=
    follows_iff Iff.rfl (fun value => conventionOf?_eq_some_iff.symm)
  have namePrefix : Follows entries settings .namePrefix ↔ _ :=
    follows_iff Iff.rfl (fun value => namePrefixOf?_eq_some_iff.symm)
  have indent : Follows entries settings .indent ↔ _ :=
    follows_iff Iff.rfl (fun value => widthOf?_eq_some_iff.symm)
  have useTabs : Follows entries settings .useTabs ↔ _ :=
    follows_iff Iff.rfl (fun value => truthOf?_eq_some_iff.symm)
  have exported : Follows entries settings .exported ↔ _ :=
    follows_iff Iff.rfl (fun value => truthOf?_eq_some_iff.symm)
  constructor
  · intro made
    unfold ofKnownEntries at made
    obtain ⟨_, first, made⟩ := exists_of_bind_eq_ok made
    obtain ⟨_, second, made⟩ := exists_of_bind_eq_ok made
    obtain ⟨_, third, made⟩ := exists_of_bind_eq_ok made
    obtain ⟨_, fourth, made⟩ := exists_of_bind_eq_ok made
    obtain ⟨_, fifth, made⟩ := exists_of_bind_eq_ok made
    cases made
    intro key
    cases key with
    | convention => exact convention.2 first
    | namePrefix => exact namePrefix.2 second
    | indent => exact indent.2 third
    | useTabs => exact useTabs.2 fourth
    | exported => exact exported.2 fifth
  · intro each
    unfold ofKnownEntries
    rw [convention.1 (each .convention), namePrefix.1 (each .namePrefix), indent.1 (each .indent),
      useTabs.1 (each .useTabs), exported.1 (each .exported)]
    rfl

theorem exists_ofKnownEntries_iff : (∃ settings, ofKnownEntries entries = .ok settings) ↔
    ∀ key, Fits entries key := by
  rw [← faultOf_eq_none_iff, faultOf_ofKnownEntries, List.findSome?_eq_none_iff]
  simp only [wrongValue?_eq_none_iff]
  exact ⟨fun fits key => fits key (mem_all key), fun fits key _ => fits key⟩

def Writable : Yaml.Root → Prop
  | .single _ => True
  | .mapping entries => ∀ entry ∈ entries, ∀ number : Int, entry.1 = .integer number →
      (Text.ofNat number.natAbs).length ≤ Text.digitLimit

theorem written_eq_error_iff {value : Yaml.Value} {fault : Yaml.Fault} :
    value.written = .error fault ↔
    fault = .unwritableInteger ∧ ∃ number : Int, value = .integer number ∧
      Text.digitLimit < (Text.ofNat number.natAbs).length := by
  cases value with
  | integer number =>
      rw [Yaml.Value.written]
      by_cases long : Text.digitLimit < (Text.ofNat number.natAbs).length
      · rw [if_pos long]
        exact ⟨fun same => ⟨(Except.error.inj same).symm, number, rfl, long⟩,
          fun both => by rw [both.1]⟩
      · rw [if_neg long]
        refine ⟨nofun, ?_⟩
        rintro ⟨_, other, same, tooLong⟩
        cases same
        exact absurd tooLong long
  | _ =>
      refine ⟨nofun, ?_⟩
      rintro ⟨_, other, same, _⟩
      cases same

theorem exists_names (writable : Writable (.mapping entries)) :
    ∃ names, (unknownKeys entries).mapM Yaml.Value.written = .ok names := by
  rw [← faultOf_eq_none_iff, faultOf_mapM, List.findSome?_eq_none_iff]
  intro key listed
  rw [faultOf_eq_none_iff]
  obtain ⟨entry, member, rfl⟩ := List.mem_map.1 (mem_unknownKeys_iff.1 listed).1
  cases written : entry.1.written with
  | ok name => exact ⟨name, rfl⟩
  | error fault =>
      obtain ⟨_, number, same, long⟩ := written_eq_error_iff.1 written
      exact absurd long (Nat.not_lt_of_le (writable entry member number same))

/-! ### The value of a file -/

theorem ofRoot_of_known (known : ∀ entry ∈ entries, IsName entry.1) :
    ofRoot (.mapping entries) = (ofKnownEntries entries).mapError .inl := by
  rw [ofRoot, unknownKeys_eq_nil_iff.2 known]
  rfl

theorem ofRoot_of_unknown (unknown : ∃ entry ∈ entries, ¬IsName entry.1) {names : List Text}
    (written : (unknownKeys entries).mapM Yaml.Value.written = .ok names) :
    ofRoot (.mapping entries) = .error (.inl (.unknownKeys (Text.sorted names))) := by
  rw [ofRoot, written]
  cases names with
  | cons first rest => rfl
  | nil =>
      have none : unknownKeys entries = [] := List.forall₂_nil_right_iff.1 (forall₂_of_mapM written)
      obtain ⟨entry, member, noName⟩ := unknown
      exact absurd (unknownKeys_eq_nil_iff.1 none entry member) noName

theorem known_or_unknown (entries : List (Yaml.Value × Yaml.Value)) :
    (∀ entry ∈ entries, IsName entry.1) ∨ ∃ entry ∈ entries, ¬IsName entry.1 := by
  by_cases known : ∀ entry ∈ entries, IsName entry.1
  · exact .inl known
  · refine .inr (by_contra fun none => known ?_)
    exact fun entry member => by_contra fun noName => none ⟨entry, member, noName⟩

theorem ofRoot_ne_ok_of_unknown (unknown : ∃ entry ∈ entries, ¬IsName entry.1) :
    ofRoot (.mapping entries) ≠ .ok settings := by
  cases written : (unknownKeys entries).mapM Yaml.Value.written with
  | ok names =>
      rw [ofRoot_of_unknown unknown written]
      nofun
  | error fault =>
      rw [ofRoot, written]
      nofun

theorem ofRoot_eq_ok_iff {root : Yaml.Root} : ofRoot root = .ok settings ↔
    Chooses root settings := by
  constructor
  · intro made
    cases root with
    | single value =>
        cases value with
        | null =>
            cases made
            exact .nothing
        | _ => cases made
    | mapping entries =>
        rcases known_or_unknown entries with known | unknown
        · rw [ofRoot_of_known known] at made
          exact .mapping known (ofKnownEntries_eq_ok_iff.1 (eq_ok_of_mapError_eq_ok made))
        · exact absurd made (ofRoot_ne_ok_of_unknown unknown)
  · rintro (_ | ⟨known, each⟩)
    · rfl
    · rw [ofRoot_of_known known, ofKnownEntries_eq_ok_iff.2 each]
      rfl

theorem ofRoot_single_eq_error_iff {value : Yaml.Value} {fault : SettingsFault ⊕ Yaml.Fault} :
    ofRoot (.single value) = .error fault ↔ value ≠ .null ∧ fault = .inl .notMapping := by
  cases value with
  | null => exact ⟨nofun, fun both => absurd rfl both.1⟩
  | _ =>
      exact ⟨fun failed => ⟨nofun, (Except.error.inj failed).symm⟩, fun both => by rw [both.2]; rfl⟩

theorem ofRoot_eq_error_iff_of_known (known : ∀ entry ∈ entries, IsName entry.1)
    {fault : SettingsFault ⊕ Yaml.Fault} : ofRoot (.mapping entries) = .error fault ↔
      ∃ reported, fault = .inl reported ∧ Refused (.mapping entries) reported := by
  rw [ofRoot_of_known known]
  constructor
  · intro failed
    cases made : ofKnownEntries entries with
    | ok settings =>
        rw [made] at failed
        cases failed
    | error reported =>
        rw [made] at failed
        cases failed
        obtain ⟨before, key, after, order, wrong, rfl, first⟩ := ofKnownEntries_eq_error_iff.1 made
        exact ⟨_, rfl, .wrongValue known order wrong first⟩
  · rintro ⟨_, rfl, refused⟩
    cases refused with
    | unknownKeys unknown written =>
        obtain ⟨entry, member, noName⟩ := unknown
        exact absurd (known entry member) noName
    | wrongValue _ order wrong first =>
        rw [ofKnownEntries_eq_error_iff.2 ⟨_, _, _, order, wrong, rfl, first⟩]
        rfl

theorem ofRoot_eq_error_iff_of_unknown (writable : Writable (.mapping entries))
    (unknown : ∃ entry ∈ entries, ¬IsName entry.1) {fault : SettingsFault ⊕ Yaml.Fault} :
    ofRoot (.mapping entries) = .error fault ↔
      ∃ reported, fault = .inl reported ∧ Refused (.mapping entries) reported := by
  obtain ⟨names, written⟩ := exists_names writable
  rw [ofRoot_of_unknown unknown written]
  constructor
  · intro failed
    cases failed
    rw [unknownKeys_eq_filter] at written
    exact ⟨_, rfl, .unknownKeys unknown (forall₂_of_mapM written)⟩
  · rintro ⟨_, rfl, refused⟩
    cases refused with
    | unknownKeys _ others =>
        -- The names are determined by the keys, and the report by the names.
        rw [unknownKeys_eq_filter, mapM_of_forall₂ others] at written
        cases written
        rfl
    | wrongValue known _ _ _ =>
        obtain ⟨entry, member, noName⟩ := unknown
        exact absurd (known entry member) noName

theorem ofRoot_eq_error_iff {root : Yaml.Root} (writable : Writable root)
    {fault : SettingsFault ⊕ Yaml.Fault} :
    ofRoot root = .error fault ↔ ∃ reported, fault = .inl reported ∧ Refused root reported := by
  cases root with
  | single value =>
      rw [ofRoot_single_eq_error_iff]
      constructor
      · rintro ⟨filled, rfl⟩
        exact ⟨.notMapping, rfl, .notMapping filled⟩
      · rintro ⟨_, rfl, ⟨filled⟩⟩
        exact ⟨filled, rfl⟩
  | mapping entries =>
      rcases known_or_unknown entries with known | unknown
      · exact ofRoot_eq_error_iff_of_known known
      · exact ofRoot_eq_error_iff_of_unknown writable unknown

theorem mapM_written_eq_error_iff {fault : Yaml.Fault} :
    (unknownKeys entries).mapM Yaml.Value.written = .error fault ↔
      fault = .unwritableInteger ∧ ¬Writable (.mapping entries) := by
  have failsIf {other : Yaml.Fault} (failed :
    (unknownKeys entries).mapM Yaml.Value.written = .error other) :
      other = .unwritableInteger ∧ ¬Writable (.mapping entries) := by
    rw [← faultOf_eq_some_iff, faultOf_mapM] at failed
    obtain ⟨key, listed, failed⟩ := List.exists_of_findSome?_eq_some failed
    obtain ⟨entry, member, rfl⟩ := List.mem_map.1 (mem_unknownKeys_iff.1 listed).1
    obtain ⟨same, number, isInteger, long⟩ := written_eq_error_iff.1 (faultOf_eq_some_iff.1 failed)
    exact ⟨same, fun writable => Nat.not_lt_of_le (writable entry member number isInteger) long⟩
  refine ⟨failsIf, ?_⟩
  rintro ⟨rfl, unwritable⟩
  cases written : (unknownKeys entries).mapM Yaml.Value.written with
  | error other => rw [(failsIf written).1]
  | ok names =>
      refine absurd (fun entry member number isInteger => Nat.le_of_not_lt fun long => ?_)
        unwritable
      have noName : ¬IsName entry.1 := by
        rintro ⟨known, same⟩
        rw [isInteger] at same
        cases same
      have listed := mem_unknownKeys_iff.2 ⟨List.mem_map_of_mem member, noName⟩
      obtain ⟨name, _, isWritten⟩ := exists_mem_of_mapM written listed
      rw [written_eq_error_iff.2 ⟨rfl, number, isInteger, long⟩] at isWritten
      cases isWritten

theorem ofRoot_eq_inr_iff {root : Yaml.Root} {fault : Yaml.Fault} :
    ofRoot root = .error (.inr fault) ↔ fault = .unwritableInteger ∧ ¬Writable root := by
  cases root with
  | single value =>
      rw [ofRoot_single_eq_error_iff]
      exact ⟨nofun, fun both => absurd trivial both.2⟩
  | mapping entries =>
      rw [← mapM_written_eq_error_iff, ofRoot]
      cases (unknownKeys entries).mapM Yaml.Value.written with
      | error other => rw [Except.error.injEq, Except.error.injEq, Sum.inr.injEq]
      | ok names =>
          cases names with
          | nil => cases ofKnownEntries entries <;> exact ⟨nofun, nofun⟩
          | cons first rest => exact ⟨nofun, nofun⟩

inductive Accepts : Yaml.Root → Prop
  | nothing : Accepts (.single .null)
  | mapping {entries : List (Yaml.Value × Yaml.Value)} (known : ∀ entry ∈ entries, IsName entry.1)
      (fits : ∀ key, Fits entries key) : Accepts (.mapping entries)

theorem exists_chooses_iff {root : Yaml.Root} : (∃ settings, Chooses root settings) ↔
    Accepts root := by
  constructor
  · rintro ⟨settings, _ | ⟨known, each⟩⟩
    · exact .nothing
    · exact .mapping known (exists_ofKnownEntries_iff.1 ⟨settings, ofKnownEntries_eq_ok_iff.2 each⟩)
  · rintro (_ | ⟨known, fits⟩)
    · exact ⟨standard, .nothing⟩
    · obtain ⟨settings, made⟩ := exists_ofKnownEntries_iff.2 fits
      exact ⟨settings, .mapping known (ofKnownEntries_eq_ok_iff.1 made)⟩

theorem indentWidth_of_chooses {root : Yaml.Root} (chosen : Chooses root settings) :
    0 ≤ settings.indentWidth := by
  cases chosen with
  | nothing => decide
  | mapping known each =>
      rcases each .indent with ⟨_, usual⟩ | ⟨value, _, _, bound⟩
      · rw [show settings.indentWidth = standard.indentWidth from usual]
        decide
      · exact bound

theorem layout_ne_negativeIndent (bound : 0 ≤ settings.indentWidth) (width : Int) :
    settings.layout ≠ .error (.negativeIndent width) := by
  fun_cases layout settings with
  | case1 below same =>
      rw [same] at bound
      exact absurd bound (Int.not_le.2 (Int.negSucc_lt_zero below))
  | case2 => nofun
  | case3 => nofun
  | case4 => nofun

/-- Every value of a file with writable keys is taken, and then each of its entries sets a field of
its own and the other fields are the standard ones, or it is refused with a report. -/
theorem ofRoot_outcome (root : Yaml.Root) (writable : Writable root) :
    (∀ settings, ofRoot root = .ok settings ↔ Chooses root settings) ∧
    ((∃ settings, ofRoot root = .ok settings) ↔ Accepts root) ∧
    (∀ settings, ofRoot root = .ok settings →
      ∀ width, settings.layout ≠ .error (.negativeIndent width)) ∧
    (∀ fault, ofRoot root = .error fault ↔ ∃ reported, fault = .inl reported ∧
      Refused root reported) := by
  refine ⟨fun settings => ofRoot_eq_ok_iff, ?_, ?_, fun fault => ofRoot_eq_error_iff writable⟩
  · simp only [ofRoot_eq_ok_iff]
    exact exists_chooses_iff
  · intro settings made
    exact layout_ne_negativeIndent (indentWidth_of_chooses (ofRoot_eq_ok_iff.1 made))

/-- A mapping with a setting of each outcome: a word in letters of mixed case, and two values of
another kind. -/
def workshopRoot : Yaml.Root := .mapping
    [(.text "export", .text "no"), (.text "naming-convention", .text "sNaKe"),
  (.text "indent", .truth true)]

theorem workshopRoot_ofRoot :
    Writable workshopRoot ∧ ¬Accepts workshopRoot ∧ Refused workshopRoot (.wrongValue .indent) := by
  have writable : Writable workshopRoot := by
    intro entry member number same
    simp only [List.mem_cons, List.not_mem_nil, or_false] at member
    rcases member with rfl | rfl | rfl <;> cases same
  have failed : ofRoot workshopRoot = .error (.inl (.wrongValue .indent)) := by decide +kernel
  obtain ⟨_, accepted, _, refused⟩ := ofRoot_outcome workshopRoot writable
  refine ⟨writable, ?_, ?_⟩
  · rw [← accepted, failed]
    nofun
  · obtain ⟨reported, same, refusal⟩ := (refused _).1 failed
    cases same
    exact refusal

end Settings

end ContractTypes
