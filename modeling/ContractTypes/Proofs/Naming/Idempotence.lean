import ContractTypes.Proofs.Naming.JoinedName

/-!
Names that are cased twice.

The snake form leaves no capital letter of ASCII, so a second one changes nothing.  The pascal form
of a name of ASCII has an underscore for each empty part of the name.  If it is its own pascal form,
it has as many underscores as empty parts, and so one filled part: the filled parts of the name
stand side by side.  The camel form differs from the pascal form at its head only, and there it can
be undone.
-/

namespace ContractTypes

namespace Text

/-- A name with a filled part between its underscores, and with no empty part between two filled
ones. -/
structure IsUnbroken (name : Text) : Prop where
  filled : ∃ part ∈ name.splitAt '_', part ≠ []
  sideBySide : ¬∃ before after, name.splitAt '_' = before ++ [] :: after ∧
    (∃ part ∈ before, part ≠ []) ∧ ∃ part ∈ after, part ≠ []

section Parts

variable {separator : CodePoint}

theorem length_splitAt (separator : CodePoint) (text : Text) :
    (text.splitAt separator).length = text.count separator + 1 := by
  induction text with
  | nil => rfl
  | cons point rest ih =>
      by_cases here : point = separator
      · rw [splitAt, if_pos here, List.length_cons, ih, here, List.count_cons_self]
      · obtain ⟨first, others, parts, _⟩ := eq_of_splitAt separator rest
        rw [splitAt_cons here parts, List.count_cons_of_ne here, ← ih, parts]
        rfl

theorem splitAt_append_cons (separator : CodePoint) (first second : Text) :
    Text.splitAt separator (first ++ separator :: second) = first.splitAt separator ++
      second.splitAt separator := by
  induction first with
  | nil =>
      change Text.splitAt separator (separator :: second) = [] :: second.splitAt separator
      rw [splitAt, if_pos rfl]
  | cons point rest ih =>
      by_cases here : point = separator
      · rw [List.cons_append, splitAt, if_pos here, ih, splitAt, if_pos here]
        rfl
      · obtain ⟨part, others, parts, _⟩ := eq_of_splitAt separator rest
        rw [parts] at ih
        rw [List.cons_append, splitAt_cons here ih, splitAt_cons here parts]
        rfl

theorem splitAt_replicate_append (separator : CodePoint) (count : Nat) (text : Text) :
    Text.splitAt separator (List.replicate count separator ++ text) =
      List.replicate count [] ++ text.splitAt separator := by
  induction count with
  | zero => rfl
  | succ count ih => rw [List.replicate_succ, List.cons_append, splitAt, if_pos rfl, ih]; rfl

theorem splitAt_append_replicate {text : Text} (absent : separator ∉ text) (count : Nat) :
    Text.splitAt separator (text ++ List.replicate count separator) = text ::
    List.replicate count [] := by
  cases count with
  | zero => rw [List.replicate_zero, List.append_nil]; exact splitAt_of_not_mem absent
  | succ count =>
      have bars := splitAt_replicate_append separator count []
      rw [List.append_nil] at bars
      rw [List.replicate_succ, splitAt_append_cons, splitAt_of_not_mem absent, bars,
        List.replicate_succ']
      rfl

def filledParts (name : Text) : Nat := (name.splitAt '_').countP (fun part => !part.isEmpty)

theorem length_splitAt_bar (name : Text) :
    (name.splitAt '_').length = (name.splitAt '_').countP List.isEmpty + name.filledParts := by
  rw [List.length_eq_countP_add_countP List.isEmpty, filledParts]
  simp only [Bool.not_eq_true, Bool.decide_eq_false]

theorem filledParts_append_bar (first second : Text) :
    filledParts (first ++ CodePoint.ofChar '_' :: second) =
      first.filledParts + second.filledParts := by
  unfold filledParts
  rw [splitAt_append_cons, List.countP_append]

theorem filledParts_pos {name : Text} (other : ∃ point ∈ name, point ≠ CodePoint.ofChar '_') :
    0 < name.filledParts := by
  obtain ⟨point, inside, differs⟩ := other
  by_contra none
  have empty : ∀ part ∈ name.splitAt '_', part = [] := by
    intro part listed
    by_contra filled
    exact none (List.countP_pos_iff.2 ⟨part, listed, by simp [filled]⟩)
  obtain ⟨first, others, parts, whole⟩ := eq_of_splitAt '_' name
  rw [parts] at empty
  rw [whole, empty first List.mem_cons_self, List.nil_append] at inside
  obtain ⟨part, listed, within⟩ := List.mem_flatMap.1 inside
  rw [empty part (List.mem_cons_of_mem _ listed)] at within
  exact differs (List.mem_singleton.1 within)

theorem eq_replicate_of_none_filled {parts : List Text} (none : ¬∃ part ∈ parts, part ≠ []) :
    parts = List.replicate parts.length [] := by
  apply List.eq_replicate_length.2
  intro part listed
  by_contra kept
  exact none ⟨part, listed, kept⟩

/-- Parts of which no empty one stands between two filled ones are filled parts side by side, with
empty ones around them. -/
theorem exists_body {parts : List Text} (filled : ∃ part ∈ parts, part ≠ [])
    (sideBySide : ¬∃ before after, parts = before ++ [] :: after ∧
      (∃ part ∈ before, part ≠ []) ∧ ∃ part ∈ after, part ≠ []) :
    ∃ before body after, parts = List.replicate before [] ++ (body ++ List.replicate after []) ∧
      body ≠ [] ∧
      ∀ part ∈ body, part ≠ [] := by
  induction parts with
  | nil =>
      obtain ⟨part, listed, _⟩ := filled
      cases listed
  | cons head rest ih =>
      have later : ¬∃ before after, rest = before ++ [] :: after ∧
          (∃ part ∈ before, part ≠ []) ∧ ∃ part ∈ after, part ≠ [] := by
        rintro ⟨before, after, rfl, ⟨part, listed, left⟩, right⟩
        exact sideBySide ⟨head :: before, after, rfl, ⟨part, List.mem_cons_of_mem _ listed, left⟩,
          right⟩
      by_cases more : ∃ part ∈ rest, part ≠ []
      · obtain ⟨before, body, after, rfl, some, all⟩ := ih more later
        by_cases empty : head = []
        · exact ⟨before + 1, body, after, by rw [empty]; rfl, some, all⟩
        · cases before with
          | zero =>
              refine ⟨0, head :: body, after, rfl, List.cons_ne_nil _ _, ?_⟩
              exact List.forall_mem_cons.2 ⟨empty, all⟩
          | succ before =>
              obtain ⟨part, listed⟩ := List.exists_mem_of_ne_nil _ some
              refine absurd ⟨[head], List.replicate before [] ++ (body ++ List.replicate after []),
                rfl, ⟨head, List.mem_cons_self, empty⟩, part, ?_, all part listed⟩ sideBySide
              exact List.mem_append_right _ (List.mem_append_left _ listed)
      · have empties := eq_replicate_of_none_filled more
        obtain ⟨part, listed, kept⟩ := filled
        rcases List.mem_cons.1 listed with rfl | behind
        · refine ⟨0, [part], rest.length, ?_, List.cons_ne_nil _ _, ?_⟩
          · rw [← empties]
            rfl
          · rintro _ only
            rw [List.mem_singleton.1 only]
            exact kept
        · exact absurd ⟨part, behind, kept⟩ more

end Parts

end Text

namespace CodePoint

variable {point : CodePoint}

theorem val_lt_of_isAscii (ascii : point.isAscii = true) : point.val < 0x80 :=
  of_decide_eq_true ascii

theorem capital_of_not_isSmall (ascii : point.isAscii = true) (plain : ¬point.isSmall = true) :
    point.capital = [point] := by
  unfold capital
  rw [if_pos (val_lt_of_isAscii ascii), if_neg plain]

theorem not_isSmall_of_isCapital (capital : point.isCapital = true) : ¬point.isSmall = true := by
  intro small
  rw [isCapital_of_isSmall small] at capital
  cases capital

theorem isAscii_of_isCapital (capital : point.isCapital = true) : point.isAscii = true := by
  have high := (isBetween_iff.1 capital).2
  exact decide_eq_true (by omega)

theorem isAscii_of_isSmall (small : point.isSmall = true) : point.isAscii = true := by
  have high := (isBetween_iff.1 small).2
  exact decide_eq_true (by omega)

theorem exists_capital_of_isAscii (ascii : point.isAscii = true) : ∃ letter :
    CodePoint, point.capital = [letter] ∧
    letter.isAscii = true ∧ letter.capital = [letter] ∧ (letter = '_' ↔ point = '_') := by
  by_cases small : point.isSmall = true
  · have capital := isCapital_moved_of_isSmall small
    have plain := isAscii_of_isCapital capital
    refine ⟨_, capital_of_isSmall small, plain, ?_, ?_⟩
    · exact capital_of_not_isSmall plain (not_isSmall_of_isCapital capital)
    · exact iff_of_false (ne_bar_of_isCapital capital) (ne_bar_of_isSmall small)
  · have same := capital_of_not_isSmall ascii small
    exact ⟨point, same, ascii, same, Iff.rfl⟩

theorem exists_small_of_isAscii (ascii : point.isAscii = true) : ∃ letter :
    CodePoint, point.small = [letter] ∧
    letter.isAscii = true ∧ letter.capital = point.capital ∧ (letter = '_' ↔ point = '_') := by
  by_cases capital : point.isCapital = true
  · have small := isSmall_moved_of_isCapital capital
    refine ⟨point.moved 32, ?_, isAscii_of_isSmall small, ?_, ?_⟩
    · unfold CodePoint.small
      rw [if_pos (val_lt_of_isAscii ascii), if_pos capital]
    · rw [capital_of_isSmall small, moved_moved_of_isCapital capital,
        capital_of_not_isSmall ascii (not_isSmall_of_isCapital capital)]
    · exact iff_of_false (ne_bar_of_isSmall small) (ne_bar_of_isCapital capital)
  · refine ⟨point, ?_, ascii, rfl, Iff.rfl⟩
    unfold CodePoint.small
    rw [if_pos (val_lt_of_isAscii ascii), if_neg capital]

end CodePoint

namespace Naming

theorem keeps_ascii : Keeps CodePoint.isAscii where
  bar := by decide
  capital := by
    intro point ascii
    obtain ⟨letter, form, held, _⟩ := CodePoint.exists_capital_of_isAscii ascii
    rw [form, List.all_cons, held]
    rfl
  small := by
    intro point ascii
    obtain ⟨letter, form, held, _⟩ := CodePoint.exists_small_of_isAscii ascii
    rw [form, List.all_cons, held]
    rfl

/-! ### The pascal form -/

/-- A filled part of a name of ASCII: its capital form begins with a letter that is its own capital
form, and there is no underscore in it. -/
theorem exists_capitalized_of_filled {part : Text} (filled : part ≠ [])
    (ascii : part.all CodePoint.isAscii = true) (barless : CodePoint.ofChar '_' ∉ part) :
    ∃ letter rest, capitalized part = letter :: rest ∧
      letter.capital = [letter] ∧ CodePoint.ofChar '_' ∉ letter :: rest := by
  obtain ⟨point, rest, rfl⟩ := List.exists_cons_of_ne_nil filled
  rw [List.all_cons, Bool.and_eq_true] at ascii
  rw [List.mem_cons, not_or] at barless
  obtain ⟨letter, form, _, fixed, bar⟩ := CodePoint.exists_capital_of_isAscii ascii.1
  refine ⟨letter, rest, ?_, fixed, ?_⟩
  · rw [capitalized, form]
    rfl
  · rw [List.mem_cons, not_or]
    exact ⟨fun same => barless.1 (bar.1 same.symm).symm, barless.2⟩

theorem flatMap_capitalized_replicate (count : Nat) :
    (List.replicate count ([] : Text)).flatMap capitalized =
      List.replicate count (CodePoint.ofChar '_') := by
  induction count with
  | zero => rfl
  | succ count ih => rw [List.replicate_succ, List.flatMap_cons, ih]; rfl

section Ascii

variable {name : Text} (ascii : name.all CodePoint.isAscii = true)

include ascii

theorem exists_capitalized_of_mem {part : Text} (listed : part ∈ name.splitAt '_')
    (filled : part ≠ []) :
    ∃ letter rest, capitalized part = letter :: rest ∧ letter.capital = [letter] ∧
      CodePoint.ofChar '_' ∉ letter :: rest :=
  exists_capitalized_of_filled filled (Text.all_of_mem_splitAt ascii listed)
    (Text.not_mem_of_mem_splitAt listed)

theorem count_flatMap_capitalized {parts : List Text}
    (inside : ∀ part ∈ parts, part ∈ name.splitAt '_') :
    (parts.flatMap capitalized).count (CodePoint.ofChar '_') = parts.countP List.isEmpty := by
  induction parts with
  | nil => rfl
  | cons part parts ih =>
      have rest := ih (fun later listed => inside later (List.mem_cons_of_mem _ listed))
      by_cases empty : part = []
      · rw [empty, List.flatMap_cons, List.count_append, rest, List.countP_cons_of_pos rfl,
          Nat.add_comm]
        rfl
      · obtain ⟨letter, tail, form, _, barless⟩ :=
          exists_capitalized_of_mem ascii (inside part List.mem_cons_self) empty
        rw [List.flatMap_cons, List.count_append, rest, form, List.count_eq_zero_of_not_mem barless,
          Nat.zero_add, List.countP_cons_of_neg (mt List.isEmpty_iff.1 empty)]

theorem filledParts_flatMap_capitalized_pos {parts : List Text}
    (inside : ∀ part ∈ parts, part ∈ name.splitAt '_') (some : ∃ part ∈ parts, part ≠ []) :
    0 < Text.filledParts (parts.flatMap capitalized) := by
  obtain ⟨part, listed, kept⟩ := some
  obtain ⟨letter, rest, form, _, barless⟩ :=
    exists_capitalized_of_mem ascii (inside part listed) kept
  apply Text.filledParts_pos
  refine ⟨letter, List.mem_flatMap.2 ⟨part, listed, ?_⟩, fun same =>
    barless (same ▸ List.mem_cons_self)⟩
  rw [form]
  exact List.mem_cons_self

/-- A name that is its own pascal form has one filled part. -/
theorem filledParts_of_pascal_eq (fixed : pascal name = name) : name.filledParts = 1 := by
  -- All parts are counted by the underscores of the name, and the empty ones by those of its pascal
  -- form.
  have empties : (pascal name).count (CodePoint.ofChar '_') =
      (name.splitAt '_').countP List.isEmpty :=
    count_flatMap_capitalized ascii (fun part listed => listed)
  have parts := Text.length_splitAt '_' name
  have both := name.length_splitAt_bar
  rw [fixed] at empties
  omega

theorem isUnbroken_of_pascal_pascal (fixed : pascal (pascal name) = pascal name) :
    name.IsUnbroken := by
  have single := filledParts_of_pascal_eq (keeps_ascii.pascal ascii) fixed
  constructor
  · by_contra none
    have empties := Text.eq_replicate_of_none_filled none
    have bars := Text.splitAt_replicate_append '_' (name.splitAt '_').length []
    rw [pascal, empties, flatMap_capitalized_replicate, Text.filledParts,
      ← List.append_nil (List.replicate _ _), bars, List.countP_append, List.countP_replicate]
      at single
    cases single
  · rintro ⟨before, after, parts, left, right⟩
    rw [pascal, parts, List.flatMap_append, List.flatMap_cons, capitalized, List.singleton_append,
      Text.filledParts_append_bar] at single
    have first := filledParts_flatMap_capitalized_pos ascii
      (fun part listed => parts ▸ List.mem_append_left _ listed) left
    have second := filledParts_flatMap_capitalized_pos ascii
      (fun part listed => parts ▸ List.mem_append_right _ (List.mem_cons_of_mem _ listed)) right
    omega

theorem pascal_pascal_of_isUnbroken (unbroken : name.IsUnbroken) :
    pascal (pascal name) = pascal name := by
  obtain ⟨before, body, after, parts, some, all⟩ :=
    Text.exists_body unbroken.filled unbroken.sideBySide
  have inside (part : Text) (listed : part ∈ body) : part ∈ name.splitAt '_' := by
    rw [parts]
    exact List.mem_append_right _ (List.mem_append_left _ listed)
  have barless : CodePoint.ofChar '_' ∉ body.flatMap capitalized := by
    intro bar
    obtain ⟨part, listed, within⟩ := List.mem_flatMap.1 bar
    obtain ⟨letter, rest, form, _, absent⟩ :=
      exists_capitalized_of_mem ascii (inside part listed) (all part listed)
    exact absent (form ▸ within)
  have fixed : capitalized (body.flatMap capitalized) = body.flatMap capitalized := by
    obtain ⟨part, others, rfl⟩ := List.exists_cons_of_ne_nil some
    obtain ⟨letter, rest, form, fixed, _⟩ :=
      exists_capitalized_of_mem ascii (inside part List.mem_cons_self) (all part List.mem_cons_self)
    rw [List.flatMap_cons, form, List.cons_append, capitalized, fixed]
    rfl
  have cased : pascal name = List.replicate before (CodePoint.ofChar '_') ++
      (body.flatMap capitalized ++ List.replicate after (CodePoint.ofChar '_')) := by
    rw [pascal, parts, List.flatMap_append, List.flatMap_append, flatMap_capitalized_replicate,
      flatMap_capitalized_replicate]
  rw [cased, pascal, Text.splitAt_replicate_append, Text.splitAt_append_replicate barless,
    List.flatMap_append, List.flatMap_cons, flatMap_capitalized_replicate,
    flatMap_capitalized_replicate, fixed]

/-! ### The camel form -/

theorem exists_pascal_of_isAscii : ∃ head rest, pascal name = head :: rest ∧ head.isAscii = true ∧
    head.capital = [head] := by
  obtain ⟨first, others, parts, _⟩ := Text.eq_of_splitAt '_' name
  have inside := parts ▸ List.mem_cons_self
  rw [pascal, parts, List.flatMap_cons]
  cases first with
  | nil => exact ⟨_, _, rfl, rfl, rfl⟩
  | cons point rest =>
      have plain := Text.all_of_mem_splitAt ascii inside
      rw [List.all_cons, Bool.and_eq_true] at plain
      obtain ⟨letter, form, held, fixed, _⟩ := CodePoint.exists_capital_of_isAscii plain.1
      refine ⟨letter, rest ++ others.flatMap capitalized, ?_, held, fixed⟩
      rw [capitalized, form]
      rfl

omit ascii in
theorem pascal_cons_congr {head letter : CodePoint} (same : letter.capital = head.capital)
    (bar : letter = '_' ↔ head = '_') (rest : Text) :
    pascal (letter :: rest) = pascal (head :: rest) := by
  by_cases here : head = '_'
  · rw [here, bar.2 here]
  · obtain ⟨first, others, parts, _⟩ := Text.eq_of_splitAt '_' rest
    rw [pascal, pascal, Text.splitAt_cons here parts, Text.splitAt_cons (mt bar.1 here) parts,
      List.flatMap_cons, List.flatMap_cons, capitalized, capitalized, same]

theorem pascal_camel : pascal (camel name) = pascal (pascal name) := by
  obtain ⟨head, rest, cased, held, _⟩ := exists_pascal_of_isAscii ascii
  obtain ⟨letter, form, _, same, bar⟩ := CodePoint.exists_small_of_isAscii held
  rw [camel, cased, uncapitalized, form]
  exact pascal_cons_congr same bar rest

/-- The camel form tells pascal forms of names of ASCII apart. -/
theorem pascal_eq_of_camel_eq {other : Text} (plain : other.all CodePoint.isAscii = true)
    (same : camel name = camel other) : pascal name = pascal other := by
  obtain ⟨head, rest, cased, held, fixed⟩ := exists_pascal_of_isAscii ascii
  obtain ⟨letter, form, _, raised, _⟩ := CodePoint.exists_small_of_isAscii held
  obtain ⟨head', rest', cased', held', fixed'⟩ := exists_pascal_of_isAscii plain
  obtain ⟨letter', form', _, raised', _⟩ := CodePoint.exists_small_of_isAscii held'
  rw [camel, camel, cased, cased', uncapitalized, uncapitalized, form, form'] at same
  obtain ⟨rfl, rfl⟩ := List.cons.inj same
  rw [fixed, fixed'] at *
  rw [cased, cased', (List.cons.inj (raised.symm.trans raised')).1]
  rfl

theorem camel_camel_iff : camel (camel name) = camel name ↔ pascal (pascal name) = pascal name := by
  constructor
  · intro fixed
    rw [← pascal_camel ascii]
    exact pascal_eq_of_camel_eq (keeps_ascii.camel ascii) ascii fixed
  · intro fixed
    rw [camel, pascal_camel ascii, fixed]
    rfl

end Ascii

/-! ### The snake form -/

theorem isCapital_smallLetter (point : CodePoint) : (smallLetter point).isCapital = false := by
  by_cases capital : point.isCapital = true
  · rw [smallLetter, if_pos capital]
    exact CodePoint.isCapital_of_isSmall (CodePoint.isSmall_moved_of_isCapital capital)
  · rw [smallLetter, if_neg capital]
    exact Bool.eq_false_iff.2 capital

theorem all_not_isCapital_snakeStep (point : CodePoint) :
    (snakeStep point).all (fun later => !later.isCapital) = true := by
  unfold snakeStep
  by_cases capital : point.isCapital = true
  · rw [if_pos capital, List.all_cons, List.all_cons, isCapital_smallLetter]
    rfl
  · rw [if_neg capital, List.all_cons, Bool.eq_false_iff.2 capital]
    rfl

theorem all_not_isCapital_snake (name : Text) :
    (snake name).all (fun point => !point.isCapital) = true := by
  cases name with
  | nil => rfl
  | cons point rest =>
      rw [snake, List.all_cons, isCapital_smallLetter, Bool.not_false, Bool.true_and,
        List.all_flatMap, List.all_eq_true]
      exact fun later _ => all_not_isCapital_snakeStep later

theorem snake_snake (name : Text) : snake (snake name) = snake name :=
  snake_of_all_not_isCapital (all_not_isCapital_snake name)

/-- The pascal form of a name of ASCII is its own pascal form exactly if the name is unbroken, and
so is the camel form; the snake form of any name is its own snake form. -/
theorem casings_repeated_iff {name : Text} (ascii : name.all CodePoint.isAscii = true) :
    (pascal (pascal name) = pascal name ↔ name.IsUnbroken) ∧
    (camel (camel name) = camel name ↔ name.IsUnbroken) ∧
      ∀ any : Text, snake (snake any) = snake any := by
  have cased : pascal (pascal name) = pascal name ↔ name.IsUnbroken :=
    ⟨isUnbroken_of_pascal_pascal ascii, pascal_pascal_of_isUnbroken ascii⟩
  exact ⟨cased, (camel_camel_iff ascii).trans cased, snake_snake⟩

/-- Underscores around the parts of a name do not count, and a second one between two parts does. -/
theorem casings_repeated_bars :
    ((Text.ofString "_set_abi_").all CodePoint.isAscii = true ∧
      camel (camel "_set_abi_") = camel "_set_abi_" ∧
      Text.IsUnbroken "_set_abi_") ∧
    ((Text.ofString "set__abi").all CodePoint.isAscii = true ∧
      camel (camel "set__abi") ≠ camel "set__abi" ∧
      ¬Text.IsUnbroken "set__abi") := by
  have around : (Text.ofString "_set_abi_").all CodePoint.isAscii = true := by decide
  have between : (Text.ofString "set__abi").all CodePoint.isAscii = true := by decide
  have kept : pascal (pascal "_set_abi_") = pascal "_set_abi_" := by decide
  have changed : pascal (pascal "set__abi") ≠ pascal "set__abi" := by decide
  have unbroken := (casings_repeated_iff around).1.1 kept
  have broken := mt (casings_repeated_iff between).1.2 changed
  exact ⟨⟨around, (casings_repeated_iff around).2.1.2 unbroken, unbroken⟩,
    between, mt (casings_repeated_iff between).2.1.1 broken, broken⟩

end Naming

end ContractTypes
