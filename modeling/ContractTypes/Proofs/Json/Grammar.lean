import ContractTypes.Proofs.Json.Numeral
import ContractTypes.Proofs.Json.StringLiteral
import ContractTypes.Proofs.Text.Scalar

/-!
The grammar of JSON text.

A value is written as a word, a number or a string, or as an array or an object of values; spaces
may stand around every part.  The reader gives the value for each of its texts, however they are
spaced and spelled, and printing gives one of them.
-/

namespace ContractTypes.Json

def Padded (text padded : Text) : Prop :=
  ∃ before after, before.all isSpace = true ∧ after.all isSpace = true ∧
    padded = before ++ (text ++ after)

def quoted (body : Text) : Text := CodePoint.ofChar '"' :: (body ++ [CodePoint.ofChar '"'])

mutual

inductive HasText : Json → Text → Prop
  | word {word : Text × Json} (listed : word ∈ words) : HasText word.2 word.1
  | number (form : NumberForm) : HasText form.value form.text
  | string {text body : Text} (spells : Spells text body) : HasText (.string text) (quoted body)
  | emptyArray {blank : Text} (spaces : blank.all isSpace = true) :
      HasText (.array []) (CodePoint.ofChar '[' :: (blank ++ [CodePoint.ofChar ']']))
  | array {items : List Json} {text : Text} (inside : HasItems items text) :
      HasText (.array items) (CodePoint.ofChar '[' :: text)
  | emptyObject {blank : Text} (spaces : blank.all isSpace = true) :
      HasText (.object []) (CodePoint.ofChar '\x7b' :: (blank ++ [CodePoint.ofChar '\x7d']))
  | object {members : List (Text × Json)} {text : Text} (inside : HasMembers members text) :
      HasText (.object members) (CodePoint.ofChar '\x7b' :: text)

inductive HasItems : List Json → Text → Prop
  | last {item : Json} {text padded : Text} (written : HasText item text)
      (around : Padded text padded) :
      HasItems [item] (padded ++ [CodePoint.ofChar ']'])
  | more {item : Json} {items : List Json} {text padded others : Text} (written : HasText item text)
      (around : Padded text padded) (rest : HasItems items others) :
      HasItems (item :: items) (padded ++ CodePoint.ofChar ',' :: others)

inductive HasMembers : List (Text × Json) → Text → Prop
  | last {name : Text} {value : Json} {body key text padded : Text} (spells : Spells name body)
      (beside : Padded (quoted body) key) (written : HasText value text)
      (around : Padded text padded) :
      HasMembers [(name, value)]
        (key ++ CodePoint.ofChar ':' :: (padded ++ [CodePoint.ofChar '\x7d']))
  | more {name : Text} {value : Json} {members : List (Text × Json)}
      {body key text padded others : Text}
      (spells : Spells name body) (beside : Padded (quoted body) key) (written : HasText value text)
      (around : Padded text padded) (rest : HasMembers members others) :
      HasMembers ((name, value) :: members)
        (key ++ CodePoint.ofChar ':' :: (padded ++ CodePoint.ofChar ',' :: others))

end

def startsValue (point : CodePoint) : Bool :=
  !(isSpace point || (point = CodePoint.byteOrderMark || point = ']'))

def startsPlain (point : CodePoint) : Bool :=
  startsValue point && !(point = '"' || (point = '[' || point = '\x7b'))

theorem isSpace_of_startsValue {point : CodePoint} (starts : startsValue point = true) :
    isSpace point = false := by
  rw [startsValue, Bool.not_eq_true', Bool.or_eq_false_iff] at starts
  exact starts.1

theorem startsPlain_of_isDigit {point : CodePoint} (digit : point.isDigit = true) :
    startsPlain point = true := by
  cases plain : startsPlain point with
  | true => rfl
  | false =>
      simp only [startsPlain, startsValue, isSpace, Bool.and_eq_false_iff, Bool.not_eq_false',
        Bool.or_eq_true, decide_eq_true_iff] at plain
      rcases plain with ((((rfl | rfl) | rfl) | rfl) | rfl | rfl) | rfl | rfl | rfl <;> cases digit

theorem exists_plain_of_mem_words {word : Text × Json} (listed : word ∈ words) : ∃ first rest,
    word.1 = first :: rest ∧ startsPlain first = true := by
  have all : words.all (fun word => word.1.head?.any startsPlain) = true := by decide
  have holds := List.all_eq_true.1 all word listed
  cases spelled : word.1 with
  | nil =>
      rw [spelled] at holds
      cases holds
  | cons first rest =>
      rw [spelled] at holds
      exact ⟨first, rest, rfl, holds⟩

theorem exists_plain_of_number (form : NumberForm) : ∃ first rest,
    form.text = first :: rest ∧ startsPlain first = true := by
  obtain ⟨digit, rest, starts, isDigit⟩ := exists_digit_cons form
  unfold NumberForm.text
  cases form.isNegative with
  | true => exact ⟨_, _, rfl, rfl⟩
  | false => exact ⟨digit, rest, starts, startsPlain_of_isDigit isDigit⟩

theorem startsValue_of_startsPlain {point : CodePoint} (plain : startsPlain point = true) :
    startsValue point = true :=
  (Bool.and_eq_true_iff.1 plain).1

theorem HasText.exists_cons {json : Json} {text : Text} (written : HasText json text) :
    ∃ first rest,
    text = first :: rest ∧ startsValue first = true := by
  cases written with
  | @word word listed =>
      obtain ⟨first, rest, starts, plain⟩ := exists_plain_of_mem_words listed
      exact ⟨first, rest, starts, startsValue_of_startsPlain plain⟩
  | number form =>
      obtain ⟨first, rest, starts, plain⟩ := exists_plain_of_number form
      exact ⟨first, rest, starts, startsValue_of_startsPlain plain⟩
  | string spells => exact ⟨_, _, rfl, rfl⟩
  | emptyArray spaces => exact ⟨_, _, rfl, rfl⟩
  | array inside => exact ⟨_, _, rfl, rfl⟩
  | emptyObject spaces => exact ⟨_, _, rfl, rfl⟩
  | object inside => exact ⟨_, _, rfl, rfl⟩

theorem skipSpaces_blank {blank : Text} (spaces : blank.all isSpace = true) (rest : Text) :
    skipSpaces (blank ++ rest) = skipSpaces rest :=
  List.dropWhile_append_of_pos (List.all_eq_true.1 spaces)

theorem skipSpaces_cons {first : CodePoint} (visible : isSpace first = false) (rest : Text) :
    skipSpaces (first :: rest) = first :: rest :=
  List.dropWhile_cons_of_neg (by rw [visible]; exact Bool.false_ne_true)

theorem stops_continuesNumber_blank {blank rest : Text} (spaces : blank.all isSpace = true)
    (ends : rest.stops continuesNumber = true) : (blank ++ rest).stops continuesNumber = true := by
  cases blank with
  | nil => exact ends
  | cons point more =>
      rw [List.all_cons, Bool.and_eq_true] at spaces
      have space := spaces.1
      simp only [isSpace, Bool.or_eq_true, decide_eq_true_iff] at space
      rcases space with ((rfl | rfl) | rfl) | rfl <;> rfl

theorem Padded.skipSpaces {text padded : Text} (around : Padded text padded) {first : CodePoint}
    {others : Text} (starts : text = first :: others) (visible : isSpace first = false)
    (rest : Text) :
    ∃ after, after.all isSpace = true ∧
      Json.skipSpaces (padded ++ rest) = text ++ (after ++ rest) := by
  obtain ⟨before, after, spaces, spacesAfter, rfl⟩ := around
  refine ⟨after, spacesAfter, ?_⟩
  rw [List.append_assoc, skipSpaces_blank spaces, starts, List.append_assoc, List.cons_append,
    skipSpaces_cons visible]

theorem Padded.length_le {text padded : Text} (around : Padded text padded) :
    text.length ≤ padded.length := by
  obtain ⟨before, after, _, _, rfl⟩ := around
  rw [List.length_append, List.length_append]
  omega

/-! ### Reading -/

theorem plainValue_word {word : Text × Json} (listed : word ∈ words) (rest : Text) :
    plainValue (word.1 ++ rest) = .ok (word.2, rest) := by
  have found : words.find? (fun other => (word.1 ++ rest).startsWith other.1) = some word := by
    have own := Text.startsWith_append word.1 rest
    simp only [words, List.mem_cons, List.not_mem_nil, or_false] at listed
    -- No two words have the same first letter.
    rcases listed with rfl | rfl | rfl | rfl | rfl | rfl
    all_goals
      repeat first
        | exact List.find?_cons_of_pos own
        | refine (List.find?_cons_of_neg Bool.false_ne_true).trans ?_
  rw [plainValue, found]
  exact congrArg (fun left => Except.ok (word.2, left)) List.drop_left

theorem valueWithin_plain (steps : Nat) {first : CodePoint} (plain : startsPlain first = true)
    (rest : Text) : valueWithin (steps + 1) (first :: rest) = plainValue (first :: rest) := by
  have noQuote : first ≠ '"' := by rintro rfl; cases plain
  have noBracket : first ≠ '[' := by rintro rfl; cases plain
  have noBrace : first ≠ '\x7b' := by rintro rfl; cases plain
  rw [valueWithin]
  rw [if_neg noQuote, if_neg noBracket, if_neg noBrace]

def ReadsValues (steps : Nat) : Prop :=
  ∀ json text rest, HasText json text → text.length ≤ steps → rest.stops continuesNumber = true →
    valueWithin steps (text ++ rest) = .ok (json, rest)

def ReadsItems (steps : Nat) : Prop :=
  ∀ items text rest, HasItems items text → text.length ≤ steps →
    itemsWithin steps (skipSpaces (text ++ rest)) = .ok (items, rest)

def ReadsMembers (steps : Nat) : Prop :=
  ∀ members text rest, HasMembers members text → text.length ≤ steps →
    membersWithin steps (skipSpaces (text ++ rest)) = .ok (members, rest)

variable {steps : Nat}

theorem itemsWithin_item (values : ReadsValues steps) {item : Json} {text padded : Text}
    (written : HasText item text) (around : Padded text padded) (bound : padded.length ≤ steps)
    {next : CodePoint} (visible : isSpace next = false) (ends : continuesNumber next = false)
    (after : Text) : itemsWithin (steps + 1) (skipSpaces (padded ++ next :: after)) =
      if next = ']' then .ok ([item], after)
      else if next = ',' then
        (itemsWithin steps (skipSpaces after)).map (fun left => (item :: left.1, left.2))
      else .error (.fault .expectedComma (next :: after)) := by
  obtain ⟨first, others, starts, opens⟩ := written.exists_cons
  obtain ⟨blank, spaces, skipped⟩ := around.skipSpaces starts (isSpace_of_startsValue opens)
    (next :: after)
  have left : (blank ++ next :: after).stops continuesNumber = true :=
    stops_continuesNumber_blank spaces (by rw [Text.stops, ends]; rfl)
  have read := values item text _ written (Nat.le_trans around.length_le bound) left
  rw [itemsWithin, skipped]
  simp only [read, skipSpaces_blank spaces, skipSpaces_cons visible]
  cases itemsWithin steps (Json.skipSpaces after) <;> rfl

theorem readsItems_succ (values : ReadsValues steps) (following : ReadsItems steps) :
    ReadsItems (steps + 1) := by
  intro all text rest inside bound
  cases inside with
  | last written around =>
      rw [List.length_append, List.length_singleton] at bound
      rw [List.append_assoc, List.singleton_append,
        itemsWithin_item values written around (by omega) (by decide) (by decide)]
      rfl
  | @more item items text padded others written around more =>
      rw [List.length_append, List.length_cons] at bound
      have read := following items others rest more (by omega)
      rw [List.append_assoc, List.cons_append,
        itemsWithin_item values written around (by omega) (by decide) (by decide), read]
      rfl

theorem membersWithin_member (values : ReadsValues steps) {name body key : Text}
    (spells : Spells name body) (beside : Padded (quoted body) key) {value : Json}
    {text padded : Text} (written : HasText value text) (around : Padded text padded)
    (bound : padded.length ≤ steps) {next : CodePoint} (visible : isSpace next = false)
    (ends : continuesNumber next = false) (after : Text) :
    membersWithin (steps + 1)
      (skipSpaces (key ++ CodePoint.ofChar ':' :: (padded ++ next :: after))) =
      if next = '\x7d' then .ok ([(name, value)], after)
      else if next = ',' then
        (membersWithin steps (skipSpaces after)).map (fun left => ((name, value) :: left.1, left.2))
      else .error (.fault .expectedComma (next :: after)) := by
  obtain ⟨first, others, starts, opens⟩ := written.exists_cons
  obtain ⟨blank, spaces, skipped⟩ := around.skipSpaces starts (isSpace_of_startsValue opens)
    (next :: after)
  obtain ⟨keyBlank, keySpaces, keySkipped⟩ :=
    beside.skipSpaces rfl (by decide) (CodePoint.ofChar ':' :: (padded ++ next :: after))
  have left : (blank ++ next :: after).stops continuesNumber = true :=
    stops_continuesNumber_blank spaces (by rw [Text.stops, ends]; rfl)
  have read := values value text _ written (Nat.le_trans around.length_le bound) left
  have colon : isSpace (CodePoint.ofChar ':') = false := by decide
  have named (opening rest : Text) := stringBody_of_spells spells opening rest
  rw [keySkipped, quoted, List.cons_append, List.append_assoc, List.singleton_append, membersWithin]
  simp only [named, skipSpaces_blank keySpaces, skipSpaces_cons colon, skipped, read,
    skipSpaces_blank spaces, skipSpaces_cons visible]
  cases membersWithin steps (Json.skipSpaces after) <;> rfl

theorem readsMembers_succ (values : ReadsValues steps) (following : ReadsMembers steps) :
    ReadsMembers (steps + 1) := by
  intro all text rest inside bound
  cases inside with
  | last spells beside written around =>
      rw [List.length_append, List.length_cons, List.length_append, List.length_singleton] at bound
      rw [List.append_assoc, List.cons_append, List.append_assoc, List.singleton_append,
        membersWithin_member values spells beside written around (by omega) (by decide) (by decide)]
      rfl
  | @more name value members body key text padded others spells beside written around more =>
      rw [List.length_append, List.length_cons, List.length_append, List.length_cons] at bound
      have read := following members others rest more (by omega)
      rw [List.append_assoc, List.cons_append, List.append_assoc, List.cons_append,
        membersWithin_member values spells beside written around (by omega) (by decide) (by decide),
          read]
      rfl

theorem HasItems.exists_cons {items : List Json} {text : Text} (inside : HasItems items text)
    (rest : Text) : ∃ next after, skipSpaces (text ++ rest) = next :: after ∧ next ≠ ']' := by
  cases inside with
  | last written around =>
      obtain ⟨first, others, rfl, opens⟩ := written.exists_cons
      have visible := isSpace_of_startsValue opens
      obtain ⟨blank, _, skipped⟩ := around.skipSpaces rfl visible (CodePoint.ofChar ']' :: rest)
      rw [List.append_assoc]
      exact ⟨first, _, skipped, by rintro rfl; cases opens⟩
  | @more item items text padded others' written around more =>
      obtain ⟨first, others, rfl, opens⟩ := written.exists_cons
      have visible := isSpace_of_startsValue opens
      obtain ⟨blank, _, skipped⟩ := around.skipSpaces rfl visible
        (CodePoint.ofChar ',' :: (others' ++ rest))
      rw [List.append_assoc]
      exact ⟨first, _, skipped, by rintro rfl; cases opens⟩

theorem HasMembers.exists_cons {members : List (Text × Json)} {text : Text}
    (inside : HasMembers members text) (rest : Text) :
    ∃ after, skipSpaces (text ++ rest) = CodePoint.ofChar '"' :: after := by
  cases inside with
  | last spells beside written around =>
      obtain ⟨blank, _, skipped⟩ := beside.skipSpaces rfl (by decide) (_ ++ rest)
      rw [List.append_assoc]
      exact ⟨_, skipped⟩
  | more spells beside written around more =>
      obtain ⟨blank, _, skipped⟩ := beside.skipSpaces rfl (by decide) (_ ++ rest)
      rw [List.append_assoc]
      exact ⟨_, skipped⟩

theorem readsValues_succ (items : ReadsItems steps) (members : ReadsMembers steps) :
    ReadsValues (steps + 1) := by
  intro json text rest written bound ends
  cases written with
  | @word word listed =>
      obtain ⟨first, others, starts, plain⟩ := exists_plain_of_mem_words listed
      have read := plainValue_word listed rest
      rw [starts] at read ⊢
      exact (valueWithin_plain steps plain _).trans read
  | number form =>
      obtain ⟨first, others, starts, plain⟩ := exists_plain_of_number form
      have read := plainValue_number form ends
      rw [starts] at read ⊢
      exact (valueWithin_plain steps plain _).trans read
  | @string text body spells =>
      have named (opening : Text) := stringBody_of_spells spells opening rest
      rw [quoted, List.cons_append, List.append_assoc, List.singleton_append, valueWithin]
      simp only [named]
      rfl
  | @emptyArray blank spaces =>
      have closed : skipSpaces (CodePoint.ofChar ']' :: rest) = CodePoint.ofChar ']' :: rest :=
        skipSpaces_cons (by decide) rest
      rw [List.cons_append, List.append_assoc, List.singleton_append, valueWithin]
      simp only [skipSpaces_blank spaces, closed]
      rfl
  | @array items' text inside =>
      obtain ⟨next, after, starts, noBracket⟩ := inside.exists_cons rest
      rw [List.length_cons] at bound
      have read := items items' text rest inside (by omega)
      rw [starts] at read
      rw [List.cons_append, valueWithin]
      simp only [starts, if_neg noBracket, read]
      rfl
  | @emptyObject blank spaces =>
      have closed : skipSpaces (CodePoint.ofChar '\x7d' :: rest) = CodePoint.ofChar '\x7d' ::
          rest :=
        skipSpaces_cons (by decide) rest
      rw [List.cons_append, List.append_assoc, List.singleton_append, valueWithin]
      simp only [skipSpaces_blank spaces, closed]
      rfl
  | @object members' text inside =>
      obtain ⟨after, starts⟩ := inside.exists_cons rest
      rw [List.length_cons] at bound
      have read := members members' text rest inside (by omega)
      rw [starts] at read
      rw [List.cons_append, valueWithin]
      simp only [starts, read]
      rfl

theorem reads_all (steps : Nat) : ReadsValues steps ∧ ReadsItems steps ∧ ReadsMembers steps := by
  -- The three readers are taken together, because each calls the others with one step less.
  induction steps with
  | zero =>
      refine ⟨?_, ?_, ?_⟩
      · intro json text rest written bound
        obtain ⟨first, others, rfl, _⟩ := written.exists_cons
        exact absurd bound (Nat.not_succ_le_zero _)
      · intro items text rest inside bound
        have empty : text = [] := List.eq_nil_of_length_eq_zero (Nat.le_zero.1 bound)
        obtain ⟨next, after, starts, _⟩ := inside.exists_cons []
        rw [empty] at starts
        cases starts
      · intro members text rest inside bound
        have empty : text = [] := List.eq_nil_of_length_eq_zero (Nat.le_zero.1 bound)
        obtain ⟨after, starts⟩ := inside.exists_cons []
        rw [empty] at starts
        cases starts
  | succ steps ih =>
      obtain ⟨values, items, members⟩ := ih
      exact ⟨readsValues_succ items members, readsItems_succ values items,
        readsMembers_succ values members⟩

theorem ofText_of_hasText {json : Json} {text padded : Text} (written : HasText json text)
    (around : Padded text padded) : ofText padded = .ok json := by
  obtain ⟨first, others, starts, opens⟩ := written.exists_cons
  have visible := isSpace_of_startsValue opens
  obtain ⟨after, spaces, skipped⟩ := around.skipSpaces starts visible []
  have ends : (after ++ []).stops continuesNumber = true := stops_continuesNumber_blank spaces rfl
  have left : Json.skipSpaces (after ++ []) = [] := skipSpaces_blank spaces []
  rw [List.append_nil, List.append_nil] at skipped
  rw [List.append_nil] at ends left
  have bound := around.length_le
  have read := (reads_all (2 * padded.length + 1)).1 json text after written (by omega) ends
  have noMark : padded.head? ≠ some CodePoint.byteOrderMark := by
    intro mark
    obtain ⟨rest, rfl⟩ := List.head?_eq_some_iff.1 mark
    rw [skipSpaces_cons (by decide), starts] at skipped
    rw [← (List.cons.inj skipped).1] at opens
    cases opens
  unfold ofText
  rw [if_neg noMark, skipped, read]
  simp only [left]
  rfl

/-! ### Printing -/

/-- Values without floating-point numbers, whose integers have no more digits than are read and
whose texts are scalar. -/
inductive IsPlain : Json → Prop
  | null : IsPlain .null
  | boolean (value : Bool) : IsPlain (.boolean value)
  | integer {value : Int} (short : (Text.ofNat value.natAbs).length ≤ Text.digitLimit) :
      IsPlain (.integer value)
  | string {text : Text} (scalar : text.isScalar = true) : IsPlain (.string text)
  | array {items : List Json} (each : ∀ item ∈ items, IsPlain item) : IsPlain (.array items)
  | object {members : List (Text × Json)} (names : ∀ member ∈ members, member.1.isScalar = true)
      (values : ∀ member ∈ members, IsPlain member.2) : IsPlain (.object members)

theorem isPlain_array_iff {items : List Json} : IsPlain (.array items) ↔
    ∀ item ∈ items, item.IsPlain :=
  ⟨fun plain => by cases plain; assumption, .array⟩

theorem isPlain_object_iff {members : List (Text × Json)} :
    IsPlain (.object members) ↔ ∀ member ∈ members, member.1.isScalar = true ∧
      member.2.IsPlain := by
  constructor
  · intro plain
    cases plain with
    | object names values => exact fun member listed => ⟨names member listed, values member listed⟩
  · intro each
    exact .object (fun member listed => (each member listed).1)
      (fun member listed => (each member listed).2)

theorem isPlain_string_iff {text : Text} : IsPlain (.string text) ↔ text.isScalar = true :=
  ⟨fun plain => by cases plain; assumption, .string⟩

theorem isPlain_integer_iff {value : Int} :
    IsPlain (.integer value) ↔ (Text.ofNat value.natAbs).length ≤ Text.digitLimit :=
  ⟨fun plain => by cases plain; assumption, .integer⟩

theorem Padded.refl (text : Text) : Padded text text :=
  ⟨[], [], rfl, rfl, (List.append_nil text).symm⟩

theorem hasSplitPair_of_isScalar {text : Text} (scalar : text.isScalar = true) :
    hasSplitPair text = false := by
  fun_induction hasSplitPair text with
  | case1 high low rest ih =>
      obtain ⟨single, others⟩ := Text.isScalar_cons_iff.1 scalar
      have noHigh : high.isHighSurrogate = false := by
        rw [Bool.eq_false_iff]
        intro isHigh
        obtain ⟨least, most⟩ := CodePoint.isBetween_iff.1 isHigh
        have either := CodePoint.isSurrogate_eq_false_iff.1 single
        omega
      rw [noHigh, ih others]
      rfl
  | case2 => rfl

theorem spells_of_isScalar {text : Text} (scalar : text.isScalar = true) :
    Spells text (text.flatMap literalStep) := by
  have spells := spells_literalSteps text
  rw [joinPairs_eq_self (hasSplitPair_of_isScalar scalar)] at spells
  exact spells

theorem hasItems_print {items : List Json} (filled : items ≠ [])
    (each : ∀ item ∈ items, HasText item item.print) :
    HasItems items (printItems items ++ [CodePoint.ofChar ']']) := by
  induction items with
  | nil => exact absurd rfl filled
  | cons item rest ih =>
      have written := each item List.mem_cons_self
      cases rest with
      | nil => exact .last written (.refl _)
      | cons next more =>
          have others := ih (List.cons_ne_nil next more)
            (fun later member => each later (List.mem_cons_of_mem item member))
          rw [printItems, List.append_assoc, List.append_assoc]
          exact .more written (.refl _) others

theorem hasMembers_print {members : List (Text × Json)} (filled : members ≠ [])
    (names : ∀ member ∈ members, member.1.isScalar = true)
    (each : ∀ member ∈ members, HasText member.2 member.2.print) :
    HasMembers members (printMembers members ++ [CodePoint.ofChar '\x7d']) := by
  induction members with
  | nil => exact absurd rfl filled
  | cons member rest ih =>
      obtain ⟨name, value⟩ := member
      have spells := spells_of_isScalar (names _ List.mem_cons_self)
      have written := each _ List.mem_cons_self
      cases rest with
      | nil =>
          rw [printMembers, List.append_assoc, List.append_assoc]
          exact .last spells (.refl _) written (.refl _)
      | cons next more =>
          have others := ih (List.cons_ne_nil next more)
            (fun later member => names later (List.mem_cons_of_mem _ member))
            (fun later member => each later (List.mem_cons_of_mem _ member))
          rw [printMembers]
          simp only [List.append_assoc]
          exact .more spells (.refl _) written (.refl _) others

theorem hasText_print {json : Json} (plain : IsPlain json) : HasText json json.print := by
  induction plain with
  | null => exact @HasText.word ("null", .null) (by simp [words])
  | boolean value =>
      cases value with
      | false => exact @HasText.word ("false", .boolean false) (by simp [words])
      | true => exact @HasText.word ("true", .boolean true) (by simp [words])
  | integer short =>
      have written := HasText.number (NumberForm.ofInt _ short)
      rw [NumberForm.text_ofInt, NumberForm.value_ofInt] at written
      exact written
  | string scalar => exact .string (spells_of_isScalar scalar)
  | @array items each ih =>
      cases items with
      | nil => exact @HasText.emptyArray [] rfl
      | cons first rest => exact .array (hasItems_print (List.cons_ne_nil first rest) ih)
  | @object members names values ih =>
      cases members with
      | nil => exact @HasText.emptyObject [] rfl
      | cons first rest => exact .object (hasMembers_print (List.cons_ne_nil first rest) names ih)

end ContractTypes.Json
