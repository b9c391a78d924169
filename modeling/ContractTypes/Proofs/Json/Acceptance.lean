import ContractTypes.Proofs.Json.Part

/-!
Texts that are read, and integers that are too long.

Whatever value it stands for, a text is read exactly if it follows the grammar of such texts.  A
text that is not read has a fault, or it has an integer of more digits than are read.  The second is
the case exactly if such an integer stands where a value is wanted and all that stands before it
could begin a text that is read.
-/

namespace ContractTypes.Json

variable {part inner : Part} {text blank : Text} {count steps : Nat}

/-- What the result of reading a part says about the text: it starts with such a part, or a long
integer is met. -/
def Traced (part : Part) (input : Text) : Except Failure Text → Prop
  | .ok rest => ∃ text, IsText part text ∧ input = text ++ rest
  | .error (.longInteger count) => MeetsLong count part input
  | .error (.fault _ _) => True

def TracedWithin (steps : Nat) : Prop := ∀ part input, Traced part input (readPart part steps input)

/-- What ends a part also ends the part around it that starts with a text in front. -/
theorem Traced.behind {front inside : Text} {result : Except Failure Text}
    (traced : Traced inner inside result)
    (written : ∀ text, IsText inner text → IsText part (front ++ text))
    (meets : ∀ count, MeetsLong count inner inside → MeetsLong count part (front ++ inside)) :
    Traced part (front ++ inside) result := by
  cases result with
  | error failure =>
      cases failure with
      | fault fault rest => trivial
      | longInteger count => exact meets count traced
  | ok rest =>
      obtain ⟨text, isText, rfl⟩ := traced
      exact ⟨front ++ text, written text isText, (List.append_assoc front text rest).symm⟩

theorem Traced.bind {front inside : Text} {result : Except Failure Text}
    {next : Text → Except Failure Text} (traced : Traced inner inside result)
    (meets : ∀ count, MeetsLong count inner inside → MeetsLong count part (front ++ inside))
    (goesOn : ∀ text rest, IsText inner text → inside = text ++ rest →
      Traced part (front ++ (text ++ rest)) (next rest)) :
    Traced part (front ++ inside) (result.bind next) := by
  cases result with
  | error failure =>
      cases failure with
      | fault fault rest => trivial
      | longInteger count => exact meets count traced
  | ok rest =>
      obtain ⟨text, isText, rfl⟩ := traced
      exact goesOn text rest isText rfl

theorem traced_skipSpaces (within : TracedWithin steps) (several : inner ≠ .value) (rest : Text) :
    Traced inner rest (readPart inner steps (skipSpaces rest)) := by
  obtain ⟨blank, spaces, whole⟩ := exists_blank rest
  have traced : Traced inner (blank ++ skipSpaces rest) (readPart inner steps (skipSpaces rest)) :=
    (within inner (skipSpaces rest)).behind (fun text inside => inside.behind several spaces)
      (fun count inside => inside.behind several spaces)
  rw [← whole] at traced
  exact traced

theorem traced_readOpened (within : TracedWithin steps) (several : inner ≠ .value)
    {opening close : CodePoint} (absent : Fault)
    (empty : ∀ {blank : Text}, blank.all isSpace = true →
      IsText part (opening :: (blank ++ [close])))
    (filled : ∀ {text}, IsText inner text → IsText part (opening :: text))
    (meets : ∀ {count text}, MeetsLong count inner text → MeetsLong count part (opening :: text))
    (rest : Text) :
    Traced part (opening :: rest) (readOpened close absent (readPart inner steps) rest) := by
  obtain ⟨blank, spaces, whole⟩ := exists_blank rest
  rw [readOpened]
  generalize skipSpaces rest = visible at whole
  rw [whole]
  cases visible with
  | nil => trivial
  | cons next after =>
      dsimp only
      by_cases closes : next = close
      · rw [if_pos closes]
        refine ⟨_, empty spaces, ?_⟩
        rw [closes, List.cons_append, List.append_assoc]
        rfl
      · rw [if_neg closes]
        have traced : Traced part ((opening :: blank) ++ next :: after)
            (readPart inner steps (next :: after)) :=
          (within inner (next :: after)).behind
            (fun text inside => filled (inside.behind several spaces))
            (fun count inside => meets (inside.behind several spaces))
        exact traced

theorem traced_readBehind (within : TracedWithin steps) (several : inner ≠ .value) {front : Text}
    {close : CodePoint} (last : ∀ {blank : Text}, blank.all isSpace = true →
      IsText inner (front ++ (blank ++ [close])))
    (more : ∀ {blank others : Text}, blank.all isSpace = true → IsText inner others →
      IsText inner (front ++ (blank ++ CodePoint.ofChar ',' :: others)))
    (meets : ∀ {count} {blank others : Text}, blank.all isSpace = true →
      MeetsLong count inner others →
      MeetsLong count inner (front ++ (blank ++ CodePoint.ofChar ',' :: others))) (rest : Text) :
    Traced inner (front ++ rest) (readBehind close (readPart inner steps) rest) := by
  obtain ⟨blank, spaces, whole⟩ := exists_blank rest
  rw [readBehind]
  generalize skipSpaces rest = visible at whole
  rw [whole]
  cases visible with
  | nil => trivial
  | cons next after =>
      dsimp only
      by_cases closes : next = close
      · rw [if_pos closes]
        refine ⟨_, last spaces, ?_⟩
        rw [closes, List.append_assoc, List.append_assoc]
        rfl
      · rw [if_neg closes]
        by_cases comma : next = ','
        · have shape (text : Text) : (front ++ (blank ++ [CodePoint.ofChar ','])) ++ text =
              front ++ (blank ++ CodePoint.ofChar ',' :: text) := by
            rw [List.append_assoc, List.append_assoc]
            rfl
          have traced : Traced inner ((front ++ (blank ++ [CodePoint.ofChar ','])) ++ after)
              (readPart inner steps (skipSpaces after)) :=
            (traced_skipSpaces within several after).behind
              (fun text inside => shape text ▸ more spaces inside)
              (fun count inside => shape after ▸ meets spaces inside)
          rw [shape] at traced
          rw [if_pos comma, comma]
          exact traced
        · rw [if_neg comma]
          trivial

theorem stringBody_cases (opening inside : Text) :
    (∃ fault rest, stringBody opening inside = .error (.fault fault rest)) ∨
    ∃ body text rest, IsSpelling body ∧
      inside = body ++ CodePoint.ofChar '"' :: rest ∧
        stringBody opening inside = .ok (text, rest) := by
  cases read : stringBody opening inside with
  | error failure =>
      cases failure with
      | fault fault rest => exact .inl ⟨fault, rest, rfl⟩
      | longInteger count => exact absurd read (stringOnto_ne_long opening [] inside count)
  | ok found =>
      obtain ⟨text, rest⟩ := found
      obtain ⟨body, spelling, same⟩ := exists_spelling_of_stringOnto read
      exact .inr ⟨body, text, rest, spelling, same, rfl⟩

theorem traced_plainValue (input : Text) : Traced .value input ((plainValue input).map (·.2)) := by
  cases read : plainValue input with
  | error failure =>
      cases failure with
      | fault fault rest => trivial
      | longInteger count => exact .integer (plainValue_eq_long_iff.1 read)
  | ok found =>
      obtain ⟨json, rest⟩ := found
      unfold plainValue at read
      cases found : words.find? (fun word => input.startsWith word.1) with
      | some word =>
          rw [found] at read
          cases read
          have starts := List.find?_some found
          exact ⟨word.1, .word (List.mem_of_find?_eq_some found),
            Text.eq_append_of_startsWith starts⟩
      | none =>
          rw [found] at read
          obtain ⟨form, written⟩ := exists_form_of_number read
          exact ⟨form.text, .number form, written⟩

theorem traced_value (within : TracedWithin steps) (input : Text) :
    Traced .value input (readPart .value (steps + 1) input) := by
  cases input with
  | nil => trivial
  | cons point rest =>
      by_cases quote : point = '"'
      · rw [quote, readPart_string]
        rcases stringBody_cases (CodePoint.ofChar '"' :: rest) rest with
          ⟨fault, left, read⟩ | ⟨body, text, left, spelling, same, read⟩ <;> rw [read]
        · trivial
        · refine ⟨quoted body, .string spelling, ?_⟩
          rw [same, quoted, List.cons_append, List.append_assoc]
          rfl
      by_cases bracket : point = '['
      · rw [bracket, readPart_array]
        exact traced_readOpened within Part.items_ne_value _ .emptyArray .array .array rest
      by_cases brace : point = '\x7b'
      · rw [brace, readPart_object]
        exact traced_readOpened within Part.members_ne_value _ .emptyObject .object .object rest
      rw [readPart_plain steps quote bracket brace]
      exact traced_plainValue (point :: rest)

theorem traced_items (within : TracedWithin steps) (input : Text) :
    Traced .items input (readPart .items (steps + 1) input) := by
  rw [readPart_items]
  have meets (count : Nat) (inside : MeetsLong count .value input) :
      MeetsLong count .items ([] ++ input) :=
    .item rfl inside
  refine (within .value input).bind meets ?_
  rintro text rest written rfl
  refine traced_readBehind within Part.items_ne_value ?_ ?_ ?_ rest
  · intro blank spaces
    rw [← List.append_assoc]
    exact .lastItem written (padded_before text spaces)
  · intro blank others spaces inside
    rw [← List.append_assoc]
    exact .item written (padded_before text spaces) inside
  · intro count blank others spaces inside
    rw [← List.append_assoc]
    exact .laterItem written (padded_before text spaces) inside

theorem traced_valueOfMember (within : TracedWithin steps) {body key : Text}
    (spelling : IsSpelling body) (beside : Padded (quoted body) key) (rest : Text) :
    Traced .members (key ++ CodePoint.ofChar ':' :: rest)
      ((readPart .value steps (skipSpaces rest)).bind
        (readBehind '\x7d' (readPart .members steps))) := by
  obtain ⟨before, beforeSpaces, whole⟩ := exists_blank rest
  have shape (text : Text) : (key ++ CodePoint.ofChar ':' :: before) ++ text =
      key ++ CodePoint.ofChar ':' :: (before ++ text) := List.append_assoc key _ text
  have meets (count : Nat) (inside : MeetsLong count .value (skipSpaces rest)) :
      MeetsLong count .members ((key ++ CodePoint.ofChar ':' :: before) ++ skipSpaces rest) :=
    shape (skipSpaces rest) ▸ .member spelling beside beforeSpaces inside
  have traced : Traced .members ((key ++ CodePoint.ofChar ':' :: before) ++ skipSpaces rest)
      ((readPart .value steps (skipSpaces rest)).bind
        (readBehind '\x7d' (readPart .members steps))) := by
    refine (within .value (skipSpaces rest)).bind meets ?_
    intro text left written same
    have around {blank : Text} (spaces : blank.all isSpace = true) :
        Padded text (before ++ (text ++ blank)) :=
      ⟨before, blank, beforeSpaces, spaces, rfl⟩
    rw [← List.append_assoc]
    refine traced_readBehind within Part.members_ne_value ?_ ?_ ?_ left
    · intro blank spaces
      have ends := IsText.lastMember spelling beside written (around spaces)
      simp only [List.append_assoc, List.cons_append] at ends ⊢
      exact ends
    · intro blank others spaces inside
      have more := IsText.member spelling beside written (around spaces) inside
      simp only [List.append_assoc, List.cons_append] at more ⊢
      exact more
    · intro count blank others spaces inside
      have later := MeetsLong.laterMember spelling beside written (around spaces) inside
      simp only [List.append_assoc, List.cons_append] at later ⊢
      exact later
  rw [shape, ← whole] at traced
  exact traced

theorem traced_members (within : TracedWithin steps) (input : Text) :
    Traced .members input (readPart .members (steps + 1) input) := by
  cases input with
  | nil => trivial
  | cons point rest =>
      by_cases quote : point = '"'
      · rw [quote, readPart_members]
        rcases stringBody_cases (CodePoint.ofChar '"' :: rest) rest with
          ⟨fault, left, read⟩ | ⟨body, name, afterName, spelling, same, read⟩ <;> rw [read]
        · trivial
        obtain ⟨blank, spaces, whole⟩ := exists_blank afterName
        have beside := padded_before (quoted body) spaces
        dsimp only [Except.map, Except.bind]
        rw [readNamed]
        generalize skipSpaces afterName = visible at whole
        cases visible with
        | nil => trivial
        | cons colon afterColon =>
            dsimp only
            by_cases isColon : colon = ':'
            · have traced := traced_valueOfMember within spelling beside afterColon
              rw [isColon] at whole
              rw [if_pos isColon, same, whole]
              rw [quoted, List.cons_append, List.cons_append, List.append_assoc,
                List.append_assoc] at traced
              exact traced
            · rw [if_neg isColon]
              trivial
      · rw [readPart, membersWithin, if_neg quote]
        trivial

theorem tracedWithin (steps : Nat) : TracedWithin steps := by
  -- A reader calls the others with one step less, so the steps carry the induction and not the
  -- text.
  induction steps with
  | zero =>
      intro part input
      cases part <;> trivial
  | succ steps within =>
      intro part input
      cases part with
      | value => exact traced_value within input
      | items => exact traced_items within input
      | members => exact traced_members within input

/-! ### What follows the grammar is read -/

/-- A supply of steps that is enough for a part.  The items of an array start with a value, so one
step goes without a code point. -/
def stepsFor : Part → Text → Nat
  | .value, text => 2 * text.length + 1
  | .items, text => 2 * text.length + 2
  | .members, text => 2 * text.length + 2

theorem stepsFor_pos (part : Part) (text : Text) : 0 < stepsFor part text := by
  cases part <;> exact Nat.succ_pos _

def ReadsWithin (steps : Nat) : Prop :=
  ∀ part text rest, IsText part text → stepsFor part text ≤ steps →
    (part = .value → rest.stops continuesNumber = true) →
      readPart part steps (skipSpaces (text ++ rest)) = .ok rest

def MeetsWithin (count steps : Nat) : Prop :=
  ∀ part text, MeetsLong count part text → stepsFor part text ≤ steps →
    readPart part steps (skipSpaces text) = .error (.longInteger count)

def IsFaulty : Except Failure Text → Prop
  | .error (.fault _ _) => True
  | _ => False

theorem isFaulty_items_bracket (steps : Nat) (after : Text) :
    IsFaulty (readPart .items steps (CodePoint.ofChar ']' :: after)) := by
  rcases steps with _ | _ | steps <;> trivial

theorem isFaulty_members_brace (steps : Nat) (after : Text) :
    IsFaulty (readPart .members steps (CodePoint.ofChar '\x7d' :: after)) := by
  cases steps <;> trivial

theorem isFaulty_nil (part : Part) (steps : Nat) : IsFaulty (readPart part steps []) := by
  cases part <;> rcases steps with _ | _ | steps <;> trivial

theorem readOpened_eq {close : CodePoint} {absent : Fault} {rest : Text}
    {result : Except Failure Text} (closing :
    ∀ after, IsFaulty (readPart inner steps (close :: after))) (noFault : ¬IsFaulty result)
    (read : readPart inner steps (skipSpaces rest) = result) :
    readOpened close absent (readPart inner steps) rest = result := by
  rw [readOpened]
  cases visible : skipSpaces rest with
  | nil =>
      rw [← read, visible] at noFault
      exact absurd (isFaulty_nil inner steps) noFault
  | cons next after =>
      dsimp only
      rw [visible] at read
      by_cases closes : next = close
      · rw [← read, closes] at noFault
        exact absurd (closing after) noFault
      · rw [if_neg closes, read]

theorem readBehind_blank (spaces : blank.all isSpace = true) (close : CodePoint)
    (others : Text → Except Failure Text) (rest : Text) :
    readBehind close others (blank ++ rest) = readBehind close others rest := by
  rw [readBehind, readBehind, skipSpaces_blank spaces]

theorem Padded.stepsFor_le {padded : Text} (around : Padded text padded) :
    stepsFor .value text ≤ 2 * padded.length + 1 := by
  have shorter := around.length_le
  rw [stepsFor]
  omega

theorem bind_readBehind (reads : ReadsWithin steps) {padded : Text} (written : IsText .value text)
    (around : Padded text padded) (bound : 2 * padded.length + 1 ≤ steps) {next : CodePoint}
    (ends : continuesNumber next = false) (close : CodePoint) (others : Text → Except Failure Text)
    (after : Text) :
    (readPart .value steps (skipSpaces (padded ++ next :: after))).bind (readBehind close others) =
      readBehind close others (next :: after) := by
  have enough := Nat.le_trans around.stepsFor_le bound
  obtain ⟨before, behind, spaces, behindSpaces, rfl⟩ := around
  have left : (behind ++ next :: after).stops continuesNumber = true :=
    stops_continuesNumber_blank behindSpaces (by rw [Text.stops, ends]; rfl)
  have read := reads .value text _ written enough (fun _ => left)
  rw [List.append_assoc, skipSpaces_blank spaces, List.append_assoc, read]
  exact readBehind_blank behindSpaces close others (next :: after)

theorem readPart_named {body key : Text} (spelling : IsSpelling body)
    (beside : Padded (quoted body) key) (rest : Text) :
    readPart .members (steps + 1) (skipSpaces (key ++ CodePoint.ofChar ':' :: rest)) =
      (readPart .value steps (skipSpaces rest)).bind
      (readBehind '\x7d' (readPart .members steps)) := by
  obtain ⟨blank, spaces, skipped⟩ := beside.skipSpaces rfl (by decide)
    (CodePoint.ofChar ':' :: rest)
  rw [skipped, quoted, List.cons_append, List.append_assoc, List.singleton_append, readPart_members,
    stringBody]
  generalize CodePoint.ofChar '"' ::
    (body ++ CodePoint.ofChar '"' :: (blank ++ CodePoint.ofChar ':' :: rest)) = opening
  obtain ⟨name, read⟩ := spelling.exists_stringOnto opening []
    (blank ++ CodePoint.ofChar ':' :: rest)
  rw [read]
  dsimp only [Except.map, Except.bind]
  rw [readNamed, skipSpaces_blank spaces]
  rfl

theorem reads_plain {form rest : Text} {json : Json} {first : CodePoint} {others : Text}
    (starts : form = first :: others) (plain : startsPlain first = true)
    (read : plainValue (form ++ rest) = .ok (json, rest)) :
    readPart .value (steps + 1) (skipSpaces (form ++ rest)) = .ok rest := by
  have visible := isSpace_of_startsValue (startsValue_of_startsPlain plain)
  rw [starts, List.cons_append] at read ⊢
  rw [skipSpaces_cons visible, readPart, valueWithin_plain steps plain, read]
  rfl

theorem reads_value (reads : ReadsWithin steps) {rest : Text} (written : IsText .value text)
    (bound : stepsFor .value text ≤ steps + 1) (ends : rest.stops continuesNumber = true) :
    readPart .value (steps + 1) (skipSpaces (text ++ rest)) = .ok rest := by
  cases written with
  | @word word listed =>
      obtain ⟨first, others, starts, plain⟩ := exists_plain_of_mem_words listed
      exact reads_plain starts plain (plainValue_word listed rest)
  | number form =>
      obtain ⟨first, others, starts, plain⟩ := exists_plain_of_number form
      exact reads_plain starts plain (plainValue_number form ends)
  | @string body spelling =>
      rw [quoted, List.cons_append, List.append_assoc, List.singleton_append,
        skipSpaces_cons (by decide), readPart_string, stringBody]
      obtain ⟨text, read⟩ := spelling.exists_stringOnto _ [] rest
      rw [read]
      rfl
  | emptyArray spaces =>
      rw [List.cons_append, List.append_assoc, skipSpaces_cons (by decide), readPart_array,
        readOpened, skipSpaces_blank spaces]
      rfl
  | @array inside written =>
      have read := reads .items inside rest written
        (by simp only [stepsFor, List.length_cons] at bound ⊢; omega) (absurd · Part.items_ne_value)
      rw [List.cons_append, skipSpaces_cons (by decide), readPart_array]
      exact readOpened_eq (isFaulty_items_bracket steps) id read
  | emptyObject spaces =>
      rw [List.cons_append, List.append_assoc, skipSpaces_cons (by decide), readPart_object,
        readOpened, skipSpaces_blank spaces]
      rfl
  | @object inside written =>
      have read := reads .members inside rest written
        (by simp only [stepsFor, List.length_cons] at bound ⊢; omega)
          (absurd · Part.members_ne_value)
      rw [List.cons_append, skipSpaces_cons (by decide), readPart_object]
      exact readOpened_eq (isFaulty_members_brace steps) id read

theorem reads_items (reads : ReadsWithin steps) (written : IsText .items text)
    (bound : stepsFor .items text ≤ steps + 1) (rest : Text) :
    readPart .items (steps + 1) (skipSpaces (text ++ rest)) = .ok rest := by
  cases written with
  | lastItem written around =>
      rw [stepsFor, List.length_append, List.length_singleton] at bound
      rw [List.append_assoc, List.singleton_append, readPart_items,
        bind_readBehind reads written around (by omega) (by decide)]
      rfl
  | item written around more =>
      rw [stepsFor, List.length_append, List.length_cons] at bound
      rw [List.append_assoc, List.cons_append, readPart_items,
        bind_readBehind reads written around (by omega) (by decide)]
      exact reads .items _ rest more (by rw [stepsFor]; omega) (absurd · Part.items_ne_value)

theorem reads_members (reads : ReadsWithin steps) (written : IsText .members text)
    (bound : stepsFor .members text ≤ steps + 1) (rest : Text) :
    readPart .members (steps + 1) (skipSpaces (text ++ rest)) = .ok rest := by
  cases written with
  | lastMember spelling beside written around =>
      rw [stepsFor, List.length_append, List.length_cons, List.length_append, List.length_singleton]
        at bound
      rw [List.append_assoc, List.cons_append, List.append_assoc, List.singleton_append,
        readPart_named spelling beside, bind_readBehind reads written around (by omega) (by decide)]
      rfl
  | member spelling beside written around more =>
      rw [stepsFor, List.length_append, List.length_cons, List.length_append, List.length_cons]
        at bound
      rw [List.append_assoc, List.cons_append, List.append_assoc, List.cons_append,
        readPart_named spelling beside, bind_readBehind reads written around (by omega) (by decide)]
      exact reads .members _ rest more (by rw [stepsFor]; omega) (absurd · Part.members_ne_value)

theorem readsWithin (steps : Nat) : ReadsWithin steps := by
  induction steps with
  | zero =>
      exact fun part text rest written bound =>
        absurd bound (Nat.not_le_of_lt (stepsFor_pos part text))
  | succ steps reads =>
      intro part text rest written bound ends
      cases part with
      | value => exact reads_value reads written bound (ends rfl)
      | items => exact reads_items reads written bound rest
      | members => exact reads_members reads written bound rest

theorem exists_plain_of_withSign (isNegative : Bool) {digit : CodePoint}
    (isDigit : digit.isDigit = true) (more : Text) :
    ∃ first others, withSign isNegative (digit :: more) = first :: others ∧
      startsPlain first = true := by
  cases isNegative with
  | true => exact ⟨_, _, rfl, rfl⟩
  | false => exact ⟨digit, more, rfl, startsPlain_of_isDigit isDigit⟩

theorem meets_value (meets : MeetsWithin count steps) (long : MeetsLong count .value text)
    (bound : stepsFor .value text ≤ steps + 1) :
    readPart .value (steps + 1) (skipSpaces text) = .error (.longInteger count) := by
  cases long with
  | integer long =>
      have read := plainValue_eq_long_iff.2 long
      obtain ⟨isNegative, digit, more, isDigit, rfl, _⟩ := long.exists_cons
      obtain ⟨first, others, starts, plain⟩ := exists_plain_of_withSign isNegative isDigit more
      rw [starts] at read ⊢
      rw [skipSpaces_cons (isSpace_of_startsValue (startsValue_of_startsPlain plain)), readPart,
        valueWithin_plain steps plain, read]
      rfl
  | @array inside long =>
      have read := meets .items inside long
        (by simp only [stepsFor, List.length_cons] at bound ⊢; omega)
      rw [skipSpaces_cons (by decide), readPart_array]
      exact readOpened_eq (isFaulty_items_bracket steps) id read
  | @object inside long =>
      have read := meets .members inside long
        (by simp only [stepsFor, List.length_cons] at bound ⊢; omega)
      rw [skipSpaces_cons (by decide), readPart_object]
      exact readOpened_eq (isFaulty_members_brace steps) id read

theorem meets_items (meets : MeetsWithin count steps) (long : MeetsLong count .items text)
    (bound : stepsFor .items text ≤ steps + 1) :
    readPart .items (steps + 1) (skipSpaces text) = .error (.longInteger count) := by
  cases long with
  | @item blank inside spaces long =>
      rw [stepsFor, List.length_append] at bound
      have read := meets .value inside long (by rw [stepsFor]; omega)
      rw [skipSpaces_blank spaces, readPart_items, read]
      rfl
  | @laterItem text padded others written around long =>
      rw [stepsFor, List.length_append, List.length_cons] at bound
      have read := meets .items others long (by rw [stepsFor]; omega)
      rw [readPart_items, bind_readBehind (readsWithin steps) written around (by omega) (by decide)]
      exact read

theorem meets_members (meets : MeetsWithin count steps) (long : MeetsLong count .members text)
    (bound : stepsFor .members text ≤ steps + 1) :
    readPart .members (steps + 1) (skipSpaces text) = .error (.longInteger count) := by
  cases long with
  | @member body key blank inside spelling beside spaces long =>
      rw [stepsFor, List.length_append, List.length_cons, List.length_append] at bound
      have read := meets .value inside long (by rw [stepsFor]; omega)
      rw [readPart_named spelling beside, skipSpaces_blank spaces, read]
      rfl
  | @laterMember body key text padded others spelling beside written around long =>
      rw [stepsFor, List.length_append, List.length_cons, List.length_append, List.length_cons]
        at bound
      have read := meets .members others long (by rw [stepsFor]; omega)
      rw [readPart_named spelling beside, bind_readBehind (readsWithin steps) written around
        (by omega) (by decide)]
      exact read

theorem meetsWithin (count steps : Nat) : MeetsWithin count steps := by
  induction steps with
  | zero =>
      exact fun part text long bound => absurd bound (Nat.not_le_of_lt (stepsFor_pos part text))
  | succ steps meets =>
      intro part text long bound
      cases part with
      | value => exact meets_value meets long bound
      | items => exact meets_items meets long bound
      | members => exact meets_members meets long bound

/-! ### Whole texts -/

/-- The texts in which an integer of too many digits is met. -/
def MeetsLongInteger (count : Nat) (text : Text) : Prop :=
  ∃ blank rest, blank.all isSpace = true ∧ text = blank ++ rest ∧ MeetsLong count .value rest

theorem isFaulty_mark (steps : Nat) (rest : Text) :
    IsFaulty (readPart .value steps (skipSpaces (CodePoint.byteOrderMark :: rest))) := by
  rw [skipSpaces_cons (by decide)]
  cases steps <;> trivial

theorem not_mark_of_readPart {steps : Nat} {input : Text}
    (noFault : ¬IsFaulty (readPart .value steps (skipSpaces input))) :
    input.head? ≠ some CodePoint.byteOrderMark := by
  intro mark
  obtain ⟨rest, rfl⟩ := List.head?_eq_some_iff.1 mark
  exact noFault (isFaulty_mark steps rest)

theorem valueWithin_of_readPart {steps : Nat} {input : Text} {failure : Failure}
    (read : readPart .value steps input = .error failure) :
    valueWithin steps input = .error failure := by
  rw [readPart] at read
  cases found : valueWithin steps input with
  | error other =>
      rw [found] at read
      cases read
      rfl
  | ok value =>
      rw [found] at read
      cases read

theorem exists_value_of_readPart {steps : Nat} {input rest : Text}
    (read : readPart .value steps input = .ok rest) :
    ∃ value, valueWithin steps input = .ok (value, rest) := by
  rw [readPart] at read
  cases found : valueWithin steps input with
  | error failure =>
      rw [found] at read
      cases read
  | ok value =>
      rw [found] at read
      cases read
      exact ⟨value.1, rfl⟩

theorem ofText_eq_long_iff {input : Text} :
    ofText input = .error (.longInteger count) ↔ MeetsLongInteger count input := by
  constructor
  · intro failed
    obtain ⟨blank, spaces, whole⟩ := exists_blank input
    refine ⟨blank, skipSpaces input, spaces, whole, ?_⟩
    have traced := tracedWithin (2 * input.length + 1) .value (skipSpaces input)
    unfold ofText at failed
    by_cases mark : input.head? = some CodePoint.byteOrderMark
    · rw [if_pos mark] at failed
      cases failed
    · rw [if_neg mark] at failed
      cases read : valueWithin (2 * input.length + 1) (skipSpaces input) with
      | error failure =>
          rw [read] at failed
          cases failed
          rw [readPart, read] at traced
          exact traced
      | ok value =>
          rw [read] at failed
          dsimp only at failed
          split at failed <;> cases failed
  · rintro ⟨blank, rest, spaces, rfl, long⟩
    have read := meetsWithin count (2 * (blank ++ rest).length + 1) .value rest long
      (by rw [stepsFor, List.length_append]; omega)
    rw [← skipSpaces_blank spaces] at read
    -- The mark of byte order is looked for first, but where a value is begun there is none.
    have noMark := not_mark_of_readPart (by rw [read]; exact id)
    unfold ofText
    rw [if_neg noMark, valueWithin_of_readPart read]

theorem exists_ofText_iff {input : Text} :
    (∃ json, ofText input = .ok json) ↔ ∃ text, IsText .value text ∧ Padded text input := by
  constructor
  · rintro ⟨json, read⟩
    obtain ⟨before, spaces, whole⟩ := exists_blank input
    have traced := tracedWithin (2 * input.length + 1) .value (skipSpaces input)
    unfold ofText at read
    by_cases mark : input.head? = some CodePoint.byteOrderMark
    · rw [if_pos mark] at read
      cases read
    · rw [if_neg mark] at read
      cases found : valueWithin (2 * input.length + 1) (skipSpaces input) with
      | error failure =>
          rw [found] at read
          cases read
      | ok value =>
          obtain ⟨value, rest⟩ := value
          rw [found] at read
          dsimp only at read
          by_cases nothing : (skipSpaces rest).isEmpty = true
          · rw [readPart, found] at traced
            obtain ⟨text, written, same⟩ := traced
            obtain ⟨after, afterSpaces, left⟩ := exists_blank rest
            rw [List.isEmpty_iff.1 nothing, List.append_nil] at left
            exact ⟨text, written, before, after, spaces, afterSpaces, left ▸ same ▸ whole⟩
          · rw [if_neg nothing] at read
            cases read
  · rintro ⟨text, written, around⟩
    have enough := around.stepsFor_le
    obtain ⟨before, after, spaces, afterSpaces, rfl⟩ := around
    have ends : after.stops continuesNumber = true := by
      have stops := @stops_continuesNumber_blank after [] afterSpaces rfl
      rw [List.append_nil] at stops
      exact stops
    have read := readsWithin _ .value text after written enough (fun _ => ends)
    rw [← skipSpaces_blank spaces] at read
    have noMark := not_mark_of_readPart (by rw [read]; exact id)
    obtain ⟨value, found⟩ := exists_value_of_readPart read
    have left : skipSpaces after = [] := by
      rw [← List.append_nil after]
      exact skipSpaces_blank afterSpaces []
    unfold ofText
    rw [if_neg noMark, found]
    dsimp only
    rw [left]
    exact ⟨value, rfl⟩

end ContractTypes.Json
