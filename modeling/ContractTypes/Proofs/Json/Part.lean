import ContractTypes.Proofs.Json.Grammar
import ContractTypes.Proofs.Json.Literal

/-!
The parts of a text.

A part is a value, or what is left of an array or of an object.  Its grammar says which texts are
such parts, whatever they stand for, and in which of them an integer of too many digits is met.  The
readers are taken without the values that they give: they leave the text behind a part.
-/

namespace ContractTypes.Json

inductive Part where
  | value
  /-- The items of an array from one of them on, with the closing bracket. -/
  | items
  /-- The members of an object from one of them on, with the closing brace. -/
  | members

theorem Part.items_ne_value : Part.items ≠ .value := nofun

theorem Part.members_ne_value : Part.members ≠ .value := nofun

/-- The texts that are read, whatever value they stand for. -/
inductive IsText : Part → Text → Prop
  | word {word : Text × Json} (listed : word ∈ words) : IsText .value word.1
  | number (form : NumberForm) : IsText .value form.text
  | string {body : Text} (spelling : IsSpelling body) : IsText .value (quoted body)
  | emptyArray {blank : Text} (spaces : blank.all isSpace = true) :
      IsText .value (CodePoint.ofChar '[' :: (blank ++ [CodePoint.ofChar ']']))
  | array {text : Text} (inside : IsText .items text) : IsText .value (CodePoint.ofChar '[' :: text)
  | emptyObject {blank : Text} (spaces : blank.all isSpace = true) :
      IsText .value (CodePoint.ofChar '\x7b' :: (blank ++ [CodePoint.ofChar '\x7d']))
  | object {text : Text} (inside : IsText .members text) :
      IsText .value (CodePoint.ofChar '\x7b' :: text)
  | lastItem {text padded : Text} (written : IsText .value text) (around : Padded text padded) :
      IsText .items (padded ++ [CodePoint.ofChar ']'])
  | item {text padded others : Text} (written : IsText .value text) (around : Padded text padded)
      (rest : IsText .items others) : IsText .items (padded ++ CodePoint.ofChar ',' :: others)
  | lastMember {body key text padded : Text} (spelling : IsSpelling body)
      (beside : Padded (quoted body) key)
      (written : IsText .value text) (around : Padded text padded) :
      IsText .members (key ++ CodePoint.ofChar ':' :: (padded ++ [CodePoint.ofChar '\x7d']))
  | member {body key text padded others : Text} (spelling : IsSpelling body)
      (beside : Padded (quoted body) key)
      (written : IsText .value text) (around : Padded text padded) (rest : IsText .members others) :
      IsText .members (key ++ CodePoint.ofChar ':' :: (padded ++ CodePoint.ofChar ',' :: others))

/-- The texts in which an integer of too many digits is met: it stands where a value is wanted, and
what stands before it could begin a text that is read. -/
inductive MeetsLong (count : Nat) : Part → Text → Prop
  | integer {text : Text} (long : IsLongInteger count text) : MeetsLong count .value text
  | array {text : Text} (inside : MeetsLong count .items text) :
      MeetsLong count .value (CodePoint.ofChar '[' :: text)
  | object {text : Text} (inside : MeetsLong count .members text) :
      MeetsLong count .value (CodePoint.ofChar '\x7b' :: text)
  | item {blank text : Text} (spaces : blank.all isSpace = true)
      (inside : MeetsLong count .value text) :
      MeetsLong count .items (blank ++ text)
  | laterItem {text padded others : Text} (written : IsText .value text)
      (around : Padded text padded)
      (inside : MeetsLong count .items others) :
      MeetsLong count .items (padded ++ CodePoint.ofChar ',' :: others)
  | member {body key blank text : Text} (spelling : IsSpelling body)
      (beside : Padded (quoted body) key)
      (spaces : blank.all isSpace = true) (inside : MeetsLong count .value text) :
      MeetsLong count .members (key ++ CodePoint.ofChar ':' :: (blank ++ text))
  | laterMember {body key text padded others : Text} (spelling : IsSpelling body)
      (beside : Padded (quoted body) key)
      (written : IsText .value text) (around : Padded text padded)
      (inside : MeetsLong count .members others) :
      MeetsLong count .members
        (key ++ CodePoint.ofChar ':' :: (padded ++ CodePoint.ofChar ',' :: others))

theorem exists_blank (text : Text) : ∃ blank, blank.all isSpace = true ∧
    text = blank ++ skipSpaces text :=
  ⟨text.takeWhile isSpace, List.all_takeWhile, List.takeWhile_append_dropWhile.symm⟩

variable {text blank : Text} {count : Nat}

theorem Padded.behind {padded : Text} (around : Padded text padded)
    (spaces : blank.all isSpace = true) : Padded text (blank ++ padded) := by
  obtain ⟨before, after, beforeSpaces, afterSpaces, rfl⟩ := around
  refine ⟨blank ++ before, after, ?_, afterSpaces, (List.append_assoc _ _ _).symm⟩
  rw [List.all_append, spaces, beforeSpaces]
  rfl

theorem padded_before (text : Text) (spaces : blank.all isSpace = true) :
    Padded text (text ++ blank) :=
  ⟨[], blank, rfl, spaces, rfl⟩

variable {part inner : Part}

theorem IsText.behind (inside : IsText inner text) (several : inner ≠ .value)
    (spaces : blank.all isSpace = true) : IsText inner (blank ++ text) := by
  cases inside with
  | lastItem written around =>
      rw [← List.append_assoc]
      exact .lastItem written (around.behind spaces)
  | item written around rest =>
      rw [← List.append_assoc]
      exact .item written (around.behind spaces) rest
  | lastMember spelling beside written around =>
      rw [← List.append_assoc]
      exact .lastMember spelling (beside.behind spaces) written around
  | member spelling beside written around rest =>
      rw [← List.append_assoc]
      exact .member spelling (beside.behind spaces) written around rest
  | _ => exact absurd rfl several

theorem MeetsLong.behind (inside : MeetsLong count inner text) (several : inner ≠ .value)
    (spaces : blank.all isSpace = true) : MeetsLong count inner (blank ++ text) := by
  cases inside with
  | @item before text beforeSpaces inside =>
      rw [← List.append_assoc]
      exact .item (by rw [List.all_append, spaces, beforeSpaces]; rfl) inside
  | laterItem written around inside =>
      rw [← List.append_assoc]
      exact .laterItem written (around.behind spaces) inside
  | member spelling beside valueSpaces inside =>
      rw [← List.append_assoc]
      exact .member spelling (beside.behind spaces) valueSpaces inside
  | laterMember spelling beside written around inside =>
      rw [← List.append_assoc]
      exact .laterMember spelling (beside.behind spaces) written around inside
  | _ => exact absurd rfl several

/-! ### The readers without the values -/

def readPart : Part → Nat → Text → Except Failure Text
  | .value, steps, input => (valueWithin steps input).map (·.2)
  | .items, steps, input => (itemsWithin steps input).map (·.2)
  | .members, steps, input => (membersWithin steps input).map (·.2)

def readOpened (close : CodePoint) (absent : Fault) (inside : Text → Except Failure Text)
    (rest : Text) : Except Failure Text :=
  match skipSpaces rest with
  | [] => .error (.fault absent [])
  | next :: after => if next = close then .ok after else inside (next :: after)

def readBehind (close : CodePoint) (others : Text → Except Failure Text) (rest : Text) :
    Except Failure Text :=
  match skipSpaces rest with
  | [] => .error (.fault .expectedComma [])
  | next :: after =>
      if next = close then .ok after
      else if next = ',' then others (skipSpaces after)
      else .error (.fault .expectedComma (next :: after))

def readNamed (value : Text → Except Failure Text) (rest : Text) : Except Failure Text :=
  match skipSpaces rest with
  | [] => .error (.fault .expectedColon [])
  | colon :: after =>
      if colon = ':' then value (skipSpaces after) else
        .error (.fault .expectedColon (colon :: after))

variable {steps : Nat}

theorem readPart_string (steps : Nat) (rest : Text) :
    readPart .value (steps + 1) (CodePoint.ofChar '"' :: rest) =
    (stringBody (CodePoint.ofChar '"' :: rest) rest).map (·.2) := by
  rw [readPart, valueWithin, if_pos rfl]
  cases stringBody (CodePoint.ofChar '"' :: rest) rest <;> rfl

theorem readPart_array (steps : Nat) (rest : Text) :
    readPart .value (steps + 1) (CodePoint.ofChar '[' :: rest) =
    readOpened ']' .expectedValue (readPart .items steps) rest := by
  rw [readPart, valueWithin, if_neg (by decide), if_pos rfl, readOpened]
  cases skipSpaces rest with
  | nil => rfl
  | cons next after =>
      dsimp only
      by_cases closed : next = ']'
      · rw [if_pos closed, if_pos closed]
        rfl
      · rw [if_neg closed, if_neg closed, readPart]
        cases itemsWithin steps (next :: after) <;> rfl

theorem readPart_object (steps : Nat) (rest : Text) :
    readPart .value (steps + 1) (CodePoint.ofChar '\x7b' :: rest) =
    readOpened '\x7d' .expectedName (readPart .members steps) rest := by
  rw [readPart, valueWithin, if_neg (by decide), if_neg (by decide), if_pos rfl, readOpened]
  cases skipSpaces rest with
  | nil => rfl
  | cons next after =>
      dsimp only
      by_cases closed : next = '\x7d'
      · rw [if_pos closed, if_pos closed]
        rfl
      · rw [if_neg closed, if_neg closed, readPart]
        cases membersWithin steps (next :: after) <;> rfl

theorem readPart_plain (steps : Nat) {point : CodePoint} (noQuote : point ≠ '"')
    (noBracket : point ≠ '[') (noBrace : point ≠ '\x7b') (rest : Text) :
    readPart .value (steps + 1) (point :: rest) = (plainValue (point :: rest)).map (·.2) := by
  rw [readPart, valueWithin, if_neg noQuote, if_neg noBracket, if_neg noBrace]

theorem readPart_items (steps : Nat) (input : Text) : readPart .items (steps + 1) input =
    (readPart .value steps input).bind (readBehind ']' (readPart .items steps)) := by
  rw [readPart, readPart, itemsWithin]
  cases valueWithin steps input with
  | error failure => rfl
  | ok read =>
      obtain ⟨value, rest⟩ := read
      change Except.map _ _ = readBehind _ _ rest
      rw [readBehind]
      dsimp only
      cases skipSpaces rest with
      | nil => rfl
      | cons next after =>
          dsimp only
          by_cases closed : next = ']'
          · rw [if_pos closed, if_pos closed]
            rfl
          rw [if_neg closed, if_neg closed]
          by_cases comma : next = ','
          · rw [if_pos comma, if_pos comma, readPart]
            cases itemsWithin steps (skipSpaces after) <;> rfl
          · rw [if_neg comma, if_neg comma]
            rfl

theorem readPart_members (steps : Nat) (rest : Text) :
    readPart .members (steps + 1) (CodePoint.ofChar '"' :: rest) =
      ((stringBody (CodePoint.ofChar '"' :: rest) rest).map (·.2)).bind (readNamed (fun input =>
        (readPart .value steps input).bind (readBehind '\x7d' (readPart .members steps)))) := by
  rw [readPart, membersWithin, if_pos rfl]
  cases stringBody (CodePoint.ofChar '"' :: rest) rest with
  | error failure => rfl
  | ok read =>
      obtain ⟨name, afterName⟩ := read
      dsimp only [Except.map, Except.bind]
      rw [readNamed]
      cases skipSpaces afterName with
      | nil => rfl
      | cons colon afterColon =>
          dsimp only
          by_cases isColon : colon = ':'
          · rw [if_pos isColon, if_pos isColon, readPart]
            cases valueWithin steps (skipSpaces afterColon) with
            | error failure => rfl
            | ok read =>
                obtain ⟨value, afterValue⟩ := read
                dsimp only [Except.map]
                rw [readBehind]
                cases skipSpaces afterValue with
                | nil => rfl
                | cons next after =>
                    dsimp only
                    by_cases closes : next = '\x7d'
                    · rw [if_pos closes, if_pos closes]
                    · rw [if_neg closes, if_neg closes]
                      by_cases comma : next = ','
                      · rw [if_pos comma, if_pos comma, readPart]
                        cases membersWithin steps (skipSpaces after) <;> rfl
                      · rw [if_neg comma, if_neg comma]
          · rw [if_neg isColon, if_neg isColon]

end ContractTypes.Json
