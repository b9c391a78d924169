import ContractTypes.Naming.Convention
import ContractTypes.Proofs.Naming.Casing
import ContractTypes.Proofs.Text.Reading

/-!
Identifiers.

An identifier is a letter of ASCII or an underscore, followed by such letters, underscores and
digits.  The pascal form drops underscores, and yet no digit comes to its head: an empty part gives
an underscore back, and the first part of an identifier is empty or starts with a letter.  So every
casing of an identifier is an identifier, also behind a text that is one, and behind no other text.
-/

namespace ContractTypes

namespace CodePoint

def startsIdentifier (point : CodePoint) : Bool := point.isCapital || point.isSmall || point = '_'

def continuesIdentifier (point : CodePoint) : Bool := point.startsIdentifier || point.isDigit

end CodePoint

def Text.isIdentifier : Text → Bool
  | [] => false
  | point :: rest => point.startsIdentifier && rest.all CodePoint.continuesIdentifier

def Text.identifierAt : Text → Option (Text × Text)
  | [] => none
  | point :: rest =>
      if point.startsIdentifier then
        some (point :: rest.takeWhile CodePoint.continuesIdentifier,
          rest.dropWhile CodePoint.continuesIdentifier)
      else none

/-- Whether the text in front of names, if there is one, is an identifier or empty. -/
def Convention.isPlainPrefix : Option Text → Bool
  | none => true
  | some text => text.isEmpty || text.isIdentifier

namespace CodePoint

variable {point : CodePoint}

theorem startsIdentifier_iff : point.startsIdentifier = true ↔
    0x41 ≤ point.val ∧ point.val ≤ 0x5A ∨ 0x61 ≤ point.val ∧ point.val ≤ 0x7A ∨
      point.val = 0x5F := by
  unfold startsIdentifier isCapital isSmall
  rw [Bool.or_eq_true, Bool.or_eq_true, isBetween_iff, isBetween_iff, decide_eq_true_iff, eq_iff,
    or_assoc]
  exact Iff.rfl

theorem continuesIdentifier_iff : point.continuesIdentifier = true ↔
    point.startsIdentifier = true ∨ 0x30 ≤ point.val ∧ point.val ≤ 0x39 := by
  unfold continuesIdentifier isDigit
  rw [Bool.or_eq_true, isBetween_iff]

theorem continuesIdentifier_of_starts (starts : point.startsIdentifier = true) :
    point.continuesIdentifier = true :=
  continuesIdentifier_iff.2 (.inl starts)

theorem val_moved {distance : Int} {number : Nat} (target : (point.val : Int) + distance = number)
    (bound : number < 0x110000) : (point.moved distance).val = number := by
  unfold moved ofNat?
  rw [target, Int.toNat_natCast, dif_pos bound]
  rfl

theorem isDigit_of_starts (starts : point.startsIdentifier = true) : point.isDigit = false := by
  rw [startsIdentifier_iff] at starts
  refine Bool.eq_false_iff.2 (fun digit => ?_)
  have range := isBetween_iff.1 digit
  omega

/-- A capital or a small form that is one code point, which may stand where the code point itself
may. -/
def KeepsIdentifier (point : CodePoint) (form : Text) : Prop :=
  ∃ letter, form = [letter] ∧ (point.startsIdentifier = true → letter.startsIdentifier = true) ∧
    (point.continuesIdentifier = true → letter.continuesIdentifier = true)

theorem keepsIdentifier_self (point : CodePoint) : point.KeepsIdentifier [point] :=
  ⟨point, rfl, id, id⟩

theorem keepsIdentifier_letter {letter : CodePoint} (starts : letter.startsIdentifier = true) :
    point.KeepsIdentifier [letter] :=
  ⟨letter, rfl, fun _ => starts, fun _ => continuesIdentifier_of_starts starts⟩

theorem starts_moved_of_isSmall (small : point.isSmall = true) :
    (point.moved (-32)).startsIdentifier = true := by
  obtain ⟨low, high⟩ := isBetween_iff.1 small
  have value : (point.moved (-32)).val = point.val - 32 := val_moved (by omega) (by omega)
  rw [startsIdentifier_iff, value]
  omega

theorem starts_moved_of_isCapital (capital : point.isCapital = true) :
    (point.moved 32).startsIdentifier = true := by
  obtain ⟨low, high⟩ := isBetween_iff.1 capital
  have value : (point.moved 32).val = point.val + 32 := val_moved (by omega) (by omega)
  rw [startsIdentifier_iff, value]
  omega

theorem val_lt_of_continues (continues : point.continuesIdentifier = true) : point.val < 0x80 := by
  rw [continuesIdentifier_iff, startsIdentifier_iff] at continues
  omega

theorem keepsIdentifier_capital (continues : point.continuesIdentifier = true) :
    point.KeepsIdentifier point.capital := by
  unfold capital
  rw [if_pos (val_lt_of_continues continues)]
  by_cases small : point.isSmall = true
  · rw [if_pos small]
    exact keepsIdentifier_letter (starts_moved_of_isSmall small)
  · rw [if_neg small]
    exact keepsIdentifier_self point

theorem keepsIdentifier_smallLetter (point : CodePoint) :
    point.KeepsIdentifier [Naming.smallLetter point] := by
  unfold Naming.smallLetter
  by_cases capital : point.isCapital = true
  · rw [if_pos capital]
    exact keepsIdentifier_letter (starts_moved_of_isCapital capital)
  · rw [if_neg capital]
    exact keepsIdentifier_self point

theorem keepsIdentifier_small (continues : point.continuesIdentifier = true) :
    point.KeepsIdentifier point.small := by
  unfold small
  rw [if_pos (val_lt_of_continues continues)]
  by_cases capital : point.isCapital = true
  · rw [if_pos capital]
    exact keepsIdentifier_letter (starts_moved_of_isCapital capital)
  · rw [if_neg capital]
    exact keepsIdentifier_self point

end CodePoint

/-! ### Identifiers as texts -/

namespace Text

theorem isIdentifier_cons_iff {point : CodePoint} {rest : Text} :
    Text.isIdentifier (point :: rest) = true ↔
      point.startsIdentifier = true ∧ rest.all CodePoint.continuesIdentifier = true := by
  unfold isIdentifier
  rw [Bool.and_eq_true]

theorem exists_cons_of_isIdentifier {text : Text} (shaped : text.isIdentifier = true) :
    ∃ point rest, text = point :: rest ∧ point.startsIdentifier = true ∧
      rest.all CodePoint.continuesIdentifier = true := by
  cases text with
  | nil => cases shaped
  | cons point rest => exact ⟨point, rest, rfl, isIdentifier_cons_iff.1 shaped⟩

theorem all_continues_of_isIdentifier {text : Text} (shaped : text.isIdentifier = true) :
    text.all CodePoint.continuesIdentifier = true := by
  obtain ⟨point, rest, rfl, starts, continues⟩ := exists_cons_of_isIdentifier shaped
  rw [List.all_cons, CodePoint.continuesIdentifier_of_starts starts, continues]
  rfl

theorem isIdentifier_append {first second : Text} (shaped : first.isIdentifier = true)
    (continues : second.all CodePoint.continuesIdentifier = true) :
    Text.isIdentifier (first ++ second) = true := by
  obtain ⟨point, rest, rfl, starts, inside⟩ := exists_cons_of_isIdentifier shaped
  rw [List.cons_append, isIdentifier_cons_iff, List.all_append, inside, continues]
  exact ⟨starts, rfl⟩

/-- In front of an identifier, nothing but an identifier or the empty text makes an identifier. -/
theorem isIdentifier_append_iff {first second : Text} (shaped : second.isIdentifier = true) :
    Text.isIdentifier (first ++ second) = true ↔ (first.isEmpty || first.isIdentifier) = true := by
  cases first with
  | nil => exact iff_of_true shaped rfl
  | cons point rest =>
      rw [List.cons_append, isIdentifier_cons_iff, List.all_append,
        all_continues_of_isIdentifier shaped, Bool.and_true, ← isIdentifier_cons_iff]
      exact Iff.rfl

theorem identifierAt_append {name rest : Text} (shaped : name.isIdentifier = true)
    (ends : stops CodePoint.continuesIdentifier rest = true) :
    identifierAt (name ++ rest) = some (name, rest) := by
  obtain ⟨point, inside, rfl, starts, continues⟩ := exists_cons_of_isIdentifier shaped
  rw [List.cons_append, identifierAt, if_pos starts, takeWhile_append continues ends,
    dropWhile_append continues ends]

theorem splitAt_cons_of_ne {separator point : CodePoint} (differs : point ≠ separator)
    (rest : Text) :
    ∃ part parts, Text.splitAt separator (point :: rest) = (point :: part) :: parts := by
  rw [splitAt, if_neg differs]
  split
  · exact ⟨_, _, rfl⟩
  · exact ⟨_, _, rfl⟩

end Text

/-! ### Casings -/

namespace Naming

theorem keeps_continuesIdentifier : Keeps CodePoint.continuesIdentifier where
  bar := by decide
  capital := by
    intro point continues
    obtain ⟨letter, form, _, keeps⟩ := CodePoint.keepsIdentifier_capital continues
    rw [form, List.all_cons, keeps continues]
    rfl
  small := by
    intro point continues
    obtain ⟨letter, form, _, keeps⟩ := CodePoint.keepsIdentifier_small continues
    rw [form, List.all_cons, keeps continues]
    rfl

theorem isIdentifier_capitalized {part : Text} (shaped : part.isIdentifier = true) :
    (capitalized part).isIdentifier = true := by
  obtain ⟨point, rest, rfl, starts, continues⟩ := Text.exists_cons_of_isIdentifier shaped
  obtain ⟨letter, form, keeps, _⟩ :=
    CodePoint.keepsIdentifier_capital (CodePoint.continuesIdentifier_of_starts starts)
  rw [capitalized, form, List.singleton_append]
  exact Text.isIdentifier_cons_iff.2 ⟨keeps starts, continues⟩

theorem isIdentifier_pascal {name : Text} (shaped : name.isIdentifier = true) :
    (pascal name).isIdentifier = true := by
  have members (part : Text) (member : part ∈ name.splitAt '_') :
      part.all CodePoint.continuesIdentifier = true :=
    Text.all_of_mem_splitAt (Text.all_continues_of_isIdentifier shaped) member
  have tail (parts : List Text) (inside : ∀ part ∈ parts, part ∈ name.splitAt '_') :
      (parts.flatMap capitalized).all CodePoint.continuesIdentifier = true := by
    rw [List.all_flatMap, List.all_eq_true]
    intro part member
    exact keeps_continuesIdentifier.capitalized (members part (inside part member))
  obtain ⟨point, rest, rfl, starts, continues⟩ := Text.exists_cons_of_isIdentifier shaped
  unfold pascal
  by_cases bar : point = '_'
  · -- The first part is empty, and the underscore that it gives back is the head.
    have parts : Text.splitAt '_' (point :: rest) = [] :: Text.splitAt '_' rest := by
      rw [Text.splitAt, if_pos bar]
    rw [parts] at tail ⊢
    rw [List.flatMap_cons]
    exact Text.isIdentifier_append (by decide) (tail _ fun part => List.mem_cons_of_mem _)
  · obtain ⟨part, others, parts⟩ := Text.splitAt_cons_of_ne bar rest
    rw [parts] at members tail ⊢
    rw [List.flatMap_cons]
    have inside := members _ List.mem_cons_self
    rw [List.all_cons, Bool.and_eq_true] at inside
    have first : Text.isIdentifier (point :: part) = true :=
      Text.isIdentifier_cons_iff.2 ⟨starts, inside.2⟩
    exact Text.isIdentifier_append (isIdentifier_capitalized first)
      (tail _ fun part => List.mem_cons_of_mem _)

theorem isIdentifier_camel {name : Text} (shaped : name.isIdentifier = true) :
    (camel name).isIdentifier = true := by
  unfold camel
  obtain ⟨point, rest, pascal, starts, continues⟩ :=
    Text.exists_cons_of_isIdentifier (isIdentifier_pascal shaped)
  obtain ⟨letter, form, keeps, _⟩ :=
    CodePoint.keepsIdentifier_small (CodePoint.continuesIdentifier_of_starts starts)
  rw [pascal, uncapitalized, form, List.singleton_append]
  exact Text.isIdentifier_cons_iff.2 ⟨keeps starts, continues⟩

theorem isIdentifier_snake {name : Text} (shaped : name.isIdentifier = true) :
    (snake name).isIdentifier = true := by
  obtain ⟨point, rest, rfl, starts, continues⟩ := Text.exists_cons_of_isIdentifier shaped
  obtain ⟨letter, form, keeps, _⟩ := CodePoint.keepsIdentifier_smallLetter point
  rw [snake, (List.cons.inj form).1]
  refine Text.isIdentifier_cons_iff.2 ⟨keeps starts, ?_⟩
  rw [List.all_flatMap, List.all_eq_true]
  intro inner member
  exact keeps_continuesIdentifier.snakeStep (List.all_eq_true.1 continues inner member)

end Naming

namespace Convention

theorem isIdentifier_casing (convention : Convention) {name : Text}
    (shaped : name.isIdentifier = true) : (convention.casing name).isIdentifier = true := by
  cases convention with
  | pascal => exact Naming.isIdentifier_pascal shaped
  | camel => exact Naming.isIdentifier_camel shaped
  | snake => exact Naming.isIdentifier_snake shaped

theorem isIdentifier_format_iff (convention : Convention) (namePrefix : Option Text) {name : Text}
    (shaped : name.isIdentifier = true) :
    (convention.format namePrefix name).isIdentifier = true ↔ isPlainPrefix namePrefix = true := by
  have cased := convention.isIdentifier_casing shaped
  cases namePrefix with
  | none => exact iff_of_true cased rfl
  | some text => exact Text.isIdentifier_append_iff cased

theorem isIdentifier_format (convention : Convention) {namePrefix : Option Text} {name : Text}
    (plain : isPlainPrefix namePrefix = true) (shaped : name.isIdentifier = true) :
    (convention.format namePrefix name).isIdentifier = true :=
  (convention.isIdentifier_format_iff namePrefix shaped).2 plain

/-- A formatter makes an identifier of an identifier exactly if the text that it puts in front is
one, or empty, or absent.  Then there is a head to the formatted name, and it is no digit. -/
theorem identifier_formatted (convention : Convention) (namePrefix : Option Text) {name : Text}
    (shaped : name.isIdentifier = true) :
    ((convention.format namePrefix name).isIdentifier = true ↔ isPlainPrefix namePrefix = true) ∧
      (isPlainPrefix namePrefix = true → ∃ head rest,
        convention.format namePrefix name = head :: rest ∧ head.isDigit = false) := by
  refine ⟨convention.isIdentifier_format_iff namePrefix shaped, fun plain => ?_⟩
  obtain ⟨head, rest, cased, starts, _⟩ :=
    Text.exists_cons_of_isIdentifier (convention.isIdentifier_format plain shaped)
  exact ⟨head, rest, cased, CodePoint.isDigit_of_starts starts⟩

/-- An underscore stays in front of the digit, though the camel form drops another one. -/
theorem identifier_formatted_digits : Text.isIdentifier "_1st__try" = true ∧
    camel.format (some "") "_1st__try" = "_1st_Try" ∧
    (camel.format (some "") "_1st__try").isIdentifier = true ∧
    (camel.format (some "2") "_1st__try").isIdentifier = false := by
  have shaped : Text.isIdentifier "_1st__try" = true := by decide
  have bare := camel.identifier_formatted (some "") shaped
  have behind := camel.identifier_formatted (some "2") shaped
  refine ⟨shaped, by decide +kernel, bare.1.2 rfl, ?_⟩
  exact Bool.eq_false_iff.2 (mt behind.1.1 (by decide))

end Convention

end ContractTypes
