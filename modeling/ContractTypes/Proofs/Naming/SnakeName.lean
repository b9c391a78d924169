import ContractTypes.Naming.Convention
import ContractTypes.Proofs.Naming.Identifier
import Mathlib.Data.List.Nodup

/-!
Names in snake case.

A name is in snake case if each part between its underscores begins with a small letter of ASCII and
holds no capital letter of ASCII.  The snake form of such a name is the name itself, and it is also
the snake form of the pascal and of the camel form.  So no casing gives two names in snake case the
same form.
-/

namespace ContractTypes

namespace Text

def isSnakePart : Text → Bool
  | [] => false
  | point :: rest => point.isSmall && rest.all (fun later => !later.isCapital)

def isSnakeName (name : Text) : Bool := (name.splitAt '_').all isSnakePart

theorem isSnakePart_cons_iff {point : CodePoint} {rest : Text} :
    isSnakePart (point :: rest) = true ↔
    point.isSmall = true ∧ rest.all (fun later => !later.isCapital) = true := by
  unfold isSnakePart
  rw [Bool.and_eq_true]

theorem exists_cons_of_isSnakePart {part : Text} (shaped : part.isSnakePart = true) :
    ∃ point rest, part = point :: rest ∧ point.isSmall = true ∧
      rest.all (fun later => !later.isCapital) = true := by
  cases part with
  | nil => cases shaped
  | cons point rest => exact ⟨point, rest, rfl, isSnakePart_cons_iff.1 shaped⟩

theorem eq_of_splitAt (separator : CodePoint) (text : Text) : ∃ first others,
    text.splitAt separator = first :: others ∧
      text = first ++ others.flatMap (fun part => separator :: part) := by
  induction text with
  | nil => exact ⟨[], [], rfl, rfl⟩
  | cons point rest ih =>
      obtain ⟨first, others, parts, whole⟩ := ih
      by_cases here : point = separator
      · refine ⟨[], first :: others, ?_, ?_⟩
        · rw [splitAt, if_pos here, parts]
        · rw [here, whole]
          rfl
      · refine ⟨point :: first, others, ?_, ?_⟩
        · rw [splitAt, if_neg here, parts]
        · exact congrArg (point :: ·) whole

end Text

namespace CodePoint

variable {point : CodePoint}

theorem isCapital_of_isSmall (small : point.isSmall = true) : point.isCapital = false := by
  obtain ⟨low, high⟩ := isBetween_iff.1 small
  refine Bool.eq_false_iff.2 (fun capital => ?_)
  have below := (isBetween_iff.1 capital).2
  omega

theorem val_moved_of_isSmall (small : point.isSmall = true) :
    (point.moved (-32)).val = point.val - 32 := by
  obtain ⟨low, high⟩ := isBetween_iff.1 small
  exact val_moved (by omega) (by omega)

theorem isCapital_moved_of_isSmall (small : point.isSmall = true) :
    (point.moved (-32)).isCapital = true := by
  obtain ⟨low, high⟩ := isBetween_iff.1 small
  refine isBetween_iff.2 ?_
  rw [val_moved_of_isSmall small]
  omega

theorem moved_moved_of_isSmall (small : point.isSmall = true) :
    (point.moved (-32)).moved 32 = point := by
  obtain ⟨low, high⟩ := isBetween_iff.1 small
  have value := val_moved_of_isSmall small
  exact ext (val_moved (by omega) point.isLt)

theorem capital_of_isSmall (small : point.isSmall = true) :
    point.capital = [point.moved (-32)] := by
  have low := (isBetween_iff.1 small).2
  unfold capital
  rw [if_pos (by omega), if_pos small]

theorem small_capital_of_isSmall (small : point.isSmall = true) :
    (point.moved (-32)).small = [point] := by
  obtain ⟨low, high⟩ := isBetween_iff.1 small
  have value := val_moved_of_isSmall small
  unfold CodePoint.small
  rw [if_pos (by omega), if_pos (isCapital_moved_of_isSmall small), moved_moved_of_isSmall small]

end CodePoint

namespace Naming

theorem smallLetter_of_not_isCapital {point : CodePoint} (plain : point.isCapital = false) :
    smallLetter point = point :=
  if_neg (Bool.eq_false_iff.1 plain)

theorem smallLetter_capital {point : CodePoint} (small : point.isSmall = true) :
    smallLetter (point.moved (-32)) = point := by
  unfold smallLetter
  rw [if_pos (CodePoint.isCapital_moved_of_isSmall small), CodePoint.moved_moved_of_isSmall small]

theorem flatMap_snakeStep {text : Text} (plain : text.all (fun point => !point.isCapital) = true) :
    text.flatMap snakeStep = text := by
  induction text with
  | nil => rfl
  | cons point rest ih =>
      rw [List.all_cons, Bool.and_eq_true, Bool.not_eq_true'] at plain
      rw [List.flatMap_cons, ih plain.2, snakeStep, if_neg (Bool.eq_false_iff.1 plain.1)]
      rfl

theorem flatMap_snakeStep_capitalized {part : Text} (shaped : part.isSnakePart = true) :
    (capitalized part).flatMap snakeStep = CodePoint.ofChar '_' :: part := by
  obtain ⟨point, rest, rfl, small, plain⟩ := Text.exists_cons_of_isSnakePart shaped
  rw [capitalized, CodePoint.capital_of_isSmall small, List.singleton_append, List.flatMap_cons,
    flatMap_snakeStep plain, snakeStep, if_pos (CodePoint.isCapital_moved_of_isSmall small),
    smallLetter_capital small]
  rfl

theorem flatMap_snakeStep_parts {parts : List Text} (shaped : parts.all Text.isSnakePart = true) :
    (parts.flatMap capitalized).flatMap snakeStep =
      parts.flatMap (fun part => CodePoint.ofChar '_' :: part) := by
  induction parts with
  | nil => rfl
  | cons part parts ih =>
      rw [List.all_cons, Bool.and_eq_true] at shaped
      rw [List.flatMap_cons, List.flatMap_append, List.flatMap_cons, ih shaped.2,
        flatMap_snakeStep_capitalized shaped.1]

theorem all_not_isCapital_of_isSnakePart {part : Text} (shaped : part.isSnakePart = true) :
    part.all (fun point => !point.isCapital) = true := by
  obtain ⟨point, rest, rfl, small, plain⟩ := Text.exists_cons_of_isSnakePart shaped
  rw [List.all_cons, CodePoint.isCapital_of_isSmall small, plain]
  rfl

theorem snake_of_all_not_isCapital {name : Text}
    (plain : name.all (fun point => !point.isCapital) = true) : snake name = name := by
  cases name with
  | nil => rfl
  | cons point rest =>
      rw [List.all_cons, Bool.and_eq_true, Bool.not_eq_true'] at plain
      rw [snake, flatMap_snakeStep plain.2, smallLetter_of_not_isCapital plain.1]

theorem snake_of_isSnakeName {name : Text} (shaped : name.isSnakeName = true) :
    snake name = name := by
  apply snake_of_all_not_isCapital
  obtain ⟨first, others, parts, whole⟩ := Text.eq_of_splitAt '_' name
  unfold Text.isSnakeName at shaped
  rw [parts, List.all_cons, Bool.and_eq_true] at shaped
  rw [whole, List.all_append, all_not_isCapital_of_isSnakePart shaped.1, Bool.true_and,
    List.all_flatMap, List.all_eq_true]
  intro part member
  rw [List.all_cons, all_not_isCapital_of_isSnakePart (List.all_eq_true.1 shaped.2 part member)]
  rfl

/-- The pascal form of a name in snake case: the capital of its head, and what the snake form turns
into the rest of the name. -/
theorem exists_pascal_of_isSnakeName {name : Text} (shaped : name.isSnakeName = true) :
    ∃ point rest tail, name = point :: rest ∧ point.isSmall = true ∧
      pascal name = point.moved (-32) :: tail ∧ tail.flatMap snakeStep = rest := by
  obtain ⟨first, others, parts, whole⟩ := Text.eq_of_splitAt '_' name
  unfold Text.isSnakeName at shaped
  rw [parts, List.all_cons, Bool.and_eq_true] at shaped
  obtain ⟨point, rest, rfl, small, plain⟩ := Text.exists_cons_of_isSnakePart shaped.1
  refine ⟨point, rest ++ others.flatMap (fun part => CodePoint.ofChar '_' :: part),
    rest ++ others.flatMap capitalized, whole, small, ?_, ?_⟩
  · rw [pascal, parts, List.flatMap_cons, capitalized, CodePoint.capital_of_isSmall small]
    rfl
  · rw [List.flatMap_append, flatMap_snakeStep plain, flatMap_snakeStep_parts shaped.2]

theorem snake_pascal {name : Text} (shaped : name.isSnakeName = true) :
    snake (pascal name) = name := by
  obtain ⟨point, rest, tail, rfl, small, cased, back⟩ := exists_pascal_of_isSnakeName shaped
  rw [cased, snake, smallLetter_capital small, back]

theorem snake_camel {name : Text} (shaped : name.isSnakeName = true) :
    snake (camel name) = name := by
  obtain ⟨point, rest, tail, rfl, small, cased, back⟩ := exists_pascal_of_isSnakeName shaped
  rw [camel, cased, uncapitalized, CodePoint.small_capital_of_isSmall small, List.singleton_append,
    snake, smallLetter_of_not_isCapital (CodePoint.isCapital_of_isSmall small), back]

end Naming

namespace Convention

theorem snake_casing (convention : Convention) {name : Text} (shaped : name.isSnakeName = true) :
    Naming.snake (convention.casing name) = name := by
  cases convention with
  | pascal => exact Naming.snake_pascal shaped
  | camel => exact Naming.snake_camel shaped
  | snake =>
      change Naming.snake (Naming.snake name) = name
      rw [Naming.snake_of_isSnakeName shaped, Naming.snake_of_isSnakeName shaped]

/-- A convention gives different names of a list different forms. -/
def KeepsApart (convention : Convention) (names : List Text) : Prop :=
  ∀ first ∈ names, ∀ second ∈ names, convention.casing first = convention.casing second →
    first = second

instance (convention : Convention) (names : List Text) : Decidable (convention.KeepsApart names) :=
  inferInstanceAs (Decidable (∀ first ∈ names, ∀ second ∈ names,
    convention.casing first = convention.casing second → first = second))

theorem keepsApart_of_isSnakeName (convention : Convention) {names : List Text}
    (shaped : ∀ name ∈ names, name.isSnakeName = true) : convention.KeepsApart names := by
  intro first one second other same
  rw [← convention.snake_casing (shaped first one), same,
    convention.snake_casing (shaped second other)]

theorem nodup_map_format_iff (convention : Convention) (namePrefix : Option Text)
    {names : List Text} (distinct : names.Nodup) :
    (names.map (convention.format namePrefix)).Nodup ↔ convention.KeepsApart names := by
  rw [List.nodup_map_iff_inj_on distinct]
  unfold format KeepsApart
  simp only [List.append_cancel_left_eq]

end Convention

end ContractTypes
