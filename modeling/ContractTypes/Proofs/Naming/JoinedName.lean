import ContractTypes.Proofs.Naming.SnakeName
import Mathlib.Data.Set.Function

/-!
Names without underscores.

A camel name begins with a small letter of ASCII and a pascal name with a capital one, and neither
has an underscore; there may be any other code points in them.  The snake form puts an underscore
before each further capital letter, so the parts between these are the runs from one capital letter
to the next, and the pascal form of the parts puts them together again.  Thus the snake form is a
bijection from camel names to names in snake case, and another one from pascal names to them.
-/

namespace ContractTypes

namespace Text

def isJoinedName (isHead : CodePoint → Bool) (name : Text) : Bool :=
  name.head?.any isHead && !name.contains (CodePoint.ofChar '_')

def isCamelName (name : Text) : Bool := name.isJoinedName CodePoint.isSmall

def isPascalName (name : Text) : Bool := name.isJoinedName CodePoint.isCapital

theorem isJoinedName_cons_iff {isHead : CodePoint → Bool} {head : CodePoint} {rest : Text} :
    isJoinedName isHead (head :: rest) = true ↔
      isHead head = true ∧ CodePoint.ofChar '_' ∉ head :: rest := by
  unfold isJoinedName
  rw [Bool.and_eq_true, Bool.not_eq_true', ← Bool.not_eq_true, List.contains_iff_mem]
  exact Iff.rfl

theorem exists_cons_of_isJoinedName {isHead : CodePoint → Bool} {name : Text}
    (joined : name.isJoinedName isHead = true) : ∃ head rest, name = head :: rest ∧
    isHead head = true ∧
      CodePoint.ofChar '_' ∉ head :: rest := by
  cases name with
  | nil => cases joined
  | cons head rest => exact ⟨head, rest, rfl, isJoinedName_cons_iff.1 joined⟩

theorem not_mem_of_mem_splitAt {separator : CodePoint} {text part : Text}
    (member : part ∈ text.splitAt separator) : separator ∉ part := by
  fun_induction splitAt separator text generalizing part with
  | case1 =>
      rw [List.mem_singleton.1 member]
      exact List.not_mem_nil
  | case2 rest ih =>
      rcases List.mem_cons.1 member with rfl | later
      · exact List.not_mem_nil
      · exact ih later
  | case3 point rest differs partless ih => exact absurd partless (splitAt_ne_nil separator rest)
  | case4 point rest differs first others parts ih =>
      rw [parts] at ih
      rcases List.mem_cons.1 member with rfl | later
      · rw [List.mem_cons, not_or]
        exact ⟨Ne.symm differs, ih List.mem_cons_self⟩
      · exact ih (List.mem_cons_of_mem _ later)

theorem splitAt_cons {separator point : CodePoint} {rest first : Text} {others : List Text}
    (differs : point ≠ separator) (parts : rest.splitAt separator = first :: others) :
    splitAt separator (point :: rest) = (point :: first) :: others := by
  rw [splitAt, if_neg differs, parts]

theorem splitAt_of_not_mem {separator : CodePoint} {text : Text} (absent : separator ∉ text) :
    text.splitAt separator = [text] := by
  induction text with
  | nil => rfl
  | cons point rest ih =>
      rw [List.mem_cons, not_or] at absent
      exact splitAt_cons (Ne.symm absent.1) (ih absent.2)

end Text

namespace CodePoint

variable {point : CodePoint}

theorem val_moved_of_isCapital (capital : point.isCapital = true) :
    (point.moved 32).val = point.val + 32 := by
  obtain ⟨low, high⟩ := isBetween_iff.1 capital
  exact val_moved (by omega) (by omega)

theorem isSmall_moved_of_isCapital (capital : point.isCapital = true) :
    (point.moved 32).isSmall = true := by
  obtain ⟨low, high⟩ := isBetween_iff.1 capital
  refine isBetween_iff.2 ?_
  rw [val_moved_of_isCapital capital]
  omega

theorem moved_moved_of_isCapital (capital : point.isCapital = true) :
    (point.moved 32).moved (-32) = point := by
  have value := val_moved_of_isCapital capital
  exact ext (val_moved (by omega) point.isLt)

theorem ne_bar_of_isSmall (small : point.isSmall = true) : point ≠ '_' := by
  rintro rfl
  cases small

theorem ne_bar_of_isCapital (capital : point.isCapital = true) : point ≠ '_' := by
  rintro rfl
  cases capital

end CodePoint

namespace Naming

section Head

variable {head : CodePoint} (letter : head.isSmall = true ∨ head.isCapital = true)

include letter

theorem isSmall_smallLetter : (smallLetter head).isSmall = true := by
  rcases letter with small | capital
  · rw [smallLetter_of_not_isCapital (CodePoint.isCapital_of_isSmall small)]
    exact small
  · rw [smallLetter, if_pos capital]
    exact CodePoint.isSmall_moved_of_isCapital capital

theorem capital_of_letter : head.capital = [(smallLetter head).moved (-32)] := by
  rcases letter with small | capital
  · rw [smallLetter_of_not_isCapital (CodePoint.isCapital_of_isSmall small)]
    exact CodePoint.capital_of_isSmall small
  · have ascii := (CodePoint.isBetween_iff.1 capital).2
    have notSmall : ¬head.isSmall = true := by
      intro small
      exact Bool.eq_false_iff.1 (CodePoint.isCapital_of_isSmall small) capital
    rw [smallLetter, if_pos capital, CodePoint.moved_moved_of_isCapital capital, CodePoint.capital,
      if_pos (by omega), if_neg notSmall]

end Head

/-! ### Snake forms of joined names -/

/-- The parts of what the snake form makes of a text without underscores.  The first part ends
before the first capital letter, and the capital forms of the others give the rest of the text
back. -/
theorem splitAt_flatMap_snakeStep {text : Text} (barless : CodePoint.ofChar '_' ∉ text) :
    ∃ first others,
    Text.splitAt '_' (text.flatMap snakeStep) = first :: others ∧
      first.all (fun point => !point.isCapital) = true ∧ others.all Text.isSnakePart = true ∧
      first ++ others.flatMap capitalized = text := by
  induction text with
  | nil => exact ⟨[], [], rfl, rfl, rfl, rfl⟩
  | cons point rest ih =>
      rw [List.mem_cons, not_or] at barless
      obtain ⟨first, others, parts, plain, shaped, whole⟩ := ih barless.2
      by_cases capital : point.isCapital = true
      · have small := CodePoint.isSmall_moved_of_isCapital capital
        -- The underscore ends an empty part, and the small letter begins the next one.
        refine ⟨[], (point.moved 32 :: first) :: others, ?_, rfl, ?_, ?_⟩
        · rw [List.flatMap_cons, snakeStep, if_pos capital, smallLetter, if_pos capital,
            List.cons_append, List.singleton_append, Text.splitAt, if_pos rfl,
            Text.splitAt_cons (CodePoint.ne_bar_of_isSmall small) parts]
        · rw [List.all_cons, shaped, Bool.and_true]
          exact Text.isSnakePart_cons_iff.2 ⟨small, plain⟩
        · rw [List.nil_append, List.flatMap_cons, capitalized, CodePoint.capital_of_isSmall small,
            CodePoint.moved_moved_of_isCapital capital, List.append_assoc, whole]
          rfl
      · refine ⟨point :: first, others, ?_, ?_, shaped, ?_⟩
        · rw [List.flatMap_cons, snakeStep, if_neg capital, List.singleton_append]
          exact Text.splitAt_cons (Ne.symm barless.1) parts
        · rw [List.all_cons, Bool.eq_false_iff.2 capital, plain]
          rfl
        · rw [List.cons_append, whole]

section Joined

variable {head : CodePoint} {rest : Text} (letter : head.isSmall = true ∨ head.isCapital = true)
  (barless : CodePoint.ofChar '_' ∉ head :: rest)

include letter barless

/-- The parts of the snake form, of which the first one begins with the head. -/
theorem splitAt_snake : ∃ first others,
    Text.splitAt '_' (snake (head :: rest)) = (smallLetter head :: first) :: others ∧
      ((smallLetter head :: first) :: others).all Text.isSnakePart = true ∧
      first ++ others.flatMap capitalized = rest := by
  rw [List.mem_cons, not_or] at barless
  have small := isSmall_smallLetter letter
  obtain ⟨first, others, parts, plain, shaped, whole⟩ := splitAt_flatMap_snakeStep barless.2
  refine ⟨first, others, Text.splitAt_cons (CodePoint.ne_bar_of_isSmall small) parts, ?_, whole⟩
  rw [List.all_cons, shaped, Bool.and_true]
  exact Text.isSnakePart_cons_iff.2 ⟨small, plain⟩

theorem isSnakeName_snake : (snake (head :: rest)).isSnakeName = true := by
  obtain ⟨first, others, parts, shaped, _⟩ := splitAt_snake letter barless
  rw [Text.isSnakeName, parts]
  exact shaped

theorem pascal_of_joined : pascal (head :: rest) = (smallLetter head).moved (-32) :: rest := by
  rw [pascal, Text.splitAt_of_not_mem barless, List.flatMap_singleton, capitalized,
    capital_of_letter letter]
  rfl

theorem pascal_snake_of_joined : pascal (snake (head :: rest)) = pascal (head :: rest) := by
  obtain ⟨first, others, parts, _, whole⟩ := splitAt_snake letter barless
  rw [pascal_of_joined letter barless, pascal, parts, List.flatMap_cons, capitalized,
    CodePoint.capital_of_isSmall (isSmall_smallLetter letter), List.append_assoc, whole]
  rfl

theorem camel_of_joined : camel (head :: rest) = smallLetter head :: rest := by
  rw [camel, pascal_of_joined letter barless, uncapitalized,
    CodePoint.small_capital_of_isSmall (isSmall_smallLetter letter)]
  rfl

theorem camel_snake_of_joined : camel (snake (head :: rest)) = camel (head :: rest) := by
  rw [camel, pascal_snake_of_joined letter barless]
  rfl

/-- The snake form does not see which casing a joined name had before. -/
theorem snake_casing_of_joined (convention : Convention) :
    snake (convention.casing (head :: rest)) = snake (head :: rest) := by
  have small := isSmall_smallLetter letter
  cases convention with
  | pascal =>
      change snake (pascal (head :: rest)) = _
      rw [pascal_of_joined letter barless, snake, smallLetter_capital small]
      rfl
  | camel =>
      change snake (camel (head :: rest)) = _
      rw [camel_of_joined letter barless, snake,
        smallLetter_of_not_isCapital (CodePoint.isCapital_of_isSmall small)]
      rfl
  | snake => exact snake_of_isSnakeName (isSnakeName_snake letter barless)

end Joined

/-! ### The bijections -/

def camelNames : Set Text := {name | name.isCamelName = true}

def pascalNames : Set Text := {name | name.isPascalName = true}

def snakeNames : Set Text := {name | name.isSnakeName = true}

theorem bar_not_mem_pascal {name : Text} (shaped : name.isSnakeName = true) :
    CodePoint.ofChar '_' ∉ pascal name := by
  intro bar
  obtain ⟨part, listed, inside⟩ := List.mem_flatMap.1 bar
  obtain ⟨point, rest, rfl, small, _⟩ :=
    Text.exists_cons_of_isSnakePart (List.all_eq_true.1 shaped part listed)
  rw [capitalized, CodePoint.capital_of_isSmall small] at inside
  rcases List.mem_cons.1 inside with head | later
  · exact CodePoint.ne_bar_of_isCapital (CodePoint.isCapital_moved_of_isSmall small) head.symm
  · exact Text.not_mem_of_mem_splitAt listed (List.mem_cons_of_mem _ later)

theorem snake_mapsTo_camelNames : Set.MapsTo snake camelNames snakeNames := by
  intro name joined
  obtain ⟨head, rest, rfl, small, barless⟩ := Text.exists_cons_of_isJoinedName joined
  exact isSnakeName_snake (.inl small) barless

theorem snake_mapsTo_pascalNames : Set.MapsTo snake pascalNames snakeNames := by
  intro name joined
  obtain ⟨head, rest, rfl, capital, barless⟩ := Text.exists_cons_of_isJoinedName joined
  exact isSnakeName_snake (.inr capital) barless

theorem pascal_mapsTo : Set.MapsTo pascal snakeNames pascalNames := by
  intro name shaped
  have barless := bar_not_mem_pascal shaped
  obtain ⟨point, rest, tail, rfl, small, cased, _⟩ := exists_pascal_of_isSnakeName shaped
  rw [cased] at barless
  change Text.isPascalName (pascal (point :: rest)) = true
  rw [cased]
  exact Text.isJoinedName_cons_iff.2 ⟨CodePoint.isCapital_moved_of_isSmall small, barless⟩

theorem camel_mapsTo : Set.MapsTo camel snakeNames camelNames := by
  intro name shaped
  have barless := bar_not_mem_pascal shaped
  obtain ⟨point, rest, tail, rfl, small, cased, _⟩ := exists_pascal_of_isSnakeName shaped
  rw [cased, List.mem_cons, not_or] at barless
  change Text.isCamelName (camel (point :: rest)) = true
  rw [camel, cased, uncapitalized, CodePoint.small_capital_of_isSmall small]
  refine Text.isJoinedName_cons_iff.2 ⟨small, ?_⟩
  rw [List.mem_cons, not_or]
  exact ⟨Ne.symm (CodePoint.ne_bar_of_isSmall small), barless.2⟩

theorem camel_invOn_snake : Set.InvOn camel snake camelNames snakeNames := by
  refine ⟨fun name joined => ?_, fun name shaped => snake_camel shaped⟩
  obtain ⟨head, rest, rfl, small, barless⟩ := Text.exists_cons_of_isJoinedName joined
  rw [camel_snake_of_joined (.inl small) barless, camel_of_joined (.inl small) barless,
    smallLetter_of_not_isCapital (CodePoint.isCapital_of_isSmall small)]

theorem pascal_invOn_snake : Set.InvOn pascal snake pascalNames snakeNames := by
  refine ⟨fun name joined => ?_, fun name shaped => snake_pascal shaped⟩
  obtain ⟨head, rest, rfl, capital, barless⟩ := Text.exists_cons_of_isJoinedName joined
  rw [pascal_snake_of_joined (.inr capital) barless, pascal_of_joined (.inr capital) barless,
    smallLetter, if_pos capital, CodePoint.moved_moved_of_isCapital capital]

theorem injOn_format {names : Set Text} (apart : Set.InjOn snake names) (convention : Convention)
    (undone : ∀ name ∈ names, snake (convention.casing name) = snake name)
    (namePrefix : Option Text) : Set.InjOn (convention.format namePrefix) names := by
  intro first one second other same
  have cased : convention.casing first = convention.casing second := List.append_cancel_left same
  apply apart one other
  rw [← undone first one, cased, undone second other]

/-- The snake form is a bijection from camel names to names in snake case, whose inverse is the
camel form, and a bijection from pascal names to them, whose inverse is the pascal form.  Under
every convention, and behind every prefix, different camel names are written differently, and so are
different pascal names and different names in snake case. -/
theorem snake_bijOn :
    (Set.BijOn snake camelNames snakeNames ∧ Set.InvOn camel snake camelNames snakeNames) ∧
      (Set.BijOn snake pascalNames snakeNames ∧ Set.InvOn pascal snake pascalNames snakeNames) ∧
      ∀ (convention : Convention) (namePrefix : Option Text),
        Set.InjOn (convention.format namePrefix) camelNames ∧
          Set.InjOn (convention.format namePrefix) pascalNames ∧
          Set.InjOn (convention.format namePrefix) snakeNames := by
  have ofCamel := camel_invOn_snake.bijOn snake_mapsTo_camelNames camel_mapsTo
  have ofPascal := pascal_invOn_snake.bijOn snake_mapsTo_pascalNames pascal_mapsTo
  have fixed : ∀ name ∈ snakeNames, snake name = name := fun name shaped =>
    snake_of_isSnakeName shaped
  refine ⟨⟨ofCamel, camel_invOn_snake⟩, ⟨ofPascal, pascal_invOn_snake⟩, fun convention namePrefix =>
    ⟨?_, ?_, ?_⟩⟩
  · refine injOn_format ofCamel.injOn convention ?_ namePrefix
    intro name joined
    obtain ⟨head, rest, rfl, small, barless⟩ := Text.exists_cons_of_isJoinedName joined
    exact snake_casing_of_joined (.inl small) barless convention
  · refine injOn_format ofPascal.injOn convention ?_ namePrefix
    intro name joined
    obtain ⟨head, rest, rfl, capital, barless⟩ := Text.exists_cons_of_isJoinedName joined
    exact snake_casing_of_joined (.inr capital) barless convention
  · refine injOn_format ?_ convention ?_ namePrefix
    · intro first one second other same
      rw [← fixed first one, same, fixed second other]
    · intro name shaped
      rw [convention.snake_casing shaped, fixed name shaped]

example : snake "parseHTTP" = Text.ofString "parse_h_t_t_p" ∧
  camel "parse_h_t_t_p" = Text.ofString "parseHTTP" := by
  decide +kernel

end Naming

end ContractTypes
