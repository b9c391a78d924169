import ContractTypes.Naming.Convention
import ContractTypes.Proofs.Result

/-!
Cased names.

A capital or a small form is never empty, so the pascal form of any name has a head, also that of
the empty name; this is the head that the camel form makes small.  A casing puts nothing into a name
but underscores and the capital and small forms of what is in it, so it keeps every property that
these have.
-/

namespace ContractTypes

theorem CodePoint.formIn_ne_nil {runs : List CaseTable.Run} {expansions : List (Nat × List Nat)}
    (filled : ∀ entry ∈ expansions, entry.2.filterMap CodePoint.ofNat? ≠ []) (point : CodePoint) :
    point.formIn runs expansions ≠ [] := by
  fun_cases CodePoint.formIn runs expansions point with
  | case1 numbers found => exact filled _ (mem_of_lookup found)
  | case2 => exact List.cons_ne_nil _ _
  | case3 => exact List.cons_ne_nil _ _

theorem CodePoint.capital_ne_nil (point : CodePoint) : point.capital ≠ [] := by
  fun_cases CodePoint.capital point with
  | case1 => exact List.cons_ne_nil _ _
  | case2 => exact List.cons_ne_nil _ _
  | case3 => exact CodePoint.formIn_ne_nil (by decide) point

namespace Text

theorem splitAt_ne_nil (separator : CodePoint) (text : Text) : text.splitAt separator ≠ [] := by
  fun_cases splitAt separator text with
  | case1 => exact List.cons_ne_nil _ _
  | case2 => exact List.cons_ne_nil _ _
  | case3 => exact List.cons_ne_nil _ _
  | case4 => exact List.cons_ne_nil _ _

theorem all_of_mem_splitAt {separator : CodePoint} {holds : CodePoint → Bool} {text part : Text}
    (all : text.all holds = true) (member : part ∈ text.splitAt separator) :
    part.all holds = true := by
  fun_induction splitAt separator text generalizing part with
  | case1 =>
      rw [List.mem_singleton.1 member]
      rfl
  | case2 rest ih =>
      rw [List.all_cons, Bool.and_eq_true] at all
      rcases List.mem_cons.1 member with rfl | later
      · rfl
      · exact ih all.2 later
  | case3 point rest differs partless ih => exact absurd partless (splitAt_ne_nil separator rest)
  | case4 point rest differs first others parts ih =>
      rw [List.all_cons, Bool.and_eq_true] at all
      rw [parts] at ih
      rcases List.mem_cons.1 member with rfl | later
      · rw [List.all_cons, all.1, ih all.2 List.mem_cons_self]
        rfl
      · exact ih all.2 (List.mem_cons_of_mem _ later)

end Text

namespace Naming

theorem capitalized_ne_nil (part : Text) : capitalized part ≠ [] := by
  cases part with
  | nil => exact List.cons_ne_nil _ _
  | cons point rest =>
      intro empty
      exact point.capital_ne_nil (List.append_eq_nil_iff.1 empty).1

theorem exists_pascal_eq_cons (name : Text) : ∃ head rest, pascal name = head :: rest := by
  apply List.exists_cons_of_ne_nil
  unfold pascal
  cases parts : name.splitAt '_' with
  | nil => exact absurd parts (Text.splitAt_ne_nil _ name)
  | cons first others =>
      intro empty
      rw [List.flatMap_cons] at empty
      exact capitalized_ne_nil first (List.append_eq_nil_iff.1 empty).1

/-- A property that holds of the underscore, and of the capital and small forms of each code point
of which it holds. -/
structure Keeps (holds : CodePoint → Bool) : Prop where
  bar : holds '_' = true
  capital : ∀ point : CodePoint, holds point = true → point.capital.all holds = true
  small : ∀ point : CodePoint, holds point = true → point.small.all holds = true

section Keeps

variable {holds : CodePoint → Bool}

theorem Keeps.capitalized (keeps : Keeps holds) {part : Text} (all : part.all holds = true) :
    (Naming.capitalized part).all holds = true := by
  cases part with
  | nil =>
      rw [Naming.capitalized, List.all_cons, keeps.bar]
      rfl
  | cons point rest =>
      rw [List.all_cons, Bool.and_eq_true] at all
      rw [Naming.capitalized, List.all_append, keeps.capital point all.1, all.2]
      rfl

theorem Keeps.pascal (keeps : Keeps holds) {name : Text} (all : name.all holds = true) :
    (Naming.pascal name).all holds = true := by
  unfold Naming.pascal
  rw [List.all_flatMap, List.all_eq_true]
  intro part member
  exact keeps.capitalized (Text.all_of_mem_splitAt all member)

theorem Keeps.camel (keeps : Keeps holds) {name : Text} (all : name.all holds = true) :
    (Naming.camel name).all holds = true := by
  obtain ⟨head, rest, cased⟩ := exists_pascal_eq_cons name
  have inside := keeps.pascal all
  unfold Naming.camel
  rw [cased, List.all_cons, Bool.and_eq_true] at inside
  rw [cased, uncapitalized, List.all_append, keeps.small head inside.1, inside.2]
  rfl

theorem Keeps.smallLetter (keeps : Keeps holds) {point : CodePoint} (held : holds point = true) :
    holds (Naming.smallLetter point) = true := by
  unfold Naming.smallLetter
  by_cases capital : point.isCapital = true
  · have high := (CodePoint.isBetween_iff.1 capital).2
    have form := keeps.small point held
    unfold CodePoint.small at form
    rw [if_pos (by omega), if_pos capital, List.all_cons, Bool.and_eq_true] at form
    rw [if_pos capital]
    exact form.1
  · rw [if_neg capital]
    exact held

theorem Keeps.snakeStep (keeps : Keeps holds) {point : CodePoint} (held : holds point = true) :
    (Naming.snakeStep point).all holds = true := by
  unfold Naming.snakeStep
  split
  · rw [List.all_cons, List.all_cons, keeps.bar, keeps.smallLetter held]
    rfl
  · rw [List.all_cons, held]
    rfl

theorem Keeps.snake (keeps : Keeps holds) {name : Text} (all : name.all holds = true) :
    (Naming.snake name).all holds = true := by
  cases name with
  | nil => rfl
  | cons point rest =>
      rw [List.all_cons, Bool.and_eq_true] at all
      rw [Naming.snake, List.all_cons, keeps.smallLetter all.1, Bool.true_and, List.all_flatMap,
        List.all_eq_true]
      intro later member
      exact keeps.snakeStep (List.all_eq_true.1 all.2 later member)

end Keeps

end Naming

theorem Naming.Keeps.casing {holds : CodePoint → Bool} (keeps : Naming.Keeps holds)
    (convention : Convention) {name : Text} (all : name.all holds = true) :
    (convention.casing name).all holds = true := by
  cases convention with
  | pascal => exact keeps.pascal all
  | camel => exact keeps.camel all
  | snake => exact keeps.snake all

end ContractTypes
