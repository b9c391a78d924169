import ContractTypes.Text.CodePoint
import Mathlib.Data.List.Lex

/-!
The order of texts.

Texts are compared as the lists of the numbers of their code points, in the lexicographic order.  It
is linear, so texts that differ stand in strictly ascending order once they are sorted.
-/

namespace ContractTypes.Text

def numbers (text : Text) : List Nat := text.map CodePoint.val

theorem numbers_cons (point : CodePoint) (rest : Text) :
    numbers (point :: rest) = point.val :: numbers rest := rfl

theorem numbers_injective : Function.Injective numbers :=
  List.map_injective_iff.2 (fun _ _ same => CodePoint.ext same)

theorem le_iff {left right : Text} : left.le right = true ↔ left.numbers ≤ right.numbers := by
  rw [← not_lt]
  induction left generalizing right with
  | nil => exact ⟨fun _ => List.not_lt_nil _, fun _ => rfl⟩
  | cons first left ih =>
      cases right with
      | nil =>
          refine ⟨fun le => absurd le Bool.false_ne_true, fun notLess => ?_⟩
          exact absurd (List.nil_lt_cons _ _) notLess
      | cons second right =>
          rw [numbers_cons, numbers_cons, List.cons_lt_cons_iff, le]
          rcases Nat.lt_trichotomy first.val second.val with less | same | greater
          · rw [if_pos less]
            refine ⟨fun _ => ?_, fun _ => rfl⟩
            rintro (greater | ⟨same, -⟩) <;> omega
          · rw [same, if_neg (Nat.lt_irrefl _), if_neg (Nat.lt_irrefl _), ih]
            refine not_congr ⟨fun less => .inr ⟨rfl, less⟩, fun either => ?_⟩
            exact either.elim (fun less => absurd less (Nat.lt_irrefl _)) And.right
          · rw [if_neg (Nat.not_lt_of_gt greater), if_pos greater]
            exact ⟨fun le => absurd le Bool.false_ne_true, fun notLess =>
              absurd (.inl greater) notLess⟩

theorem le_trans {first second third : Text} (early : first.le second = true)
    (late : second.le third = true) : first.le third = true :=
  le_iff.2 ((le_iff.1 early).trans (le_iff.1 late))

theorem le_total (left right : Text) : (left.le right || right.le left) = true := by
  rw [Bool.or_eq_true, le_iff, le_iff]
  exact LinearOrder.le_total left.numbers right.numbers

theorem pairwise_lt_sorted {texts : List Text} (nodup : texts.Nodup) :
    (sorted texts).Pairwise (fun first second => first.numbers < second.numbers) := by
  have ascending : (texts.mergeSort le).Pairwise (fun first second => first.le second = true) := by
    refine List.pairwise_mergeSort ?_ le_total texts
    exact fun _ _ _ => le_trans
  have differing : (sorted texts).Nodup := (List.mergeSort_perm texts le).nodup_iff.2 nodup
  refine (ascending.and differing).imp ?_
  rintro first second ⟨le, differs⟩
  exact lt_of_le_of_ne (le_iff.1 le) (numbers_injective.ne differs)

end ContractTypes.Text
