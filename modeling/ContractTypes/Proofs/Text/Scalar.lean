import ContractTypes.Proofs.Result
import ContractTypes.Text.Case
import ContractTypes.Text.Utf8
import Mathlib.Data.List.TakeWhile

/-!
Scalar texts.

UTF-8 has a form for a text exactly if no surrogate occurs in it.  The tables of capital and small
forms lead from no other code point to a surrogate: a run of code points that are mapped by one
distance has all of its images below the surrogates or all of them above.
-/

namespace ContractTypes

namespace Text

variable {first second : Text}

theorem isScalar_nil : isScalar [] = true := rfl

theorem isScalar_append_iff :
    isScalar (first ++ second) = true ↔ first.isScalar = true ∧ second.isScalar = true := by
  unfold isScalar
  rw [List.all_append, Bool.and_eq_true]

theorem isScalar_cons_iff {point : CodePoint} {rest : Text} :
    isScalar (point :: rest) = true ↔ point.isSurrogate = false ∧ rest.isScalar = true := by
  unfold isScalar
  rw [List.all_cons, Bool.and_eq_true, Bool.not_eq_true']

theorem isScalar_singleton_iff {point : CodePoint} :
    isScalar [point] = true ↔ point.isSurrogate = false := by
  rw [isScalar_cons_iff]
  exact and_iff_left isScalar_nil

theorem isScalar_flatMap_iff {Item : Type} {items : List Item} {part : Item → Text} :
    isScalar (items.flatMap part) = true ↔ ∀ item ∈ items, (part item).isScalar = true := by
  unfold isScalar
  rw [List.all_flatMap, List.all_eq_true]

end Text

theorem Utf8.encode_eq_ok_iff {text : Text} {bytes : Bytes} :
    encode text = .ok bytes ↔ text.isScalar = true ∧ bytes = text.flatMap encodePoint := by
  have all : text.isScalar = true ↔ text.dropWhile (fun point => !point.isSurrogate) = [] := by
    rw [List.dropWhile_eq_nil_iff]
    exact List.all_eq_true
  rw [all]
  unfold encode
  cases text.dropWhile (fun point => !point.isSurrogate) with
  | nil =>
      constructor
      · intro encoded
        exact ⟨rfl, (Except.ok.inj encoded).symm⟩
      · rintro ⟨_, rfl⟩
        rfl
  | cons point rest =>
      constructor
      · intro encoded
        cases encoded
      · rintro ⟨none, _⟩
        cases none

theorem Utf8.exists_encode_iff {text : Text} :
    (∃ bytes, encode text = .ok bytes) ↔ text.isScalar = true := by
  simp only [encode_eq_ok_iff, exists_and_left, exists_eq, and_true]

def CaseTable.Run.keepsAside (run : Run) : Bool :=
  decide ((run.last : Int) + run.distance < 0xD800) ||
    decide (0xDFFF < (run.first : Int) + run.distance)

namespace CodePoint

variable {point : CodePoint}

theorem isSurrogate_eq_false_iff : point.isSurrogate = false ↔
    point.val < 0xD800 ∨ 0xDFFF < point.val := by
  rw [Bool.eq_false_iff, ne_eq, isSurrogate, isBetween_iff]
  omega

theorem isSurrogate_of_val_lt (below : point.val < 0xD800) : point.isSurrogate = false :=
  isSurrogate_eq_false_iff.2 (.inl below)

theorem ofNat?_eq_some {number : Nat} (found : ofNat? number = some point) :
    point.val = number := by
  unfold ofNat? at found
  split at found
  · rw [← Option.some.inj found]
  · cases found

/-- The place a code point is moved to, or its own where there is none. -/
theorem moved_cases (point : CodePoint) (distance : Int) :
    point.moved distance = point ∨ (point.moved distance).val =
      Int.toNat (point.val + distance) := by
  unfold moved
  cases found : ofNat? (Int.toNat (point.val + distance)) with
  | none => exact .inl rfl
  | some target => exact .inr (ofNat?_eq_some found)

theorem isSurrogate_moved (distance : Int) (scalar : point.isSurrogate = false)
    (aside : (point.val : Int) + distance < 0xD800 ∨ 0xDFFF < (point.val : Int) + distance) :
    (point.moved distance).isSurrogate = false := by
  rcases moved_cases point distance with same | target
  · rw [same]
    exact scalar
  · rw [isSurrogate_eq_false_iff, target]
    omega

theorem isScalar_moved_of_run {run : CaseTable.Run} (aside : run.keepsAside = true)
    (held : run.holds point.val = true) (scalar : point.isSurrogate = false) :
    Text.isScalar [point.moved run.distance] = true := by
  refine Text.isScalar_singleton_iff.2 (isSurrogate_moved run.distance scalar ?_)
  unfold CaseTable.Run.holds at held
  rw [Bool.and_eq_true, Bool.and_eq_true] at held
  have above := Nat.le_of_ble_eq_true held.1.1
  have below := Nat.le_of_ble_eq_true held.1.2
  rcases Bool.or_eq_true_iff.1 aside with low | high
  · have bound := of_decide_eq_true low
    omega
  · have bound := of_decide_eq_true high
    omega

theorem isScalar_formIn {runs : List CaseTable.Run} {expansions : List (Nat × List Nat)}
    (aside : runs.all CaseTable.Run.keepsAside = true)
    (below : expansions.all (fun entry => entry.2.all (fun number => decide (number < 0xD800))) =
      true)
    (scalar : point.isSurrogate = false) :
    (point.formIn runs expansions).isScalar = true := by
  fun_cases formIn runs expansions point with
  | case1 numbers found =>
      have entry := mem_of_lookup found
      apply List.all_eq_true.2
      intro image member
      obtain ⟨number, inside, made⟩ := List.mem_filterMap.1 member
      have each := List.all_eq_true.1 (List.all_eq_true.1 below _ entry) number inside
      have low := of_decide_eq_true each
      rw [← ofNat?_eq_some made] at low
      rw [isSurrogate_of_val_lt low]
      rfl
  | case2 _ run found =>
      have listed := List.all_eq_true.1 aside run (List.mem_of_find?_eq_some found)
      have held := List.find?_some found
      exact isScalar_moved_of_run listed held scalar
  | case3 => exact Text.isScalar_singleton_iff.2 scalar

theorem isSurrogate_moved_of_ascii {distance : Int} (ascii : point.val < 0x80)
    (short : distance ≤ 0x80) : (point.moved distance).isSurrogate = false := by
  refine isSurrogate_moved distance (isSurrogate_of_val_lt ?_) (.inl ?_) <;> omega

theorem isScalar_capital (scalar : point.isSurrogate = false) : point.capital.isScalar = true := by
  fun_cases capital point with
  | case1 ascii =>
      exact Text.isScalar_singleton_iff.2 (isSurrogate_moved_of_ascii ascii (by decide))
  | case2 => exact Text.isScalar_singleton_iff.2 scalar
  | case3 => exact isScalar_formIn (by decide +kernel) (by decide +kernel) scalar

theorem isScalar_small (scalar : point.isSurrogate = false) : point.small.isScalar = true := by
  fun_cases small point with
  | case1 ascii =>
      exact Text.isScalar_singleton_iff.2 (isSurrogate_moved_of_ascii ascii (by decide))
  | case2 => exact Text.isScalar_singleton_iff.2 scalar
  | case3 => exact isScalar_formIn (by decide +kernel) (by decide +kernel) scalar

end CodePoint

end ContractTypes
