import ContractTypes.Json.Reader
import ContractTypes.Proofs.Text.Reading

/-!
The forms of a number.

A number has a sign if it is negative, whole digits without needless zeros before them, and, as it
likes, digits behind a point and an exponent.  One that has neither of these is an integer.  The
reader takes a number off the head of a text if the text does not go on with a digit, a point or the
letter of an exponent.
-/

namespace ContractTypes

namespace CodePoint

theorem ofChar_digitChar {number : Nat} (small : number < 10) :
    ofChar number.digitChar = ofDigit number := by
  have all : ∀ digit < 10, ofChar (Nat.digitChar digit) = ofDigit digit := by decide
  exact all number small

theorem isDigit_ofDigit (number : Nat) : (ofDigit number).isDigit = true := by
  have bound := Nat.mod_lt number (by decide : 0 < 10)
  exact isBetween_iff.2 ⟨Nat.le_add_right _ _, by change 0x30 + number % 10 ≤ 0x39; omega⟩

theorem digitValue_ofDigit (number : Nat) : (ofDigit number).digitValue = number % 10 :=
  Nat.add_sub_cancel_left 0x30 (number % 10)

end CodePoint

namespace Text

theorem ofNat_of_lt {number : Nat} (small : number < 10) :
    ofNat number = [CodePoint.ofDigit number] := by
  rw [ofNat, Nat.toDigits_of_lt_base small]
  exact congrArg (fun point => [point]) (CodePoint.ofChar_digitChar small)

theorem ofNat_of_le {number : Nat} (large : 10 ≤ number) :
    ofNat number = ofNat (number / 10) ++ [CodePoint.ofDigit number] := by
  have last : CodePoint.ofDigit (number % 10) = CodePoint.ofDigit number :=
    CodePoint.ext (by simp [CodePoint.ofDigit])
  rw [ofNat, Nat.toDigits_of_base_le (by decide) large, List.map_append, ← last,
    ← CodePoint.ofChar_digitChar (Nat.mod_lt number (by decide))]
  rfl

theorem all_isDigit_ofNat (number : Nat) : (ofNat number).all CodePoint.isDigit = true := by
  induction number using Nat.strongRecOn with
  | ind number ih =>
      rcases Nat.lt_or_ge number 10 with small | large
      · rw [ofNat_of_lt small, List.all_cons, CodePoint.isDigit_ofDigit]
        rfl
      · rw [ofNat_of_le large, List.all_append, ih (number / 10) (by omega), List.all_cons,
          CodePoint.isDigit_ofDigit]
        rfl

theorem exists_cons_ofNat (number : Nat) : ∃ first rest,
    ofNat number = first :: rest ∧ (0 < number → first ≠ '0') := by
  -- A number of several digits starts like its tenth, which is still positive.
  induction number using Nat.strongRecOn with
  | ind number ih =>
      rcases Nat.lt_or_ge number 10 with small | large
      · refine ⟨_, [], ofNat_of_lt small, ?_⟩
        intro positive zero
        have value := CodePoint.digitValue_ofDigit number
        rw [zero] at value
        change 0 = number % 10 at value
        omega
      · obtain ⟨first, rest, front, noZero⟩ := ih (number / 10) (by omega)
        refine ⟨first, rest ++ [CodePoint.ofDigit number], ?_, fun _ => noZero (by omega)⟩
        rw [ofNat_of_le large, front]
        rfl

end Text

namespace Json

structure Exponent where
  letter : CodePoint
  /-- The sign if one is written; true stands for a minus sign. -/
  sign : Option Bool
  digits : Text
  isLetter : letter = 'e' ∨ letter = 'E'
  filled : digits ≠ []
  allDigits : digits.all CodePoint.isDigit = true

def signText (isNegative : Bool) : Text :=
  [if isNegative then CodePoint.ofChar '-' else CodePoint.ofChar '+']

namespace Exponent

def text (exponent : Exponent) : Text :=
  exponent.letter :: (exponent.sign.elim [] signText ++ exponent.digits)

def isNegative (exponent : Exponent) : Bool := exponent.sign.getD false

def value (exponent : Exponent) : Int :=
  let size : Int := Text.decimalNumber exponent.digits
  if exponent.isNegative then -size else size

end Exponent

structure IsWhole (digits : Text) : Prop where
  filled : digits ≠ []
  allDigits : digits.all CodePoint.isDigit = true
  noZeroBefore : ∀ rest, digits = CodePoint.ofChar '0' :: rest → rest = []

/-- The parts of a number.  An integer has at most as many digits as are read. -/
structure NumberForm where
  isNegative : Bool
  whole : Text
  fraction : Text
  exponent : Option Exponent
  isWhole : IsWhole whole
  allDigits : fraction.all CodePoint.isDigit = true
  short : fraction = [] → exponent = none → whole.length ≤ Text.digitLimit

namespace NumberForm

def fractionText (form : NumberForm) : Text :=
  if form.fraction.isEmpty then [] else CodePoint.ofChar '.' :: form.fraction

def exponentText (form : NumberForm) : Text := form.exponent.elim [] Exponent.text

def unsignedText (form : NumberForm) : Text :=
  form.whole ++ (form.fractionText ++ form.exponentText)

def text (form : NumberForm) : Text :=
  if form.isNegative then CodePoint.ofChar '-' :: form.unsignedText else form.unsignedText

def value (form : NumberForm) : Json :=
  match form.exponent with
  | some exponent =>
      .float (Binary64.ofDecimal form.isNegative (Text.decimalNumber (form.whole ++ form.fraction))
        (exponent.value - form.fraction.length))
  | none =>
      if form.fraction.isEmpty then
        let size : Int := Text.decimalNumber form.whole
        .integer (if form.isNegative then -size else size)
      else
        .float (Binary64.ofDecimal form.isNegative
          (Text.decimalNumber (form.whole ++ form.fraction))
          (-form.fraction.length))

end NumberForm

/-! ### The parts are read -/

def continuesNumber (point : CodePoint) : Bool :=
  point.isDigit || (point = '.' || (point = 'e' || point = 'E'))

theorem isDigit_head {digits : Text} (all : digits.all CodePoint.isDigit = true) {first : CodePoint}
    {rest : Text} (same : digits = first :: rest) : first.isDigit = true := by
  rw [same, List.all_cons, Bool.and_eq_true] at all
  exact all.1

theorem wholeDigits_append {digits rest : Text} (isWhole : IsWhole digits)
    (ends : rest.stops CodePoint.isDigit = true) : wholeDigits (digits ++ rest) = digits := by
  cases digits with
  | nil => exact absurd rfl isWhole.filled
  | cons first more =>
      rw [List.cons_append, wholeDigits]
      by_cases zero : first = '0'
      · rw [if_pos zero, isWhole.noZeroBefore more (congrArg (· :: more) zero)]
      · rw [if_neg zero]
        exact Text.takeWhile_append isWhole.allDigits ends

def isDigitOrPoint (point : CodePoint) : Bool := point.isDigit || point = '.'

theorem fractionDigits_append (form : NumberForm) {rest : Text}
    (ends : rest.stops isDigitOrPoint = true) :
    fractionDigits (form.fractionText ++ rest) = form.fraction := by
  have noDigit : rest.stops CodePoint.isDigit = true :=
    Text.stops_mono (fun point digit => Bool.or_eq_true_iff.2 (.inl digit)) ends
  unfold NumberForm.fractionText
  cases digits : form.fraction with
  | nil =>
      change fractionDigits rest = []
      cases rest with
      | nil => rfl
      | cons point more =>
          have noPoint : point ≠ '.' := by
            intro isPoint
            rw [isPoint] at ends
            cases ends
          exact if_neg noPoint
  | cons first more =>
      rw [← digits]
      have read := Text.takeWhile_append form.allDigits noDigit
      rw [digits] at read ⊢
      exact read

theorem exponentPart_unsigned {letter : CodePoint} {digits rest : Text}
    (isLetter : letter = 'e' ∨ letter = 'E') (filled : digits ≠ [])
    (allDigits : digits.all CodePoint.isDigit = true) (ends : rest.stops CodePoint.isDigit = true) :
    exponentPart (letter :: (digits ++ rest)) = some (false, digits, digits.length + 1) := by
  have read := Text.takeWhile_append allDigits ends
  obtain ⟨first, more, rfl⟩ := List.exists_cons_of_ne_nil filled
  have digit := isDigit_head allDigits rfl
  have noSign : ¬(decide (first = '-') || decide (first = '+')) = true := by
    rw [Bool.or_eq_true, decide_eq_true_iff, decide_eq_true_iff]
    rintro (rfl | rfl) <;> cases digit
  rw [List.cons_append] at read ⊢
  change (if _ then (if _ then _ else _) else none) = _
  rw [if_pos (by simpa using isLetter), if_neg noSign]
  simp only [read]
  rfl

theorem exponentPart_signed {letter : CodePoint} {digits rest : Text}
    (isLetter : letter = 'e' ∨ letter = 'E') (filled : digits ≠ [])
    (allDigits : digits.all CodePoint.isDigit = true) (ends : rest.stops CodePoint.isDigit = true)
    (isNegative : Bool) : exponentPart (letter :: (signText isNegative ++ digits ++ rest)) =
      some (isNegative, digits, digits.length + 2) := by
  have read := Text.takeWhile_append allDigits ends
  have nonempty : ¬digits.isEmpty = true := by
    rw [List.isEmpty_iff]
    exact filled
  cases isNegative
  all_goals
    change (if _ then
      let taken := (digits ++ rest).takeWhile CodePoint.isDigit
      if taken.isEmpty then none else some (_, taken, taken.length + 2) else none) = _
    rw [if_pos (by simpa using isLetter), read]
    exact if_neg nonempty

theorem exponentPart_text (exponent : Exponent) {rest : Text}
    (ends : rest.stops CodePoint.isDigit = true) :
    exponentPart (exponent.text ++ rest) =
      some (exponent.isNegative, exponent.digits, exponent.text.length) := by
  obtain ⟨letter, sign, digits, isLetter, filled, allDigits⟩ := exponent
  cases sign with
  | none => exact exponentPart_unsigned isLetter filled allDigits ends
  | some isNegative => exact exponentPart_signed isLetter filled allDigits ends isNegative

theorem exponentPart_of_stops {rest : Text} (ends : rest.stops continuesNumber = true) :
    exponentPart rest = none := by
  cases rest with
  | nil => rfl
  | cons point more =>
      have noLetter : ¬(decide (point = 'e') || decide (point = 'E')) = true := by
        intro letter
        refine Text.not_of_stops_cons ends ?_
        rw [continuesNumber, letter, Bool.or_true, Bool.or_true]
      exact if_neg noLetter

theorem exponentText_stops (form : NumberForm) {rest : Text}
    (ends : rest.stops continuesNumber = true) :
    (form.exponentText ++ rest).stops isDigitOrPoint = true := by
  unfold NumberForm.exponentText
  cases form.exponent with
  | none =>
      refine Text.stops_mono ?_ ends
      intro point continues
      rcases Bool.or_eq_true_iff.1 continues with digit | isPoint
      · exact Bool.or_eq_true_iff.2 (.inl digit)
      · exact Bool.or_eq_true_iff.2 (.inr (Bool.or_eq_true_iff.2 (.inl isPoint)))
  | some exponent =>
      change (!isDigitOrPoint exponent.letter) = true
      rcases exponent.isLetter with letter | letter <;> rw [letter] <;> rfl

theorem fractionText_stops (form : NumberForm) {rest : Text}
    (ends : rest.stops isDigitOrPoint = true) :
    (form.fractionText ++ rest).stops CodePoint.isDigit = true := by
  unfold NumberForm.fractionText
  cases form.fraction with
  | nil => exact Text.stops_mono (fun point digit => Bool.or_eq_true_iff.2 (.inl digit)) ends
  | cons first more => rfl

theorem drop_fractionText (form : NumberForm) (rest : Text) :
    (if form.fraction.isEmpty then form.fractionText ++ rest
      else (form.fractionText ++ rest).drop (form.fraction.length + 1)) = rest := by
  unfold NumberForm.fractionText
  cases form.fraction with
  | nil => rfl
  | cons first more => exact List.drop_left

theorem unsignedNumber_append (form : NumberForm) {rest : Text}
    (ends : rest.stops continuesNumber = true) (mark : Text) :
    unsignedNumber form.isNegative (form.unsignedText ++ rest) mark = .ok (form.value, rest) := by
  -- A part is cut off where the next one starts, so the parts are settled from the last to the
  -- first.
  have noPoint := exponentText_stops form ends
  have whole := wholeDigits_append form.isWhole (fractionText_stops form noPoint)
  have filled : ¬form.whole.isEmpty = true := by
    rw [List.isEmpty_iff]
    exact form.isWhole.filled
  unfold unsignedNumber NumberForm.unsignedText
  simp only [List.append_assoc, whole, List.drop_left, fractionDigits_append form noPoint,
    drop_fractionText]
  rw [if_neg filled]
  unfold NumberForm.exponentText NumberForm.value
  cases written : form.exponent with
  | some exponent =>
      have noDigit : rest.stops CodePoint.isDigit = true :=
        Text.stops_mono (fun point digit => Bool.or_eq_true_iff.2 (.inl digit)) ends
      simp only [Option.elim, exponentPart_text exponent noDigit, List.drop_left]
      rfl
  | none =>
      simp only [Option.elim, List.nil_append, exponentPart_of_stops ends]
      by_cases integer : form.fraction.isEmpty = true
      · have short := form.short (List.isEmpty_iff.1 integer) written
        have noFraction : form.fractionText = [] := if_pos integer
        rw [if_pos integer, if_pos integer, if_neg (Nat.not_lt.2 short), noFraction]
        rfl
      · rw [if_neg integer, if_neg integer]

theorem exists_digit_cons (form : NumberForm) : ∃ digit rest,
    form.unsignedText = digit :: rest ∧ digit.isDigit = true := by
  obtain ⟨digit, more, digits⟩ := List.exists_cons_of_ne_nil form.isWhole.filled
  refine ⟨digit, more ++ (form.fractionText ++ form.exponentText), ?_,
    isDigit_head form.isWhole.allDigits digits⟩
  rw [NumberForm.unsignedText, digits]
  rfl

def withSign (isNegative : Bool) (text : Text) : Text :=
  if isNegative then CodePoint.ofChar '-' :: text else text

theorem number_withSign {digit : CodePoint} (isDigit : digit.isDigit = true) (isNegative : Bool)
    (rest : Text) : number (withSign isNegative (digit :: rest)) =
      unsignedNumber isNegative (digit :: rest) (withSign isNegative (digit :: rest)) := by
  cases isNegative with
  | true => rfl
  | false =>
      have noSign : digit ≠ '-' := by
        rintro rfl
        cases isDigit
      exact if_neg noSign

def startsWithoutDigits : Text → Bool
  | first :: second :: _ => !first.isDigit && !second.isDigit
  | [_] => false
  | [] => false

theorem exists_letters_of_mem_words {word : Text × Json} (listed : word ∈ words) :
    ∃ first second rest,
    word.1 = first :: second :: rest ∧ first.isDigit = false ∧ second.isDigit = false := by
  have all : words.all (fun word => startsWithoutDigits word.1) = true := by decide
  have holds := List.all_eq_true.1 all word listed
  revert holds
  fun_cases startsWithoutDigits word.1 with
  | case1 first second rest =>
      intro holds
      rw [Bool.and_eq_true, Bool.not_eq_true', Bool.not_eq_true'] at holds
      exact ⟨first, second, rest, rfl, holds⟩
  | case2 =>
      intro holds
      cases holds
  | case3 =>
      intro holds
      cases holds

theorem startsWith_word {digit : CodePoint} (isDigit : digit.isDigit = true) (isNegative : Bool)
    (rest : Text) {word : Text × Json} (listed : word ∈ words) :
    (withSign isNegative (digit :: rest)).startsWith word.1 = false := by
  obtain ⟨first, second, more, spelled, noDigit, noSecond⟩ := exists_letters_of_mem_words listed
  have other : digit ≠ first := fun same => by rw [same, noDigit] at isDigit; cases isDigit
  have otherSecond : digit ≠ second := fun same => by rw [same, noSecond] at isDigit; cases isDigit
  rw [spelled]
  cases isNegative with
  | true =>
      change (_ && (decide (digit = second) && _)) = false
      rw [decide_eq_false otherSecond, Bool.false_and, Bool.and_false]
  | false =>
      change (decide (digit = first) && _) = false
      rw [decide_eq_false other, Bool.false_and]

theorem plainValue_withSign {digit : CodePoint} (isDigit : digit.isDigit = true) (isNegative : Bool)
    (rest : Text) : plainValue (withSign isNegative (digit :: rest)) =
      unsignedNumber isNegative (digit :: rest) (withSign isNegative (digit :: rest)) := by
  have noWord : words.find? (fun word => (withSign isNegative (digit :: rest)).startsWith word.1) =
      none := by
    rw [List.find?_eq_none]
    intro word listed
    rw [startsWith_word isDigit isNegative rest listed, Bool.not_eq_true]
  unfold plainValue
  rw [noWord]
  exact number_withSign isDigit isNegative rest

theorem plainValue_number (form : NumberForm) {rest : Text}
    (ends : rest.stops continuesNumber = true) :
    plainValue (form.text ++ rest) = .ok (form.value, rest) := by
  obtain ⟨digit, more, starts, isDigit⟩ := exists_digit_cons form
  have written : form.text ++ rest = withSign form.isNegative (digit :: (more ++ rest)) := by
    rw [NumberForm.text, withSign, starts]
    cases form.isNegative <;> rfl
  have read := unsignedNumber_append form ends (form.text ++ rest)
  rw [starts, List.cons_append] at read
  rw [written] at read ⊢
  rw [plainValue_withSign isDigit, read]

/-! ### Integers -/

theorem decimalNumber_ofNat (number : Nat) : Text.decimalNumber (Text.ofNat number) = number := by
  induction number using Nat.strongRecOn with
  | ind number ih =>
      rcases Nat.lt_or_ge number 10 with small | large
      · rw [Text.ofNat_of_lt small]
        change 0 * 10 + (CodePoint.ofDigit number).digitValue = number
        rw [CodePoint.digitValue_ofDigit]
        omega
      · have front := ih (number / 10) (by omega)
        unfold Text.decimalNumber at front ⊢
        rw [Text.ofNat_of_le large, List.foldl_append, front]
        change number / 10 * 10 + (CodePoint.ofDigit number).digitValue = number
        rw [CodePoint.digitValue_ofDigit]
        omega

theorem isWhole_ofNat (number : Nat) : IsWhole (Text.ofNat number) := by
  obtain ⟨first, rest, starts, noZero⟩ := Text.exists_cons_ofNat number
  refine ⟨?_, Text.all_isDigit_ofNat number, ?_⟩
  · rw [starts]
    exact List.cons_ne_nil first rest
  · intro others same
    rcases Nat.eq_zero_or_pos number with zero | positive
    · rw [zero, Text.ofNat_of_lt (by decide)] at same
      exact (List.cons.inj same).2.symm
    · rw [starts] at same
      exact absurd (List.cons.inj same).1 (noZero positive)

def NumberForm.ofInt (value : Int) (short : (Text.ofNat value.natAbs).length ≤ Text.digitLimit) :
    NumberForm where
  isNegative := decide (value < 0)
  whole := Text.ofNat value.natAbs
  fraction := []
  exponent := none
  isWhole := isWhole_ofNat value.natAbs
  allDigits := rfl
  short := fun _ _ => short

variable {value : Int} (short : (Text.ofNat value.natAbs).length ≤ Text.digitLimit)

theorem NumberForm.text_ofInt : (NumberForm.ofInt value short).text = Text.ofInt value := by
  have digits : (NumberForm.ofInt value short).unsignedText = Text.ofNat value.natAbs :=
    List.append_nil _
  rw [NumberForm.text, digits]
  cases value with
  | ofNat number => rfl
  | negSucc number => exact if_pos (decide_eq_true (Int.negSucc_lt_zero number))

theorem NumberForm.value_ofInt : (NumberForm.ofInt value short).value = .integer value := by
  have size : (Text.decimalNumber (Text.ofNat value.natAbs) : Int) = value.natAbs :=
    congrArg Int.ofNat (decimalNumber_ofNat value.natAbs)
  change Json.integer
    (if decide (value < 0) then -(Text.decimalNumber (Text.ofNat value.natAbs) : Int)
    else (Text.decimalNumber (Text.ofNat value.natAbs) : Int)) = _
  rw [size]
  congr 1
  cases below : decide (value < 0) with
  | true =>
      have negative := of_decide_eq_true below
      rw [if_pos rfl]
      omega
  | false =>
      have positive := of_decide_eq_false below
      rw [if_neg Bool.false_ne_true]
      omega

end Json

end ContractTypes
