import ContractTypes.Json.Reader

/-!
The spellings of a string.

Inside a string a code point is spelled as itself, as a letter after a backslash, by its number in
four hexadecimal digits, or by the numbers of a pair of surrogates.  The reader takes each of these
for the code point.  Two surrogates that stand for themselves cannot be spelled one after the other
as a pair, because their numbers spell the code point of the pair; all other texts have a spelling.
-/

namespace ContractTypes.Json

def IsUnit (digits : Text) (number : Nat) : Prop :=
  ∃ first second third fourth, digits = [first, second, third, fourth] ∧
    hexNumber? first second third fourth = some number

inductive Spelled (point : CodePoint) : Text → Prop
  | plain (noQuote : point ≠ '"') (noSlash : point ≠ '\\') (visible : 0x1F < point.val) :
      Spelled point [point]
  | short {letter : CodePoint} (value : escaped? letter = some point) : Spelled point ['\\', letter]
  | unit {digits : Text} (number : IsUnit digits point.val) :
      Spelled point (CodePoint.ofChar '\\' :: CodePoint.ofChar 'u' :: digits)
  | pair {high low : CodePoint} {first second : Text} (isHigh : high.isHighSurrogate = true)
      (isLow : low.isLowSurrogate = true) (ofHigh : IsUnit first high.val)
      (ofLow : IsUnit second low.val)
      (value : paired high low = point) :
      Spelled point ((CodePoint.ofChar '\\' :: CodePoint.ofChar 'u' :: first) ++
        (CodePoint.ofChar '\\' :: CodePoint.ofChar 'u' :: second))

theorem val_lt_of_isHighSurrogate {high : CodePoint} (isHigh : high.isHighSurrogate = true) :
    high.val < 0xDC00 :=
  Nat.lt_succ_of_le (CodePoint.isBetween_iff.1 isHigh).2

theorem le_val_paired {high low : CodePoint} (isHigh : high.isHighSurrogate = true)
    (isLow : low.isLowSurrogate = true) : 0x10000 ≤ (paired high low).val := by
  obtain ⟨least, most⟩ := CodePoint.isBetween_iff.1 isHigh
  obtain ⟨lowest, highest⟩ := CodePoint.isBetween_iff.1 isLow
  have bound : 0x10000 + (high.val - 0xD800) * 0x400 + (low.val - 0xDC00) < 0x110000 := by omega
  unfold paired CodePoint.ofNat?
  rw [dif_pos bound]
  change 0x10000 ≤ 0x10000 + (high.val - 0xD800) * 0x400 + (low.val - 0xDC00)
  omega

theorem codeUnit_of_isUnit {digits : Text} {point : CodePoint} (number : IsUnit digits point.val)
    (next : CodePoint) (rest mark : Text) :
    codeUnit (digits ++ next :: rest) mark = .ok (point, next :: rest) := by
  obtain ⟨first, second, third, fourth, rfl, value⟩ := number
  have whole : CodePoint.ofNat? point.val = some point := dif_pos point.isLt
  simp only [List.cons_append, List.nil_append, codeUnit, value, Option.bind_some, whole]

theorem lowHalf_of_isUnit {digits : Text} {point : CodePoint} (number : IsUnit digits point.val)
    (next : CodePoint) (rest : Text) :
    lowHalf (CodePoint.ofChar '\\' :: CodePoint.ofChar 'u' :: (digits ++ next :: rest)) =
      .ok (if point.isLowSurrogate then some (point, next :: rest) else none) := by
  have unit (mark : Text) := codeUnit_of_isUnit number next rest mark
  obtain ⟨first, second, third, fourth, rfl, _⟩ := number
  simp only [List.cons_append, List.nil_append] at unit ⊢
  simp only [lowHalf, unit, decide_true, Bool.and_self, if_true]

/-- No second half comes where the text does not go on with a numbered escape. -/
theorem lowHalf_eq_none {input : Text}
    (other : ∀ slash letter rest, input = slash :: letter :: rest →
      ¬(slash = '\\' ∧ letter = 'u')) :
    lowHalf input = .ok none := by
  fun_cases lowHalf input with
  | case3 => rfl
  | case4 => rfl
  | case1 slash letter first second third fourth next rest marks =>
      rw [Bool.and_eq_true, decide_eq_true_iff, decide_eq_true_iff] at marks
      exact absurd marks (other slash letter _ rfl)
  | case2 slash letter first second third fourth next rest marks =>
      rw [Bool.and_eq_true, decide_eq_true_iff, decide_eq_true_iff] at marks
      exact absurd marks (other slash letter _ rfl)

theorem numberedEscape_of_isUnit {digits : Text} {point : CodePoint}
    (number : IsUnit digits point.val) {next : CodePoint} {rest : Text}
    (alone : point.isHighSurrogate = true → lowHalf (next :: rest) = .ok none) (mark : Text) :
    numberedEscape (digits ++ next :: rest) mark = .ok (point, next :: rest) := by
  rw [numberedEscape, codeUnit_of_isUnit number]
  change (if _ then _ else _) = _
  by_cases high : point.isHighSurrogate = true
  · rw [if_pos high, alone high]
  · rw [if_neg high]

theorem numberedEscape_pair {high low : CodePoint} {first second : Text}
    (isHigh : high.isHighSurrogate = true) (isLow : low.isLowSurrogate = true)
    (ofHigh : IsUnit first high.val) (ofLow : IsUnit second low.val) (next : CodePoint)
    (rest mark : Text) :
    numberedEscape
      (first ++ (CodePoint.ofChar '\\' :: CodePoint.ofChar 'u' :: (second ++ next :: rest))) mark =
      .ok (paired high low, next :: rest) := by
  rw [numberedEscape, codeUnit_of_isUnit ofHigh]
  change (if _ then _ else _) = _
  rw [if_pos isHigh, lowHalf_of_isUnit ofLow, isLow]
  rfl

theorem stringStep_quote (opening rest : Text) :
    stringStep opening (CodePoint.ofChar '"' :: rest) = .ok (none, rest) := rfl

theorem stringStep_short {letter point : CodePoint} (value : escaped? letter = some point)
    (opening rest : Text) :
    stringStep opening (CodePoint.ofChar '\\' :: letter :: rest) = .ok (some point, rest) := by
  have other : letter ≠ 'u' := by
    intro same
    rw [same] at value
    cases value
  change (if letter = 'u' then _ else _) = _
  rw [if_neg other, value]

theorem stringStep_plain {point : CodePoint} (noQuote : point ≠ '"') (noSlash : point ≠ '\\')
    (visible : 0x1F < point.val) (opening rest : Text) :
    stringStep opening (point :: rest) = .ok (some point, rest) := by
  change (if point = '"' then _ else if point = '\\' then _ else if point.val ≤
    0x1F then _ else _) = _
  rw [if_neg noQuote, if_neg noSlash, if_neg (by omega)]

theorem stringStep_numbered {input left : Text} {point : CodePoint}
    (read : ∀ mark, numberedEscape input mark = .ok (point, left)) (opening : Text) :
    stringStep opening (CodePoint.ofChar '\\' :: CodePoint.ofChar 'u' :: input) =
      .ok (some point, left) := by
  rw [stringStep.eq_def]
  simp only [read]
  rfl

/-- A spelled code point is read, unless it is the first half of a pair whose second half
follows. -/
theorem stringStep_spelled {point next : CodePoint} {form rest : Text}
    (spelled : Spelled point form) (alone : point.isHighSurrogate = true →
      lowHalf (next :: rest) = .ok none) (opening : Text) :
    stringStep opening (form ++ next :: rest) = .ok (some point, next :: rest) := by
  cases spelled with
  | plain noQuote noSlash visible => exact stringStep_plain noQuote noSlash visible opening _
  | short value => exact stringStep_short value opening _
  | unit number => exact stringStep_numbered (numberedEscape_of_isUnit number alone) opening
  | pair isHigh isLow ofHigh ofLow value =>
      rw [← value, List.append_assoc]
      exact stringStep_numbered (numberedEscape_pair isHigh isLow ofHigh ofLow next rest) opening

/-! ### Whole strings -/

inductive Spells : Text → Text → Prop
  | nil : Spells [] []
  | cons {point : CodePoint} {form text body : Text} (spelled : Spelled point form)
      (alone : point.isHighSurrogate = true → ∀ low more, text = low :: more →
        low.isLowSurrogate = false)
      (rest : Spells text body) : Spells (point :: text) (form ++ body)

theorem exists_cons_of_body (body rest : Text) : ∃ next after,
    body ++ CodePoint.ofChar '"' :: rest = next :: after := by
  cases body with
  | nil => exact ⟨_, _, rfl⟩
  | cons first others => exact ⟨_, _, rfl⟩

/-- A spelled code point is taken for a second half only if it is one and is spelled by its
number. -/
theorem lowHalf_of_spelled {point : CodePoint} {form : Text} (spelled : Spelled point form)
    (next : CodePoint) (rest : Text) : lowHalf (form ++ next :: rest) = .ok none ∨
      point.isLowSurrogate = true ∧ lowHalf (form ++ next :: rest) =
        .ok (some (point, next :: rest)) := by
  cases spelled with
  | plain noQuote noSlash visible =>
      refine .inl (lowHalf_eq_none ?_)
      intro slash letter left same both
      rw [← (List.cons.inj same).1] at both
      exact noSlash both.1
  | @short letter value =>
      refine .inl (lowHalf_eq_none ?_)
      intro slash second left same both
      rw [← (List.cons.inj (List.cons.inj same).2).1] at both
      rw [both.2] at value
      cases value
  | unit number =>
      have half := lowHalf_of_isUnit number next rest
      cases isLow : point.isLowSurrogate with
      | false => exact .inl (by rw [isLow] at half; exact half)
      | true => exact .inr ⟨rfl, by rw [isLow] at half; exact half⟩
  | @pair high low first second isHigh isLow ofHigh ofLow value =>
      have firstNoLow : high.isLowSurrogate = false := by
        rw [Bool.eq_false_iff]
        intro also
        have least := (CodePoint.isBetween_iff.1 also).1
        have most := val_lt_of_isHighSurrogate isHigh
        omega
      have half := lowHalf_of_isUnit ofHigh '\\' (CodePoint.ofChar 'u' :: (second ++ next :: rest))
      rw [firstNoLow, if_neg Bool.false_ne_true] at half
      rw [List.append_assoc]
      exact .inl half

theorem lowHalf_quote (rest : Text) : lowHalf (CodePoint.ofChar '"' :: rest) = .ok none := by
  apply lowHalf_eq_none
  intro slash letter after same
  rw [← (List.cons.inj same).1]
  exact fun both => absurd both.1 (by decide)

theorem lowHalf_of_spells {text body : Text} (spells : Spells text body)
    (single : ∀ low more, text = low :: more → low.isLowSurrogate = false) (rest : Text) :
    lowHalf (body ++ CodePoint.ofChar '"' :: rest) = .ok none := by
  cases spells with
  | nil => exact lowHalf_quote rest
  | @cons point form text body spelled _ _ =>
      obtain ⟨next, after, follows⟩ := exists_cons_of_body body rest
      rw [List.append_assoc, follows]
      rcases lowHalf_of_spelled spelled next after with none | ⟨isLow, _⟩
      · exact none
      · rw [single point text rfl] at isLow
        cases isLow

theorem stringOnto_point {opening input rest : Text} {point : CodePoint}
    (step : stringStep opening input = .ok (some point, rest)) (before : Text) :
    stringOnto opening before input = stringOnto opening (point :: before) rest := by
  fun_cases stringOnto opening before input with
  | case1 failure failed => cases step.symm.trans failed
  | case2 left ended => cases step.symm.trans ended
  | case3 other left read =>
      cases step.symm.trans read
      rfl

theorem stringOnto_end {opening input rest : Text}
    (step : stringStep opening input = .ok (none, rest)) (before : Text) :
    stringOnto opening before input = .ok (before.reverse, rest) := by
  fun_cases stringOnto opening before input with
  | case1 failure failed => cases step.symm.trans failed
  | case2 left ended =>
      cases step.symm.trans ended
      rfl
  | case3 other left read => cases step.symm.trans read

theorem stringOnto_of_spells {text body : Text} (spells : Spells text body)
    (opening before rest : Text) :
    stringOnto opening before (body ++ CodePoint.ofChar '"' :: rest) =
      .ok (before.reverse ++ text, rest) := by
  induction spells generalizing before with
  | nil =>
      rw [List.nil_append, stringOnto_end (stringStep_quote opening rest), List.append_nil]
  | @cons point form text body spelled alone others ih =>
      have half (high : point.isHighSurrogate = true) := lowHalf_of_spells others (alone high) rest
      obtain ⟨next, after, follows⟩ := exists_cons_of_body body rest
      rw [follows] at half
      have step := stringStep_spelled spelled half opening
      rw [List.append_assoc, follows, stringOnto_point step, ← follows, ih, List.reverse_cons,
        List.append_assoc]
      rfl

theorem stringBody_of_spells {text body : Text} (spells : Spells text body) (opening rest : Text) :
    stringBody opening (body ++ CodePoint.ofChar '"' :: rest) = .ok (text, rest) :=
  stringOnto_of_spells spells opening [] rest

end ContractTypes.Json
