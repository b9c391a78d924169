import ContractTypes.Proofs.Json.Numeral
import ContractTypes.Proofs.Json.Spelling
import ContractTypes.Proofs.Text.Scalar

/-!
What is read as a string or a number.

What the reader takes for the inside of a string is a row of spelled code points, and it takes every
such row.  What it takes for a number has the form of one.  Digits that it refuses for their number
are too many and would be an integer; nothing in a string is refused for that reason.
-/

namespace ContractTypes.Json

/-- What may stand between the quotes of a string. -/
inductive IsSpelling : Text → Prop
  | nil : IsSpelling []
  | cons {point : CodePoint} {form body : Text} (spelled : Spelled point form)
      (rest : IsSpelling body) :
      IsSpelling (form ++ body)

theorem Spelled.length_pos {point : CodePoint} {form : Text} (spelled : Spelled point form) :
    0 < form.length := by
  cases spelled <;> exact Nat.succ_pos _

theorem exists_unit_of_codeUnit {input mark rest : Text} {point : CodePoint}
    (read : codeUnit input mark = .ok (point, rest)) : ∃ digits, IsUnit digits point.val ∧
    input = digits ++ rest := by
  revert read
  fun_cases codeUnit input mark with
  | case1 first second third fourth next more value found =>
      intro read
      cases read
      obtain ⟨number, written, same⟩ := Option.bind_eq_some_iff.1 found
      refine ⟨[first, second, third, fourth], ⟨first, second, third, fourth, rfl, ?_⟩, rfl⟩
      rw [written, CodePoint.ofNat?_eq_some same]
  | _ =>
      intro read
      cases read

theorem exists_unit_of_lowHalf {input rest : Text} {low : CodePoint}
    (read : lowHalf input = .ok (some (low, rest))) : ∃ digits, IsUnit digits low.val ∧
    low.isLowSurrogate = true ∧
      input = CodePoint.ofChar '\\' :: CodePoint.ofChar 'u' :: (digits ++ rest) := by
  revert read
  fun_cases Json.lowHalf input with
  | case1 =>
      intro read
      cases read
  | case2 slash letter first second third fourth next more marks value after unit =>
      rw [Bool.and_eq_true, decide_eq_true_iff, decide_eq_true_iff] at marks
      obtain ⟨digits, number, same⟩ := exists_unit_of_codeUnit unit
      intro read
      cases isLow : value.isLowSurrogate with
      | true =>
          rw [isLow] at read
          cases read
          exact ⟨digits, number, isLow, by rw [marks.1, marks.2, same]⟩
      | false =>
          rw [isLow] at read
          cases read
  | _ =>
      intro read
      cases read

theorem exists_spelled_of_numberedEscape {input mark rest : Text} {point : CodePoint}
    (read : numberedEscape input mark = .ok (point, rest)) : ∃ form,
      Spelled point (CodePoint.ofChar '\\' :: CodePoint.ofChar 'u' :: form) ∧
        input = form ++ rest := by
  revert read
  fun_cases numberedEscape input mark with
  | case1 =>
      intro read
      cases read
  | case2 =>
      intro read
      cases read
  | case3 high left unit isHigh low after half =>
      intro read
      obtain ⟨rfl, rfl⟩ := Prod.mk.inj (Except.ok.inj read)
      obtain ⟨first, ofHigh, rfl⟩ := exists_unit_of_codeUnit unit
      obtain ⟨second, ofLow, isLow, rfl⟩ := exists_unit_of_lowHalf half
      refine ⟨first ++ CodePoint.ofChar '\\' :: CodePoint.ofChar 'u' :: second,
        .pair isHigh isLow ofHigh ofLow rfl, ?_⟩
      rw [List.append_assoc]
      rfl
  | case4 high left unit =>
      intro read
      cases read
      obtain ⟨first, ofHigh, rfl⟩ := exists_unit_of_codeUnit unit
      exact ⟨first, .unit ofHigh, rfl⟩
  | case5 high left unit =>
      intro read
      cases read
      obtain ⟨first, ofHigh, rfl⟩ := exists_unit_of_codeUnit unit
      exact ⟨first, .unit ofHigh, rfl⟩

theorem exists_spelled_of_stringStep {opening input rest : Text} {point : CodePoint}
    (read : stringStep opening input = .ok (some point, rest)) : ∃ form, Spelled point form ∧
    input = form ++ rest := by
  revert read
  fun_cases stringStep opening input with
  | case4 after failure _ escape =>
      rw [escape]
      intro read
      cases read
  | case5 after value left _ escape =>
      intro read
      rw [escape] at read
      cases read
      obtain ⟨form, spelled, rfl⟩ := exists_spelled_of_numberedEscape escape
      exact ⟨_, spelled, rfl⟩
  | case6 letter after _ value short =>
      intro read
      cases read
      exact ⟨_, .short short, rfl⟩
  | case9 value after noQuote noSlash visible =>
      intro read
      cases read
      exact ⟨[point], .plain noQuote noSlash (Nat.lt_of_not_le visible), rfl⟩
  | _ =>
      intro read
      cases read

theorem eq_quote_of_stringStep {opening input rest : Text}
    (read : stringStep opening input = .ok (none, rest)) :
    input = CodePoint.ofChar '"' :: rest := by
  revert read
  fun_cases stringStep opening input with
  | case2 after =>
      intro read
      cases read
      rfl
  | case4 after failure _ escape =>
      rw [escape]
      intro read
      cases read
  | case5 after value left _ escape =>
      rw [escape]
      intro read
      cases read
  | _ =>
      intro read
      cases read

/-- What is read as a string is a spelling before a quote. -/
theorem exists_spelling_of_stringOnto {opening before input text rest : Text}
    (read : stringOnto opening before input = .ok (text, rest)) : ∃ body,
      IsSpelling body ∧ input = body ++ CodePoint.ofChar '"' :: rest := by
  fun_induction stringOnto opening before input with
  | case1 before input failure step => cases read
  | case2 before input after step =>
      cases read
      exact ⟨[], .nil, eq_quote_of_stringStep step⟩
  | case3 before input point after step ih =>
      obtain ⟨body, spelling, rfl⟩ := ih read
      obtain ⟨form, spelled, rfl⟩ := exists_spelled_of_stringStep step
      exact ⟨form ++ body, .cons spelled spelling, (List.append_assoc form body _).symm⟩

/-- Behind a first half the reader looks for a second one, and it finds none or takes the escape of
one. -/
theorem IsSpelling.lowHalf {body : Text} (spelling : IsSpelling body) (rest : Text) :
    Json.lowHalf (body ++ CodePoint.ofChar '"' :: rest) = .ok none ∨ ∃ low left, IsSpelling left ∧
      left.length < body.length ∧ Json.lowHalf (body ++ CodePoint.ofChar '"' :: rest) =
        .ok (some (low, left ++ CodePoint.ofChar '"' :: rest)) := by
  cases spelling with
  | nil => exact .inl (lowHalf_quote rest)
  | @cons point form body spelled others =>
      obtain ⟨next, after, follows⟩ := exists_cons_of_body body rest
      rw [List.append_assoc, follows]
      rcases lowHalf_of_spelled spelled next after with none | ⟨_, half⟩
      · exact .inl none
      · refine .inr ⟨point, body, others, ?_, ?_⟩
        · rw [List.length_append]
          have filled := spelled.length_pos
          omega
        · rw [half, follows]

theorem numberedEscape_of_lowHalf {digits : Text} {point low next : CodePoint} {rest after : Text}
    (number : IsUnit digits point.val) (isHigh : point.isHighSurrogate = true)
    (half : Json.lowHalf (next :: rest) = .ok (some (low, after))) (mark : Text) :
    numberedEscape (digits ++ next :: rest) mark = .ok (paired point low, after) := by
  rw [numberedEscape, codeUnit_of_isUnit number]
  change (if _ then _ else _) = _
  rw [if_pos isHigh, half]

/-- The first step into a spelling leaves a spelling.  It passes one escape, or two that are read as
a pair. -/
theorem IsSpelling.exists_stringStep {point : CodePoint} {form body : Text}
    (spelled : Spelled point form) (others : IsSpelling body) (opening rest : Text) :
    ∃ value left, IsSpelling left ∧
      left.length < (form ++ body).length ∧
        stringStep opening (form ++ body ++ CodePoint.ofChar '"' :: rest) =
          .ok (some value, left ++ CodePoint.ofChar '"' :: rest) := by
  have shorter : body.length < (form ++ body).length := by
    have filled := spelled.length_pos
    rw [List.length_append]
    omega
  obtain ⟨next, after, follows⟩ := exists_cons_of_body body rest
  have half := others.lowHalf rest
  rw [List.append_assoc, follows]
  rw [follows] at half
  cases spelled with
  | plain noQuote noSlash visible =>
      exact ⟨point, body, others, shorter,
        follows ▸ stringStep_plain noQuote noSlash visible opening _⟩
  | short value => exact ⟨point, body, others, shorter, follows ▸ stringStep_short value opening _⟩
  | @unit digits number =>
      by_cases isHigh : point.isHighSurrogate = true
      · rcases half with none | ⟨low, left, spelling, lessLeft, half⟩
        · have read := numberedEscape_of_isUnit number (fun _ => none)
          exact ⟨point, body, others, shorter, follows ▸ stringStep_numbered read opening⟩
        · have read := numberedEscape_of_lowHalf number isHigh half
          exact ⟨_, left, spelling, Nat.lt_trans lessLeft shorter, stringStep_numbered read opening⟩
      · have alone (high : point.isHighSurrogate = true) :
          Json.lowHalf (next :: after) = .ok none := absurd high isHigh
        have read := numberedEscape_of_isUnit number alone
        exact ⟨point, body, others, shorter, follows ▸ stringStep_numbered read opening⟩
  | @pair high low first second isHigh isLow ofHigh ofLow value =>
      have read := numberedEscape_pair isHigh isLow ofHigh ofLow next after
      refine ⟨paired high low, body, others, shorter, ?_⟩
      rw [List.append_assoc, follows]
      exact stringStep_numbered read opening

theorem IsSpelling.exists_stringOnto {body : Text} (spelling : IsSpelling body)
    (opening before rest : Text) :
    ∃ text, stringOnto opening before (body ++ CodePoint.ofChar '"' :: rest) =
      .ok (text, rest) := by
  induction count : body.length using Nat.strongRecOn generalizing before body with
  | ind size ih =>
      cases spelling with
      | nil => exact ⟨_, stringOnto_end (stringStep_quote opening rest) before⟩
      | @cons point form body spelled others =>
          obtain ⟨value, left, spelling, shorter, step⟩ :=
            others.exists_stringStep spelled opening rest
          obtain ⟨text, read⟩ := ih left.length (count ▸ shorter) spelling (value :: before) rfl
          exact ⟨text, by rw [stringOnto_point step, read]⟩

theorem codeUnit_ne_long (input mark : Text) (count : Nat) :
    codeUnit input mark ≠ .error (.longInteger count) := by
  fun_cases codeUnit input mark with
  | _ =>
      intro same
      cases same

theorem lowHalf_ne_long (input : Text) (count : Nat) :
    Json.lowHalf input ≠ .error (.longInteger count) := by
  fun_cases Json.lowHalf input with
  | case1 _ _ _ _ _ _ _ _ _ failure failed =>
      intro long
      cases long
      exact codeUnit_ne_long _ _ count failed
  | _ =>
      intro same
      cases same

theorem numberedEscape_ne_long (input mark : Text) (count : Nat) :
    numberedEscape input mark ≠ .error (.longInteger count) := by
  fun_cases numberedEscape input mark with
  | case1 failure failed =>
      intro long
      cases long
      exact codeUnit_ne_long _ _ count failed
  | case2 _ _ _ _ failure failed =>
      intro long
      cases long
      exact lowHalf_ne_long _ count failed
  | _ =>
      intro same
      cases same

theorem stringStep_ne_long (opening input : Text) (count : Nat) :
    stringStep opening input ≠ .error (.longInteger count) := by
  fun_cases stringStep opening input with
  | case4 after failure _ failed =>
      intro long
      rw [failed] at long
      cases long
      exact numberedEscape_ne_long _ _ count failed
  | case5 after value left _ escape =>
      rw [escape]
      intro same
      cases same
  | _ =>
      intro same
      cases same

theorem stringOnto_ne_long (opening before input : Text) (count : Nat) :
    stringOnto opening before input ≠ .error (.longInteger count) := by
  fun_induction stringOnto opening before input with
  | case1 before input failure step =>
      intro long
      cases long
      exact stringStep_ne_long opening input count step
  | case2 before input after step => nofun
  | case3 before input point after step ih => exact ih

/-! ### Numbers -/

/-- The texts behind some digits with which the digits are no integer, or not the whole of it. -/
inductive ContinuesDigits : Text → Prop
  | digit {first : CodePoint} {more : Text} (isDigit : first.isDigit = true) :
      ContinuesDigits (first :: more)
  | fraction {first : CodePoint} {more : Text} (isDigit : first.isDigit = true) :
      ContinuesDigits (CodePoint.ofChar '.' :: first :: more)
  | exponent {letter first : CodePoint} {more : Text} (isLetter : letter = 'e' ∨ letter = 'E')
      (isDigit : first.isDigit = true) : ContinuesDigits (letter :: first :: more)
  | signedExponent {letter first : CodePoint} {more : Text} (isLetter : letter = 'e' ∨ letter = 'E')
      (isNegative : Bool) (isDigit : first.isDigit = true) :
      ContinuesDigits (letter :: (signText isNegative ++ first :: more))

theorem takeWhile_isDigit_eq_nil_iff {text : Text} :
    text.takeWhile CodePoint.isDigit = [] ↔ ∀ first more, text = first :: more →
      first.isDigit = false := by
  cases text with
  | nil => exact ⟨fun _ => nofun, fun _ => rfl⟩
  | cons point rest =>
      rw [List.takeWhile_cons]
      cases digit : point.isDigit with
      | true => exact ⟨nofun, fun none => absurd (none point rest rfl) (by rw [digit]; nofun)⟩
      | false => exact ⟨fun _ first more same => (List.cons.inj same).1 ▸ digit, fun _ => rfl⟩

theorem fractionDigits_eq_nil_iff {text : Text} : fractionDigits text = [] ↔
    ∀ first more, text = CodePoint.ofChar '.' :: first :: more → first.isDigit = false := by
  cases text with
  | nil => exact ⟨fun _ => nofun, fun _ => rfl⟩
  | cons point rest =>
      rw [fractionDigits]
      by_cases isPoint : point = '.'
      · rw [if_pos isPoint, takeWhile_isDigit_eq_nil_iff, isPoint]
        exact ⟨fun none first more same => none first more (List.cons.inj same).2,
          fun none first more same => none first more (congrArg _ same)⟩
      · rw [if_neg isPoint]
        exact ⟨fun _ first more same => absurd (List.cons.inj same).1 isPoint, fun _ => rfl⟩

theorem exponentPart_ne_none {letter first : CodePoint} {more : Text}
    (isLetter : letter = 'e' ∨ letter = 'E') (isDigit : first.isDigit = true) (sign : Option Bool) :
    exponentPart (letter :: (sign.elim [] signText ++ first :: more)) ≠ none := by
  have filled : (first :: more).takeWhile CodePoint.isDigit ≠ [] := by
    rw [List.takeWhile_cons_of_pos isDigit]
    exact List.cons_ne_nil _ _
  let exponent : Exponent := ⟨letter, sign, _, isLetter, filled, List.all_takeWhile⟩
  have read := exponentPart_text exponent (Text.stops_dropWhile CodePoint.isDigit (first :: more))
  have whole : exponent.text ++ (first :: more).dropWhile CodePoint.isDigit =
      letter :: (sign.elim [] signText ++ first :: more) := by
    rw [Exponent.text, List.cons_append, List.append_assoc, List.takeWhile_append_dropWhile]
  rw [← whole, read]
  nofun

theorem ne_nil_of_isEmpty {text : Text} (filled : text.isEmpty = false) : text ≠ [] :=
  mt List.isEmpty_iff.2 (Bool.eq_false_iff.1 filled)

theorem takeWhile_append_drop (text : Text) : text.takeWhile CodePoint.isDigit ++
    text.drop (text.takeWhile CodePoint.isDigit).length = text :=
  List.prefix_iff_eq_append.1 (List.takeWhile_prefix _)

theorem exists_exponent_of_exponentPart {text digits : Text} {isNegative : Bool} {width : Nat}
    (read : exponentPart text = some (isNegative, digits, width)) :
    ∃ exponent : Exponent, text = exponent.text ++ text.drop width := by
  cases text with
  | nil => cases read
  | cons letter rest =>
      rw [exponentPart.eq_def] at read
      dsimp only at read
      by_cases isLetter : (letter = 'e' || letter = 'E') = true
      · rw [if_pos isLetter] at read
        rw [Bool.or_eq_true, decide_eq_true_iff, decide_eq_true_iff] at isLetter
        cases rest with
        | nil => cases read
        | cons sign after =>
            dsimp only at read
            by_cases isSign : (sign = '-' || sign = '+') = true
            · rw [if_pos isSign] at read
              cases filled : (after.takeWhile CodePoint.isDigit).isEmpty with
              | true =>
                  rw [filled] at read
                  cases read
              | false =>
                  rw [filled] at read
                  cases read
                  refine ⟨⟨letter, some (decide (sign = '-')), after.takeWhile CodePoint.isDigit,
                    isLetter, ne_nil_of_isEmpty filled, List.all_takeWhile⟩, ?_⟩
                  have written : signText (decide (sign = '-')) = [sign] := by
                    rw [Bool.or_eq_true, decide_eq_true_iff, decide_eq_true_iff] at isSign
                    rcases isSign with rfl | rfl <;> rfl
                  rw [Exponent.text, Option.elim, written]
                  exact congrArg (fun left => letter :: sign :: left)
                    (takeWhile_append_drop after).symm
            · rw [if_neg isSign] at read
              cases filled : ((sign :: after).takeWhile CodePoint.isDigit).isEmpty with
              | true =>
                  rw [filled] at read
                  cases read
              | false =>
                  rw [filled] at read
                  cases read
                  refine ⟨⟨letter, none, (sign :: after).takeWhile CodePoint.isDigit, isLetter,
                    ne_nil_of_isEmpty filled, List.all_takeWhile⟩, ?_⟩
                  exact congrArg (List.cons letter) (takeWhile_append_drop (sign :: after)).symm
      · rw [if_neg isLetter] at read
        cases read

/-- A text continues no digits exactly if it goes on with no digit, no fraction and no exponent. -/
theorem not_continuesDigits_iff {text : Text} : ¬ContinuesDigits text ↔
    text.stops CodePoint.isDigit = true ∧ fractionDigits text = [] ∧ exponentPart text = none := by
  constructor
  · intro ends
    refine ⟨?_, fractionDigits_eq_nil_iff.2 ?_, ?_⟩
    · cases text with
      | nil => rfl
      | cons first more =>
          rw [Text.stops, Bool.not_eq_true', Bool.eq_false_iff]
          exact fun digit => ends (.digit digit)
    · rintro first more rfl
      exact Bool.eq_false_iff.2 (fun digit => ends (.fraction digit))
    · cases read : exponentPart text with
      | none => rfl
      | some part =>
          obtain ⟨⟨letter, sign, digits, isLetter, filled, allDigits⟩, written⟩ :=
            exists_exponent_of_exponentPart read
          obtain ⟨first, more, rfl⟩ := List.exists_cons_of_ne_nil filled
          have digit := isDigit_head allDigits rfl
          refine absurd ?_ ends
          rw [written, Exponent.text]
          cases sign with
          | none => exact .exponent isLetter digit
          | some isNegative =>
              exact List.append_assoc (signText isNegative) _ _ ▸ .signedExponent isLetter
                isNegative digit
  · rintro ⟨noDigit, noFraction, noExponent⟩ continues
    cases continues with
    | digit isDigit => exact Text.not_of_stops_cons noDigit isDigit
    | fraction isDigit =>
        rw [fractionDigits_eq_nil_iff.1 noFraction _ _ rfl] at isDigit
        cases isDigit
    | exponent isLetter isDigit => exact exponentPart_ne_none isLetter isDigit none noExponent
    | signedExponent isLetter isNegative isDigit =>
        exact exponentPart_ne_none isLetter isDigit (some isNegative) noExponent

theorem wholeDigits_append_drop (text : Text) :
    wholeDigits text ++ text.drop (wholeDigits text).length = text := by
  cases text with
  | nil => rfl
  | cons point rest =>
      rw [wholeDigits]
      by_cases zero : point = '0'
      · rw [if_pos zero]
        rfl
      · rw [if_neg zero]
        exact takeWhile_append_drop (point :: rest)

theorem isWhole_wholeDigits {text : Text} (filled : wholeDigits text ≠ []) :
    IsWhole (wholeDigits text) := by
  cases text with
  | nil => exact absurd rfl filled
  | cons point rest =>
      refine ⟨filled, ?_, ?_⟩
      · rw [wholeDigits]
        by_cases zero : point = '0'
        · rw [if_pos zero, zero]
          rfl
        · rw [if_neg zero]
          exact List.all_takeWhile
      · intro more same
        rw [wholeDigits] at same
        by_cases zero : point = '0'
        · rw [if_pos zero] at same
          exact (List.cons.inj same).2.symm
        · rw [if_neg zero, List.takeWhile_cons] at same
          cases digit : point.isDigit with
          | true =>
              rw [digit] at same
              exact absurd (List.cons.inj same).1 zero
          | false =>
              rw [digit] at same
              cases same

theorem stops_drop_wholeDigits {text : Text} (several : 1 < (wholeDigits text).length) :
    Text.stops CodePoint.isDigit (text.drop (wholeDigits text).length) = true := by
  cases text with
  | nil => rfl
  | cons point rest =>
      rw [wholeDigits] at several ⊢
      by_cases zero : point = '0'
      · rw [if_pos zero] at several
        exact absurd several (Nat.lt_irrefl 1)
      · have same : (point :: rest).drop ((point :: rest).takeWhile CodePoint.isDigit).length =
            (point :: rest).dropWhile CodePoint.isDigit :=
          List.append_cancel_left
            ((takeWhile_append_drop _).trans List.takeWhile_append_dropWhile.symm)
        rw [if_neg zero, same]
        exact Text.stops_dropWhile CodePoint.isDigit (point :: rest)

theorem eq_of_fractionDigits {text : Text} (filled : fractionDigits text ≠ []) :
    text = (CodePoint.ofChar '.' :: fractionDigits text) ++
      text.drop ((fractionDigits text).length + 1) := by
  cases text with
  | nil => exact absurd rfl filled
  | cons point rest =>
      rw [fractionDigits] at filled ⊢
      by_cases isPoint : point = '.'
      · rw [if_pos isPoint, isPoint]
        exact congrArg (List.cons _) (takeWhile_append_drop rest).symm
      · rw [if_neg isPoint] at filled
        exact absurd rfl filled

theorem all_isDigit_fractionDigits (text : Text) :
    (fractionDigits text).all CodePoint.isDigit = true := by
  cases text with
  | nil => rfl
  | cons point rest =>
      rw [fractionDigits]
      split
      · exact List.all_takeWhile
      · rfl

theorem fraction_append_drop (text : Text) :
    text = (if (fractionDigits text).isEmpty then [] else CodePoint.ofChar '.' ::
    fractionDigits text) ++
      (if (fractionDigits text).isEmpty then text else text.drop
        ((fractionDigits text).length + 1)) := by
  cases filled : (fractionDigits text).isEmpty with
  | true => rfl
  | false => exact eq_of_fractionDigits (ne_nil_of_isEmpty filled)

theorem exists_form_of_unsignedNumber {isNegative : Bool} {input mark rest : Text} {json : Json}
    (read : unsignedNumber isNegative input mark = .ok (json, rest)) :
    ∃ form : NumberForm, form.isNegative = isNegative ∧ input = form.unsignedText ++ rest := by
  unfold unsignedNumber at read
  dsimp only at read
  have front := wholeDigits_append_drop input
  cases filled : (wholeDigits input).isEmpty with
  | true =>
      rw [filled] at read
      cases read
  | false =>
      rw [filled] at read
      have whole := isWhole_wholeDigits (ne_nil_of_isEmpty filled)
      generalize wholeDigits input = digits at read front whole
      generalize input.drop digits.length = afterWhole at read front
      -- The text is cut in three pieces, and each piece is forgotten once its place in the whole is
      -- known.
      have allDigits := all_isDigit_fractionDigits afterWhole
      have middle := fraction_append_drop afterWhole
      generalize fractionDigits afterWhole = fraction at read middle allDigits
      generalize (if fraction.isEmpty then afterWhole else afterWhole.drop (fraction.length + 1)) =
        afterFraction at read middle
      cases found : exponentPart afterFraction with
      | some part =>
          obtain ⟨below, size, width⟩ := part
          rw [found] at read
          cases read
          obtain ⟨exponent, back⟩ := exists_exponent_of_exponentPart found
          refine ⟨⟨isNegative, digits, fraction, some exponent, whole, allDigits, nofun⟩, rfl, ?_⟩
          rw [NumberForm.unsignedText, List.append_assoc, List.append_assoc]
          exact front.symm.trans (congrArg _ (middle.trans (congrArg _ back)))
      | none =>
          rw [found] at read
          cases noFraction : fraction.isEmpty with
          | true =>
              rw [noFraction] at read middle
              by_cases long : Text.digitLimit < digits.length
              · rw [if_pos rfl, if_pos long] at read
                cases read
              · rw [if_pos rfl, if_neg long] at read
                cases read
                refine ⟨⟨isNegative, digits, fraction, none, whole, allDigits,
                  fun _ _ => Nat.le_of_not_lt long⟩, rfl, ?_⟩
                rw [NumberForm.unsignedText, NumberForm.fractionText, noFraction]
                exact front.symm.trans (congrArg (· ++ rest) (List.append_nil digits).symm)
          | false =>
              rw [noFraction] at read
              cases read
              have some := ne_nil_of_isEmpty noFraction
              refine ⟨⟨isNegative, digits, fraction, none, whole, allDigits,
                fun none => absurd none some⟩, rfl, ?_⟩
              rw [NumberForm.unsignedText, NumberForm.exponentText, List.append_assoc,
                List.append_assoc]
              exact front.symm.trans (congrArg _ middle)

/-- Digits are refused for their number exactly if they are too many and are an integer. -/
theorem unsignedNumber_eq_long_iff {isNegative : Bool} {input mark : Text} {count : Nat} :
    unsignedNumber isNegative input mark = .error (.longInteger count) ↔
      ∃ digits rest, IsWhole digits ∧
      Text.digitLimit < count ∧ digits.length = count ∧ ¬ContinuesDigits rest ∧
        input = digits ++ rest := by
  constructor
  · intro read
    unfold unsignedNumber at read
    dsimp only at read
    have front := wholeDigits_append_drop input
    cases filled : (wholeDigits input).isEmpty with
    | true =>
        rw [filled] at read
        cases read
    | false =>
        rw [filled, if_neg Bool.false_ne_true] at read
        cases noFraction : (fractionDigits (input.drop (wholeDigits input).length)).isEmpty with
        | false =>
            rw [noFraction] at read
            split at read <;> cases read
        | true =>
            rw [noFraction, if_pos rfl, if_pos rfl] at read
            cases noExponent : exponentPart (input.drop (wholeDigits input).length) with
            | some part =>
                rw [noExponent] at read
                cases read
            | none =>
                rw [noExponent] at read
                dsimp only at read
                by_cases long : Text.digitLimit < (wholeDigits input).length
                · rw [if_pos long] at read
                  cases read
                  have several := Nat.lt_of_le_of_lt (show 1 ≤ Text.digitLimit by decide) long
                  exact ⟨_, _, isWhole_wholeDigits (ne_nil_of_isEmpty filled), long, rfl,
                    not_continuesDigits_iff.2 ⟨stops_drop_wholeDigits several,
                      List.isEmpty_iff.1 noFraction, noExponent⟩, front.symm⟩
                · rw [if_neg long] at read
                  cases read
  · rintro ⟨digits, rest, isWhole, long, rfl, ends, rfl⟩
    obtain ⟨noDigit, noFraction, noExponent⟩ := not_continuesDigits_iff.1 ends
    have filled : ¬digits.isEmpty = true := mt List.isEmpty_iff.1 isWhole.filled
    unfold unsignedNumber
    simp only [wholeDigits_append isWhole noDigit, List.drop_left, noFraction, noExponent,
      if_neg filled, List.isEmpty_nil, if_true, if_pos long]

/-! ### Values that are no strings, arrays or objects -/

theorem exists_form_of_number {input rest : Text} {json : Json}
    (read : number input = .ok (json, rest)) : ∃ form : NumberForm, input = form.text ++ rest := by
  cases input with
  | nil => cases read
  | cons sign more =>
      rw [number] at read
      by_cases minus : sign = '-'
      · rw [if_pos minus] at read
        obtain ⟨form, isNegative, written⟩ := exists_form_of_unsignedNumber read
        refine ⟨form, ?_⟩
        rw [NumberForm.text, if_pos isNegative, minus, written]
        rfl
      · rw [if_neg minus] at read
        obtain ⟨form, isNegative, written⟩ := exists_form_of_unsignedNumber read
        refine ⟨form, ?_⟩
        rw [NumberForm.text, if_neg (by rw [isNegative]; exact Bool.false_ne_true)]
        exact written

/-- The integers that have more digits than are read, with the number of these and what follows. -/
inductive IsLongInteger (count : Nat) : Text → Prop
  | intro (isNegative : Bool) {digits rest : Text} (whole : IsWhole digits)
      (long : Text.digitLimit < count)
      (size : digits.length = count) (ends : ¬ContinuesDigits rest) :
      IsLongInteger count (withSign isNegative digits ++ rest)

theorem IsLongInteger.exists_cons {count : Nat} {text : Text} (long : IsLongInteger count text) :
    ∃ isNegative digit more, digit.isDigit = true ∧ text = withSign isNegative (digit :: more) ∧
      ∀ mark, unsignedNumber isNegative (digit :: more) mark = .error (.longInteger count) := by
  obtain @⟨isNegative, digits, rest, whole, long, size, ends⟩ := long
  obtain ⟨digit, more, rfl⟩ := List.exists_cons_of_ne_nil whole.filled
  refine ⟨isNegative, digit, more ++ rest, isDigit_head whole.allDigits rfl, ?_, ?_⟩
  · cases isNegative <;> rfl
  · exact fun mark => unsignedNumber_eq_long_iff.2 ⟨_, rest, whole, long, size, ends, rfl⟩

theorem plainValue_eq_long_iff {input : Text} {count : Nat} :
    plainValue input = .error (.longInteger count) ↔ IsLongInteger count input := by
  constructor
  · intro read
    unfold plainValue at read
    cases word : words.find? (fun word => input.startsWith word.1) with
    | some found =>
        rw [word] at read
        cases read
    | none =>
        rw [word] at read
        cases input with
        | nil => cases read
        | cons sign more =>
            dsimp only at read
            rw [number] at read
            by_cases minus : sign = '-'
            · rw [if_pos minus] at read
              obtain ⟨digits, rest, whole, long, size, ends, rfl⟩ :=
                unsignedNumber_eq_long_iff.1 read
              rw [minus]
              exact .intro true whole long size ends
            · rw [if_neg minus] at read
              obtain ⟨digits, rest, whole, long, size, ends, written⟩ :=
                unsignedNumber_eq_long_iff.1 read
              rw [written]
              exact .intro false whole long size ends
  · intro long
    obtain ⟨isNegative, digit, more, isDigit, rfl, read⟩ := long.exists_cons
    rw [plainValue_withSign isDigit, read]

end ContractTypes.Json
