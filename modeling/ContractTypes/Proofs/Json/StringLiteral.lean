import ContractTypes.Json.Printer
import ContractTypes.Proofs.Json.Spelling

/-!
Strings of JSON, written and read back.

Every code point is written in one of four ways: as a letter after a backslash, as itself, by its
number, or by a pair of surrogates.  All of these are printable ASCII, and the reader takes each of
them for the code point again.  One ambiguity is left, and it is in the format: the two halves of a
pair that stand next to each other in a text are written like the code point that the pair stands
for.  So a text is read back with such halves joined, and a text without them is read back as it is.
-/

namespace ContractTypes

def CodePoint.hexDigit (number : Nat) : CodePoint := .ofChar number.digitChar

theorem CodePoint.hexValue?_hexDigit {number : Nat} (bound : number < 16) :
    (hexDigit number).hexValue? = some number := by
  have all : ∀ digit < 16, (hexDigit digit).hexValue? = some digit := by decide
  exact all number bound

def CodePoint.isPrintableAscii (point : CodePoint) : Bool := point.isBetween 0x20 0x7E

theorem CodePoint.isPrintableAscii_hexDigit {number : Nat} (bound : number < 16) :
    (hexDigit number).isPrintableAscii = true := by
  have all : ∀ digit < 16, (hexDigit digit).isPrintableAscii = true := by decide
  exact all number bound

namespace Text

theorem ofHex_one {number : Nat} (bound : number < 16) :
    ofHex 1 number = [CodePoint.hexDigit number] := by
  unfold ofHex
  rw [Nat.toDigits_of_lt_base bound]
  rfl

theorem ofHex_succ {width : Nat} (wide : 0 < width) (number : Nat) :
    ofHex (width + 1) number = ofHex width (number / 16) ++ [CodePoint.hexDigit (number % 16)] := by
  unfold ofHex
  by_cases single : number < 16
  · have quotient : number / 16 = 0 := by omega
    obtain ⟨fill, rfl⟩ : ∃ fill, width = fill + 1 := ⟨width - 1, by omega⟩
    rw [quotient, Nat.toDigits_of_lt_base single, Nat.mod_eq_of_lt single]
    change List.replicate (fill + 1) (CodePoint.ofChar '0') ++ _ =
      (List.replicate fill (CodePoint.ofChar '0') ++ [CodePoint.ofChar '0']) ++ _
    rw [← List.replicate_succ']
    rfl
  · rw [Nat.toDigits_of_base_le (by decide) (by omega : 16 ≤ number)]
    simp only [List.map_append, List.length_append, List.map_cons, List.map_nil, List.length_cons,
      List.length_nil, Nat.zero_add, Nat.add_sub_add_right, List.append_assoc]
    rfl

theorem ofHex_four {number : Nat} (bound : number < 0x10000) :
    ofHex 4 number =
      [CodePoint.hexDigit (number / 16 / 16 / 16), CodePoint.hexDigit (number / 16 / 16 % 16),
      CodePoint.hexDigit (number / 16 % 16), CodePoint.hexDigit (number % 16)] := by
  rw [ofHex_succ (by decide), ofHex_succ (by decide), ofHex_succ (by decide), ofHex_one (by omega)]
  rfl

end Text

namespace Json

theorem hexNumber?_hexDigits {number : Nat} (bound : number < 0x10000) :
    hexNumber? (CodePoint.hexDigit (number / 16 / 16 / 16))
      (CodePoint.hexDigit (number / 16 / 16 % 16))
      (CodePoint.hexDigit (number / 16 % 16)) (CodePoint.hexDigit (number % 16)) = some number := by
  unfold hexNumber?
  rw [CodePoint.hexValue?_hexDigit (by omega), CodePoint.hexValue?_hexDigit (by omega),
    CodePoint.hexValue?_hexDigit (by omega), CodePoint.hexValue?_hexDigit (by omega)]
  change some _ = some number
  rw [Option.some.injEq]
  omega

theorem isUnit_ofHex {number : Nat} (bound : number < 0x10000) :
    IsUnit (Text.ofHex 4 number) number :=
  ⟨_, _, _, _, Text.ofHex_four bound, hexNumber?_hexDigits bound⟩

/-- The written form of a code point inside a string. -/
inductive Written (point : CodePoint) : Text → Prop where
  | short (letter : CodePoint) (other : letter ≠ 'u') (value : escaped? letter = some point)
      (narrow : point.val < 0x80) : Written point ['\\', letter]
  | plain (noQuote : point ≠ '"') (noSlash : point ≠ '\\') (low : 0x1F < point.val)
      (narrow : point.val < 0x80) : Written point [point]
  | unit (bound : point.val < 0x10000) : Written point (unitEscape point.val)
  | pair (high low : CodePoint) (first : high.isHighSurrogate = true)
      (second : low.isLowSurrogate = true)
      (wide : 0x10000 ≤ point.val) (value : paired high low = point) :
      Written point (unitEscape high.val ++ unitEscape low.val)

theorem written_pair {point : CodePoint} (wide : 0x10000 ≤ point.val) :
    Written point (unitEscape (0xD800 + (point.val - 0x10000) / 0x400) ++
      unitEscape (0xDC00 + (point.val - 0x10000) % 0x400)) := by
  have bound := point.isLt
  refine Written.pair ⟨0xD800 + (point.val - 0x10000) / 0x400, by omega⟩
    ⟨0xDC00 + (point.val - 0x10000) % 0x400, by omega⟩ (CodePoint.isBetween_iff.2 ⟨?_, ?_⟩)
    (CodePoint.isBetween_iff.2 ⟨?_, ?_⟩) wide ?_
  · exact Nat.le_add_right _ _
  · change 0xD800 + (point.val - 0x10000) / 0x400 ≤ 0xDBFF
    omega
  · exact Nat.le_add_right _ _
  · change 0xDC00 + (point.val - 0x10000) % 0x400 ≤ 0xDFFF
    omega
  · have number : 0x10000 + (0xD800 + (point.val - 0x10000) / 0x400 - 0xD800) * 0x400 +
        (0xDC00 + (point.val - 0x10000) % 0x400 - 0xDC00) = point.val := by omega
    unfold paired
    rw [number, CodePoint.ofNat?, dif_pos point.isLt]
    rfl

theorem written_literalStep (point : CodePoint) : Written point (literalStep point) := by
  fun_cases literalStep point with
  | case1 quote => exact quote ▸ Written.short '"' (by decide) rfl (by decide)
  | case2 _ slash => exact slash ▸ Written.short '\\' (by decide) rfl (by decide)
  | case3 _ _ newline => exact newline ▸ Written.short 'n' (by decide) rfl (by decide)
  | case4 _ _ _ carriageReturn =>
      exact carriageReturn ▸ Written.short 'r' (by decide) rfl (by decide)
  | case5 _ _ _ _ tab => exact tab ▸ Written.short 't' (by decide) rfl (by decide)
  | case6 _ _ _ _ _ backspace =>
      have value : escaped? 'b' = some point := congrArg some (CodePoint.ext backspace.symm)
      exact Written.short 'b' (by decide) value (by omega)
  | case7 _ _ _ _ _ _ formFeed =>
      have value : escaped? 'f' = some point := congrArg some (CodePoint.ext formFeed.symm)
      exact Written.short 'f' (by decide) value (by omega)
  | case8 noQuote noSlash _ _ _ _ _ printable =>
      obtain ⟨low, high⟩ := CodePoint.isBetween_iff.1 printable
      exact Written.plain noQuote noSlash (by omega) (by omega)
  | case9 _ _ _ _ _ _ _ _ bound => exact Written.unit bound
  | case10 _ _ _ _ _ _ _ _ wide => exact written_pair (by omega)

theorem Written.spelled {point : CodePoint} {form : Text} (written : Written point form) :
    Spelled point form := by
  cases written with
  | short letter other value narrow => exact .short value
  | plain noQuote noSlash low narrow => exact .plain noQuote noSlash low
  | unit bound => exact .unit (isUnit_ofHex bound)
  | pair high low first second wide value =>
      have highBound := val_lt_of_isHighSurrogate first
      have lowBound := (CodePoint.isBetween_iff.1 second).2
      exact .pair first second (isUnit_ofHex (by omega)) (isUnit_ofHex (by omega)) value

theorem literalStep_surrogate {point : CodePoint} (surrogate : point.isSurrogate = true) :
    literalStep point = unitEscape point.val := by
  obtain ⟨low, high⟩ := CodePoint.isBetween_iff.1 surrogate
  have written := written_literalStep point
  generalize literalStep point = form at written
  cases written with
  | short letter other value narrow => omega
  | plain noQuote noSlash above narrow => omega
  | unit bound => rfl
  | pair first second firstHigh secondLow wide value => omega

/-! ### Printable ASCII -/

theorem printable_unitEscape {number : Nat} (bound : number < 0x10000) :
    (unitEscape number).all CodePoint.isPrintableAscii = true := by
  rw [unitEscape, Text.ofHex_four bound, List.all_append]
  simp only [List.all_cons, List.all_nil]
  rw [CodePoint.isPrintableAscii_hexDigit (by omega),
    CodePoint.isPrintableAscii_hexDigit (by omega), CodePoint.isPrintableAscii_hexDigit (by omega),
    CodePoint.isPrintableAscii_hexDigit (by omega)]
  decide

theorem printable_literalStep (point : CodePoint) :
    (literalStep point).all CodePoint.isPrintableAscii = true := by
  fun_cases literalStep point with
  | case8 _ _ _ _ _ _ _ printable =>
      rw [List.all_cons, CodePoint.isPrintableAscii, printable]
      rfl
  | case9 _ _ _ _ _ _ _ _ bound => exact printable_unitEscape bound
  | case10 =>
      have bound := point.isLt
      rw [List.all_append, printable_unitEscape (by omega), printable_unitEscape (by omega)]
      rfl
  -- The short escapes are fixed texts.
  | _ => decide

/-- A string is written in printable ASCII alone, so no line break stands in it. -/
theorem printable_literal (text : Text) : (literal text).all CodePoint.isPrintableAscii = true := by
  have inside : (text.flatMap literalStep).all CodePoint.isPrintableAscii = true := by
    rw [List.all_flatMap, List.all_eq_true]
    exact fun point _ => printable_literalStep point
  rw [literal, List.all_append, List.all_append, inside]
  rfl

/-! ### Joined pairs -/

/-- A text with each first half of a pair joined to the second half that follows it. -/
def joinPairs : Text → Text
  | high :: low :: rest =>
      if high.isHighSurrogate && low.isLowSurrogate then paired high low :: joinPairs rest
      else high :: joinPairs (low :: rest)
  | short => short

def hasSplitPair : Text → Bool
  | high :: low :: rest => high.isHighSurrogate && low.isLowSurrogate || hasSplitPair (low :: rest)
  | _ => false

theorem joinPairs_eq_self {text : Text} (whole : hasSplitPair text = false) :
    joinPairs text = text := by
  fun_induction joinPairs text with
  | case1 high low rest pair ih =>
      rw [hasSplitPair, pair] at whole
      cases whole
  | case2 high low rest single ih =>
      rw [hasSplitPair, Bool.or_eq_false_iff] at whole
      rw [ih whole.2]
  | case3 short other => rfl

theorem spelled_halves {high low : CodePoint} (first : high.isHighSurrogate = true)
    (second : low.isLowSurrogate = true) :
    Spelled (paired high low) (literalStep high ++ literalStep low) := by
  obtain ⟨least, most⟩ := CodePoint.isBetween_iff.1 first
  obtain ⟨lowest, highest⟩ := CodePoint.isBetween_iff.1 second
  have highPart : high.isSurrogate = true := CodePoint.isBetween_iff.2 ⟨least, by omega⟩
  have lowPart : low.isSurrogate = true := CodePoint.isBetween_iff.2 ⟨by omega, highest⟩
  rw [literalStep_surrogate highPart, literalStep_surrogate lowPart]
  exact .pair first second (isUnit_ofHex (by omega)) (isUnit_ofHex (by omega)) rfl

theorem head_joinPairs {text more : Text} {low : CodePoint} (same : joinPairs text = low :: more) :
    text.head? = some low ∨ 0x10000 ≤ low.val := by
  revert same
  fun_cases joinPairs text with
  | case1 high half rest pair =>
      intro same
      obtain ⟨first, second⟩ := Bool.and_eq_true_iff.1 pair
      right
      rw [← (List.cons.inj same).1]
      exact le_val_paired first second
  | case2 high half rest single =>
      intro same
      left
      rw [← (List.cons.inj same).1]
      rfl
  | case3 =>
      intro same
      left
      rw [same]
      rfl

/-- A written text spells the text with its pairs joined. -/
theorem spells_literalSteps (text : Text) : Spells (joinPairs text) (text.flatMap literalStep) := by
  -- The cases are those of `joinPairs`, because a split pair is written as one spelling.
  fun_induction joinPairs text with
  | case1 high low rest pair ih =>
      obtain ⟨first, second⟩ := Bool.and_eq_true_iff.1 pair
      have wide := le_val_paired first second
      rw [List.flatMap_cons, List.flatMap_cons, ← List.append_assoc]
      refine .cons (spelled_halves first second) ?_ ih
      intro again
      have narrow := val_lt_of_isHighSurrogate again
      omega
  | case2 high low rest single ih =>
      rw [List.flatMap_cons]
      refine .cons (written_literalStep high).spelled ?_ ih
      intro first next more same
      rw [first, Bool.true_and] at single
      rcases head_joinPairs same with head | wide
      · rw [← Option.some.inj head]
        exact Bool.eq_false_iff.2 single
      · rw [Bool.eq_false_iff]
        intro again
        have narrow := (CodePoint.isBetween_iff.1 again).2
        omega
  | case3 short other =>
      cases short with
      | nil => exact .nil
      | cons point text =>
          have ends : text = [] := by
            cases text with
            | nil => rfl
            | cons next more => exact absurd rfl (other point next more)
          subst ends
          rw [List.flatMap_cons]
          refine .cons (written_literalStep point).spelled ?_ .nil
          intro _ low more same
          cases same

theorem stringBody_literal (opening text rest : Text) :
    stringBody opening (text.flatMap literalStep ++ CodePoint.ofChar '"' :: rest) =
      .ok (joinPairs text, rest) :=
  stringBody_of_spells (spells_literalSteps text) opening rest

end Json

end ContractTypes
