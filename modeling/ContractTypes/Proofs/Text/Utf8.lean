import ContractTypes.Proofs.Text.Scalar

/-!
Reading what UTF-8 writes.

The reader takes the form of a scalar code point off the head of bytes, and it goes on only behind
such a form.  So bytes are read as a text exactly if they are the bytes of that text.
-/

namespace ContractTypes.Utf8

section Bytes

variable {byte first second : UInt8} {number : Nat}

theorem between_iff {low high : Nat} : between byte low high = true ↔
    low ≤ byte.toNat ∧ byte.toNat ≤ high := by
  unfold between
  rw [Bool.and_eq_true, Nat.ble_eq, Nat.ble_eq]

theorem isContinuation_iff : isContinuation byte = true ↔ 0x80 ≤ byte.toNat ∧ byte.toNat ≤ 0xBF :=
  between_iff

theorem toNat_toUInt8 (small : number < 0x100) : number.toUInt8.toNat = number :=
  Nat.mod_eq_of_lt small

theorem toUInt8_eq (same : number = byte.toNat) : number.toUInt8 = byte := by
  rw [same]
  exact UInt8.ofNat_toNat

theorem val_point (bound : number < 0x110000) : (point number).val = number := by
  unfold point CodePoint.ofNat?
  rw [dif_pos bound]
  rfl

theorem point_eq {code : CodePoint} (same : number = code.val) : point number = code :=
  CodePoint.ext (by rw [val_point (same ▸ code.isLt), same])

/-- A second byte is one that may follow, with a lower bound behind one first byte and an upper
bound behind another. -/
theorem second_iff {least most : UInt8} {low high : Nat} (apart : least ≠ most) (above : 0x80 ≤ low)
    (below : high ≤ 0xBF) :
    (if first = least then between second low 0xBF
      else if first = most then between second 0x80 high else isContinuation second) = true ↔
      0x80 ≤ second.toNat ∧ second.toNat ≤ 0xBF ∧ (first.toNat = least.toNat → low ≤ second.toNat) ∧
        (first.toNat = most.toNat → second.toNat ≤ high) := by
  rw [UInt8.toNat_inj, UInt8.toNat_inj]
  by_cases isLeast : first = least
  · rw [if_pos isLeast]
    simp only [isLeast, apart, between_iff, true_implies, false_implies, and_true]
    omega
  · rw [if_neg isLeast]
    by_cases isMost : first = most
    · rw [if_pos isMost]
      simp only [isMost, apart.symm, between_iff, true_implies, false_implies, true_and]
      omega
    · rw [if_neg isMost, isContinuation_iff]
      simp only [isLeast, isMost, false_implies, and_true]

/-- A form of three bytes is none of a smaller number and none of a surrogate. -/
theorem isSecondOfThree_iff :
    isSecondOfThree first second = true ↔ 0x80 ≤ second.toNat ∧ second.toNat ≤ 0xBF ∧
      (first.toNat = 0xE0 → 0xA0 ≤ second.toNat) ∧ (first.toNat = 0xED → second.toNat ≤ 0x9F) :=
  second_iff (by decide) (by decide) (by decide)

/-- A form of four bytes is none of a smaller number and none of a number beyond the code points. -/
theorem isSecondOfFour_iff :
    isSecondOfFour first second = true ↔ 0x80 ≤ second.toNat ∧ second.toNat ≤ 0xBF ∧
      (first.toNat = 0xF0 → 0x90 ≤ second.toNat) ∧ (first.toNat = 0xF4 → second.toNat ≤ 0x8F) :=
  second_iff (by decide) (by decide) (by decide)

end Bytes

/-! ### The forms of code points -/

/-- The bytes that are read as a code point. -/
inductive Form : CodePoint → Bytes → Prop
  | one {first : UInt8} (single : first.toNat < 0x80) : Form (point first.toNat) [first]
  | two {first second : UInt8} (starts : between first 0xC2 0xDF = true)
      (next : isContinuation second = true) :
      Form (point (first.toNat % 0x20 * 0x40 + payload second)) [first, second]
  | three {first second third : UInt8} (starts : between first 0xE0 0xEF = true)
      (next : isSecondOfThree first second = true) (last : isContinuation third = true) :
      Form (point ((first.toNat % 0x10 * 0x40 + payload second) * 0x40 + payload third))
        [first, second, third]
  | four {first second third fourth : UInt8} (starts : between first 0xF0 0xF4 = true)
      (next : isSecondOfFour first second = true) (more : isContinuation third = true)
      (last : isContinuation fourth = true) :
      Form (point
        (((first.toNat % 0x08 * 0x40 + payload second) * 0x40 + payload third) * 0x40 + payload
          fourth))
        [first, second, third, fourth]

theorem Form.eq_encodePoint {code : CodePoint} {form : Bytes} (written : Form code form) :
    code.isSurrogate = false ∧ encodePoint code = form := by
  cases written with
  | @one first single =>
      have number : (point first.toNat).val = first.toNat :=
        val_point (Nat.lt_trans single (by decide))
      refine ⟨CodePoint.isSurrogate_eq_false_iff.2 (by omega), ?_⟩
      unfold encodePoint
      simp only [number]
      rw [if_pos single, toUInt8_eq rfl]
  | @two first second starts next =>
      rw [between_iff] at starts
      rw [isContinuation_iff] at next
      unfold payload
      have number : (point (first.toNat % 0x20 * 0x40 + second.toNat % 0x40)).val =
          first.toNat % 0x20 * 0x40 + second.toNat % 0x40 := val_point (by omega)
      refine ⟨CodePoint.isSurrogate_eq_false_iff.2 (by omega), ?_⟩
      unfold encodePoint
      simp only [number]
      rw [if_neg (by omega), if_pos (by omega), toUInt8_eq (show _ = first.toNat by omega),
        toUInt8_eq (show _ = second.toNat by omega)]
  | @three first second third starts next last =>
      rw [between_iff] at starts
      rw [isSecondOfThree_iff] at next
      rw [isContinuation_iff] at last
      unfold payload
      have number :
        (point ((first.toNat % 0x10 * 0x40 + second.toNat % 0x40) * 0x40 + third.toNat %
          0x40)).val =
          (first.toNat % 0x10 * 0x40 + second.toNat % 0x40) * 0x40 + third.toNat % 0x40 :=
            val_point (by omega)
      refine ⟨CodePoint.isSurrogate_eq_false_iff.2 (by omega), ?_⟩
      unfold encodePoint
      simp only [number]
      rw [if_neg (by omega), if_neg (by omega), if_pos (by omega),
        toUInt8_eq (show _ = first.toNat by omega), toUInt8_eq (show _ = second.toNat by omega),
        toUInt8_eq (show _ = third.toNat by omega)]
  | @four first second third fourth starts next more last =>
      rw [between_iff] at starts
      rw [isSecondOfFour_iff] at next
      rw [isContinuation_iff] at more last
      unfold payload
      have number :
        (point (((first.toNat % 0x08 * 0x40 + second.toNat % 0x40) * 0x40 + third.toNat % 0x40) *
          0x40 +
          fourth.toNat % 0x40)).val = ((first.toNat % 0x08 * 0x40 + second.toNat % 0x40) * 0x40 +
            third.toNat % 0x40) * 0x40 + fourth.toNat % 0x40 := val_point (by omega)
      refine ⟨CodePoint.isSurrogate_eq_false_iff.2 (by omega), ?_⟩
      unfold encodePoint
      simp only [number]
      rw [if_neg (by omega), if_neg (by omega), if_neg (by omega),
        toUInt8_eq (show _ = first.toNat by omega), toUInt8_eq (show _ = second.toNat by omega),
        toUInt8_eq (show _ = third.toNat by omega),
        toUInt8_eq (show _ = fourth.toNat by omega)]

theorem form_encodePoint {code : CodePoint} (scalar : code.isSurrogate = false) :
    Form code (encodePoint code) := by
  have bound := code.isLt
  have sides := CodePoint.isSurrogate_eq_false_iff.1 scalar
  fun_cases encodePoint code with
  | case1 _ few =>
      have first := toNat_toUInt8 (show code.val < 0x100 by omega)
      have written : Form (point _) [code.val.toUInt8] := .one (by omega)
      rw [point_eq first] at written
      exact written
  | case2 _ more few =>
      have first := toNat_toUInt8 (show 0xC0 + code.val / 0x40 < 0x100 by omega)
      have second := toNat_toUInt8 (show 0x80 + code.val % 0x40 < 0x100 by omega)
      have written :
          Form (point _) [(0xC0 + code.val / 0x40).toUInt8, (0x80 + code.val % 0x40).toUInt8] :=
        .two (between_iff.2 (by omega)) (isContinuation_iff.2 (by omega))
      rw [payload, show point _ = code from point_eq (by omega)] at written
      exact written
  | case3 _ _ more few =>
      have first := toNat_toUInt8 (show 0xE0 + code.val / 0x1000 < 0x100 by omega)
      have second := toNat_toUInt8 (show 0x80 + code.val / 0x40 % 0x40 < 0x100 by omega)
      have third := toNat_toUInt8 (show 0x80 + code.val % 0x40 < 0x100 by omega)
      have written : Form (point _) [(0xE0 + code.val / 0x1000).toUInt8,
          (0x80 + code.val / 0x40 % 0x40).toUInt8, (0x80 + code.val % 0x40).toUInt8] :=
        .three (between_iff.2 (by omega)) (isSecondOfThree_iff.2 (by omega))
          (isContinuation_iff.2 (by omega))
      rw [payload, payload, show point _ = code from point_eq (by omega)] at written
      exact written
  | case4 _ _ _ more =>
      have first := toNat_toUInt8 (show 0xF0 + code.val / 0x40000 < 0x100 by omega)
      have second := toNat_toUInt8 (show 0x80 + code.val / 0x1000 % 0x40 < 0x100 by omega)
      have third := toNat_toUInt8 (show 0x80 + code.val / 0x40 % 0x40 < 0x100 by omega)
      have fourth := toNat_toUInt8 (show 0x80 + code.val % 0x40 < 0x100 by omega)
      have written : Form (point _) [(0xF0 + code.val / 0x40000).toUInt8,
          (0x80 + code.val / 0x1000 % 0x40).toUInt8, (0x80 + code.val / 0x40 % 0x40).toUInt8,
          (0x80 + code.val % 0x40).toUInt8] :=
        .four (between_iff.2 (by omega)) (isSecondOfFour_iff.2 (by omega))
          (isContinuation_iff.2 (by omega)) (isContinuation_iff.2 (by omega))
      rw [payload, payload, payload, show point _ = code from point_eq (by omega)] at written
      exact written

/-! ### Forms are read one after another -/

theorem decodeOnto_form {code : CodePoint} {form : Bytes} (written : Form code form) (before : Text)
    (rest : Bytes) : decodeOnto before (form ++ rest) = decodeOnto (code :: before) rest := by
  cases written with
  | one single =>
      rw [List.cons_append, decodeOnto.eq_def]
      simp only
      rw [if_pos single]
      rfl
  | two starts next =>
      have many := between_iff.1 starts
      rw [List.cons_append, List.cons_append, decodeOnto.eq_def]
      simp only
      rw [if_neg (by omega), if_pos starts, if_pos next]
      rfl
  | three starts next last =>
      have many := between_iff.1 starts
      rw [List.cons_append, List.cons_append, List.cons_append, decodeOnto.eq_def]
      simp only
      rw [if_neg (by omega), if_neg (mt between_iff.1 (by omega)), if_pos starts, if_pos next,
        if_pos last]
      rfl
  | four starts next more last =>
      have many := between_iff.1 starts
      rw [List.cons_append, List.cons_append, List.cons_append, List.cons_append, decodeOnto.eq_def]
      simp only
      rw [if_neg (by omega), if_neg (mt between_iff.1 (by omega)),
        if_neg (mt between_iff.1 (by omega)), if_pos starts, if_pos next, if_pos more, if_pos last]
      rfl

/-- Whether bytes start with no form, as bytes do that begin with a stray or a cut one. -/
def StartsNoForm (bytes : Bytes) : Prop :=
  ∀ code form rest, Form code form → bytes ≠ form ++ rest

/-- Bytes that start with no form are not read, and the fault is placed at the first of them. -/
theorem decodeOnto_of_startsNoForm {bytes : Bytes} (filled : bytes ≠ [])
    (formless : StartsNoForm bytes) (before : Text) : ∃ fault,
      decodeOnto before bytes = .error fault ∧ bytes.head? = some fault.byte ∧
        fault.remaining = bytes.length := by
  -- Of all ways through the reader only four go on behind the first byte, one for each form.
  fun_cases decodeOnto before bytes with
  | case1 => exact absurd rfl filled
  | case2 first rest single => exact absurd rfl (formless _ _ _ (.one single))
  | case4 first _ starts second more next =>
      exact absurd rfl (formless _ _ _ (.two starts next))
  | case8 first _ _ starts second next third left last =>
      exact absurd rfl (formless _ _ _ (.three starts next last))
  | case14 first _ _ _ starts second next third more fourth final last =>
      exact absurd rfl (formless _ _ _ (.four starts next more last))
  | _ => exact ⟨_, rfl, rfl, rfl⟩

theorem decodeOnto_flatMap {text : Text} (scalar : text.isScalar = true) (before : Text)
    (rest : Bytes) :
    decodeOnto before (text.flatMap encodePoint ++ rest) =
      decodeOnto (text.reverse ++ before) rest := by
  induction text generalizing before with
  | nil => rfl
  | cons code more ih =>
      obtain ⟨single, others⟩ := Text.isScalar_cons_iff.1 scalar
      rw [List.flatMap_cons, List.append_assoc, decodeOnto_form (form_encodePoint single),
        ih others, List.reverse_cons, List.append_assoc]
      rfl

/-- Bytes are those of a text, with bytes behind them that start with no form. -/
theorem exists_text_before (bytes : Bytes) : ∃ (text : Text) (rest : Bytes), text.isScalar = true ∧
    bytes = text.flatMap encodePoint ++ rest ∧ StartsNoForm rest := by
  -- Each form takes at least one byte, so the induction is on the number of bytes left.
  induction count : bytes.length using Nat.strongRecOn generalizing bytes with
  | ind size ih =>
      by_cases formless : StartsNoForm bytes
      · exact ⟨[], bytes, rfl, rfl, formless⟩
      · unfold StartsNoForm at formless
        push Not at formless
        obtain ⟨code, form, left, written, rfl⟩ := formless
        have shorter : left.length < size := by
          rw [← count, List.length_append]
          cases written <;> simp
        obtain ⟨scalar, own⟩ := written.eq_encodePoint
        obtain ⟨text, rest, others, rfl, formless⟩ := ih left.length shorter left rfl
        refine ⟨code :: text, rest, Text.isScalar_cons_iff.2 ⟨scalar, others⟩, ?_, formless⟩
        rw [List.flatMap_cons, own, List.append_assoc]

theorem decode_eq_ok_iff {bytes : Bytes} {text : Text} : decode bytes = .ok text ↔
    encode text = .ok bytes := by
  rw [encode_eq_ok_iff, decode]
  constructor
  · intro read
    obtain ⟨whole, rest, scalar, rfl, formless⟩ := exists_text_before bytes
    rw [decodeOnto_flatMap scalar, List.append_nil] at read
    cases rest with
    | nil =>
        rw [decodeOnto, List.reverse_reverse] at read
        cases read
        exact ⟨scalar, List.append_nil _⟩
    | cons first more =>
        obtain ⟨fault, failed, _⟩ :=
          decodeOnto_of_startsNoForm (List.cons_ne_nil first more) formless whole.reverse
        rw [failed] at read
        cases read
  · rintro ⟨scalar, rfl⟩
    have read := decodeOnto_flatMap scalar [] []
    rw [List.append_nil, List.append_nil, decodeOnto, List.reverse_reverse] at read
    exact read

/-- Bytes of no text are not read.  The fault is placed at the first byte behind the bytes of a text
that starts no form, whatever follows it. -/
theorem exists_fault_of_foreign {bytes : Bytes} (foreign : ∀ text, encode text ≠ .ok bytes) :
    ∃ (text : Text) (first : UInt8) (rest : Bytes) (fault : Fault), text.isScalar = true ∧
      bytes = text.flatMap encodePoint ++ first :: rest ∧
      StartsNoForm (first :: rest) ∧ decode bytes = .error fault ∧ fault.byte = first ∧
      fault.remaining = rest.length + 1 := by
  obtain ⟨text, rest, scalar, rfl, formless⟩ := exists_text_before bytes
  cases rest with
  | nil => exact absurd (encode_eq_ok_iff.2 ⟨scalar, List.append_nil _⟩) (foreign text)
  | cons first rest =>
      obtain ⟨fault, failed, byte, remaining⟩ :=
        decodeOnto_of_startsNoForm (List.cons_ne_nil first rest) formless text.reverse
      refine ⟨text, first, rest, fault, scalar, rfl, formless, ?_, (Option.some.inj byte).symm,
        remaining⟩
      rw [decode, decodeOnto_flatMap scalar, List.append_nil]
      exact failed

end ContractTypes.Utf8
