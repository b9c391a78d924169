import ContractTypes.Document.Loading
import ContractTypes.Proofs.Json.Acceptance
import ContractTypes.Proofs.Text.Utf8

/-!
How a load ends.

Every failure finds the document malformed but one: a text in which an integer of too many digits is
met.  All other texts, and all bytes that are no text, settle in a document or in an error of that
kind.  The bytes of a text load as the text does.
-/

namespace ContractTypes.Document

open Json

/-- The load ends in a document, or in an error that finds the document malformed. -/
def Settles (result : Except LoadError Document) : Prop :=
  (∃ document, result = .ok document) ∨ ∃ error, result = .error error ∧ error.isMalformed = true

theorem settles_iff {result : Except LoadError Document} :
    Settles result ↔ ∀ count, result ≠ .error (.longInteger count) := by
  constructor
  · rintro (⟨document, rfl⟩ | ⟨error, rfl, malformed⟩) count same
    · cases same
    · cases same
      cases malformed
  · intro other
    cases result with
    | ok document => exact .inl ⟨document, rfl⟩
    | error error =>
        cases error with
        | longInteger count => exact absurd rfl (other count)
        | _ => exact .inr ⟨_, rfl, rfl⟩

theorem settles_ofValue (json : Json) : Settles (ofValue json) := by
  fun_cases ofValue json with
  | case1 _ document => exact .inl ⟨document, rfl⟩
  | case2 => exact .inr ⟨_, rfl, rfl⟩
  | case3 => exact .inr ⟨_, rfl, rfl⟩

theorem ofText_eq_long_iff {text : Text} {count : Nat} :
    ofText text = .error (.longInteger count) ↔ MeetsLongInteger count text := by
  rw [← Json.ofText_eq_long_iff]
  unfold ofText
  cases Json.ofText text with
  | ok json => exact ⟨fun same => absurd same (settles_iff.1 (settles_ofValue json) count), nofun⟩
  | error failure =>
      cases failure with
      | fault fault rest => exact ⟨nofun, nofun⟩
      | longInteger other => exact ⟨fun same => by cases same; rfl, fun same => by cases same; rfl⟩

theorem ofBytes_eq_long_iff {bytes : Bytes} {count : Nat} :
    ofBytes bytes = .error (.longInteger count) ↔
    ∃ text, Utf8.encode text = .ok bytes ∧ MeetsLongInteger count text := by
  unfold ofBytes
  cases read : Utf8.decode bytes with
  | error fault =>
      refine ⟨nofun, ?_⟩
      rintro ⟨text, encoded, _⟩
      rw [Utf8.decode_eq_ok_iff.2 encoded] at read
      cases read
  | ok text =>
      dsimp only
      rw [ofText_eq_long_iff]
      refine ⟨fun long => ⟨text, Utf8.decode_eq_ok_iff.1 read, long⟩, ?_⟩
      rintro ⟨other, encoded, long⟩
      rw [Utf8.decode_eq_ok_iff.2 encoded] at read
      cases read
      exact long

/-- A text is found to be no JSON exactly if it neither is the text of a value nor has an integer of
too many digits before its first fault. -/
theorem exists_notJson_iff {text : Text} :
    (∃ fault place, ofText text = .error (.notJson fault place)) ↔
    (¬∃ value, IsText .value value ∧ Padded value text) ∧
    ∀ count, ¬MeetsLongInteger count text := by
  rw [← exists_ofText_iff]
  simp only [← Json.ofText_eq_long_iff]
  unfold ofText
  cases Json.ofText text with
  | ok json =>
      refine ⟨?_, fun none => absurd ⟨json, rfl⟩ none.1⟩
      rintro ⟨fault, place, same⟩
      dsimp only at same
      revert same
      fun_cases ofValue json <;> nofun
  | error failure =>
      cases failure with
      | fault fault rest => exact ⟨fun _ => ⟨nofun, nofun⟩, fun _ => ⟨fault, _, rfl⟩⟩
      | longInteger count => exact ⟨nofun, fun none => absurd rfl (none.2 count)⟩

/-- Every load settles but those of texts, and of the bytes of texts, in which an integer of too
many digits is met; these end in an error about that integer, which does not find the document
malformed. -/
theorem load_outcome (text : Text) (bytes : Bytes) :
    (Settles (ofText text) ↔ ∀ count, ¬MeetsLongInteger count text) ∧
    (∀ count, ofText text = .error (.longInteger count) ↔ MeetsLongInteger count text) ∧
    (Settles (ofBytes bytes) ↔ ∀ whole, Utf8.encode whole = .ok bytes →
      ∀ count, ¬MeetsLongInteger count whole) ∧
    (∀ count, ofBytes bytes = .error (.longInteger count) ↔
      ∃ whole, Utf8.encode whole = .ok bytes ∧ MeetsLongInteger count whole) := by
  refine ⟨?_, fun count => ofText_eq_long_iff, ?_, fun count => ofBytes_eq_long_iff⟩
  · rw [settles_iff]
    exact forall_congr' (fun count => not_congr ofText_eq_long_iff)
  · rw [settles_iff]
    constructor
    · intro other whole encoded count long
      exact other count (ofBytes_eq_long_iff.2 ⟨whole, encoded, long⟩)
    · intro none count same
      obtain ⟨whole, encoded, long⟩ := ofBytes_eq_long_iff.1 same
      exact none whole encoded count long

theorem isLongInteger_ones {count : Nat} (long : Text.digitLimit < count) :
    IsLongInteger count (List.replicate count (CodePoint.ofChar '1')) := by
  have whole : IsWhole (List.replicate count (CodePoint.ofChar '1')) := by
    obtain ⟨more, rfl⟩ := Nat.exists_eq_succ_of_ne_zero (Nat.ne_of_gt (Nat.zero_lt_of_lt long))
    exact ⟨List.cons_ne_nil _ _, List.all_eq_true.2
      (fun digit listed => by rw [List.eq_of_mem_replicate listed]; rfl), fun rest same =>
      absurd (List.cons.inj same).1 (by decide)⟩
  have ends : ¬ContinuesDigits [] := nofun
  have long := IsLongInteger.intro false whole long List.length_replicate ends
  rw [List.append_nil] at long
  exact long

/-- A text that is an integer with one digit more than are read does not settle. -/
theorem not_settles_ones : ofText (List.replicate 4301 (CodePoint.ofChar '1')) =
    .error (.longInteger 4301) ∧
    ¬Settles (ofText (List.replicate 4301 (CodePoint.ofChar '1'))) := by
  have long : IsLongInteger 4301 (List.replicate 4301 (CodePoint.ofChar '1')) :=
    isLongInteger_ones (by decide)
  have failed := ofText_eq_long_iff.2 ⟨[], _, rfl, (List.nil_append _).symm, .integer long⟩
  exact ⟨failed, fun settles => settles_iff.1 settles _ failed⟩

theorem ofBytes_of_encode {text : Text} {bytes : Bytes} (encoded : Utf8.encode text = .ok bytes) :
    ofBytes bytes = ofText text := by
  unfold ofBytes
  rw [Utf8.decode_eq_ok_iff.2 encoded]

/-- A scalar text has bytes, and they load as the text does: in the same document, or in the same
error at the same place.  All other bytes are found malformed at the first of them that starts no
form, whatever stands before and behind it. -/
theorem ofBytes_outcome :
    (∀ text : Text, text.isScalar = true → ∃ bytes, Utf8.encode text = .ok bytes ∧
      ofBytes bytes = ofText text) ∧
    ∀ bytes : Bytes, (∀ text, Utf8.encode text ≠ .ok bytes) →
      ∃ (before : Text) (first : UInt8) (rest : Bytes) (fault : Utf8.Fault),
        before.isScalar = true ∧
        bytes = before.flatMap Utf8.encodePoint ++ first :: rest ∧
          Utf8.StartsNoForm (first :: rest) ∧
        fault.byte = first ∧ fault.remaining = rest.length + 1 ∧
        ofBytes bytes = .error (.notUtf8 fault bytes.length) ∧
        (LoadError.notUtf8 fault bytes.length).isMalformed = true := by
  constructor
  · intro text scalar
    obtain ⟨bytes, encoded⟩ := Utf8.exists_encode_iff.2 scalar
    exact ⟨bytes, encoded, ofBytes_of_encode encoded⟩
  · intro bytes foreign
    obtain ⟨before, first, rest, fault, scalar, whole, formless, failed, byte, remaining⟩ :=
      Utf8.exists_fault_of_foreign foreign
    refine ⟨before, first, rest, fault, scalar, whole, formless, byte, remaining, ?_, rfl⟩
    unfold ofBytes
    rw [failed]

/-- A text with an accent, and an empty object behind which the bytes of a surrogate would stand. -/
theorem ofBytes_accented :
    (Text.isScalar "\x7b\"version\": \"é\"\x7d" = true ∧
      ∃ bytes, Utf8.encode "\x7b\"version\": \"é\"\x7d" = .ok bytes ∧
        ofBytes bytes = ofText "\x7b\"version\": \"é\"\x7d") ∧
    ((∀ text, Utf8.encode text ≠ .ok [0x7B, 0x7D, 0xED, 0xA0, 0x80]) ∧
      ∃ fault, ofBytes [0x7B, 0x7D, 0xED, 0xA0, 0x80] = .error (.notUtf8 fault 5)) := by
  have scalar : Text.isScalar "\x7b\"version\": \"é\"\x7d" = true := by decide
  have foreign : ∀ text, Utf8.encode text ≠ .ok [0x7B, 0x7D, 0xED, 0xA0, 0x80] := by
    intro text encoded
    have read := Utf8.decode_eq_ok_iff.2 encoded
    have failed : Utf8.decode [0x7B, 0x7D, 0xED, 0xA0, 0x80] =
      .error ⟨3, 1, 0xED, .continuationByte⟩ := by rfl
    rw [failed] at read
    cases read
  obtain ⟨_, _, _, fault, _, _, _, _, _, failed, _⟩ := ofBytes_outcome.2 _ foreign
  exact ⟨⟨scalar, ofBytes_outcome.1 _ scalar⟩, foreign, fault, failed⟩

end ContractTypes.Document
