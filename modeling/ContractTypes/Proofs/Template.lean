import ContractTypes.Proofs.Result
import ContractTypes.Template

/-!
Templates that can be filled.

The part of a template behind its field is a text with every brace written twice, and filling the
template gives back that text.  A part in which a brace stands alone cannot be filled.
-/

namespace ContractTypes.Template

def isBrace (point : CodePoint) : Bool := decide (point = opening) || decide (point = closing)

def doubled (text : Text) : Text :=
  text.flatMap (fun point => if isBrace point then [point, point] else [point])

theorem doubled_cons (point : CodePoint) (text : Text) :
    doubled (point :: text) = (if isBrace point then [point, point] else [point]) ++ doubled text :=
  List.flatMap_cons

theorem doubled_append (left right : Text) :
    doubled (left ++ right) = doubled left ++ doubled right :=
  List.flatMap_append

theorem isBrace_iff {point : CodePoint} : isBrace point = true ↔
    point = opening ∨ point = closing := by
  unfold isBrace
  rw [Bool.or_eq_true, decide_eq_true_iff, decide_eq_true_iff]

theorem remainder_pair {point : CodePoint} (brace : isBrace point = true) (rest : Text) :
    remainder (point :: point :: rest) = (remainder rest).map (point :: ·) := by
  rw [remainder]
  rcases isBrace_iff.1 brace with rfl | rfl
  · rw [if_pos rfl, if_pos rfl]
  · rw [if_neg (by decide), if_pos rfl, if_pos rfl]

theorem remainder_plain {point : CodePoint} (plain : ¬isBrace point = true) (rest : Text) :
    remainder (point :: rest) = (remainder rest).map (point :: ·) := by
  rw [isBrace_iff, not_or] at plain
  rw [remainder.eq_def]
  dsimp only
  rw [if_neg plain.1, if_neg plain.2]

theorem remainder_doubled (text : Text) : remainder (doubled text) = .ok text := by
  induction text with
  | nil => rfl
  | cons point text ih =>
      rw [doubled_cons]
      by_cases brace : isBrace point = true
      · rw [if_pos brace]
        change remainder (point :: point :: doubled text) = _
        rw [remainder_pair brace, ih]
        rfl
      · rw [if_neg brace]
        change remainder (point :: doubled text) = _
        rw [remainder_plain brace, ih]
        rfl

theorem eq_doubled_of_remainder {text written : Text} (filled : remainder text = .ok written) :
    text = doubled written := by
  fun_induction remainder text generalizing written with
  | case1 =>
      cases filled
      rfl
  | case2 => cases filled
  | case3 after ih =>
      obtain ⟨rest, inner, rfl⟩ := exists_of_map_eq_ok filled
      rw [doubled_cons, if_pos (isBrace_iff.2 (.inl rfl)), ← ih inner]
      rfl
  | case4 => cases filled
  | case5 => cases filled
  | case6 after differs ih =>
      obtain ⟨rest, inner, rfl⟩ := exists_of_map_eq_ok filled
      rw [doubled_cons, if_pos (isBrace_iff.2 (.inr rfl)), ← ih inner]
      rfl
  | case7 => cases filled
  | case8 point after notOpening notClosing ih =>
      obtain ⟨rest, inner, rfl⟩ := exists_of_map_eq_ok filled
      rw [doubled_cons, if_neg (mt isBrace_iff.1 (not_or.2 ⟨notOpening, notClosing⟩)), ← ih inner]
      rfl

theorem remainder_eq_ok_iff {text written : Text} :
    remainder text = .ok written ↔ text = doubled written := by
  constructor
  · exact eq_doubled_of_remainder
  · rintro rfl
    exact remainder_doubled written

/-- A plain point at the end of a text does not pair any brace in it. -/
theorem exists_doubled_append_plain_iff {point : CodePoint} (plain : ¬isBrace point = true)
    (text : Text) :
    (∃ written, text ++ [point] = doubled written) ↔ ∃ written, text = doubled written := by
  constructor
  · rintro ⟨written, same⟩
    rcases List.eq_nil_or_concat written with rfl | ⟨front, last, rfl⟩
    · exact absurd same (List.append_ne_nil_of_right_ne_nil _ (List.cons_ne_nil _ _))
    rw [List.concat_eq_append, doubled_append, doubled_cons] at same
    by_cases brace : isBrace last = true
    · rw [if_pos brace] at same
      have pair : text ++ [point] = (doubled front ++ [last]) ++ [last] := by
        rw [same, List.append_assoc]
        rfl
      obtain ⟨-, lasts⟩ := List.append_inj' pair rfl
      rw [List.head_eq_of_cons_eq lasts] at plain
      exact absurd brace plain
    · rw [if_neg brace] at same
      exact ⟨front, (List.append_inj' same rfl).1⟩
  · rintro ⟨written, rfl⟩
    refine ⟨written ++ [point], ?_⟩
    rw [doubled_append, doubled_cons, if_neg plain]
    rfl

end ContractTypes.Template
