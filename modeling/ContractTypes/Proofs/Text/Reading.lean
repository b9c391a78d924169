import ContractTypes.Text.CodePoint

/-!
Reading the head of a text.

A reader takes either a fixed text or all code points of one kind off the head of a text.  What was
put in front of a rest comes off again, in the second case if the rest does not go on with that
kind.
-/

namespace ContractTypes.Text

def strip? (input wanted : Text) : Option Text :=
  if input.startsWith wanted then some (input.drop wanted.length) else none

def stops (holds : CodePoint → Bool) : Text → Bool
  | [] => true
  | point :: _ => !holds point

theorem startsWith_append (wanted rest : Text) : startsWith (wanted ++ rest) wanted = true := by
  induction wanted with
  | nil => cases rest <;> rfl
  | cons point more ih =>
      rw [List.cons_append, startsWith, ih, decide_eq_true rfl]
      rfl

theorem strip?_append (wanted rest : Text) : strip? (wanted ++ rest) wanted = some rest := by
  rw [strip?, if_pos (startsWith_append wanted rest), List.drop_left]

theorem eq_append_of_startsWith {input wanted : Text} (starts : startsWith input wanted = true) :
    input = wanted ++ input.drop wanted.length := by
  induction wanted generalizing input with
  | nil => rfl
  | cons point more ih =>
      cases input with
      | nil => cases starts
      | cons first rest =>
          rw [startsWith, Bool.and_eq_true, decide_eq_true_iff] at starts
          rw [starts.1]
          exact congrArg (List.cons point) (ih starts.2)

section Kind

variable {holds : CodePoint → Bool} {text rest : Text}

theorem not_of_stops_cons {point : CodePoint} (ends : stops holds (point :: rest) = true) :
    ¬holds point = true := by
  intro goesOn
  rw [stops, goesOn] at ends
  cases ends

theorem stops_mono {weak : CodePoint → Bool}
    (implies : ∀ point, weak point = true → holds point = true) (ends : stops holds rest = true) :
    stops weak rest = true := by
  cases rest with
  | nil => rfl
  | cons point more =>
      have stronger := not_of_stops_cons ends
      rw [stops, Bool.not_eq_true', Bool.eq_false_iff]
      exact fun weaker => stronger (implies point weaker)

theorem takeWhile_of_stops (ends : stops holds rest = true) : rest.takeWhile holds = [] := by
  cases rest with
  | nil => rfl
  | cons point more => exact List.takeWhile_cons_of_neg (not_of_stops_cons ends)

theorem dropWhile_of_stops (ends : stops holds rest = true) : rest.dropWhile holds = rest := by
  cases rest with
  | nil => rfl
  | cons point more => exact List.dropWhile_cons_of_neg (not_of_stops_cons ends)

theorem stops_dropWhile (holds : CodePoint → Bool) (text : Text) :
    stops holds (text.dropWhile holds) = true := by
  induction text with
  | nil => rfl
  | cons point rest ih =>
      rw [List.dropWhile_cons]
      by_cases more : holds point = true
      · rw [if_pos more]
        exact ih
      · rw [if_neg more, stops, Bool.not_eq_true', Bool.eq_false_iff]
        exact more

theorem takeWhile_append (all : text.all holds = true) (ends : stops holds rest = true) :
    (text ++ rest).takeWhile holds = text := by
  rw [List.takeWhile_append_of_pos (List.all_eq_true.1 all), takeWhile_of_stops ends,
    List.append_nil]

theorem dropWhile_append (all : text.all holds = true) (ends : stops holds rest = true) :
    (text ++ rest).dropWhile holds = rest := by
  rw [List.dropWhile_append_of_pos (List.all_eq_true.1 all), dropWhile_of_stops ends]

end Kind

end ContractTypes.Text
