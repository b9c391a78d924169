import ContractTypes.TypeExpression

/-!
The parts of a type expression.

The bare name of an expression with its markers written behind it gives the expression back, and no
marker ends the bare name.  One more marker at the end of an expression is one more marker in front
of its list, and leaves the bare name as it is.
-/

namespace ContractTypes.TypeExpression

/-- A name with markers behind it, which are given with the outermost first. -/
def marked (markers : List Marker) (name : Text) : Text :=
  markers.foldr (fun marker inner => inner ++ marker.text) name

theorem marked_cons (marker : Marker) (markers : List Marker) (name : Text) :
    marked (marker :: markers) name = marked markers name ++ marker.text := rfl

theorem splitReversed_marker (marker : Marker) (rest : Text) :
    splitReversed (marker.text.reverse ++ rest) =
      (marker :: (splitReversed rest).1, (splitReversed rest).2) := by
  cases marker with
  | optional =>
      change splitReversed (CodePoint.ofChar '?' :: rest) = _
      rw [splitReversed.eq_def]
      rfl
  | array =>
      change splitReversed (CodePoint.ofChar ']' :: CodePoint.ofChar '[' :: rest) = _
      rw [splitReversed.eq_def]
      rfl
  | extension =>
      change splitReversed (CodePoint.ofChar '$' :: rest) = _
      rw [splitReversed.eq_def]
      rfl

theorem markers_append (rest : Text) (marker : Marker) :
    markers (rest ++ marker.text) = marker :: markers rest := by
  unfold markers
  rw [List.reverse_append, splitReversed_marker]

theorem append_marker_ne_nil (rest : Text) (marker : Marker) : rest ++ marker.text ≠ [] := by
  intro empty
  have markless : marker.text = [] := (List.append_eq_nil_iff.1 empty).2
  cases marker <;> cases markless

-- Only the head of a reversed text is looked at, and for the array marker also the code point
-- behind it.
theorem ne_marker_append {point : CodePoint} {rest : Text} (question : ¬point = '?')
    (dollar : ¬point = '$') (bracket : point = ']' →
      ∀ more : Text, rest ≠ CodePoint.ofChar '[' :: more)
    (marker : Marker) (more : Text) : point :: rest ≠ marker.text.reverse ++ more := by
  intro same
  cases marker with
  | optional => exact question (List.cons.inj same).1
  | array =>
      obtain ⟨head, tail⟩ := List.cons.inj same
      exact bracket head more tail
  | extension => exact dollar (List.cons.inj same).1

theorem splitReversed_spec (reversed : Text) :
    marked (splitReversed reversed).1 (splitReversed reversed).2.reverse = reversed.reverse ∧
      ∀ (marker : Marker) (rest : Text),
        (splitReversed reversed).2 ≠ marker.text.reverse ++ rest := by
  fun_induction splitReversed reversed with
  | case1 =>
      refine ⟨rfl, fun marker rest empty => ?_⟩
      cases marker <;> cases empty
  | case2 rest below ih =>
      refine ⟨?_, ih.2⟩
      rw [marked_cons, ih.1, List.reverse_cons]
      rfl
  | case3 rest below _ ih =>
      refine ⟨?_, ih.2⟩
      rw [marked_cons, ih.1, List.reverse_cons]
      rfl
  | case4 question dollar =>
      refine ⟨rfl, ne_marker_append question dollar (fun _ more same => ?_)⟩
      cases same
  | case5 more below question dollar ih =>
      refine ⟨?_, ih.2⟩
      rw [marked_cons, ih.1, List.reverse_cons, List.reverse_cons, List.append_assoc]
      rfl
  | case6 next more notOpening question dollar =>
      refine ⟨rfl, ne_marker_append question dollar (fun _ later same => ?_)⟩
      exact notOpening (List.cons.inj same).1
  | case7 point rest question dollar bracket =>
      exact ⟨rfl, ne_marker_append question dollar (fun same => absurd same bracket)⟩

theorem marked_markers_bareName (expression : Text) :
    marked (markers expression) (bareName expression) = expression := by
  have parts := (splitReversed_spec expression.reverse).1
  rw [List.reverse_reverse] at parts
  exact parts

theorem bareName_ne_append (expression rest : Text) (marker : Marker) :
    bareName expression ≠ rest ++ marker.text := by
  intro same
  apply (splitReversed_spec expression.reverse).2 marker rest.reverse
  have reversed := congrArg List.reverse same
  rw [bareName, List.reverse_reverse, List.reverse_append] at reversed
  exact reversed

theorem bareName_append (rest : Text) (marker : Marker) :
    bareName (rest ++ marker.text) = bareName rest := by
  unfold bareName
  rw [List.reverse_append, splitReversed_marker]

theorem parts_of_markless {name : Text} (markless : ∀ marker : Marker, ¬marker.text <:+ name) :
    markers name = [] ∧ bareName name = name := by
  have whole := marked_markers_bareName name
  cases outer : markers name with
  | nil =>
      rw [outer] at whole
      exact ⟨rfl, whole⟩
  | cons marker more =>
      rw [outer, marked_cons] at whole
      exact absurd ⟨_, whole⟩ (markless marker)

theorem bareName_marked (outer : List Marker) (rest : Text) :
    bareName (marked outer rest) = bareName rest := by
  induction outer with
  | nil => rfl
  | cons marker outer ih => rw [marked_cons, bareName_append, ih]

theorem markers_marked (outer : List Marker) (rest : Text) :
    markers (marked outer rest) = outer ++ markers rest := by
  induction outer with
  | nil => rfl
  | cons marker outer ih => rw [marked_cons, markers_append, ih, List.cons_append]

theorem parts_marked {name : Text} (markless : ∀ marker : Marker, ¬marker.text <:+ name)
    (outer : List Marker) : markers (marked outer name) = outer ∧
    bareName (marked outer name) = name := by
  obtain ⟨unmarked, bare⟩ := parts_of_markless markless
  rw [markers_marked, bareName_marked, unmarked, List.append_nil]
  exact ⟨rfl, bare⟩

theorem append_flatMap_text (rest : Text) (written : List Marker) :
    rest ++ written.flatMap Marker.text = marked written.reverse rest := by
  induction written generalizing rest with
  | nil => exact List.append_nil rest
  | cons marker written ih =>
      rw [List.flatMap_cons, ← List.append_assoc, ih, List.reverse_cons, marked, marked,
        List.foldr_append]
      rfl

end ContractTypes.TypeExpression
