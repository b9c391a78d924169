import ContractTypes.Proofs.TypeText.Shape

/-!
The text of a type by recursion.

The text of a type is made in one run over its wrappers, the innermost first, with a mark that tells
whether the text so far is a union.  The mark is set exactly if the last wrapper was an optional or
an extension.  So the run gives what a recursion on the type gives that looks at the type directly
inside a wrapper.
-/

namespace ContractTypes.TypeRef

/-- The text of a type from that of the type directly inside its outermost wrapper. -/
def nestedText (format : Text → Text) : TypeRef → Except TypeTextError Text
  | scalar name =>
      match Scalar.typeText? name with
      | some text => .ok text
      | none => .error (.unknownScalar name)
  | named name => .ok (format name)
  | optional inner =>
      (inner.nestedText format).map (fun text =>
        if inner.mayBeMissing then text else text ++ " | undefined")
  | array element =>
      (element.nestedText format).map (fun text =>
        if element.mayBeMissing then "(" ++ text ++ ")[]" else text ++ "[]")
  | extension inner =>
      (inner.nestedText format).map (fun text =>
        if inner.mayBeMissing then text else text ++ " | undefined")

def textOver (ref : TypeRef) (leaf : Text) : Text × Bool := ref.markers.foldr wrapText (leaf, false)

theorem text_eq_map_textOver (format : Text → Text) (ref : TypeRef) :
    ref.text format = (ref.leafText format).map (fun leaf => (ref.textOver leaf).1) := rfl

theorem wrapText_snd (marker : Marker) (text : Text) (union : Bool) :
    (wrapText marker (text, union)).2 = decide (marker ≠ .array) := by
  cases marker <;> cases union <;> rfl

/-- The mark tells of the outermost wrapper, whatever stands inside it. -/
theorem textOver_snd (ref : TypeRef) (leaf : Text) : (ref.textOver leaf).2 = ref.mayBeMissing := by
  cases ref with
  | scalar name => rfl
  | named name => rfl
  | optional inner => exact wrapText_snd .optional _ _
  | array element => exact wrapText_snd .array _ _
  | extension inner => exact wrapText_snd .extension _ _

theorem textOver_optional_fst (inner : TypeRef) (leaf : Text) : ((optional inner).textOver leaf).1 =
    if inner.mayBeMissing then (inner.textOver leaf).1 else
      (inner.textOver leaf).1 ++ " | undefined" := by
  rw [← textOver_snd inner leaf]
  change (if (inner.textOver leaf).2 then inner.textOver leaf
    else ((inner.textOver leaf).1 ++ " | undefined", true)).1 = _
  split <;> rfl

theorem textOver_array_fst (element : TypeRef) (leaf : Text) : ((array element).textOver leaf).1 =
    if element.mayBeMissing then "(" ++ (element.textOver leaf).1 ++ ")[]"
      else (element.textOver leaf).1 ++ "[]" := by
  rw [← textOver_snd element leaf]
  rfl

theorem text_of_step {format : Text → Text} {inner outer : TypeRef} (change : Text → Text)
    (within : inner.text format = inner.nestedText format)
    (leaf : outer.leafText format = inner.leafText format)
    (step : ∀ leaf, (outer.textOver leaf).1 = change (inner.textOver leaf).1) :
    outer.text format = (inner.nestedText format).map change := by
  rw [← within, text_eq_map_textOver, text_eq_map_textOver, leaf]
  cases inner.leafText format with
  | error error => rfl
  | ok text => exact congrArg Except.ok (step text)

/-- The run over the wrappers gives the text of the recursion, and fails where the recursion
fails. -/
theorem text_eq_nestedText (format : Text → Text) (ref : TypeRef) :
    ref.text format = ref.nestedText format := by
  induction ref with
  | scalar name =>
      rw [text_eq_map_textOver, leafText, nestedText]
      cases Scalar.typeText? name <;> rfl
  | named name => rfl
  | optional inner ih => exact text_of_step _ ih rfl inner.textOver_optional_fst
  | array element ih => exact text_of_step _ ih rfl element.textOver_array_fst
  | extension inner ih => exact text_of_step _ ih rfl inner.textOver_optional_fst

end ContractTypes.TypeRef
