import ContractTypes.Declaration
import ContractTypes.Proofs.Resolution.Outcome

/-!
Types that have a text.

A text fails only at a scalar that is not built in.  Such a leaf is in no type that an expression
resolves to, and so every such type has a text, whatever writes the names.
-/

namespace ContractTypes

namespace TypeRef

theorem leafText_wrapAll (format : Text → Text) (markers : List Marker) (ref : TypeRef) :
    (wrapAll markers ref).leafText format = ref.leafText format := by
  induction markers with
  | nil => rfl
  | cons marker markers ih =>
      change (wrap marker (wrapAll markers ref)).leafText format = ref.leafText format
      cases marker with
      | optional => exact ih
      | array => exact ih
      | extension => exact ih

theorem leafText_present (format : Text → Text) (ref : TypeRef) :
    ref.present.leafText format = ref.leafText format := by
  cases ref <;> rfl

theorem exists_text_of_leafText {format : Text → Text} {ref : TypeRef} {leaf : Text}
    (written : ref.leafText format = .ok leaf) : ∃ text, ref.text format = .ok text := by
  unfold text
  rw [written]
  exact ⟨_, rfl⟩

end TypeRef

namespace Document

variable {document : Document}

theorem exists_leafText_of_leaf? {name : Text} {leaf : TypeRef}
    (known : document.leaf? name = some leaf) (format : Text → Text) :
    ∃ text, leaf.leafText format = .ok text := by
  rcases leaf?_eq_some known with ⟨rfl, _⟩ | ⟨rfl, _, scalar⟩
  · exact ⟨_, rfl⟩
  · obtain ⟨text, found⟩ := Option.isSome_iff_exists.1 scalar
    refine ⟨text, ?_⟩
    rw [TypeRef.leafText, found]

theorem exists_leafText_of_resolve {expression : Text} {ref : TypeRef}
    (resolved : document.resolve expression = .ok ref) (format : Text → Text) :
    ∃ text, ref.leafText format = .ok text := by
  obtain ⟨settled, leaf, _, known, rfl⟩ := resolve_eq_ok resolved
  rw [TypeRef.leafText_wrapAll]
  exact exists_leafText_of_leaf? known format

end Document

end ContractTypes
