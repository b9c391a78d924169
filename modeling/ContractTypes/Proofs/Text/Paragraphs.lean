import ContractTypes.Text.CodePoint

/-!
Blocks of lines with something between neighbours.

What stands in the blocks, and what is put between them, is all that stands in the whole.  Where the
empty line is put between blocks that are not empty and hold no empty line, the blocks are the runs
of lines between the empty ones.
-/

namespace ContractTypes

section Intercalate

variable {Item Value : Type}

theorem map_intercalate (change : Item → Value) (separator : List Item)
    (blocks : List (List Item)) : (List.intercalate separator blocks).map change =
      List.intercalate (separator.map change) (blocks.map (List.map change)) := by
  induction blocks with
  | nil => rfl
  | cons first rest ih =>
      cases rest with
      | nil => simp only [List.map_cons, List.map_nil, List.intercalate_singleton]
      | cons second more =>
          rw [List.map_cons] at ih
          rw [List.intercalate_cons_cons, List.map_append, List.map_append, ih, List.map_cons,
            List.map_cons, List.intercalate_cons_cons]

variable {separator block : List Item} {blocks : List (List Item)} {item : Item}

theorem mem_intercalate (inside : item ∈ block) (member : block ∈ blocks) :
    item ∈ List.intercalate separator blocks := by
  induction blocks with
  | nil => cases member
  | cons first rest ih =>
      cases rest with
      | nil =>
          rw [List.mem_singleton.1 member] at inside
          rwa [List.intercalate_singleton]
      | cons second more =>
          rw [List.intercalate_cons_cons, List.append_assoc, List.mem_append]
          rcases List.mem_cons.1 member with rfl | later
          · exact .inl inside
          · exact .inr (List.mem_append_right separator (ih later))

theorem mem_block_of_mem_intercalate (member : item ∈ List.intercalate separator blocks) :
    item ∈ separator ∨ ∃ block ∈ blocks, item ∈ block := by
  induction blocks with
  | nil => cases member
  | cons first rest ih =>
      cases rest with
      | nil =>
          rw [List.intercalate_singleton] at member
          exact .inr ⟨first, List.mem_cons_self, member⟩
      | cons second more =>
          rw [List.intercalate_cons_cons, List.append_assoc, List.mem_append, List.mem_append]
            at member
          rcases member with inside | between | later
          · exact .inr ⟨first, List.mem_cons_self, inside⟩
          · exact .inl between
          · rcases ih later with between | ⟨block, listed, inside⟩
            · exact .inl between
            · exact .inr ⟨block, List.mem_cons_of_mem first listed, inside⟩

end Intercalate

namespace Text

/-- The runs of lines between empty lines.  Where there is no line there is no run. -/
def paragraphs (lines : List Text) : List (List Text) :=
  if lines.isEmpty then [] else lines.splitOn []

theorem paragraphs_intercalate {blocks : List (List Text)}
    (filled : ∀ block ∈ blocks, block ≠ [] ∧ ∀ line ∈ block, line ≠ []) :
    paragraphs (List.intercalate [[]] blocks) = blocks := by
  cases blocks with
  | nil => rfl
  | cons first rest =>
      obtain ⟨line, inside⟩ := List.exists_mem_of_ne_nil first (filled first List.mem_cons_self).1
      have present : List.intercalate [[]] (first :: rest) ≠ [] :=
        List.ne_nil_of_mem (mem_intercalate inside List.mem_cons_self)
      have separate : ∀ block ∈ first :: rest, [] ∉ block :=
        fun block member empty => (filled block member).2 [] empty rfl
      rw [paragraphs, if_neg (fun none => present (List.isEmpty_iff.1 none)),
        List.splitOn_intercalate [] separate (List.cons_ne_nil _ _)]

end Text

end ContractTypes
