import ContractTypes.Text.CodePoint

/-!
Look-up by name.

Declarations stand in lists, and several may have one name.  The first of these is the one looked
up.  A search that goes from name to name passes each name at most once; the declarations whose
names it has not passed become fewer with every step.
-/

namespace ContractTypes.NameTable

variable {Item : Type}

def first? (key : Item → Text) (name : Text) (items : List Item) : Option Item :=
  items.find? (fun item => key item == name)

def has (key : Item → Text) (name : Text) (items : List Item) : Bool :=
  items.any (fun item => key item == name)

def unpassed (key : Item → Text) (passed : List Text) (items : List Item) : List Item :=
  items.filter (fun item => !passed.contains (key item))

theorem key_eq_of_first? {key : Item → Text} {name : Text} {items : List Item} {item : Item}
    (found : first? key name items = some item) : key item = name := by
  simpa using List.find?_some found

theorem mem_of_first? {key : Item → Text} {name : Text} {items : List Item} {item : Item}
    (found : first? key name items = some item) : item ∈ items :=
  List.mem_of_find?_eq_some found

theorem length_unpassed_lt {key : Item → Text} {passed : List Text} {items : List Item}
    {item : Item} (member : item ∈ items) (fresh : passed.contains (key item) = false) :
    (unpassed key (passed ++ [key item]) items).length < (unpassed key passed items).length := by
  have filtered : unpassed key (passed ++ [key item]) items =
      (unpassed key passed items).filter (fun other => !(key other == key item)) := by
    simp only [unpassed, List.filter_filter]
    refine List.filter_congr (fun other _ => ?_)
    simp only [List.contains_eq_mem, List.mem_append, List.mem_singleton]
    by_cases same : key other = key item <;> by_cases old : key other ∈ passed <;> simp [same, old]
  rw [filtered]
  refine List.length_filter_lt_length_iff_exists.2 ⟨item, ?_, ?_⟩
  · exact List.mem_filter.2 ⟨member, by rw [fresh]; rfl⟩
  · simp

end ContractTypes.NameTable
