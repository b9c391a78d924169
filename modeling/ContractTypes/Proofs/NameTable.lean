import ContractTypes.NameTable
import Mathlib.Data.List.Sublists

/-!
Lists of declarations that are changed without a change to what is found in them.

A look-up sees the first declaration of a name and nothing else.  So it does not see that a later
declaration of the name is left out, and no name that a list had before sees declarations of new
names that are put in anywhere.
-/

namespace ContractTypes.NameTable

variable {Item : Type} {key : Item → Text}

/-- The first declaration of each name is the same in both lists. -/
def SameFirsts (key : Item → Text) (items others : List Item) : Prop :=
  ∀ name, first? key name items = first? key name others

/-- Items are left out of a list, each of which has the name of an earlier item; the names before
the list are given. -/
inductive Thinned (key : Item → Text) : List Text → List Item → List Item → Prop where
  | nil (earlier : List Text) : Thinned key earlier [] []
  | kept {earlier : List Text} {items fewer : List Item} (item : Item)
      (rest : Thinned key (key item :: earlier) items fewer) :
      Thinned key earlier (item :: items) (item :: fewer)
  | repeated {earlier : List Text} {items fewer : List Item} (item : Item)
      (met : key item ∈ earlier)
      (rest : Thinned key earlier items fewer) : Thinned key earlier (item :: items) fewer

/-- Items that are new in some sense are put into a list, anywhere and as many as one likes. -/
inductive Enlarged (isNew : Item → Prop) : List Item → List Item → Prop where
  | nil : Enlarged isNew [] []
  | kept {items more : List Item} (item : Item) (rest : Enlarged isNew items more) :
      Enlarged isNew (item :: items) (item :: more)
  | added {items more : List Item} (item : Item) (new : isNew item)
      (rest : Enlarged isNew items more) :
      Enlarged isNew items (item :: more)

theorem isSome_first? (name : Text) (items : List Item) :
    (first? key name items).isSome = has key name items := List.isSome_find?

theorem has_of_first? {name : Text} {items : List Item} {item : Item}
    (found : first? key name items = some item) : has key name items = true := by
  rw [← isSome_first?, found]
  rfl

theorem first?_cons (name : Text) (item : Item) (items : List Item) :
    first? key name (item :: items) = if key item = name then some item else
      first? key name items := by
  unfold first?
  rw [List.find?_cons]
  by_cases same : key item = name
  · rw [if_pos same, beq_iff_eq.2 same]
  · rw [if_neg same, beq_eq_false_iff_ne.2 same]

theorem has_cons (name : Text) (item : Item) (items : List Item) :
    has key name (item :: items) = (key item == name || has key name items) := rfl

theorem first?_map {change : Item → Item} (named : ∀ item, key (change item) = key item)
    (name : Text) (items : List Item) :
    first? key name (items.map change) = (first? key name items).map change := by
  unfold first?
  rw [List.find?_map]
  simp only [Function.comp_def, named]

theorem has_map {change : Item → Item} (named : ∀ item, key (change item) = key item) (name : Text)
    (items : List Item) : has key name (items.map change) = has key name items := by
  unfold has
  rw [List.any_map]
  simp only [Function.comp_def, named]

theorem SameFirsts.has_eq {items others : List Item} (same : SameFirsts key items others)
    (name : Text) : has key name items = has key name others := by
  rw [← isSome_first?, ← isSome_first?, same name]

/-- Neighbours of different names may change places. -/
theorem SameFirsts.swap {first second : Item} (apart : key first ≠ key second) (rest : List Item) :
    SameFirsts key (first :: second :: rest) (second :: first :: rest) := by
  intro name
  simp only [first?_cons]
  by_cases same : key first = name
  · rw [if_pos same, if_neg (fun also => apart (same.trans also.symm)), if_pos same]
  · rw [if_neg same, if_neg same]

theorem Thinned.refl (earlier : List Text) (items : List Item) :
    Thinned key earlier items items := by
  induction items generalizing earlier with
  | nil => exact .nil earlier
  | cons item items ih => exact .kept item (ih (key item :: earlier))

theorem Thinned.first?_eq {earlier : List Text} {items fewer : List Item}
    (thinned : Thinned key earlier items fewer) {name : Text} (later : name ∉ earlier) :
    first? key name items = first? key name fewer := by
  induction thinned with
  | nil earlier => rfl
  | kept item _ ih =>
      rw [first?_cons, first?_cons]
      by_cases same : key item = name
      · rw [if_pos same, if_pos same]
      · rw [if_neg same, if_neg same]
        exact ih (List.not_mem_cons_of_ne_of_not_mem (Ne.symm same) later)
  | repeated item met _ ih =>
      -- The item left out has a name that stands before the list, and so not the one looked up.
      have other : key item ≠ name := fun same => later (same ▸ met)
      rw [first?_cons, if_neg other]
      exact ih later

theorem Thinned.sameFirsts {items fewer : List Item} (thinned : Thinned key [] items fewer) :
    SameFirsts key items fewer :=
  fun _ => thinned.first?_eq List.not_mem_nil

theorem Thinned.of_repeated {before after : List Item} {item : Item} {earlier : List Text}
    (met : key item ∈ earlier ∨ has key (key item) before = true) :
    Thinned key earlier (before ++ item :: after) (before ++ after) := by
  induction before generalizing earlier with
  | nil => exact .repeated item (met.resolve_right Bool.false_ne_true) (Thinned.refl earlier after)
  | cons first before ih =>
      refine .kept first (ih ?_)
      rw [has_cons, Bool.or_eq_true, beq_iff_eq] at met
      rcases met with met | same | later
      · exact .inl (List.mem_cons_of_mem _ met)
      · exact .inl (same ▸ List.mem_cons_self)
      · exact .inr later

theorem Enlarged.sublist {isNew : Item → Prop} {items more : List Item}
    (enlarged : Enlarged isNew items more) : items.Sublist more := by
  induction enlarged with
  | nil => exact List.Sublist.slnil
  | kept item _ ih => exact ih.cons_cons item
  | added item _ _ ih => exact ih.cons item

theorem Enlarged.first?_eq {isNew : Item → Prop} {items more : List Item}
    (enlarged : Enlarged isNew items more) {name : Text}
    (old : ∀ item, isNew item → key item ≠ name) :
    first? key name more = first? key name items := by
  induction enlarged with
  | nil => rfl
  | kept item _ ih => rw [first?_cons, first?_cons, ih]
  | added item new _ ih => rw [first?_cons, if_neg (old item new), ih]

theorem Enlarged.has_eq {isNew : Item → Prop} {items more : List Item}
    (enlarged : Enlarged isNew items more) {name : Text}
    (old : ∀ item, isNew item → key item ≠ name) : has key name more = has key name items := by
  rw [← isSome_first?, ← isSome_first?, enlarged.first?_eq old]

end ContractTypes.NameTable
