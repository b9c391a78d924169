import Mathlib.Data.List.Forall2
import Mathlib.Tactic.Choose

/-!
Results of steps.

A result that is there at the end of several steps comes from results that each of them has.  Steps
that are taken over the items of a list, one after another, give one value for each item, or fail
with the first fault that one of them has on its own.  The result of a look-up is one of the
entries.
-/

namespace ContractTypes

def faultOf {Error Value : Type} : Except Error Value → Option Error
  | .ok _ => none
  | .error error => some error

section faultOf

variable {Error Value Result Item : Type}

theorem faultOf_eq_none_iff {result : Except Error Value} :
    faultOf result = none ↔ ∃ value, result = .ok value := by
  cases result with
  | ok value => exact ⟨fun _ => ⟨value, rfl⟩, fun _ => rfl⟩
  | error error =>
      constructor
      · intro none
        cases none
      · rintro ⟨value, same⟩
        cases same

theorem faultOf_eq_some_iff {result : Except Error Value} {error : Error} :
    faultOf result = some error ↔ result = .error error := by
  cases result with
  | ok value =>
      constructor
      · intro some
        cases some
      · intro same
        cases same
  | error other =>
      constructor
      · intro some
        rw [Option.some.inj some]
      · intro same
        rw [Except.error.inj same]
        rfl

theorem faultOf_map (result : Except Error Value) (change : Value → Result) :
    faultOf (result.map change) = faultOf result := by
  cases result <;> rfl

theorem faultOf_bind {next : Value → Except Error Result} {later : Option Error}
    (after : ∀ value, faultOf (next value) = later) (result : Except Error Value) :
    faultOf (result >>= next) = (faultOf result).or later := by
  cases result with
  | ok value => exact after value
  | error error => rfl

theorem faultOf_bind_of_total {next : Value → Except Error Result}
    (total : ∀ value, faultOf (next value) = none) (result : Except Error Value) :
    faultOf (result >>= next) = faultOf result := by
  rw [faultOf_bind total, Option.or_none]

theorem faultOf_mapM (step : Item → Except Error Value) (items : List Item) :
    faultOf (items.mapM step) = items.findSome? (fun item => faultOf (step item)) := by
  induction items with
  | nil => rfl
  | cons item items ih =>
      rw [List.mapM_cons, List.findSome?_cons]
      cases step item with
      | error error => rfl
      | ok value =>
          change faultOf (items.mapM step >>= fun rest => pure (value :: rest)) = _
          rw [faultOf_bind_of_total (fun _ => rfl)]
          exact ih

theorem findSome?_flatMap {Part : Type} (parts : Item → List Part) (fault? : Part → Option Error)
    (items : List Item) :
    (items.flatMap parts).findSome? fault? =
      items.findSome? (fun item => (parts item).findSome? fault?) := by
  induction items with
  | nil => rfl
  | cons item items ih =>
      rw [List.flatMap_cons, List.findSome?_append, List.findSome?_cons, ih]
      cases (parts item).findSome? fault? <;> rfl

end faultOf

/-! ### Results of some kind -/

section Ends

variable {Error Value Result Item : Type} {allowed permitted : Error → Prop} {holds : Value → Prop}
  {offers : Result → Prop}

/-- A value of some kind, or an error of some kind. -/
def Ends (allowed : Error → Prop) (holds : Value → Prop) : Except Error Value → Prop
  | .ok value => holds value
  | .error error => allowed error

theorem Ends.bind {result : Except Error Value} {next : Value → Except Error Result}
    (first : Ends allowed holds result)
    (second : ∀ value, holds value → Ends allowed offers (next value)) :
    Ends allowed offers (result >>= next) := by
  cases result with
  | ok value => exact second value first
  | error error => exact first

theorem Ends.map {result : Except Error Value} {change : Value → Result}
    (first : Ends allowed holds result) (each : ∀ value, holds value → offers (change value)) :
    Ends allowed offers (result.map change) := by
  cases result with
  | ok value => exact each value first
  | error error => exact first

theorem Ends.mono {result : Except Error Value} {gives : Value → Prop}
    (ends : Ends allowed holds result) (errors : ∀ error, allowed error → permitted error)
    (values : ∀ value, holds value → gives value) : Ends permitted gives result := by
  cases result with
  | ok value => exact values value ends
  | error error => exact errors error ends

theorem Ends.foldlM {step : Value → Item → Except Error Value} {items : List Item} {start : Value}
    (begins : holds start) (each : ∀ value, holds value →
      ∀ item, Ends allowed holds (step value item)) :
    Ends allowed holds (items.foldlM step start) := by
  induction items generalizing start with
  | nil => exact begins
  | cons item items ih =>
      rw [List.foldlM_cons]
      exact (each start begins item).bind (fun value given => ih given)

end Ends

section Steps

variable {Error Item Value Result : Type}

theorem exists_of_bind_eq_ok {first : Except Error Value} {second : Value → Except Error Result}
    {result : Result} (both : first >>= second = .ok result) :
    ∃ value, first = .ok value ∧ second value = .ok result := by
  cases first with
  | error error => cases both
  | ok value => exact ⟨value, rfl, both⟩

theorem exists_of_map_eq_ok {change : Value → Result} {first : Except Error Value} {result : Result}
    (changed : first.map change = .ok result) : ∃ value, first = .ok value ∧
    change value = result := by
  cases first with
  | error error => cases changed
  | ok value => exact ⟨value, rfl, Except.ok.inj changed⟩

theorem eq_ok_of_mapError_eq_ok {Other : Type} {change : Error → Other}
    {result : Except Error Value} {value : Value} (changed : result.mapError change = .ok value) :
    result = .ok value := by
  cases result with
  | error error => cases changed
  | ok other => rw [Except.ok.inj changed]

theorem mapM_eq_map_mapM {step : Item → Except Error Result} {plan : Item → Except Error Value}
    {write : Value → Result} (same : ∀ item, step item = (plan item).map write)
    (items : List Item) : items.mapM step = (items.mapM plan).map (List.map write) := by
  induction items with
  | nil => rfl
  | cons item items ih =>
      rw [List.mapM_cons, List.mapM_cons, same, ih]
      cases plan item with
      | error error => rfl
      | ok value => cases items.mapM plan <;> rfl

theorem mapM_congr_of_mem {step other : Item → Except Error Value} {items : List Item}
    (same : ∀ item ∈ items, step item = other item) : items.mapM step = items.mapM other := by
  induction items with
  | nil => rfl
  | cons item items ih =>
      obtain ⟨first, rest⟩ := List.forall_mem_cons.1 same
      rw [List.mapM_cons, List.mapM_cons, first, ih rest]

theorem mapM_eq_ok_map {step : Item → Except Error Value} {make : Item → Value} {items : List Item}
    (each : ∀ item ∈ items, step item = .ok (make item)) :
    items.mapM step = .ok (items.map make) := by
  rw [mapM_congr_of_mem each]
  exact List.mapM_pure

theorem forall₂_of_mapM {step : Item → Except Error Value} {items : List Item} {values : List Value}
    (made : items.mapM step = .ok values) :
    List.Forall₂ (fun item value => step item = .ok value) items values := by
  induction items generalizing values with
  | nil =>
      cases made
      exact .nil
  | cons item items ih =>
      rw [List.mapM_cons] at made
      obtain ⟨value, first, made⟩ := exists_of_bind_eq_ok made
      obtain ⟨rest, others, made⟩ := exists_of_bind_eq_ok made
      cases made
      exact .cons first (ih others)

theorem mapM_of_forall₂ {step : Item → Except Error Value} {items : List Item} {values : List Value}
    (each : List.Forall₂ (fun item value => step item = .ok value) items values) :
    items.mapM step = .ok values := by
  induction each with
  | nil => rfl
  | cons first _ ih =>
      rw [List.mapM_cons, first, ih]
      rfl

theorem map_eq_map_of_mapM {Part : Type} {step : Item → Except Error Value} {front : Item → Part}
    {back : Value → Part} (each : ∀ item value, step item = .ok value → back value = front item)
    {items : List Item} {values : List Value} (made : items.mapM step = .ok values) :
    values.map back = items.map front := by
  have pairs := forall₂_of_mapM made
  clear made
  induction pairs with
  | nil => rfl
  | cons first _ ih => rw [List.map_cons, List.map_cons, each _ _ first, ih]

theorem map_eq_of_mapM {step : Item → Except Error Value} {back : Value → Item}
    (each : ∀ item value, step item = .ok value → back value = item) {items : List Item}
    {values : List Value} (made : items.mapM step = .ok values) : values.map back = items := by
  rw [map_eq_map_of_mapM each made, List.map_id']

theorem exists_mem_of_mapM {step : Item → Except Error Value} {items : List Item}
    {values : List Value} (made : items.mapM step = .ok values) {item : Item}
    (member : item ∈ items) : ∃ value ∈ values, step item = .ok value := by
  have pairs := forall₂_of_mapM made
  clear made
  induction pairs with
  | nil => cases member
  | cons first _ ih =>
      rcases List.mem_cons.1 member with rfl | later
      · exact ⟨_, List.mem_cons_self, first⟩
      · obtain ⟨value, inside, given⟩ := ih later
        exact ⟨value, List.mem_cons_of_mem _ inside, given⟩

theorem forall_mem_of_mapM {plan : Item → Except Error Value} {holds : Value → Prop}
    {items : List Item} {values : List Value}
    (each : ∀ item ∈ items, ∀ value, plan item = .ok value → holds value)
    (planned : items.mapM plan = .ok values) : ∀ value ∈ values, holds value := by
  have pairs := forall₂_of_mapM planned
  clear planned
  induction pairs with
  | nil => exact List.forall_mem_nil holds
  | cons first _ ih =>
      refine List.forall_mem_cons.2 ⟨each _ List.mem_cons_self _ first, ih ?_⟩
      exact fun item inside => each item (List.mem_cons_of_mem _ inside)

/-- Where every value is made from its item and some choice, one choice for each item makes all of
them. -/
theorem exists_choice_of_mapM {Choice : Type} [Inhabited Choice] {step : Item → Except Error Value}
    (make : Item → Choice → Value) (fits : Item → Choice → Prop)
    (each : ∀ item value, step item = .ok value → ∃ choice, value = make item choice ∧
      fits item choice)
    {items : List Item} {values : List Value} (made : items.mapM step = .ok values) :
    ∃ choice : Item → Choice, values = items.map (fun item => make item (choice item)) ∧
      ∀ item ∈ items, fits item (choice item) := by
  have exists_choice (item : Item) :
      ∃ choice, ∀ value, step item = .ok value → value = make item choice ∧ fits item choice := by
    cases result : step item with
    | error error =>
        refine ⟨default, fun value same => ?_⟩
        cases same
    | ok value =>
        obtain ⟨choice, suits⟩ := each item value result
        exact ⟨choice, fun other same => Except.ok.inj same ▸ suits⟩
  choose choice suits using exists_choice
  have pairs := forall₂_of_mapM made
  clear made
  refine ⟨choice, ?_⟩
  induction pairs with
  | nil => exact ⟨rfl, List.forall_mem_nil _⟩
  | cons first _ ih =>
      obtain ⟨same, fit⟩ := suits _ _ first
      exact ⟨congrArg₂ List.cons same ih.1, List.forall_mem_cons.2 ⟨fit, ih.2⟩⟩

/-- A run over a list that gives values is a function on its items. -/
theorem exists_map_of_mapM [Inhabited Value] {step : Item → Except Error Value} {items : List Item}
    {values : List Value} (made : items.mapM step = .ok values) :
    ∃ make : Item → Value, values = items.map make ∧ ∀ item ∈ items, step item = .ok (make item) :=
  exists_choice_of_mapM (fun _ value => value) (fun item value => step item = .ok value)
    (fun _ value given => ⟨value, rfl, given⟩) made

/-- What a relation gives for the first part of a list comes first in what it gives for all of it,
where it gives one thing for each item. -/
theorem prefix_of_forall₂_append {gives : Item → Value → Prop}
    (unique : ∀ item left right, gives item left → gives item right → left = right)
    {front back : List Item} {early all : List Value} (forFront : List.Forall₂ gives front early)
    (forAll : List.Forall₂ gives (front ++ back) all) : early <+: all := by
  induction forFront generalizing all with
  | nil => exact List.nil_prefix
  | cons given _ ih =>
      cases forAll with
      | cons also others =>
          rw [unique _ _ _ given also]
          exact (List.prefix_cons_inj _).2 (ih others)

end Steps

theorem mem_of_lookup {Key Value : Type} [BEq Key] [LawfulBEq Key] {entries : List (Key × Value)}
    {key : Key} {value : Value} (found : entries.lookup key = some value) :
    (key, value) ∈ entries := by
  obtain ⟨before, after, whole, _⟩ := List.lookup_eq_some_iff.1 found
  rw [whole]
  exact List.mem_append_right before List.mem_cons_self

end ContractTypes
