import ContractTypes.Shape
import Mathlib.Data.List.Nodup

/-!
Schemas of JSON values.

A schema says what a value must be, and so which problems it has: a record has those of its fields,
field by field in the order of declaration, and a list has those of its items, item by item.  No two
of them are at the same place.  What is changed at one place of a value changes no problem at
another, and only the values under declared names count.
-/

namespace ContractTypes

structure Slot (Content : Type) where
  name : Text
  isRequired : Bool
  content : Content

inductive Schema where
  | text
  | wholeNumber
  | numberOrText
  | list (item : Schema)
  | record (slots : List (Slot Schema))

def ShapeProblem.behind (step : ShapeStep) (problem : ShapeProblem) : ShapeProblem :=
  ⟨step :: problem.location, problem.fault⟩

namespace Schema

def textProblems : Json → List ShapeProblem
  | .string _ => []
  | _ => [⟨[], .notText⟩]

def numberProblems (json : Json) : List ShapeProblem :=
  match WholeNumber.ofJson json with
  | .ok _ => []
  | .error fault => [⟨[], .notWholeNumber fault⟩]

/-- The problems of a value that may be a text or a whole number: none if it is one of them, and
otherwise those of both readings. -/
def readingProblems (json : Json) : List ShapeProblem :=
  if (textProblems json).isEmpty || (numberProblems json).isEmpty then []
  else (numberProblems json).map (.behind (.reading "int")) ++
    (textProblems json).map (.behind (.reading "str"))

mutual

/-- The problems of a value, in the order in which they are met. -/
def problems : Schema → Json → List ShapeProblem
  | text, json => textProblems json
  | wholeNumber, json => numberProblems json
  | numberOrText, json => readingProblems json
  | list item, .array items =>
      items.zipIdx.flatMap (fun entry => (item.problems entry.1).map (.behind (.index entry.2)))
  | list _, _ => [⟨[], .notList⟩]
  | record slots, .object members => problemsOfSlots slots members
  | record _, _ => [⟨[], .notRecord⟩]

def problemsOfSlots : List (Slot Schema) → List (Text × Json) → List ShapeProblem
  | [], _ => []
  | ⟨name, isRequired, content⟩ :: slots, members =>
      (match Json.lookupLast name members with
        | some value => (content.problems value).map (.behind (.field name))
        | none => if isRequired then [⟨[.field name], .missing⟩] else []) ++
          problemsOfSlots slots members

end

def problemsOf (slot : Slot Schema) (members : List (Text × Json)) : List ShapeProblem :=
  match Json.lookupLast slot.name members with
  | some value => (slot.content.problems value).map (.behind (.field slot.name))
  | none => if slot.isRequired then [⟨[.field slot.name], .missing⟩] else []

theorem problemsOfSlots_eq (slots : List (Slot Schema)) (members : List (Text × Json)) :
    problemsOfSlots slots members = slots.flatMap (fun slot => problemsOf slot members) := by
  induction slots with
  | nil => rw [problemsOfSlots]; rfl
  | cons slot slots ih => rw [problemsOfSlots, ih]; rfl

theorem problems_record (slots : List (Slot Schema)) (members : List (Text × Json)) :
    (record slots).problems (.object members) =
      slots.flatMap (fun slot => problemsOf slot members) := by
  rw [problems, problemsOfSlots_eq]

theorem problems_list (item : Schema) (items : List Json) : (list item).problems (.array items) =
    items.zipIdx.flatMap (fun entry => (item.problems entry.1).map (.behind (.index entry.2))) := by
  rw [problems]

inductive Distinct : Schema → Prop
  | text : Distinct .text
  | wholeNumber : Distinct .wholeNumber
  | numberOrText : Distinct .numberOrText
  | list {item : Schema} (inside : Distinct item) : Distinct (.list item)
  | record {slots : List (Slot Schema)} (names : (slots.map Slot.name).Nodup)
      (contents : ∀ slot ∈ slots, Distinct slot.content) : Distinct (.record slots)

end Schema

namespace Schema

/-- Values that have the same under all declared names, in whatever order and beside whatever other
members. -/
inductive Agrees : Schema → Json → Json → Prop
  | same (schema : Schema) (json : Json) : Agrees schema json json
  | list {item : Schema} {items others : List Json} (count : items.length = others.length)
      (each : ∀ (position : Nat) (value other : Json), items[position]? = some value →
        others[position]? = some other → Agrees item value other) :
        Agrees (.list item) (.array items) (.array others)
  | record {slots : List (Slot Schema)} {members others : List (Text × Json)}
      (present : ∀ slot ∈ slots, (Json.lookupLast slot.name members).isSome =
        (Json.lookupLast slot.name others).isSome)
      (each : ∀ slot ∈ slots, ∀ value other : Json, Json.lookupLast slot.name members = some value →
        Json.lookupLast slot.name others = some other → Agrees slot.content value other) :
      Agrees (.record slots) (.object members) (.object others)

/-- Names that stand once may stand in any order, and undeclared ones beside them. -/
theorem Agrees.of_perm {slots : List (Slot Schema)} {members others : List (Text × Json)}
    (undeclared : List (Text × Json)) (once : (members.map Prod.fst).Nodup)
    (apart : ∀ member ∈ undeclared, member.1 ∉ slots.map Slot.name)
    (order : others.Perm (members ++ undeclared)) :
    Agrees (.record slots) (.object members) (.object others) := by
  have same (slot : Slot Schema) (listed : slot ∈ slots) :
      Json.lookupLast slot.name others = Json.lookupLast slot.name members := by
    cases there : Json.lookupLast slot.name others with
    | some value =>
        rcases List.mem_append.1 (order.mem_iff.1 (Json.mem_of_lookupLast there)) with within |
          beside
        · obtain ⟨last, found⟩ := Json.exists_lookupLast_of_mem within
          have unique := List.inj_on_of_nodup_map once within (Json.mem_of_lookupLast found) rfl
          rw [found, (Prod.mk.inj unique).2]
        · exact absurd (List.mem_map.2 ⟨slot, listed, rfl⟩) (apart _ beside)
    | none =>
        apply Eq.symm
        rw [Option.eq_none_iff_forall_ne_some]
        intro value here
        have within :=
          order.mem_iff.2 (List.mem_append_left undeclared (Json.mem_of_lookupLast here))
        obtain ⟨last, found⟩ := Json.exists_lookupLast_of_mem within
        rw [there] at found
        cases found
  refine .record (fun slot listed => by rw [same slot listed]) ?_
  intro slot listed value other here there
  rw [same slot listed, here] at there
  cases there
  exact .same slot.content value

end Schema

/-! ### Readers -/

inductive Checked.Tells {Value : Type} : List ShapeProblem → Checked Value → Prop
  | valid (value : Value) : Tells [] (.valid value)
  | faulty {problems : List ShapeProblem} (some : problems ≠ []) : Tells problems (.faulty problems)

namespace Checked.Tells

variable {Value Result : Type} {problems others : List ShapeProblem} {checked : Checked Value}

theorem cases (tells : Tells problems checked) :
    (problems = [] ∧ ∃ value, checked = .valid value) ∨
    (problems ≠ [] ∧ checked = .faulty problems) := by
  cases tells with
  | valid value => exact .inl ⟨rfl, value, rfl⟩
  | faulty some => exact .inr ⟨some, rfl⟩

theorem of_fault (fault : ShapeFault) : Tells [⟨[], fault⟩] (Checked.fault fault : Checked Value) :=
  .faulty (List.cons_ne_nil _ _)

theorem under (tells : Tells problems checked) (step : ShapeStep) :
    Tells (problems.map (.behind step)) (checked.under step) := by
  cases tells with
  | valid value => exact .valid value
  | faulty some => exact .faulty (mt List.map_eq_nil_iff.1 some)

theorem map (tells : Tells problems checked) (function : Value → Result) :
    Tells problems (checked.map function) := by
  cases tells with
  | valid value => exact .valid (function value)
  | faulty some => exact .faulty some

theorem also {function : Checked (Value → Result)} (first : Tells problems function)
    (second : Tells others checked) : Tells (problems ++ others) (function.also checked) := by
  cases first with
  | valid apply =>
      cases second with
      | valid value => exact .valid (apply value)
      | faulty some => exact .faulty some
  | faulty earlier =>
      have filled (later : List ShapeProblem) : problems ++ later ≠ [] := by simp [earlier]
      cases second with
      | valid value =>
          rw [List.append_nil]
          exact .faulty earlier
      | faulty some => exact .faulty (filled _)

end Checked.Tells

/-- A reader that keeps to a schema: it finds the problems that the schema finds, and it does not
tell values apart that agree. -/
structure Schema.ReadBy {Value : Type} (schema : Schema) (read : Json → Checked Value) : Prop where
  distinct : schema.Distinct
  tells : ∀ json, Checked.Tells (schema.problems json) (read json)
  agrees : ∀ json other, schema.Agrees json other → read json = read other

namespace Schema

theorem readBy_text : Schema.text.ReadBy Shape.text where
  distinct := .text
  tells := by
    intro json
    rw [problems]
    cases json with
    | string value => exact .valid value
    | _ => exact .of_fault .notText
  agrees := by
    intro json other agrees
    cases agrees
    rfl

theorem tells_wholeNumber (json : Json) :
    Checked.Tells (numberProblems json) (Shape.wholeNumber json) := by
  unfold numberProblems Shape.wholeNumber
  cases WholeNumber.ofJson json with
  | ok value => exact .valid value
  | error fault => exact .of_fault (.notWholeNumber fault)

theorem readBy_wholeNumber : Schema.wholeNumber.ReadBy Shape.wholeNumber where
  distinct := .wholeNumber
  tells := by
    intro json
    rw [problems]
    exact tells_wholeNumber json
  agrees := by
    intro json other agrees
    cases agrees
    rfl

section Value

variable {Value : Type} {read : Json → Checked Value}

theorem tells_itemsFrom {item : Schema}
    (tells : ∀ json, Checked.Tells (item.problems json) (read json)) (position : Nat)
    (items : List Json) :
    Checked.Tells
      ((items.zipIdx position).flatMap (fun entry =>
        (item.problems entry.1).map (.behind (.index entry.2))))
      (Shape.itemsFrom read position items) := by
  induction items generalizing position with
  | nil => exact .valid []
  | cons value rest ih =>
      rw [List.zipIdx_cons, List.flatMap_cons, Shape.itemsFrom]
      exact (((tells value).under (.index position)).map List.cons).also (ih (position + 1))

theorem itemsFrom_congr {items others : List Json} (count : items.length = others.length)
    (each : ∀ (position : Nat) (value other : Json), items[position]? = some value →
      others[position]? = some other → read value = read other) (start : Nat) :
    Shape.itemsFrom read start items = Shape.itemsFrom read start others := by
  induction items generalizing others start with
  | nil =>
      cases others with
      | nil => rfl
      | cons other more => cases count
  | cons value rest ih =>
      cases others with
      | nil => cases count
      | cons other more =>
          rw [Shape.itemsFrom, Shape.itemsFrom, each 0 value other rfl rfl,
            ih (Nat.succ.inj count) (fun position => each (position + 1))]

theorem ReadBy.list {item : Schema} (readBy : item.ReadBy read) :
    (Schema.list item).ReadBy (Shape.list read) where
  distinct := .list readBy.distinct
  tells := by
    intro json
    cases json with
    | array items =>
        rw [problems_list]
        exact tells_itemsFrom readBy.tells 0 items
    | _ =>
        rw [problems]
        · exact .of_fault .notList
        · nofun
  agrees := by
    intro json other agrees
    cases agrees with
    | same => rfl
    | list count each =>
        apply itemsFrom_congr count
        intro position value other here there
        exact readBy.agrees value other (each position value other here there)

def AgreeOn (slot : Slot Schema) (members others : List (Text × Json)) : Prop :=
  (Json.lookupLast slot.name members).isSome = (Json.lookupLast slot.name others).isSome ∧
    ∀ value other, Json.lookupLast slot.name members = some value →
      Json.lookupLast slot.name others = some other →
      slot.content.Agrees value other

theorem AgreeOn.cases {slot : Slot Schema} {members others : List (Text × Json)}
    (agree : AgreeOn slot members others) (readBy : slot.content.ReadBy read) :
    (Json.lookupLast slot.name members = none ∧ Json.lookupLast slot.name others = none) ∨
      ∃ value other, Json.lookupLast slot.name members = some value ∧
        Json.lookupLast slot.name others = some other ∧ read value = read other := by
  obtain ⟨present, each⟩ := agree
  cases here : Json.lookupLast slot.name members with
  | none =>
      rw [here] at present
      exact .inl ⟨rfl, by simpa using present.symm⟩
  | some value =>
      rw [here] at present
      obtain ⟨other, there⟩ := Option.isSome_iff_exists.1 present.symm
      exact .inr ⟨value, other, rfl, there, readBy.agrees value other (each value other here there)⟩

structure SlotsReadBy (slots : List (Slot Schema))
    (read : List (Text × Json) → Checked Value) : Prop where
  distinct : ∀ slot ∈ slots, slot.content.Distinct
  tells : ∀ members, Checked.Tells (slots.flatMap (fun slot => problemsOf slot members))
    (read members)
  agrees : ∀ members others, (∀ slot ∈ slots, AgreeOn slot members others) →
    read members = read others

theorem slotsReadBy_nil (value : Value) : SlotsReadBy [] (fun _ => Checked.valid value) where
  distinct := by
    intro slot listed
    cases listed
  tells := fun _ => .valid value
  agrees := fun _ _ _ => rfl

section Slot

variable {Content : Type} {slots : List (Slot Schema)}
  {function : List (Text × Json) → Checked (Content → Value)}
  {slot : Slot Schema} {part : List (Text × Json) → Checked Content}

theorem SlotsReadBy.also (readBy : SlotsReadBy slots function) (distinct : slot.content.Distinct)
    (tells : ∀ members, Checked.Tells (problemsOf slot members) (part members))
    (agrees : ∀ members others, AgreeOn slot members others → part members = part others) :
    SlotsReadBy (slots ++ [slot]) (fun members => (function members).also (part members)) where
  distinct := by
    intro other listed
    rcases List.mem_append.1 listed with before | last
    · exact readBy.distinct other before
    · rw [List.mem_singleton.1 last]
      exact distinct
  tells := by
    intro members
    rw [List.flatMap_append, List.flatMap_singleton]
    exact (readBy.tells members).also (tells members)
  agrees := by
    intro members others agree
    rw [readBy.agrees members others (fun other listed =>
      agree other (List.mem_append_left _ listed)),
      agrees members others (agree slot (List.mem_append_right _ List.mem_cons_self))]

variable {content : Schema} {readContent : Json → Checked Content}

theorem SlotsReadBy.required (readBy : SlotsReadBy slots function)
    (inside : content.ReadBy readContent) (name : Text) :
    SlotsReadBy (slots ++ [⟨name, true, content⟩])
      (fun members => (function members).also (Shape.required members name readContent)) := by
  apply readBy.also inside.distinct
  · intro members
    unfold problemsOf Shape.required
    cases Json.lookupLast name members with
    | some value => exact (inside.tells value).under (.field name)
    | none => exact .faulty (List.cons_ne_nil _ _)
  · intro members others agree
    unfold Shape.required
    rcases agree.cases inside with ⟨here, there⟩ | ⟨value, other, here, there, same⟩
    · simp only [here, there]
    · simp only [here, there, same]

theorem SlotsReadBy.optional (readBy : SlotsReadBy slots function)
    (inside : content.ReadBy readContent) (name : Text) (absent : Content) :
    SlotsReadBy (slots ++ [⟨name, false, content⟩])
      (fun members => (function members).also
        (Shape.optional members name absent readContent)) := by
  apply readBy.also inside.distinct
  · intro members
    unfold problemsOf Shape.optional
    cases Json.lookupLast name members with
    | some value => exact (inside.tells value).under (.field name)
    | none => exact .valid absent
  · intro members others agree
    unfold Shape.optional
    rcases agree.cases inside with ⟨here, there⟩ | ⟨value, other, here, there, same⟩
    · simp only [here, there]
    · simp only [here, there, same]

end Slot

theorem SlotsReadBy.record {slots : List (Slot Schema)} {read : List (Text × Json) → Checked Value}
    (readBy : SlotsReadBy slots read) (names : (slots.map Slot.name).Nodup) :
    (Schema.record slots).ReadBy (Shape.record read) where
  distinct := .record names readBy.distinct
  tells := by
    intro json
    cases json with
    | object members =>
        rw [problems_record]
        exact readBy.tells members
    | _ =>
        rw [problems]
        · exact .of_fault .notRecord
        · nofun
  agrees := by
    intro json other agrees
    cases agrees with
    | same => rfl
    | record present each =>
        exact readBy.agrees _ _ (fun slot listed => ⟨present slot listed, each slot listed⟩)

end Value

end Schema

end ContractTypes
