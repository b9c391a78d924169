import ContractTypes.Proofs.Schema

/-!
Restated values.

The members of a record may stand in any order and among members that the record does not declare,
and a member may be left out if it has the value that counts where nothing is written.  A reader and
a writer that share a schema belong together if every restatement of a written value is read as that
value.
-/

namespace ContractTypes

structure FieldRule where
  name : Text
  default? : Option Json
  restates : Json → Json → Prop

/-- Some of the members of a record, each restated; the others have the values that count where they
are left out. -/
inductive Kept : List FieldRule → List (Text × Json) → List (Text × Json) → Prop
  | nil : Kept [] [] []
  | keep {rule : FieldRule} {rules : List FieldRule} {value given : Json}
      {members kept : List (Text × Json)} (restated : rule.restates value given)
      (rest : Kept rules members kept) :
      Kept (rule :: rules) ((rule.name, value) :: members) ((rule.name, given) :: kept)
  | leave {rule : FieldRule} {rules : List FieldRule} {value : Json}
      {members kept : List (Text × Json)} (usual : rule.default? = some value)
      (rest : Kept rules members kept) :
      Kept (rule :: rules) ((rule.name, value) :: members) kept

/-- A record with its members in any order, among others that it does not declare. -/
inductive Recorded (rules : List FieldRule) : Json → Json → Prop
  | intro {members kept added givens : List (Text × Json)} (all : Kept rules members kept)
      (undeclared : ∀ member ∈ added, member.1 ∉ rules.map FieldRule.name)
      (order : givens.Perm (kept ++ added)) : Recorded rules (.object members) (.object givens)

inductive Itemwise (restates : Json → Json → Prop) : Json → Json → Prop
  | intro {items givens : List Json} (each : List.Forall₂ restates items givens) :
      Itemwise restates (.array items) (.array givens)

namespace Schema

/-- The value that counts where a value under a schema is left out. -/
def usual? : Schema → Option Json
  | text => some (.string [])
  | list _ => some (.array [])
  | _ => none

mutual

/-- Which values may stand for which under a schema. -/
def Restates : Schema → Json → Json → Prop
  | list item => Itemwise item.Restates
  | record slots => Recorded (rules slots)
  | text => Eq
  | wholeNumber => Eq
  | numberOrText => Eq

def rules : List (Slot Schema) → List FieldRule
  | [] => []
  | ⟨name, isRequired, content⟩ :: slots =>
      ⟨name, if isRequired then none else content.usual?, content.Restates⟩ :: rules slots

end

def rule (slot : Slot Schema) : FieldRule :=
  ⟨slot.name, if slot.isRequired then none else slot.content.usual?, slot.content.Restates⟩

theorem rules_eq_map (slots : List (Slot Schema)) : rules slots = slots.map rule := by
  induction slots with
  | nil => rw [rules]; rfl
  | cons slot slots ih => rw [rules, ih]; rfl

theorem restates_record (slots : List (Slot Schema)) :
    (record slots).Restates = Recorded (slots.map rule) := by
  rw [Restates, rules_eq_map]

theorem restates_list (item : Schema) : (list item).Restates = Itemwise item.Restates := by
  rw [Restates]

end Schema

/-- A record has a restatement of a value under its name, or leaves it out because it is the usual
one. -/
def Presents (givens : List (Text × Json)) (rule : FieldRule) (member : Text × Json) : Prop :=
  (∃ given, Json.lookupLast rule.name givens = some given ∧ rule.restates member.2 given) ∨
    (Json.lookupLast rule.name givens = none ∧ rule.default? = some member.2)

theorem Kept.name_mem {rules : List FieldRule} {members kept : List (Text × Json)}
    (all : Kept rules members kept) {member : Text × Json} (listed : member ∈ kept) :
    member.1 ∈ rules.map FieldRule.name := by
  induction all with
  | nil => cases listed
  | keep restated rest ih =>
      rcases List.mem_cons.1 listed with rfl | behind
      · exact List.mem_cons_self
      · exact List.mem_cons_of_mem _ (ih behind)
  | leave usual rest ih => exact List.mem_cons_of_mem _ (ih listed)

theorem Kept.presents {rules : List FieldRule} {members kept givens : List (Text × Json)}
    (all : Kept rules members kept) (distinct : (rules.map FieldRule.name).Nodup)
    (present : ∀ member ∈ kept, member ∈ givens)
    (declared : ∀ member ∈ givens, member.1 ∈ rules.map FieldRule.name → member ∈ kept) :
    List.Forall₂ (Presents givens) rules members := by
  -- The members that are given stay the same, while the rules and the members kept are taken one
  -- after another.
  induction all with
  | nil => exact .nil
  | @keep rule rules value given members kept restated rest ih =>
      obtain ⟨single, others⟩ := List.nodup_cons.1 distinct
      refine .cons ?_
        (ih others (fun member listed => present member (List.mem_cons_of_mem _ listed)) ?_)
      · obtain ⟨last, found⟩ := Json.exists_lookupLast_of_mem (present _ List.mem_cons_self)
        refine .inl ⟨last, found, ?_⟩
        have listed := declared _ (Json.mem_of_lookupLast found) List.mem_cons_self
        rcases List.mem_cons.1 listed with same | behind
        · rw [(Prod.mk.inj same).2]
          exact restated
        · exact absurd (rest.name_mem behind) single
      · intro member listed named
        rcases List.mem_cons.1 (declared member listed (List.mem_cons_of_mem _ named))
          with rfl | behind
        · exact absurd named single
        · exact behind
  | @leave rule rules value members kept usual rest ih =>
      obtain ⟨single, others⟩ := List.nodup_cons.1 distinct
      refine .cons ?_ (ih others present ?_)
      · refine .inr ⟨?_, usual⟩
        rw [Option.eq_none_iff_forall_ne_some]
        intro given found
        have listed := declared _ (Json.mem_of_lookupLast found) List.mem_cons_self
        exact single (rest.name_mem listed)
      · intro member listed named
        exact declared member listed (List.mem_cons_of_mem _ named)

theorem Recorded.presents {rules : List FieldRule} {members : List (Text × Json)} {given : Json}
    (recorded : Recorded rules (.object members) given)
    (distinct : (rules.map FieldRule.name).Nodup) :
    ∃ givens, given = .object givens ∧ List.Forall₂ (Presents givens) rules members := by
  cases recorded with
  | @intro _ kept added givens all undeclared order =>
      refine ⟨givens, rfl, all.presents distinct ?_ ?_⟩
      · intro member listed
        exact order.symm.subset (List.mem_append_left added listed)
      · intro member listed named
        rcases List.mem_append.1 (order.subset listed) with inside | outside
        · exact inside
        · exact absurd named (undeclared member outside)

theorem Recorded.of_perm {rules : List FieldRule} {members kept givens : List (Text × Json)}
    (all : Kept rules members kept) (order : givens.Perm kept) :
    Recorded rules (.object members) (.object givens) := by
  rw [← List.append_nil kept] at order
  refine .intro all ?_ order
  intro member listed
  cases listed

/-! ### Readers and writers -/

structure Schema.Codec {Value : Type} (schema : Schema) (read : Json → Checked Value)
    (write : Value → Json) : Prop extends Schema.ReadBy schema read where
  restates : ∀ value, schema.Restates (write value) (write value)
  readsBack : ∀ value given, schema.Restates (write value) given → read given = .valid value

namespace Schema

theorem codec_text : Schema.text.Codec Shape.text Json.string where
  toReadBy := readBy_text
  restates := fun value => by rw [Restates]
  readsBack := by
    intro value given restated
    rw [Restates] at restated
    rw [← restated]
    rfl

theorem codec_wholeNumber : Schema.wholeNumber.Codec Shape.wholeNumber Json.integer where
  toReadBy := readBy_wholeNumber
  restates := fun value => by rw [Restates]
  readsBack := by
    intro value given restated
    rw [Restates] at restated
    rw [← restated]
    rfl

section Value

variable {Value : Type} {read : Json → Checked Value} {write : Value → Json} {item : Schema}

theorem Codec.itemsFrom (codec : item.Codec read write) {values : List Value} {givens : List Json}
    (each : List.Forall₂ item.Restates (values.map write) givens) (position : Nat) :
    Shape.itemsFrom read position givens = .valid values := by
  induction values generalizing givens position with
  | nil =>
      cases each
      rfl
  | cons value rest ih =>
      cases each with
      | cons restated others =>
          rw [Shape.itemsFrom, codec.readsBack value _ restated, ih others]
          rfl

theorem Codec.list (codec : item.Codec read write) :
    (Schema.list item).Codec (Shape.list read) (fun values => .array (values.map write)) where
  toReadBy := codec.toReadBy.list
  restates := by
    intro values
    rw [restates_list]
    apply Itemwise.intro
    apply List.forall₂_same.2
    intro json listed
    obtain ⟨value, _, rfl⟩ := List.mem_map.1 listed
    exact codec.restates value
  readsBack := by
    intro values given restated
    rw [restates_list] at restated
    cases restated with
    | intro each => exact codec.itemsFrom each 0

end Value

structure Entry (Whole : Type) where
  slot : Slot Schema
  write : Whole → Json

namespace Entry

variable {Whole : Type}

def member (whole : Whole) (entry : Entry Whole) : Text × Json :=
  (entry.slot.name, entry.write whole)

def AllPresent (givens : List (Text × Json)) (whole : Whole)
    (entries : List (Entry Whole)) : Prop :=
  ∀ entry ∈ entries, Presents givens (rule entry.slot) (entry.member whole)

theorem kept_members (whole : Whole) {entries : List (Entry Whole)}
    (restates : ∀ entry ∈ entries,
      entry.slot.content.Restates (entry.write whole) (entry.write whole)) :
    Kept ((entries.map slot).map rule) (entries.map (member whole))
      (entries.map (member whole)) := by
  induction entries with
  | nil => exact .nil
  | cons entry entries ih =>
      have first := restates entry List.mem_cons_self
      have rest := ih (fun later listed => restates later (List.mem_cons_of_mem _ listed))
      exact @Kept.keep (rule entry.slot) _ _ _ _ _ first rest

end Entry

/-- A reader of members that keeps to the slots of entries.  It reads what the entries write as a
part of the whole, which grows by one field with each entry. -/
structure EntriesCodec {Whole Value : Type} (entries : List (Entry Whole))
    (read : List (Text × Json) → Checked Value) (part : Whole → Value) : Prop
    extends SlotsReadBy (entries.map Entry.slot) read where
  restates : ∀ whole, ∀ entry ∈ entries,
    entry.slot.content.Restates (entry.write whole) (entry.write whole)
  readsBack : ∀ whole givens, Entry.AllPresent givens whole entries →
    read givens = .valid (part whole)

section Record

variable {Whole Content Value : Type} {entries : List (Entry Whole)}

theorem entriesCodec_nil (value : Value) :
    EntriesCodec ([] : List (Entry Whole)) (fun _ => .valid value) (fun _ => value) where
  toSlotsReadBy := slotsReadBy_nil value
  restates := by
    intro whole entry listed
    cases listed
  readsBack := fun _ _ _ => rfl

variable {function : List (Text × Json) → Checked (Content → Value)}
  {part : Whole → Content → Value} {content : Schema} {readContent : Json → Checked Content}
  {writeContent : Content → Json}

theorem EntriesCodec.also (slot : Slot Schema) {readSlot : List (Text × Json) → Checked Content}
    (codec : EntriesCodec entries function part)
    (inside : slot.content.Codec readContent writeContent)
    (readBy : SlotsReadBy ((entries.map Entry.slot) ++ [slot])
      (fun members => (function members).also (readSlot members)))
    (present : ∀ value givens, Presents givens (rule slot) (slot.name, writeContent value) →
      readSlot givens = .valid value) (get : Whole → Content) :
    EntriesCodec (entries ++ [⟨slot, fun whole => writeContent (get whole)⟩])
      (fun members => (function members).also (readSlot members))
      (fun whole => part whole (get whole)) where
  toSlotsReadBy := by
    rw [List.map_append]
    exact readBy
  restates := by
    intro whole entry listed
    rcases List.mem_append.1 listed with before | last
    · exact codec.restates whole entry before
    · rw [List.mem_singleton.1 last]
      exact inside.restates (get whole)
  readsBack := by
    intro whole givens all
    have last := all _ (List.mem_append_right _ List.mem_cons_self)
    have before : Entry.AllPresent givens whole entries :=
      fun entry listed => all entry (List.mem_append_left _ listed)
    rw [codec.readsBack whole givens before, present (get whole) givens last]
    rfl

theorem EntriesCodec.required (codec : EntriesCodec entries function part)
    (inside : content.Codec readContent writeContent) (name : Text) (get : Whole → Content) :
    EntriesCodec (entries ++ [⟨⟨name, true, content⟩, fun whole => writeContent (get whole)⟩])
      (fun members => (function members).also (Shape.required members name readContent))
      (fun whole => part whole (get whole)) := by
  refine codec.also ⟨name, true, content⟩ inside
    (codec.toSlotsReadBy.required inside.toReadBy name) ?_ get
  intro value givens presents
  unfold Shape.required
  rcases presents with ⟨given, found, restated⟩ | ⟨_, usual⟩
  · change Json.lookupLast name givens = some given at found
    rw [found]
    exact congrArg (Checked.under _) (inside.readsBack value given restated)
  · cases usual

/-- A value that is left out is the one that the usual value is read as. -/
theorem EntriesCodec.optional (codec : EntriesCodec entries function part)
    (inside : content.Codec readContent writeContent) (name : Text) {absent : Content}
    (usual : content.usual?.map readContent = some (.valid absent)) (get : Whole → Content) :
    EntriesCodec (entries ++ [⟨⟨name, false, content⟩, fun whole => writeContent (get whole)⟩])
      (fun members => (function members).also (Shape.optional members name absent readContent))
      (fun whole => part whole (get whole)) := by
  refine codec.also ⟨name, false, content⟩ inside
    (codec.toSlotsReadBy.optional inside.toReadBy name absent) ?_ get
  intro value givens presents
  unfold Shape.optional
  rcases presents with ⟨given, found, restated⟩ | ⟨missing, written⟩
  · change Json.lookupLast name givens = some given at found
    rw [found]
    exact congrArg (Checked.under _) (inside.readsBack value given restated)
  · change Json.lookupLast name givens = none at missing
    change content.usual? = some (writeContent value) at written
    rw [written, Option.map_some, inside.readsBack value _ (inside.restates value)] at usual
    rw [missing]
    exact (Option.some.inj usual).symm

theorem EntriesCodec.record {read : List (Text × Json) → Checked Whole}
    (codec : EntriesCodec entries read (fun whole => whole))
    (names : ((entries.map Entry.slot).map Slot.name).Nodup) :
    (Schema.record (entries.map Entry.slot)).Codec (Shape.record read)
      (fun whole => .object (entries.map (Entry.member whole))) where
  toReadBy := codec.toSlotsReadBy.record names
  restates := by
    intro whole
    rw [restates_record]
    exact .of_perm (Entry.kept_members whole (codec.restates whole)) (.refl _)
  readsBack := by
    intro whole given restated
    rw [restates_record] at restated
    have distinct : (((entries.map Entry.slot).map rule).map FieldRule.name).Nodup := by
      rw [List.map_map]
      exact names
    obtain ⟨givens, rfl, all⟩ := restated.presents distinct
    apply codec.readsBack whole givens
    rw [List.map_map, List.forall₂_map_left_iff, List.forall₂_map_right_iff] at all
    exact List.forall₂_same.1 all

end Record

end Schema

end ContractTypes
