import ContractTypes.Proofs.Text.Order
import ContractTypes.Warning
import Mathlib.Data.List.Induction
import Mathlib.Data.List.Nodup

/-!
The lists of names in a report.

The names that a report lists are those of which something holds.  Their order is strict, so none of
them stands there twice and no other list is right.  Repeated names are in the order of the places
at which they stand the second time, and every name has at most one such place.  Other names are in
the order of their code points.

A search for repeated names keeps the names that it has met and those that it has reported.  Before
its place, the former occur at least once and the latter at least twice.
-/

namespace ContractTypes

/-- A list of the names of which something holds, in some order. -/
structure Lists (listed : Text → Prop) (isBefore : Text → Text → Prop)
    (names : List Text) : Prop where
  mem_iff : ∀ name, name ∈ names ↔ listed name
  ordered : names.Pairwise isBefore

/-- At this place a name stands the second time. -/
def StandsSecond (names : List Text) (name : Text) (place : Nat) : Prop :=
  names[place]? = some name ∧ (names.take place).count name = 1

/-- One name stands the second time before another one does. -/
def RepeatedBefore (names : List Text) (first second : Text) : Prop :=
  ∃ early late, early < late ∧ StandsSecond names first early ∧ StandsSecond names second late

def ListsRepeated (names : List Text) : List Text → Prop :=
  Lists (fun name => 1 < names.count name) (RepeatedBefore names)

def ListsAscending (listed : Text → Prop) : List Text → Prop :=
  Lists listed (fun first second => first.numbers < second.numbers)

theorem Lists.unique {listed : Text → Prop} {isBefore : Text → Text → Prop} {left right : List Text}
    (asymm : ∀ {first second}, isBefore first second → ¬isBefore second first)
    (one : Lists listed isBefore left) (other : Lists listed isBefore right) : left = right := by
  have differ {first second : Text} (before : isBefore first second) : first ≠ second := by
    rintro rfl
    exact asymm before before
  have same : left.Perm right :=
    (List.perm_ext_iff_of_nodup (one.ordered.imp differ) (other.ordered.imp differ)).2
      (fun name => (one.mem_iff name).trans (other.mem_iff name).symm)
  refine same.eq_of_pairwise ?_ one.ordered other.ordered
  exact fun _ _ _ _ before after => absurd after (asymm before)

theorem count_concat (names : List Text) (last name : Text) :
    (names ++ [last]).count name = if last = name then names.count name + 1 else
      names.count name := by
  by_cases same : last = name
  · rw [if_pos same, same, List.count_append, List.count_singleton_self]
  · rw [if_neg same, List.count_append, List.count_singleton, if_neg (mt eq_of_beq same),
      Nat.add_zero]

section StandsSecond

variable {names : List Text} {name : Text}

theorem StandsSecond.count_take_succ {place : Nat} (second : StandsSecond names name place) :
    (names.take (place + 1)).count name = 2 := by
  rw [List.take_add_one, second.1, List.count_append, second.2]
  exact congrArg (1 + ·) List.count_singleton_self

theorem StandsSecond.not_lt {early late : Nat} (atEarly : StandsSecond names name early)
    (atLate : StandsSecond names name late) : ¬early < late := by
  intro less
  have few : (names.take (early + 1)).count name ≤ (names.take late).count name :=
    (List.take_sublist_take_left less).count_le name
  rw [atEarly.count_take_succ, atLate.2] at few
  exact absurd few (by decide)

theorem StandsSecond.unique {early late : Nat} (atEarly : StandsSecond names name early)
    (atLate : StandsSecond names name late) : early = late :=
  Nat.le_antisymm (Nat.le_of_not_lt (atLate.not_lt atEarly))
    (Nat.le_of_not_lt (atEarly.not_lt atLate))

theorem StandsSecond.append {place : Nat} (second : StandsSecond names name place)
    (more : List Text) : StandsSecond (names ++ more) name place := by
  have within : place < names.length := (List.getElem?_eq_some_iff.1 second.1).1
  constructor
  · rw [List.getElem?_append_left within]
    exact second.1
  · rw [List.take_append_of_le_length within.le]
    exact second.2

theorem exists_standsSecond_iff : (∃ place, StandsSecond names name place) ↔
    1 < names.count name := by
  constructor
  · rintro ⟨place, second⟩
    have few : (names.take (place + 1)).count name ≤ names.count name :=
      (List.take_sublist _ _).count_le name
    rw [second.count_take_succ] at few
    exact few
  · intro repeated
    induction names using List.reverseRecOn with
    | nil => cases repeated
    | append_singleton names last ih =>
        by_cases earlier : 1 < names.count name
        · obtain ⟨place, second⟩ := ih earlier
          exact ⟨place, second.append [last]⟩
        · -- So the name occurs once before the last one, which is its second occurrence.
          rw [count_concat] at repeated
          by_cases same : last = name
          · rw [if_pos same] at repeated
            refine ⟨names.length, ?_, ?_⟩
            · rw [List.getElem?_concat_length, same]
            · rw [List.take_left]
              omega
          · rw [if_neg same] at repeated
            exact absurd repeated earlier

theorem RepeatedBefore.asymm {first second : Text} (before : RepeatedBefore names first second) :
    ¬RepeatedBefore names second first := by
  obtain ⟨early, late, less, atEarly, atLate⟩ := before
  rintro ⟨early', late', less', atEarly', atLate'⟩
  have sameFirst : early = late' := atEarly.unique atLate'
  have sameSecond : late = early' := atLate.unique atEarly'
  omega

end StandsSecond

/-! ### The search for repeated names -/

def isSecond (names : List Text) (entry : Text × Nat) : Bool :=
  decide ((names.take entry.2).count entry.1 = 1)

def Exceed (bound : Nat) (before exceeding : List Text) : Prop :=
  ∀ name, name ∈ exceeding ↔ bound < before.count name

/-- The names met and those reported once a search has passed some names. -/
structure Passed (before met reported : List Text) : Prop where
  met_iff : Exceed 0 before met
  reported_iff : Exceed 1 before reported

section Passed

variable {bound : Nat} {before exceeding met reported : List Text} {name : Text}

theorem Exceed.nil (bound : Nat) : Exceed bound [] [] :=
  fun _ => ⟨fun member => absurd member List.not_mem_nil, fun less =>
    absurd less (Nat.not_lt_zero bound)⟩

theorem Exceed.cons (exceed : Exceed bound before exceeding) (reached : before.count name = bound) :
    Exceed bound (before ++ [name]) (name :: exceeding) := by
  intro other
  rw [List.mem_cons, exceed other, count_concat]
  by_cases same : name = other
  · subst same
    rw [if_pos rfl]
    exact ⟨fun _ => Nat.lt_succ_of_le reached.ge, fun _ => .inl rfl⟩
  · rw [if_neg same]
    exact or_iff_right (Ne.symm same)

theorem Exceed.keep (exceed : Exceed bound before exceeding) (apart : before.count name ≠ bound) :
    Exceed bound (before ++ [name]) exceeding := by
  intro other
  rw [exceed other, count_concat]
  by_cases same : name = other
  · subst same
    rw [if_pos rfl]
    omega
  · rw [if_neg same]

theorem Passed.nil : Passed [] [] [] := ⟨Exceed.nil 0, Exceed.nil 1⟩

theorem Passed.fresh (passed : Passed before met reported) (new : name ∉ met) :
    Passed (before ++ [name]) (name :: met) reported := by
  have none : before.count name = 0 := Nat.eq_zero_of_not_pos (mt (passed.met_iff name).2 new)
  exact ⟨passed.met_iff.cons none, passed.reported_iff.keep (by omega)⟩

theorem Passed.again (passed : Passed before met reported) (old : name ∈ met)
    (new : name ∉ reported) : Passed (before ++ [name]) met (name :: reported) := by
  have atLeast : 0 < before.count name := (passed.met_iff name).1 old
  have atMost : before.count name ≤ 1 := Nat.le_of_not_lt (mt (passed.reported_iff name).2 new)
  exact ⟨passed.met_iff.keep (by omega), passed.reported_iff.cons (by omega)⟩

theorem Passed.later (passed : Passed before met reported) (old : name ∈ reported) :
    Passed (before ++ [name]) met reported := by
  have atLeast : 1 < before.count name := (passed.reported_iff name).1 old
  exact ⟨passed.met_iff.keep (by omega), passed.reported_iff.keep (by omega)⟩

theorem Passed.isSecond_iff (passed : Passed before met reported) :
    before.count name = 1 ↔ name ∈ met ∧ name ∉ reported := by
  rw [passed.met_iff name, passed.reported_iff name]
  omega

/-- A search behind some names reports those that stand at a place where they have stood once. -/
theorem Passed.repeatedAfter_eq (passed : Passed before met reported) (rest : List Text) :
    repeatedAfter met reported rest =
      ((rest.zipIdx before.length).filter (isSecond (before ++ rest))).map Prod.fst := by
  -- Each name goes over to the names passed, and the search goes on with what it knows behind that
  -- name.
  induction rest generalizing before met reported with
  | nil => rfl
  | cons name rest ih =>
      have next {met reported : List Text} (passed : Passed (before ++ [name]) met reported) :
          repeatedAfter met reported rest =
            ((rest.zipIdx (before.length + 1)).filter (isSecond (before ++ name :: rest))).map
              Prod.fst := by
        rw [ih passed, List.length_append, List.length_singleton, List.append_assoc,
          List.singleton_append]
      have here :
          isSecond (before ++ name :: rest) (name, before.length) = true ↔
            name ∈ met ∧ name ∉ reported := by
        rw [← passed.isSecond_iff, isSecond, decide_eq_true_iff, List.take_left]
      rw [repeatedAfter, List.zipIdx_cons, List.filter_cons]
      simp only [List.contains_iff_mem, here]
      by_cases inMet : name ∈ met
      · by_cases inReported : name ∈ reported
        · rw [if_pos inMet, if_pos inReported, if_neg (fun both => both.2 inReported)]
          exact next (passed.later inReported)
        · rw [if_pos inMet, if_neg inReported, if_pos ⟨inMet, inReported⟩, List.map_cons]
          exact congrArg (name :: ·) (next (passed.again inMet inReported))
      · rw [if_neg inMet, if_neg (fun both => inMet both.1)]
        exact next (passed.fresh inMet)

end Passed

theorem mem_filter_isSecond_iff {names : List Text} {entry : Text × Nat} :
    entry ∈ names.zipIdx.filter (isSecond names) ↔ StandsSecond names entry.1 entry.2 := by
  rw [List.mem_filter, List.mem_zipIdx_iff_getElem?, isSecond, decide_eq_true_iff]
  rfl

theorem ListsRepeated.unique {names left right : List Text} (one : ListsRepeated names left)
    (other : ListsRepeated names right) : left = right :=
  Lists.unique RepeatedBefore.asymm one other

theorem listsRepeated_repeatedNames (names : List Text) :
    ListsRepeated names (repeatedNames names) := by
  have found : repeatedNames names = (names.zipIdx.filter (isSecond names)).map Prod.fst :=
    Passed.nil.repeatedAfter_eq names
  rw [found]
  constructor
  · intro name
    rw [← exists_standsSecond_iff, List.mem_map]
    constructor
    · rintro ⟨entry, member, rfl⟩
      exact ⟨entry.2, mem_filter_isSecond_iff.1 member⟩
    · rintro ⟨place, second⟩
      exact ⟨(name, place), mem_filter_isSecond_iff.2 second, rfl⟩
  · have places : names.zipIdx.Pairwise (fun one other => one.2 < other.2) := by
      rw [← List.pairwise_map, List.zipIdx_map_snd]
      exact List.pairwise_lt_range'
    rw [List.pairwise_map]
    refine (places.filter (isSecond names)).imp_of_mem ?_
    intro one other first second less
    exact ⟨one.2, other.2, less, mem_filter_isSecond_iff.1 first, mem_filter_isSecond_iff.1 second⟩

/-! ### Sorted names -/

theorem ListsAscending.unique {listed : Text → Prop} {left right : List Text}
    (one : ListsAscending listed left) (other : ListsAscending listed right) : left = right :=
  Lists.unique lt_asymm one other

theorem nodup_eraseDups (names : List Text) : names.eraseDups.Nodup := by
  cases names with
  | nil => exact List.nodup_nil
  | cons name rest =>
      rw [List.eraseDups_cons, List.nodup_cons, List.mem_eraseDups, List.mem_filter]
      refine ⟨fun kept => ?_, nodup_eraseDups _⟩
      rw [beq_self_eq_true] at kept
      exact Bool.false_ne_true kept.2
termination_by names.length
decreasing_by exact Nat.lt_succ_of_le (List.length_filter_le _ _)

theorem listsAscending_sortedNames {listed : Text → Prop} {names : List Text}
    (same : ∀ name, name ∈ names ↔ listed name) : ListsAscending listed (sortedNames names) where
  mem_iff name := by
    unfold sortedNames Text.sorted
    rw [List.mem_mergeSort, List.mem_eraseDups, same]
  ordered := Text.pairwise_lt_sorted (nodup_eraseDups names)

end ContractTypes
