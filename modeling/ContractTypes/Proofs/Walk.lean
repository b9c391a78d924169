import Mathlib.Data.List.Chain
import Mathlib.Data.List.Nodup

/-!
Walks.

A walk goes from an item to the next one for as long as there is a next one.  It comes to an end at
most once and does not go on behind it.  Once a walk is back at an item that it has passed, it goes
on as it did from there, and so it has no end.

A list comes round if its last item, and no other, stands in it before.  Of the lists that start in
the same way at most one does: a longer one would have come round earlier.
-/

namespace ContractTypes.Walk

variable {Item : Type}

def item? (next? : Item → Option Item) (first : Item) : Nat → Option Item
  | 0 => some first
  | steps + 1 => (item? next? first steps).bind next?

variable {next? : Item → Option Item} {first : Item}

theorem item?_succ (next? : Item → Option Item) (first : Item) (steps : Nat) :
    item? next? first (steps + 1) = (item? next? first steps).bind next? := rfl

theorem item?_add (next? : Item → Option Item) (first : Item) (steps more : Nat) :
    item? next? first (steps + more) = (item? next? first steps).bind
      (fun item => item? next? item more) := by
  induction more with
  | zero => exact (Option.bind_fun_some _).symm
  | succ more ih =>
      rw [← Nat.add_assoc, item?_succ, ih, Option.bind_assoc]
      rfl

theorem item?_of_next? {second : Item} (next : next? first = some second) (steps : Nat) :
    item? next? first (steps + 1) = item? next? second steps := by
  have begun : item? next? first 1 = some second := next
  rw [Nat.add_comm, item?_add, begun, Option.bind_some]

theorem item?_past_end {last : Item} {steps : Nat} (reached : item? next? first steps = some last)
    (stop : next? last = none) (more : Nat) : item? next? first (steps + more + 1) = none := by
  induction more with
  | zero =>
      rw [Nat.add_zero, item?_succ, reached]
      exact stop
  | succ more ih =>
      rw [← Nat.add_assoc, item?_succ, ih]
      rfl

theorem le_end {item last : Item} {steps end_ : Nat} (reached : item? next? first steps = some item)
    (ended : item? next? first end_ = some last) (stop : next? last = none) : steps ≤ end_ := by
  by_contra beyond
  obtain ⟨more, rfl⟩ := Nat.exists_eq_add_of_lt (Nat.lt_of_not_le beyond)
  rw [item?_past_end ended stop more] at reached
  cases reached

theorem end_unique {left right : Item} {early late : Nat}
    (leftReached : item? next? first early = some left) (leftStop : next? left = none)
    (rightReached : item? next? first late = some right) (rightStop : next? right = none) :
    left = right := by
  have same : early = late :=
    Nat.le_antisymm (le_end leftReached rightReached rightStop)
      (le_end rightReached leftReached leftStop)
  subst same
  exact Option.some.inj (leftReached.symm.trans rightReached)

/-- A walk that meets an item twice has a next item everywhere. -/
theorem next?_ne_none_of_met_twice {met : Item} {early late : Nat} (before : early < late)
    (earlier : item? next? first early = some met) (later : item? next? first late = some met)
    {item : Item} {steps : Nat} (reached : item? next? first steps = some item) :
    next? item ≠ none := by
  intro stop
  have inside : late ≤ steps := le_end later reached stop
  obtain ⟨more, rfl⟩ := Nat.exists_eq_add_of_le inside
  -- As far behind the first meeting as the end is behind the second, there is the end too.
  have also : item? next? first (early + more) = some item := by
    rw [item?_add, earlier, ← later, ← item?_add]
    exact reached
  have tooLate := le_end reached also stop
  omega

/-- A list that is closed under steps holds every item that a walk from one of its items comes
to. -/
theorem mem_of_closed {items : List Item} (member : first ∈ items)
    (closed : ∀ item ∈ items, ∀ later, next? item = some later → later ∈ items) {item : Item}
    {steps : Nat} (reached : item? next? first steps = some item) : item ∈ items := by
  induction steps generalizing item with
  | zero => exact Option.some.inj reached ▸ member
  | succ steps ih =>
      obtain ⟨before, earlier, next⟩ := Option.bind_eq_some_iff.1 reached
      exact closed before (ih earlier) item next

theorem getElem?_eq_item? {items : List Item} (starts : items.head? = some first)
    (linked : items.IsChain (fun item later => next? item = some later)) {position : Nat}
    (inside : position < items.length) : items[position]? = item? next? first position := by
  induction position with
  | zero => rw [← List.head?_eq_getElem?, starts, item?]
  | succ position ih =>
      have before : position < items.length := Nat.lt_of_succ_lt inside
      rw [item?_succ, ← ih before, List.getElem?_eq_getElem before, List.getElem?_eq_getElem inside]
      exact (List.isChain_iff_getElem.1 linked position inside).symm

theorem isChain_of_getElem? {items : List Item}
    (along : ∀ position, position < items.length → items[position]? = item? next? first position) :
    items.IsChain (fun item later => next? item = some later) := by
  refine List.isChain_iff_getElem.2 (fun position inside => ?_)
  have here := along position (Nat.lt_of_succ_lt inside)
  have onward := along (position + 1) inside
  rw [item?_succ, ← here, List.getElem?_eq_getElem inside,
    List.getElem?_eq_getElem (Nat.lt_of_succ_lt inside)] at onward
  exact onward.symm

/-- The last item of a list stands in it before, and the items before the last one all differ. -/
structure ComesRound (items : List Item) : Prop where
  distinct : items.dropLast.Nodup
  returns : ∃ last, items.getLast? = some last ∧ last ∈ items.dropLast

/-- What goes round in a list that comes round: the part from the first place of its last item
on. -/
def circle [DecidableEq Item] (items : List Item) : List Item :=
  items.dropWhile (fun item => items.getLast? != some item)

section ComesRound

variable {items others : List Item}

theorem comesRound_concat {last : Item} (distinct : items.Nodup) (met : last ∈ items) :
    ComesRound (items ++ [last]) where
  distinct := by
    rw [List.dropLast_concat]
    exact distinct
  returns := by
    refine ⟨last, List.getLast?_concat, ?_⟩
    rw [List.dropLast_concat]
    exact met

theorem ComesRound.eq_concat (round : ComesRound items) : ∃ last ∈ items.dropLast,
    items = items.dropLast ++ [last] := by
  obtain ⟨last, ended, member⟩ := round.returns
  exact ⟨last, member, (List.dropLast_append_getLast? last ended).symm⟩

theorem ComesRound.mem_dropLast (round : ComesRound items) {item : Item} (member : item ∈ items) :
    item ∈ items.dropLast := by
  obtain ⟨last, inside, whole⟩ := round.eq_concat
  rw [whole] at member
  rcases List.mem_append.1 member with before | atEnd
  · exact before
  · rwa [List.mem_singleton.1 atEnd]

theorem ComesRound.not_nodup (round : ComesRound items) : ¬items.Nodup := by
  obtain ⟨last, member, whole⟩ := round.eq_concat
  intro distinct
  rw [whole, List.nodup_append] at distinct
  exact distinct.2.2 last member last (List.mem_singleton_self last) rfl

theorem ComesRound.met_twice (round : ComesRound items) : ∃ early late met, early < late ∧
    late < items.length ∧ items[early]? = some met ∧ items[late]? = some met := by
  by_contra never
  apply round.not_nodup
  refine List.nodup_iff_getElem?_ne_getElem?.2 (fun early late before inside same => ?_)
  exact never ⟨early, late, items[late], before, inside,
    same.trans (List.getElem?_eq_getElem inside), List.getElem?_eq_getElem inside⟩

theorem ComesRound.eq_of_prefix (round : ComesRound items) (also : ComesRound others)
    (ahead : items <+: others) : items = others := by
  obtain ⟨last, _, whole⟩ := also.eq_concat
  rw [whole] at ahead
  rcases List.prefix_concat_iff.1 ahead with same | within
  · exact same.trans whole.symm
  · -- Before its last item the longer list holds nothing twice.
    exact absurd (also.distinct.sublist within.sublist) round.not_nodup

/-- Two lists that come round are equal if neither holds anything else than the other as far as both
go. -/
theorem ComesRound.eq_of_agree (round : ComesRound items) (also : ComesRound others)
    (agree : ∀ position, position < items.length → position < others.length →
      items[position]? = others[position]?) : items = others := by
  rcases Nat.le_total items.length others.length with shorter | longer
  · refine round.eq_of_prefix also (List.prefix_iff_getElem?.2 (fun position inside => ?_))
    rw [← agree position inside (Nat.lt_of_lt_of_le inside shorter),
      List.getElem?_eq_getElem inside]
  · refine (also.eq_of_prefix round (List.prefix_iff_getElem?.2 (fun position inside => ?_))).symm
    rw [agree position (Nat.lt_of_lt_of_le inside longer) inside, List.getElem?_eq_getElem inside]

/-- Behind its head, the head of a list that comes round can only stand at its end. -/
theorem ComesRound.mem_tail_iff (round : ComesRound (first :: items)) :
    first ∈ items ↔ (first :: items).getLast? = some first := by
  obtain ⟨last, _, whole⟩ := round.eq_concat
  cases items with
  | nil =>
      obtain ⟨_, _, member⟩ := round.returns
      cases member
  | cons second rest =>
      rw [List.dropLast_cons_cons, List.cons_append, List.cons_inj_right] at whole
      have fresh : first ∉ (second :: rest).dropLast := (List.nodup_cons.1 round.distinct).1
      rw [List.getLast?_cons_cons, whole, List.getLast?_concat, Option.some.injEq, List.mem_append,
        List.mem_singleton, or_iff_right fresh]
      exact eq_comm

/-- The head of a list that comes round goes round in it only if the list comes round to it. -/
theorem ComesRound.mem_circle_iff [DecidableEq Item] (round : ComesRound (first :: items)) :
    first ∈ circle (first :: items) ↔ (first :: items).getLast? = some first := by
  unfold circle
  rw [List.dropWhile_cons]
  by_cases back : (first :: items).getLast? = some first
  · rw [if_neg (fun onward => bne_iff_ne.1 onward back)]
    exact iff_of_true List.mem_cons_self back
  · rw [if_pos (bne_iff_ne.2 back)]
    refine iff_of_false (fun member => ?_) back
    exact back (round.mem_tail_iff.1 ((List.dropWhile_sublist _).subset member))

end ComesRound

end ContractTypes.Walk
