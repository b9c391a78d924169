import ContractTypes.Proofs.TypeExpression
import ContractTypes.Proofs.Walk
import ContractTypes.Resolution
import Mathlib.Data.List.Dedup
import Mathlib.Data.List.Perm.Subperm

/-!
The alias chain of an expression.

The chain starts at the bare name of the expression and goes from an alias to the bare name of its
first target.  It may end, at an empty name or at a name that is no alias, and it may go on for
ever.  The search of `Document.settle` walks along the chain: it has followed the names behind it,
which all differ, and it looks at the next one.  So it follows at most as many aliases as there are
names of aliases, and where the chain ends, or that it does not, decides what an expression resolves
to.
-/

namespace ContractTypes

namespace Document

/-- The name after a name on a chain; there is none after an empty name or one that is no alias. -/
def nextName? (document : Document) (name : Text) : Option Text :=
  if name.isEmpty then none
  else (document.alias? name).map (fun declared => TypeExpression.bareName declared.target)

/-- The name on the chain of an expression after a number of aliases, if it has as many. -/
def aliasChain (document : Document) (expression : Text) : Nat → Option Text
  | 0 => some (TypeExpression.bareName expression)
  | hops + 1 => (document.aliasChain expression hops).bind document.nextName?

/-- A name that is not empty and stands for a text that is not empty either. -/
def Leads (document : Document) (name : Text) : Prop :=
  name ≠ [] ∧ ∃ declared, document.alias? name = some declared ∧ declared.target ≠ []

def aliasNameCount (document : Document) : Nat := (document.aliases.map Alias.name).dedup.length

theorem alias?_name {document : Document} {name : Text} {declared : Alias}
    (found : document.alias? name = some declared) : declared.name = name :=
  NameTable.key_eq_of_first? found

theorem alias?_mem {document : Document} {name : Text} {declared : Alias}
    (found : document.alias? name = some declared) : name ∈ document.aliases.map Alias.name :=
  List.mem_map.2 ⟨declared, NameTable.mem_of_first? found, alias?_name found⟩

theorem nextName?_nil (document : Document) : document.nextName? [] = none := rfl

theorem nextName?_of_alias {document : Document} {name : Text} {declared : Alias}
    (named : name ≠ []) (found : document.alias? name = some declared) :
    document.nextName? name = some (TypeExpression.bareName declared.target) := by
  unfold nextName?
  rw [if_neg (by simpa using named), found]
  rfl

theorem nextName?_of_no_alias {document : Document} {name : Text}
    (absent : document.alias? name = none) : document.nextName? name = none := by
  unfold nextName?
  rw [absent]
  exact ite_self none

theorem aliasChain_succ (document : Document) (expression : Text) (hops : Nat) :
    document.aliasChain expression (hops + 1) =
      (document.aliasChain expression hops).bind document.nextName? := rfl

theorem aliasChain_eq_item? (document : Document) (expression : Text) (hops : Nat) :
    document.aliasChain expression hops =
      Walk.item? document.nextName? (TypeExpression.bareName expression) hops := by
  induction hops with
  | zero => rfl
  | succ hops ih => rw [aliasChain_succ, Walk.item?_succ, ih]

theorem aliasChain_end_unique {document : Document} {expression left right : Text}
    {early late : Nat} (leftReached : document.aliasChain expression early = some left)
    (leftLast : document.nextName? left = none)
    (rightReached : document.aliasChain expression late = some right)
    (rightLast : document.nextName? right = none) : left = right := by
  rw [aliasChain_eq_item?] at leftReached rightReached
  exact Walk.end_unique leftReached leftLast rightReached rightLast

/-- An alias for the empty text brings the chain to the empty name, unless it is there already. -/
theorem aliasChain_empty_of_empty_target {document : Document} {expression name : Text} {hops : Nat}
    {declared : Alias} (reached : document.aliasChain expression hops = some name)
    (found : document.alias? name = some declared) (empty : declared.target = []) :
    ∃ later, document.aliasChain expression later = some [] := by
  by_cases named : name = []
  · subst named
    exact ⟨hops, reached⟩
  · refine ⟨hops + 1, ?_⟩
    rw [aliasChain_succ, reached, Option.bind_some, nextName?_of_alias named found, empty]
    rfl

/-! ### The search -/

section Settle

variable {document : Document} {outer : List Marker} {followed : List Text} {expression : Text}

theorem settle_of_nameless (nameless : TypeExpression.bareName expression = []) :
    document.settle outer followed expression = .error (.nameless expression) := by
  rw [settle, nameless]
  rfl

theorem settle_of_no_alias (named : TypeExpression.bareName expression ≠ [])
    (absent : document.alias? (TypeExpression.bareName expression) = none) :
    document.settle outer followed expression =
      .ok ⟨outer ++ TypeExpression.markers expression, TypeExpression.bareName expression,
        expression⟩ := by
  fun_cases settle document outer followed expression with
  | case1 _ empty => exact absurd (List.isEmpty_iff.1 empty) named
  | case2 => rfl
  | case3 _ _ _ found => cases absent.symm.trans found
  | case4 _ _ _ found => cases absent.symm.trans found
  | case5 _ _ _ _ found => cases absent.symm.trans found

theorem settle_of_alias {declared : Alias} (named : TypeExpression.bareName expression ≠ [])
    (found : document.alias? (TypeExpression.bareName expression) = some declared) :
    document.settle outer followed expression =
      if followed.contains declared.name then .error (.cyclic (followed ++ [declared.name]))
      else if declared.target.isEmpty then .error (.emptyTarget declared.name)
      else document.settle (outer ++ TypeExpression.markers expression)
        (followed ++ [declared.name])
        declared.target := by
  fun_cases settle document outer followed expression with
  | case1 _ empty => exact absurd (List.isEmpty_iff.1 empty) named
  | case2 _ _ _ absent => cases found.symm.trans absent
  | case3 _ _ other present met =>
      cases found.symm.trans present
      rw [if_pos met]
  | case4 _ _ other present fresh empty =>
      cases found.symm.trans present
      rw [if_neg fresh, if_pos empty]
  | case5 _ _ _ other present fresh filled =>
      cases found.symm.trans present
      rw [if_neg fresh, if_neg filled]

end Settle

end Document

/-- A search on its way: the markers and the aliases met so far, and the expression that it has come
to. -/
structure Search where
  markers : List Marker
  followed : List Text
  expression : Text

namespace Search

def start (expression : Text) : Search := ⟨[], [], expression⟩

def name (search : Search) : Text := TypeExpression.bareName search.expression

def result (document : Document) (search : Search) : Except ResolveError Settled :=
  document.settle search.markers search.followed search.expression

/-- A search behind the alias that it looks at, if it follows that alias. -/
def next? (document : Document) (search : Search) : Option Search :=
  if search.name.isEmpty then none
  else
    (document.alias? search.name).bind (fun declared =>
      if search.followed.contains declared.name || declared.target.isEmpty then none
      else
        some {
          markers := search.markers ++ TypeExpression.markers search.expression
          followed := search.followed ++ [declared.name]
          expression := declared.target })

def after? (document : Document) (search : Search) : Nat → Option Search
  | 0 => some search
  | hops + 1 => (search.after? document hops).bind (next? document)

/-- What a search does at a name: it stops in one of four ways, or it follows an alias that it has
not met and that stands for some text. -/
inductive Step (document : Document) (search : Search) : Prop where
  | nameless (empty : search.name = []) (stopped : search.next? document = none)
      (result : search.result document = .error (.nameless search.expression))
  | settled (named : search.name ≠ []) (absent : document.alias? search.name = none)
      (stopped : search.next? document = none)
      (result : search.result document =
        .ok ⟨search.markers ++ TypeExpression.markers search.expression, search.name,
          search.expression⟩)
  | cyclic (met : search.name ∈ search.followed) (stopped : search.next? document = none)
      (result : search.result document = .error (.cyclic (search.followed ++ [search.name])))
  | emptyTarget (declared : Alias) (found : document.alias? search.name = some declared)
      (empty : declared.target = []) (stopped : search.next? document = none)
      (result : search.result document = .error (.emptyTarget search.name))
  | follows (declared : Alias) (later : Search) (named : search.name ≠ [])
      (found : document.alias? search.name = some declared) (filled : declared.target ≠ [])
      (fresh : search.name ∉ search.followed)
      (behind : later = ⟨search.markers ++ TypeExpression.markers search.expression,
        search.followed ++ [search.name], declared.target⟩)
      (next : search.next? document = some later)
      (result : search.result document = later.result document)

variable {document : Document}

theorem step (document : Document) (search : Search) : Step document search := by
  have moved := next?.eq_def document search
  by_cases named : search.name = []
  · rw [if_pos (List.isEmpty_iff.2 named)] at moved
    exact .nameless named moved (Document.settle_of_nameless named)
  rw [if_neg (mt List.isEmpty_iff.1 named)] at moved
  cases found : document.alias? search.name with
  | none =>
      rw [found] at moved
      exact .settled named found moved (Document.settle_of_no_alias named found)
  | some declared =>
      have result : search.result document = _ := Document.settle_of_alias named found
      rw [found, Option.bind_some] at moved
      rw [Document.alias?_name found] at moved result
      by_cases met : search.name ∈ search.followed
      · rw [if_pos (Bool.or_eq_true_iff.2 (.inl (List.contains_iff_mem.2 met)))] at moved
        rw [if_pos (List.contains_iff_mem.2 met)] at result
        exact .cyclic met moved result
      rw [if_neg (mt List.contains_iff_mem.1 met)] at result
      by_cases empty : declared.target = []
      · rw [if_pos (Bool.or_eq_true_iff.2 (.inr (List.isEmpty_iff.2 empty)))] at moved
        rw [if_pos (List.isEmpty_iff.2 empty)] at result
        exact .emptyTarget declared found empty moved result
      · have goesOn : ¬(search.followed.contains search.name || declared.target.isEmpty) =
          true := by
          rw [Bool.or_eq_true, not_or]
          exact ⟨mt List.contains_iff_mem.1 met, mt List.isEmpty_iff.1 empty⟩
        rw [if_neg goesOn] at moved
        rw [if_neg (mt List.isEmpty_iff.1 empty)] at result
        exact .follows declared _ named found empty met rfl moved result

theorem next?_eq_some {search later : Search} (next : search.next? document = some later) :
    ∃ declared, search.name ≠ [] ∧ document.alias? search.name = some declared ∧
      declared.target ≠ [] ∧ search.name ∉ search.followed ∧
      later = ⟨search.markers ++ TypeExpression.markers search.expression,
        search.followed ++ [search.name], declared.target⟩ := by
  cases step document search with
  | nameless _ stopped _ => cases stopped.symm.trans next
  | settled _ _ stopped _ => cases stopped.symm.trans next
  | cyclic _ stopped _ => cases stopped.symm.trans next
  | emptyTarget _ _ _ stopped _ => cases stopped.symm.trans next
  | follows declared behind named found filled fresh eq moved _ =>
      have same : later = behind := Option.some.inj (next.symm.trans moved)
      exact ⟨declared, named, found, filled, fresh, same.trans eq⟩

theorem result_of_next? {search later : Search} (next : search.next? document = some later) :
    search.result document = later.result document := by
  cases step document search with
  | nameless _ stopped _ => cases stopped.symm.trans next
  | settled _ _ stopped _ => cases stopped.symm.trans next
  | cyclic _ stopped _ => cases stopped.symm.trans next
  | emptyTarget _ _ _ stopped _ => cases stopped.symm.trans next
  | follows _ behind _ _ _ _ _ moved result =>
      have same : behind = later := Option.some.inj (moved.symm.trans next)
      rw [result, same]

/-- What a search keeps from one step to the next: the names behind it are those on the chain up to
the one that it looks at, they all differ, and each of them leads on. -/
structure OnChain (document : Document) (expression : Text) (search : Search) : Prop where
  passed : ∀ position, position < search.followed.length →
    search.followed[position]? = document.aliasChain expression position
  reached : document.aliasChain expression search.followed.length = some search.name
  distinct : search.followed.Nodup
  leads : ∀ name ∈ search.followed, document.Leads name

theorem onChain_start (document : Document) (expression : Text) :
    OnChain document expression (start expression) where
  passed := by
    intro position before
    exact absurd before (Nat.not_lt_zero position)
  reached := rfl
  distinct := List.nodup_nil
  leads := by
    intro name member
    cases member

/-- The names behind a search and the one that it looks at are the first ones on the chain. -/
theorem OnChain.getElem?_eq {expression : Text} {search : Search}
    (walked : OnChain document expression search) {position : Nat}
    (inside : position < (search.followed ++ [search.name]).length) :
    (search.followed ++ [search.name])[position]? = document.aliasChain expression position := by
  rw [List.length_append, List.length_singleton] at inside
  rcases Nat.lt_succ_iff_lt_or_eq.1 inside with earlier | last
  · rw [List.getElem?_append_left earlier]
    exact walked.passed position earlier
  · subst last
    rw [List.getElem?_concat_length]
    exact walked.reached.symm

theorem OnChain.next {expression : Text} {search later : Search}
    (walked : OnChain document expression search) (next : search.next? document = some later) :
    OnChain document expression later := by
  obtain ⟨declared, named, found, filled, fresh, rfl⟩ := next?_eq_some next
  constructor
  case passed =>
    intro position before
    exact walked.getElem?_eq before
  case reached =>
    rw [List.length_append, List.length_singleton, Document.aliasChain_succ, walked.reached]
    exact Document.nextName?_of_alias named found
  case distinct =>
    rw [← List.concat_eq_append]
    exact walked.distinct.concat fresh
  case leads =>
    intro name member
    rcases List.mem_append.1 member with earlier | last
    · exact walked.leads name earlier
    · rw [List.mem_singleton.1 last]
      exact ⟨named, declared, found, filled⟩

theorem onChain_after {expression : Text} {hops : Nat} {search : Search}
    (walked : (start expression).after? document hops = some search) :
    OnChain document expression search ∧ search.followed.length = hops := by
  induction hops generalizing search with
  | zero =>
      cases walked
      exact ⟨onChain_start document expression, rfl⟩
  | succ hops ih =>
      obtain ⟨earlier, before, next⟩ := Option.bind_eq_some_iff.1 walked
      obtain ⟨onChain, length⟩ := ih before
      obtain ⟨_, _, _, _, _, rfl⟩ := next?_eq_some next
      refine ⟨onChain.next next, ?_⟩
      rw [List.length_append, length]
      rfl

theorem OnChain.length_le {expression : Text} {search : Search}
    (walked : OnChain document expression search) :
    search.followed.length ≤ document.aliasNameCount := by
  apply List.Subperm.length_le
  apply List.subperm_of_subset walked.distinct
  intro name member
  obtain ⟨_, declared, found, _⟩ := walked.leads name member
  exact List.mem_dedup.2 (Document.alias?_mem found)

end Search

end ContractTypes
