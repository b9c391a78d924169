import ContractTypes.Proofs.TypeText.Shape

/-!
Reading types.

The grammar of types has three ranks.  A leaf and a type in parentheses are primary; brackets behind
an element make an array of it; and ` | ` stands between the alternatives of a union, each of which
is an element.  So brackets bind more tightly than the bar.  The grammar is unambiguous: a reader
that finds the tree of every text of the grammar shows that no text has two trees.

The text of a shape is a text of the grammar, and the reader takes it for the shape again, up to a
place where no type goes on.
-/

namespace ContractTypes

namespace TypeShape

/-- The text of a leaf at the head of a text, and the text after it: an object type in braces, or a
name. -/
def leafAt : Text → Option (Text × Text)
  | [] => none
  | point :: rest =>
      if point = '\x7b' then
        match rest.dropWhile inBraces with
        | [] => none
        | brace :: after => some (point :: rest.takeWhile inBraces ++ [brace], after)
      else Text.identifierAt (point :: rest)

def stopsName (rest : Text) : Bool := Text.stops CodePoint.continuesIdentifier rest

def stopsType : Text → Bool
  | [] => true
  | point :: _ => point = ')' || point = ']'

theorem stopsType_cases {rest : Text} (stops : stopsType rest = true) :
    rest = [] ∨ ∃ point more, rest = point :: more ∧ (point = ')' ∨ point = ']') := by
  cases rest with
  | nil => exact .inl rfl
  | cons point more =>
      unfold stopsType at stops
      rw [Bool.or_eq_true, decide_eq_true_iff, decide_eq_true_iff] at stops
      exact .inr ⟨point, more, rfl, stops⟩

theorem stopsName_of_stopsType {rest : Text} (stops : stopsType rest = true) :
    stopsName rest = true := by
  rcases stopsType_cases stops with rfl | ⟨point, more, rfl, rfl | rfl⟩
  · rfl
  · rfl
  · rfl

theorem leafAt_identifier {name rest : Text} (shaped : name.isIdentifier = true)
    (stops : stopsName rest = true) : leafAt (name ++ rest) = some (name, rest) := by
  rw [← Text.identifierAt_append shaped stops]
  obtain ⟨point, inside, rfl, starts, _⟩ := Text.exists_cons_of_isIdentifier shaped
  have noBrace : point ≠ '\x7b' := by
    intro same
    rw [same] at starts
    exact absurd starts (by decide)
  rw [List.cons_append, leafAt, if_neg noBrace]

theorem leafAt_object {object : Text} (formed : isObjectText object = true) (rest : Text) :
    leafAt (object ++ rest) = some (object, rest) := by
  cases object with
  | nil => cases formed
  | cons point inside =>
      unfold isObjectText at formed
      rw [Bool.and_eq_true, decide_eq_true_iff, decide_eq_true_iff] at formed
      have parts := List.takeWhile_append_dropWhile (p := inBraces) (l := inside)
      have filled : (inside.takeWhile inBraces).all inBraces = true := List.all_takeWhile
      generalize inside.takeWhile inBraces = filling at parts filled
      have closes : Text.stops inBraces (("\x7d" : Text) ++ rest) = true := rfl
      rw [formed.2] at parts
      rw [← parts, List.cons_append, leafAt, if_pos formed.1, List.append_assoc,
        Text.takeWhile_append filled closes, Text.dropWhile_append filled closes]
      rfl

theorem leafAt_leafText {text rest : Text} (proper : isLeafText text = true)
    (stops : stopsName rest = true) : leafAt (text ++ rest) = some (text, rest) := by
  rcases Bool.or_eq_true_iff.1 proper with shaped | formed
  · exact leafAt_identifier shaped stops
  · exact leafAt_object formed rest

theorem exists_cons_of_leafText {text rest : Text} (proper : isLeafText text = true)
    (stops : stopsName rest = true) : ∃ point more, text ++ rest = point :: more ∧ point ≠ '(' ∧
      leafAt (point :: more) = some (text, rest) := by
  have read := leafAt_leafText proper stops
  cases whole : text ++ rest with
  | nil =>
      rw [whole] at read
      cases read
  | cons point more =>
      rw [whole] at read
      refine ⟨point, more, rfl, ?_, read⟩
      intro same
      rw [same] at read
      cases read

end TypeShape

inductive TypeTree where
  | leaf (text : Text)
  | array (element : TypeTree)
  | union (first rest : TypeTree)
deriving DecidableEq

namespace TypeTree

open TypeShape (isLeafText leafAt stopsName stopsType)

inductive Rank where
  | primary
  | element
  | union

/-- The texts of a tree in the places of a rank. -/
inductive Writes : Rank → TypeTree → Text → Prop
  | leaf {text : Text} (proper : isLeafText text = true) : Writes .primary (leaf text) text
  | group {tree : TypeTree} {text : Text} (inner : Writes .union tree text) :
      Writes .primary tree ("(" ++ text ++ ")")
  | primary {tree : TypeTree} {text : Text} (inner : Writes .primary tree text) :
      Writes .element tree text
  | brackets {tree : TypeTree} {text : Text} (inner : Writes .element tree text) :
      Writes .element (array tree) (text ++ "[]")
  | element {tree : TypeTree} {text : Text} (inner : Writes .element tree text) :
      Writes .union tree text
  | bar {first rest : TypeTree} {text more : Text} (left : Writes .element first text)
      (right : Writes .union rest more) : Writes .union (union first rest) (text ++ " | " ++ more)

def primaryWith (nested : Text → Option (TypeTree × Text)) : Text → Option (TypeTree × Text)
  | [] => none
  | point :: rest =>
      if point = '(' then
        match nested rest with
        | some (inner, closing :: after) => if closing = ')' then some (inner, after) else none
        | _ => none
      else (leafAt (point :: rest)).map (fun read => (leaf read.1, read.2))

def afterBrackets (element : TypeTree) : Text → TypeTree × Text
  | opening :: closing :: rest =>
      if opening = '[' && closing = ']' then afterBrackets (array element) rest
      else (element, opening :: closing :: rest)
  | short => (element, short)

def unionWith (nested : Text → Option (TypeTree × Text)) (first : TypeTree) (input : Text) :
    Option (TypeTree × Text) :=
  match input.strip? " | " with
  | none => some (first, input)
  | some more => (nested more).map (fun read => (union first read.1, read.2))

def readWithin : Nat → Text → Option (TypeTree × Text)
  | 0, _ => none
  | steps + 1, input => do
      let (primary, after) ← primaryWith (readWithin steps) input
      let element := afterBrackets primary after
      unionWith (readWithin steps) element.1 element.2

theorem primaryWith_leaf (nested : Text → Option (TypeTree × Text)) {text rest : Text}
    (proper : isLeafText text = true) (stops : stopsName rest = true) :
    primaryWith nested (text ++ rest) = some (leaf text, rest) := by
  obtain ⟨point, more, whole, noGroup, read⟩ := TypeShape.exists_cons_of_leafText proper stops
  rw [whole, primaryWith, if_neg noGroup, read]
  rfl

theorem afterBrackets_of_stopsType (element : TypeTree) {rest : Text}
    (stops : stopsType rest = true) : afterBrackets element rest = (element, rest) := by
  rcases TypeShape.stopsType_cases stops with rfl | ⟨point, more, rfl, rfl | rfl⟩
  · rfl
  · cases more <;> rfl
  · cases more <;> rfl

theorem unionWith_of_stopsType (nested : Text → Option (TypeTree × Text)) (first : TypeTree)
    {rest : Text} (stops : stopsType rest = true) :
    unionWith nested first rest = some (first, rest) := by
  rcases TypeShape.stopsType_cases stops with rfl | ⟨point, more, rfl, rfl | rfl⟩
  · rfl
  · rfl
  · rfl

theorem unionWith_bar {nested : Text → Option (TypeTree × Text)} {input after : Text}
    {rest : TypeTree} (read : nested input = some (rest, after)) (first : TypeTree) :
    unionWith nested first (" | " ++ input) = some (union first rest, after) := by
  rw [unionWith, Text.strip?_append]
  change (nested input).map _ = _
  rw [read]
  rfl

/-- What the reader makes of a text of a tree in the places of a rank, with something else behind
it.  Behind an element there may be more brackets, so nothing is said of where they are cut off. -/
def IsRead : Rank → TypeTree → Text → Prop
  | .primary, tree, text => ∀ steps rest, text.length ≤ steps → stopsName rest = true →
      primaryWith (readWithin steps) (text ++ rest) = some (tree, rest)
  | .element, tree, text => ∀ steps rest, text.length ≤ steps → stopsName rest = true →
      ∃ primary after, primaryWith (readWithin steps) (text ++ rest) = some (primary, after) ∧
        afterBrackets primary after = afterBrackets tree rest
  | .union, tree, text => ∀ steps rest, text.length < steps → stopsType rest = true →
      readWithin steps (text ++ rest) = some (tree, rest)

theorem isRead_group {tree : TypeTree} {text : Text} (inner : IsRead .union tree text) :
    IsRead .primary tree ("(" ++ text ++ ")") := by
  intro steps rest enough _
  have least : text.length < steps := by
    simp only [List.length_append] at enough
    change 1 + text.length + 1 ≤ steps at enough
    omega
  have read := inner steps (CodePoint.ofChar ')' :: rest) least rfl
  have whole : (("(" : Text) ++ text ++ (")" : Text)) ++ rest =
      CodePoint.ofChar '(' :: (text ++ CodePoint.ofChar ')' :: rest) := by
    simp only [List.append_assoc]
    rfl
  rw [whole, primaryWith, if_pos rfl, read]
  rfl

theorem isRead_brackets {tree : TypeTree} {text : Text} (inner : IsRead .element tree text) :
    IsRead .element (array tree) (text ++ "[]") := by
  intro steps rest enough _
  rw [List.length_append] at enough
  obtain ⟨primary, after, read, same⟩ := inner steps ("[]" ++ rest) (by omega) rfl
  refine ⟨primary, after, ?_, same⟩
  rw [List.append_assoc, read]

theorem readWithin_succ {tree : TypeTree} {text : Text} (inner : IsRead .element tree text)
    {steps : Nat} {rest : Text} (enough : text.length ≤ steps) (stops : stopsName rest = true)
    (noBrackets : afterBrackets tree rest = (tree, rest)) :
    readWithin (steps + 1) (text ++ rest) = unionWith (readWithin steps) tree rest := by
  obtain ⟨primary, after, read, same⟩ := inner steps rest enough stops
  rw [readWithin, read]
  change unionWith (readWithin steps) (afterBrackets primary after).1
    (afterBrackets primary after).2 = _
  rw [same, noBrackets]

theorem isRead_union_of_element {tree : TypeTree} {text : Text}
    (inner : IsRead .element tree text) : IsRead .union tree text := by
  intro steps rest enough stops
  obtain ⟨fewer, rfl⟩ : ∃ fewer, steps = fewer + 1 := ⟨steps - 1, by omega⟩
  have noBrackets := afterBrackets_of_stopsType tree stops
  rw [readWithin_succ inner (by omega) (TypeShape.stopsName_of_stopsType stops) noBrackets]
  exact unionWith_of_stopsType _ tree stops

theorem isRead_bar {first others : TypeTree} {text more : Text} (left : IsRead .element first text)
    (right : IsRead .union others more) :
    IsRead .union (union first others) (text ++ " | " ++ more) := by
  intro steps rest enough stops
  simp only [List.length_append] at enough
  change text.length + 3 + more.length < steps at enough
  obtain ⟨fewer, rfl⟩ : ∃ fewer, steps = fewer + 1 := ⟨steps - 1, by omega⟩
  have read := right fewer rest (by omega) stops
  rw [List.append_assoc, List.append_assoc, readWithin_succ left (by omega) rfl rfl]
  exact unionWith_bar read first

theorem Writes.isRead {rank : Rank} {tree : TypeTree} {text : Text}
    (written : Writes rank tree text) : IsRead rank tree text := by
  -- One step of the reader goes with each union, and a group holds a union in fewer code points.
  induction written with
  | leaf proper => exact fun steps rest _ stops => primaryWith_leaf (readWithin steps) proper stops
  | group _ ih => exact isRead_group ih
  | primary _ ih => exact fun steps rest enough stops => ⟨_, rest, ih steps rest enough stops, rfl⟩
  | brackets _ ih => exact isRead_brackets ih
  | element _ ih => exact isRead_union_of_element ih
  | bar _ _ left right => exact isRead_bar left right

/-- No text of the grammar has two trees. -/
theorem Writes.unique {tree other : TypeTree} {text : Text} (first : Writes .union tree text)
    (second : Writes .union other text) : tree = other := by
  have read := first.isRead (text.length + 1) [] (Nat.lt_succ_self _) rfl
  rw [second.isRead (text.length + 1) [] (Nat.lt_succ_self _) rfl] at read
  cases read
  rfl

def read (input : Text) : Option (TypeTree × Text) := readWithin (input.length + 1) input

theorem Writes.read_append {tree : TypeTree} {text rest : Text} (written : Writes .union tree text)
    (stops : stopsType rest = true) : read (text ++ rest) = some (tree, rest) := by
  apply written.isRead _ rest _ stops
  rw [List.length_append]
  omega

/-- The shape that a tree is of: every union in it is one with `undefined`. -/
def shape? : TypeTree → Option TypeShape
  | leaf text => some (.leaf text)
  | array element => element.shape?.map .array
  | union first rest => if rest = leaf "undefined" then first.shape?.map .orUndefined else none

end TypeTree

namespace TypeShape

def tree : TypeShape → TypeTree
  | leaf text => .leaf text
  | array element => .array element.tree
  | orUndefined inner => .union inner.tree (.leaf "undefined")

theorem shape?_tree (shape : TypeShape) : shape.tree.shape? = some shape := by
  induction shape with
  | leaf text => rfl
  | array element ih => rw [tree, TypeTree.shape?, ih, Option.map_some]
  | orUndefined inner ih => rw [tree, TypeTree.shape?, if_pos rfl, ih, Option.map_some]

theorem tree_injective {shape other : TypeShape} (same : shape.tree = other.tree) :
    shape = other := by
  have shapes := other.shape?_tree
  rw [← same, shape?_tree] at shapes
  exact Option.some.inj shapes

/-- A shape that is no union is written as an element, and every shape is written as a union. -/
theorem writes_tree {shape : TypeShape} (formed : shape.WellFormed) :
    (shape.isUnion = false → TypeTree.Writes .element shape.tree shape.text) ∧
      TypeTree.Writes .union shape.tree shape.text := by
  induction shape with
  | leaf text =>
      have written : TypeTree.Writes .element (.leaf text) text := .primary (.leaf formed)
      exact ⟨fun _ => written, .element written⟩
  | array element ih =>
      have written : TypeTree.Writes .element (.array element.tree) (array element).text := by
        cases union : element.isUnion with
        | true =>
            have group := TypeTree.Writes.brackets (.primary (.group (ih formed).2))
            rw [List.append_assoc] at group
            rw [text_array_of_isUnion union]
            rw [List.append_assoc]
            exact group
        | false =>
            rw [text_array_of_not_isUnion union]
            exact .brackets ((ih formed).1 union)
      exact ⟨fun _ => written, .element written⟩
  | orUndefined inner ih =>
      refine ⟨fun single => ?_, ?_⟩
      · cases single
      · have last : TypeTree.Writes .union (.leaf "undefined") "undefined" :=
          .element (.primary (.leaf (by decide)))
        have written := TypeTree.Writes.bar ((ih formed.2).1 formed.1) last
        rw [List.append_assoc] at written
        exact written

def read (input : Text) : Option (TypeShape × Text) := do
  let (tree, rest) ← TypeTree.read input
  return (← tree.shape?, rest)

theorem read_text {shape : TypeShape} {rest : Text} (formed : shape.WellFormed)
    (stops : stopsType rest = true) : read (shape.text ++ rest) = some (shape, rest) := by
  rw [read, (writes_tree formed).2.read_append stops]
  change (shape.tree.shape?).bind _ = _
  rw [shape?_tree]
  rfl

end TypeShape

end ContractTypes
