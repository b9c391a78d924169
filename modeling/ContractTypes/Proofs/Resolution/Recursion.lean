import ContractTypes.Proofs.TypeExpression
import ContractTypes.Resolution

/-!
The recursive definition of resolution.

An expression that ends in a marker resolves to a wrapper around what the rest resolves to, and an
alias to what its first target resolves to.  The search of `Document.settle` puts all markers aside
until it has found the leaf and wraps it then; the recursion wraps on its way back.  Both give the
same type, or fail for the same kind of reason.
-/

namespace ContractTypes

namespace TypeExpression

def lastMarker? (expression : Text) : Option Marker :=
  [Marker.optional, .array, .extension].find? (fun marker => marker.text.isSuffixOf expression)

def beforeMarker (expression : Text) (marker : Marker) : Text :=
  expression.take (expression.length - marker.text.length)

theorem beforeMarker_append (rest : Text) (marker : Marker) :
    beforeMarker (rest ++ marker.text) marker = rest := by
  unfold beforeMarker
  rw [List.length_append, Nat.add_sub_cancel]
  exact List.take_left

theorem eq_beforeMarker_append {expression : Text} {marker : Marker}
    (last : lastMarker? expression = some marker) :
    expression = beforeMarker expression marker ++ marker.text := by
  have ends := List.find?_some last
  obtain ⟨rest, rfl⟩ := List.isSuffixOf_iff_suffix.1 ends
  rw [beforeMarker_append]

theorem length_beforeMarker_lt {expression : Text} {marker : Marker}
    (last : lastMarker? expression = some marker) :
    (beforeMarker expression marker).length < expression.length := by
  have whole := congrArg List.length (eq_beforeMarker_append last)
  have width : 0 < marker.text.length := by cases marker <;> decide
  rw [List.length_append] at whole
  omega

theorem lastMarker?_append (rest : Text) (marker : Marker) :
    lastMarker? (rest ++ marker.text) = some marker := by
  have ends : marker.text.isSuffixOf (rest ++ marker.text) = true :=
    List.isSuffixOf_iff_suffix.2 (List.suffix_append rest marker.text)
  cases found : lastMarker? (rest ++ marker.text) with
  | none =>
      have never := List.find?_eq_none.1 found marker (by cases marker <;> decide)
      exact absurd ends never
  | some other =>
      -- Both markers are the outermost one of the same text.
      have same := congrArg markers (eq_beforeMarker_append found)
      rw [markers_append, markers_append] at same
      rw [(List.cons.inj same).1]

theorem lastMarker?_bareName (expression : Text) : lastMarker? (bareName expression) = none := by
  cases found : lastMarker? (bareName expression) with
  | none => rfl
  | some marker =>
      exact absurd (eq_beforeMarker_append found) (bareName_ne_append expression _ marker)

end TypeExpression

namespace Document

open TypeExpression

/-- What an expression resolves to, as a recursion over its markers and over the aliases that it
leads through.  The names of these are the path; a name that is on the path already makes the
expression cyclic. -/
def resolveAlong (document : Document) (path : List Text) (expression : Text) :
    Except ResolveError.Kind TypeRef :=
  if expression.isEmpty then .error .malformed
  else
    match _last : lastMarker? expression with
    | some marker =>
        (document.resolveAlong path (beforeMarker expression marker)).map (TypeRef.wrap marker)
    | none =>
        match _found : document.alias? expression with
        | some declared =>
            if _fresh : path.contains declared.name then .error .cyclic
            else document.resolveAlong (path ++ [declared.name]) declared.target
        | none =>
            if document.isDeclared expression then .ok (.named expression)
            else if Scalar.isScalar expression then .ok (.scalar expression)
            else .error .unknown
termination_by ((NameTable.unpassed Alias.name path document.aliases).length, expression.length)
decreasing_by
  · exact Prod.Lex.right _ (length_beforeMarker_lt _last)
  · exact Prod.Lex.left _ _
      (NameTable.length_unpassed_lt (NameTable.mem_of_first? _found) (Bool.eq_false_iff.2 _fresh))

theorem resolveAlong_nil (document : Document) (path : List Text) :
    document.resolveAlong path [] = .error .malformed := by
  rw [resolveAlong]
  rfl

theorem resolveAlong_append (document : Document) (path : List Text) (rest : Text)
    (marker : Marker) : document.resolveAlong path (rest ++ marker.text) =
      (document.resolveAlong path rest).map (TypeRef.wrap marker) := by
  have last := lastMarker?_append rest marker
  fun_cases resolveAlong document path (rest ++ marker.text) with
  | case1 empty => exact absurd (List.isEmpty_iff.1 empty) (append_marker_ne_nil rest marker)
  | case2 _ other found =>
      cases last.symm.trans found
      rw [beforeMarker_append]
  | case3 _ none => cases last.symm.trans none
  | case4 _ none => cases last.symm.trans none
  | case5 _ none => cases last.symm.trans none
  | case6 _ none => cases last.symm.trans none
  | case7 _ none => cases last.symm.trans none

theorem resolveAlong_eq_bareName (document : Document) (path : List Text) (expression : Text) :
    document.resolveAlong path expression =
      (document.resolveAlong path (bareName expression)).map
      (TypeRef.wrapAll (markers expression)) := by
  have marked_eq (outer : List Marker) (name : Text) :
      document.resolveAlong path (marked outer name) =
        (document.resolveAlong path name).map (TypeRef.wrapAll outer) := by
    induction outer with
    | nil =>
        change document.resolveAlong path name = _
        cases document.resolveAlong path name <;> rfl
    | cons marker outer ih =>
        rw [marked_cons, resolveAlong_append, ih]
        cases document.resolveAlong path name <;> rfl
  have whole := marked_eq (markers expression) (bareName expression)
  rw [marked_markers_bareName] at whole
  exact whole

theorem resolveAlong_of_alias {document : Document} {path : List Text} {name : Text}
    {declared : Alias} (named : name ≠ []) (markless : lastMarker? name = none)
    (found : document.alias? name = some declared) :
    document.resolveAlong path name =
      if path.contains declared.name then .error .cyclic
      else document.resolveAlong (path ++ [declared.name]) declared.target := by
  fun_cases resolveAlong document path name with
  | case1 empty => exact absurd (List.isEmpty_iff.1 empty) named
  | case2 _ _ last => cases markless.symm.trans last
  | case3 _ _ other present met =>
      cases found.symm.trans present
      rw [if_pos met]
  | case4 _ _ other present fresh =>
      cases found.symm.trans present
      rw [if_neg fresh]
  | case5 _ _ absent => cases found.symm.trans absent
  | case6 _ _ absent => cases found.symm.trans absent
  | case7 _ _ absent => cases found.symm.trans absent

theorem resolveAlong_of_no_alias {document : Document} {path : List Text} {name : Text}
    (named : name ≠ []) (markless : lastMarker? name = none)
    (absent : document.alias? name = none) : document.resolveAlong path name =
      match document.leaf? name with
      | some leaf => .ok leaf
      | none => .error .unknown := by
  fun_cases resolveAlong document path name with
  | case1 empty => exact absurd (List.isEmpty_iff.1 empty) named
  | case2 _ _ last => cases markless.symm.trans last
  | case3 _ _ _ found => cases absent.symm.trans found
  | case4 _ _ _ found => cases absent.symm.trans found
  | case5 _ _ _ declared =>
      unfold leaf?
      rw [if_pos declared]
  | case6 _ _ _ undeclared scalar =>
      unfold leaf?
      rw [if_neg undeclared, if_pos scalar]
  | case7 _ _ _ undeclared strange =>
      unfold leaf?
      rw [if_neg undeclared, if_neg strange]

/-! ### The search and the recursion -/

def finish (document : Document) (ended : Except ResolveError Settled) :
    Except ResolveError.Kind TypeRef :=
  match ended with
  | .error error => .error error.kind
  | .ok settled =>
      match document.leaf? settled.name with
      | some leaf => .ok (TypeRef.wrapAll settled.markers leaf)
      | none => .error .unknown

theorem map_wrapAll_append (outer inner : List Marker)
    (resolved : Except ResolveError.Kind TypeRef) :
    (resolved.map (TypeRef.wrapAll inner)).map (TypeRef.wrapAll outer) =
      resolved.map (TypeRef.wrapAll (outer ++ inner)) := by
  cases resolved with
  | error kind => rfl
  | ok ref => exact congrArg Except.ok (List.foldr_append).symm

-- The markers put aside by the search are the wrappers that the calls of the recursion have still
-- to make.
theorem finish_settle (document : Document) (outer : List Marker) (followed : List Text)
    (expression : Text) :
    document.finish (document.settle outer followed expression) =
      (document.resolveAlong followed expression).map (TypeRef.wrapAll outer) := by
  have markless := lastMarker?_bareName expression
  rw [resolveAlong_eq_bareName, map_wrapAll_append]
  fun_induction settle document outer followed expression with
  | case1 outer followed expression name empty =>
      have nameless : bareName expression = [] := List.isEmpty_iff.1 empty
      rw [nameless, resolveAlong_nil]
      rfl
  | case2 outer followed expression name markers named absent =>
      rw [resolveAlong_of_no_alias (mt List.isEmpty_iff.2 named) markless absent]
      change (match document.leaf? (bareName expression) with
        | some leaf => Except.ok (TypeRef.wrapAll (outer ++ TypeExpression.markers expression) leaf)
        | none => Except.error ResolveError.Kind.unknown) = _
      cases document.leaf? (bareName expression) <;> rfl
  | case3 outer followed expression name named declared found met =>
      rw [resolveAlong_of_alias (mt List.isEmpty_iff.2 named) markless found, if_pos met]
      rfl
  | case4 outer followed expression name named declared found fresh empty =>
      rw [resolveAlong_of_alias (mt List.isEmpty_iff.2 named) markless found, if_neg fresh,
        List.isEmpty_iff.1 empty, resolveAlong_nil]
      rfl
  | case5 outer followed expression name markers named declared found fresh filled ih =>
      rw [resolveAlong_of_alias (mt List.isEmpty_iff.2 named) markless found, if_neg fresh]
      rw [ih (lastMarker?_bareName declared.target), ← map_wrapAll_append,
        ← resolveAlong_eq_bareName]

/-- The search and the recursion give the same type, or fail for the same kind of reason. -/
theorem resolve_eq_resolveAlong (document : Document) (expression : Text) :
    (document.resolve expression).mapError ResolveError.kind =
      document.resolveAlong [] expression := by
  by_cases filled : expression = []
  · subst filled
    rw [resolveAlong_nil]
    rfl
  have ended := finish_settle document [] [] expression
  have bare : (document.resolveAlong [] expression).map (TypeRef.wrapAll []) =
      document.resolveAlong [] expression := by
    cases document.resolveAlong [] expression <;> rfl
  rw [bare] at ended
  rw [← ended]
  unfold resolve finish
  rw [if_neg (mt List.isEmpty_iff.1 filled)]
  cases document.settle [] [] expression with
  | error error => rfl
  | ok settled =>
      dsimp only
      cases document.leaf? settled.name <;> rfl

end Document

end ContractTypes
