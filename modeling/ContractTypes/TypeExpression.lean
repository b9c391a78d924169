import ContractTypes.TypeRef

/-!
Type expressions.

An expression is a bare name followed by markers; the outermost wrapper is marked last.  Any text
can be taken apart in this way: the markers are read off its end until what is left ends in none.
-/

namespace ContractTypes.TypeExpression

/-- The markers at the end of an expression that is given with its last code point first, and what
is left of it, in the same direction. -/
def splitReversed : Text → List Marker × Text
  | [] => ([], [])
  | point :: rest =>
      if point = '?' then
        let below := splitReversed rest
        (.optional :: below.1, below.2)
      else if point = '$' then
        let below := splitReversed rest
        (.extension :: below.1, below.2)
      else if point = ']' then
        match rest with
        | [] => ([], [point])
        | next :: more =>
            if next = '[' then
              let below := splitReversed more
              (.array :: below.1, below.2)
            else ([], point :: next :: more)
      else ([], point :: rest)

def markers (expression : Text) : List Marker := (splitReversed expression.reverse).1

def bareName (expression : Text) : Text := (splitReversed expression.reverse).2.reverse

end ContractTypes.TypeExpression
