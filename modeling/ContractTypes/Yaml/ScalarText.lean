import ContractTypes.Yaml.Cursor
import ContractTypes.Yaml.Fault

/-!
The texts of scalars.

A scalar is written plainly, between quotes, or as an indented block.  Each reader takes the cursor
at the start of a scalar and gives its text with the cursor after it.  A single line break inside a
scalar counts as a space; of several in a row all but the first count.

The loops below are supplied with one step for each code point left, and each round passes at least
one.
-/

namespace ContractTypes.Yaml

def lineFeed : Text := "\n"

def foldedBreak (first breaks : Text) : Text :=
  if first ≠ lineFeed then first ++ breaks else if breaks.isEmpty then " " else breaks

/-! ### Quoted scalars -/

def escapeLetters : List (CodePoint × Nat) := [
  ('0', 0x00), ('a', 0x07), ('b', 0x08), ('t', 0x09), ('\t', 0x09), ('n', 0x0A), ('v', 0x0B),
  ('f', 0x0C), ('r', 0x0D), ('e', 0x1B), (' ', 0x20), ('"', 0x22), ('\\', 0x5C), ('/', 0x2F),
  ('N', 0x85), ('_', 0xA0), ('L', 0x2028), ('P', 0x2029)]

def escapeWidths : List (CodePoint × Nat) := [('x', 2), ('u', 4), ('U', 8)]

def hexNumber? (digits : Text) : Option Nat :=
  digits.foldlM (fun number digit => (digit.hexValue?).map (number * 16 + ·)) 0

def escapedPoint (number : Nat) : Except Fault CodePoint :=
  match CodePoint.ofNat? number with
  | some point => .ok point
  | none => .error (if number < 0x80000000 then .noCodePoint else .wideEscape)

def quotedBreaks : Nat → Cursor → Except Fault (Text × Cursor)
  | 0, cursor => .ok ([], cursor)
  | steps + 1, cursor =>
      if cursor.atDocumentMark then .error .malformed
      else
        let cursor := cursor.skip isBlankMark
        if isBreak cursor.peek then
          let read := cursor.lineBreak
          (quotedBreaks steps read.2).map (fun more => (read.1 ++ more.1, more.2))
        else .ok ([], cursor)

def quotedSpaces (cursor : Cursor) : Except Fault (Text × Cursor) :=
  let blanks := cursor.run isBlankMark
  let cursor := cursor.skip isBlankMark
  if cursor.peek = endMark then .error .malformed
  else if isBreak cursor.peek then
    let read := cursor.lineBreak
    (quotedBreaks (read.2.rest.length + 1) read.2).map
      (fun more => (foldedBreak read.1 more.1, more.2))
  else .ok (blanks, cursor)

def isQuotedPlain (point : CodePoint) : Bool :=
  !(point = '\'' || point = '"' || point = '\\' || isGap point)

def quotedEscape (cursor : Cursor) : Except Fault (Text × Cursor) := do
  let cursor := cursor.advance
  let letter := cursor.peek
  match escapeLetters.lookup letter, escapeWidths.lookup letter with
  | some number, _ => return ((CodePoint.ofNat? number).toList, cursor.advance)
  | none, some width =>
      let cursor := cursor.advance
      let digits := cursor.rest.take width
      match if digits.length = width then hexNumber? digits else none with
      | none => throw .malformed
      | some number => return ([← escapedPoint number], cursor.advanceBy width)
  | none, none =>
      if isBreak letter then quotedBreaks (cursor.rest.length + 1) cursor.lineBreak.2
      else throw .malformed

def quotedRun (isDouble : Bool) : Nat → Cursor → Except Fault (Text × Cursor)
  | 0, cursor => .ok ([], cursor)
  | steps + 1, cursor => do
      let plain := cursor.run isQuotedPlain
      let cursor := cursor.skip isQuotedPlain
      let point := cursor.peek
      if !isDouble && point = '\'' && cursor.peekAt 1 = '\'' then
        let more ← quotedRun isDouble steps (cursor.advanceBy 2)
        return (plain ++ (point :: more.1), more.2)
      else if (isDouble && point = '\'') || (!isDouble && (point = '"' || point = '\\')) then
        let more ← quotedRun isDouble steps cursor.advance
        return (plain ++ (point :: more.1), more.2)
      else if isDouble && point = '\\' then
        let escape ← quotedEscape cursor
        let more ← quotedRun isDouble steps escape.2
        return (plain ++ escape.1 ++ more.1, more.2)
      else return (plain, cursor)

def quotedParts (isDouble : Bool) (quote : CodePoint) : Nat → Cursor → Except Fault (Text × Cursor)
  | 0, _ => .error .malformed
  | steps + 1, cursor => do
      let first ← quotedRun isDouble (cursor.rest.length + 1) cursor
      if first.2.peek = quote then return (first.1, first.2.advance)
      let spaces ← quotedSpaces first.2
      let more ← quotedParts isDouble quote steps spaces.2
      return (first.1 ++ spaces.1 ++ more.1, more.2)

def quotedScalar (cursor : Cursor) : Except Fault (Text × Cursor) :=
  let quote := cursor.peek
  quotedParts (decide (quote = '"')) quote (cursor.rest.length + 1) cursor.advance

/-! ### Block scalars -/

/-- What a block scalar does with the line breaks at its end. -/
inductive Chomping where
  | strip
  | clip
  | keep
deriving DecidableEq

def chomping? (point : CodePoint) : Option Chomping :=
  if point = '+' then some .keep else if point = '-' then some .strip else none

def blockIndent (cursor : Cursor) : Except Fault (Option Nat × Cursor) :=
  if cursor.peek.isDigit then
    if cursor.peek.digitValue = 0 then .error .malformed
    else .ok (some cursor.peek.digitValue, cursor.advance)
  else .ok (none, cursor)

def blockHeader (cursor : Cursor) : Except Fault (Chomping × Option Nat × Cursor) := do
  let read ←
    match chomping? cursor.peek with
    | some chomping =>
        let indent ← blockIndent cursor.advance
        pure (chomping, indent.1, indent.2)
    | none =>
        let indent ← blockIndent cursor
        match indent.1, chomping? indent.2.peek with
        | some width, some chomping => pure (chomping, some width, indent.2.advance)
        | width, _ => pure (Chomping.clip, width, indent.2)
  if isSpaceOrEnd read.2.2.peek then return read
  throw .malformed

def ignoredLine (cursor : Cursor) : Except Fault Cursor :=
  let cursor := cursor.skipSpaces.skipComment
  if isLineEnd cursor.peek then .ok cursor.lineBreak.2 else .error .malformed

def blockLead : Nat → Nat → Cursor → Text × Nat × Cursor
  | 0, widest, cursor => ([], widest, cursor)
  | steps + 1, widest, cursor =>
      if isBreak cursor.peek then
        let read := cursor.lineBreak
        let more := blockLead steps widest read.2
        (read.1 ++ more.1, more.2)
      else if cursor.peek = ' ' then
        let cursor := cursor.advance
        blockLead steps (max widest cursor.column) cursor
      else ([], widest, cursor)

def skipIndent (indent : Nat) : Nat → Cursor → Cursor
  | 0, cursor => cursor
  | steps + 1, cursor =>
      if cursor.column < indent && cursor.peek = ' ' then skipIndent indent steps cursor.advance
      else cursor

def blockBreaks (indent : Nat) : Nat → Cursor → Text × Cursor
  | 0, cursor => ([], cursor)
  | steps + 1, cursor =>
      let cursor := skipIndent indent cursor.rest.length cursor
      if isBreak cursor.peek then
        let read := cursor.lineBreak
        let more := blockBreaks indent steps read.2
        (read.1 ++ more.1, more.2)
      else ([], cursor)

/-- The lines of a block from some place on, with the empty lines before them.  Chomping decides on
the last line break and on the empty lines after it. -/
def blockLines (isFolded : Bool) (chomping : Chomping) (indent : Nat) (breaks : Text) :
    Nat → Cursor → Text × Cursor
  | 0, cursor => ([], cursor)
  | steps + 1, cursor =>
      if cursor.column = indent && cursor.peek != endMark then
        let startsBlank := isBlankMark cursor.peek
        let line := cursor.run (fun point => !isLineEnd point)
        let read := (cursor.skip (fun point => !isLineEnd point)).lineBreak
        let next := blockBreaks indent (read.2.rest.length + 1) read.2
        if next.2.column = indent && next.2.peek != endMark then
          let isJoined := isFolded && read.1 = lineFeed && !startsBlank && !isBlankMark next.2.peek
          let between : Text := if !isJoined then read.1 else if next.1.isEmpty then " " else ""
          let more := blockLines isFolded chomping indent next.1 steps next.2
          (breaks ++ line ++ between ++ more.1, more.2)
        else
          let ending :=
            match chomping with
            | .strip => []
            | .clip => read.1
            | .keep => read.1 ++ next.1
          (breaks ++ line ++ ending, next.2)
      else (if chomping = .keep then breaks else [], cursor)

def blockScalar (parent : Int) (cursor : Cursor) : Except Fault (Text × Cursor) := do
  let isFolded := decide (cursor.peek = '>')
  let (chomping, announced, cursor) ← blockHeader cursor.advance
  let cursor ← ignoredLine cursor
  let least := (max 1 (parent + 1)).toNat
  let supply := cursor.rest.length + 1
  match announced with
  | some width =>
      let indent := least + width - 1
      let lead := blockBreaks indent supply cursor
      return blockLines isFolded chomping indent lead.1 supply lead.2
  | none =>
      let lead := blockLead supply 0 cursor
      return blockLines isFolded chomping (max least lead.2.1) lead.1 supply lead.2.2

/-! ### Plain scalars -/

def plainLength (inFlow : Bool) : Text → Nat
  | [] => 0
  | point :: rest =>
      let next := rest.headD endMark
      if isGap point then 0
      else if point = ':' && (isGap next || (inFlow && isOneOf next ",[]\x7b\x7d")) then 0
      else if inFlow && isOneOf point ",?[]\x7b\x7d" then 0
      else plainLength inFlow rest + 1

/-- What separates two parts of a plain scalar: its text, whether a line ended, and the cursor after
it.  A mark of a document after a line break ends the scalar. -/
structure PlainGap where
  text : Text
  endsLine : Bool
  cursor : Cursor

def plainBreaks : Nat → Cursor → Option Text × Cursor
  | 0, cursor => (some [], cursor)
  | steps + 1, cursor =>
      if cursor.peek = ' ' then plainBreaks steps cursor.advance
      else if isBreak cursor.peek then
        let read := cursor.lineBreak
        if read.2.atDocumentMark then (none, read.2)
        else
          let more := plainBreaks steps read.2
          (more.1.map (read.1 ++ ·), more.2)
      else (some [], cursor)

def plainGap (cursor : Cursor) : PlainGap :=
  let spaces := cursor.run (fun point => decide (point = ' '))
  let cursor := cursor.skipSpaces
  if isBreak cursor.peek then
    let read := cursor.lineBreak
    if read.2.atDocumentMark then ⟨[], true, read.2⟩
    else
      match plainBreaks (read.2.rest.length + 1) read.2 with
      | (some breaks, after) => ⟨foldedBreak read.1 breaks, true, after⟩
      | (none, after) => ⟨[], true, after⟩
  else ⟨spaces, false, cursor⟩

/-- A plain scalar read: its text, the cursor after it and after what follows it on the line, and
whether a line ended there. -/
structure PlainScalar where
  text : Text
  cursor : Cursor
  endsLine : Bool

def plainParts (inFlow : Bool) (indent : Int) (before gap : Text) (endsLine : Bool) :
    Nat → Cursor → PlainScalar
  | 0, cursor => ⟨before, cursor, endsLine⟩
  | steps + 1, cursor =>
      let length := plainLength inFlow cursor.rest
      if cursor.peek = '#' || length = 0 then ⟨before, cursor, endsLine⟩
      else
        let text := before ++ gap ++ cursor.rest.take length
        let next := plainGap (cursor.advanceBy length)
        if next.text.isEmpty || next.cursor.peek = '#' ||
            (!inFlow && decide (Int.ofNat next.cursor.column < indent)) then
          ⟨text, next.cursor, next.endsLine⟩
        else plainParts inFlow indent text next.text next.endsLine steps next.cursor

def plainScalar (inFlow : Bool) (parent : Int) (cursor : Cursor) : PlainScalar :=
  plainParts inFlow (parent + 1) [] [] false (cursor.rest.length + 1) cursor

end ContractTypes.Yaml
