import ContractTypes.Text.CodePoint

/-!
A place in a YAML text.

A cursor is the text that is left together with the number of code points passed, the line and the
column.  Past the end it shows the code point zero, which no readable text holds.

The classes of code points that decide where a token ends are named here.
-/

namespace ContractTypes.Yaml

def endMark : CodePoint := ⟨0, by decide⟩

def isBreak (point : CodePoint) : Bool :=
  point = '\n' || point = '\r' || point.val == 0x85 || point.val == 0x2028 || point.val == 0x2029

def isLineEnd (point : CodePoint) : Bool := isBreak point || point = endMark

def isSpaceOrEnd (point : CodePoint) : Bool := point = ' ' || isLineEnd point

def isGap (point : CodePoint) : Bool := point = '\t' || isSpaceOrEnd point

def isBlankMark (point : CodePoint) : Bool := point = ' ' || point = '\t'

def isWordMark (point : CodePoint) : Bool :=
  point.isDigit || point.isCapital || point.isSmall || point = '-' || point = '_'

def isOneOf (point : CodePoint) (marks : String) : Bool := (Text.ofString marks).contains point

def isReadable (point : CodePoint) : Bool :=
  point.val == 0x09 || point.val == 0x0A || point.val == 0x0D || point.isBetween 0x20 0x7E ||
    point.val == 0x85 || point.isBetween 0xA0 0xD7FF || point.isBetween 0xE000 0xFFFD ||
    point.isBetween 0x10000 0x10FFFF

structure Cursor where
  rest : Text
  index : Nat
  line : Nat
  column : Nat

namespace Cursor

def start (text : Text) : Cursor := ⟨text, 0, 0, 0⟩

def peek (cursor : Cursor) : CodePoint := cursor.rest.headD endMark

def peekAt (cursor : Cursor) (distance : Nat) : CodePoint :=
  (cursor.rest.drop distance).headD endMark

/-- The cursor after the next code point; the mark of byte order takes no column. -/
def advance (cursor : Cursor) : Cursor :=
  match cursor.rest with
  | [] => cursor
  | point :: rest =>
      if isBreak point && !(decide (point = '\r') && decide (rest.headD endMark = '\n')) then
        ⟨rest, cursor.index + 1, cursor.line + 1, 0⟩
      else if point = CodePoint.byteOrderMark then
        ⟨rest, cursor.index + 1, cursor.line, cursor.column⟩
      else ⟨rest, cursor.index + 1, cursor.line, cursor.column + 1⟩

def advanceBy : Nat → Cursor → Cursor
  | 0, cursor => cursor
  | count + 1, cursor => advanceBy count cursor.advance

def run (cursor : Cursor) (holds : CodePoint → Bool) : Text := cursor.rest.takeWhile holds

def skip (cursor : Cursor) (holds : CodePoint → Bool) : Cursor :=
  advanceBy (cursor.run holds).length cursor

/-- The line break that comes next, as it counts in a scalar, and the cursor after it.  The line
breaks of ASCII and the next-line mark count as a line feed, the separators of Unicode as
themselves. -/
def lineBreak (cursor : Cursor) : Text × Cursor :=
  let point := cursor.peek
  if point = '\r' && cursor.peekAt 1 = '\n' then (['\n'], advanceBy 2 cursor)
  else if point = '\r' || point = '\n' || point.val = 0x85 then (['\n'], cursor.advance)
  else if isBreak point then ([point], cursor.advance)
  else ([], cursor)

def atMark (cursor : Cursor) (mark : String) : Bool :=
  cursor.rest.startsWith (Text.ofString mark) && isGap (cursor.peekAt 3)

def atDocumentMark (cursor : Cursor) : Bool := cursor.atMark "---" || cursor.atMark "..."

def skipComment (cursor : Cursor) : Cursor :=
  if cursor.peek = '#' then cursor.skip (fun point => !isLineEnd point) else cursor

def skipSpaces (cursor : Cursor) : Cursor := cursor.skip (fun point => decide (point = ' '))

end Cursor

end ContractTypes.Yaml
