import ContractTypes.Text.Utf8
import ContractTypes.Yaml.Cursor
import ContractTypes.Yaml.Fault
import ContractTypes.Yaml.Token

/-!
Anchors, tags and directives.

A tag is written as a handle between exclamation marks and a suffix, or in full between angle
brackets.  A suffix may hold bytes of UTF-8 as escapes with a percent sign.
-/

namespace ContractTypes.Yaml

def anchorName (cursor : Cursor) : Except Fault (Text × Cursor) :=
  let cursor := cursor.advance
  let name := cursor.run isWordMark
  let after := cursor.skip isWordMark
  if name.isEmpty then .error .malformed
  else if isGap after.peek || isOneOf after.peek "?:,]\x7d%@`" then .ok (name, after)
  else .error .malformed

/-- Whether a code point may occur in a tag as it is; the percent sign starts an escape. -/
def isTagMark (point : CodePoint) : Bool :=
  point.isDigit || point.isCapital || point.isSmall || isOneOf point "-;/?:@&=+$,_.!~*'()[]"

def tagBytes : Nat → Cursor → Except Fault (Bytes × Cursor)
  | 0, cursor => .ok ([], cursor)
  | steps + 1, cursor =>
      if cursor.peek = '%' then
        match (cursor.peekAt 1).hexValue?, (cursor.peekAt 2).hexValue? with
        | some high, some low =>
            (tagBytes steps (cursor.advanceBy 3)).map
              (fun more => ((high * 16 + low).toUInt8 :: more.1, more.2))
        | _, _ => .error .malformed
      else .ok ([], cursor)

def tagText : Nat → Cursor → Except Fault (Text × Cursor)
  | 0, cursor => .ok ([], cursor)
  | steps + 1, cursor => do
      if cursor.peek = '%' then
        let bytes ← tagBytes (cursor.rest.length + 1) cursor
        match Utf8.decode bytes.1 with
        | .error _ => throw .malformed
        | .ok text =>
            let more ← tagText steps bytes.2
            return (text ++ more.1, more.2)
      else
        let plain := cursor.run isTagMark
        if plain.isEmpty then return ([], cursor)
        let more ← tagText steps (cursor.skip isTagMark)
        return (plain ++ more.1, more.2)

def tagUri (cursor : Cursor) : Except Fault (Text × Cursor) := do
  let read ← tagText (cursor.rest.length + 1) cursor
  if read.1.isEmpty then throw .malformed
  return read

def tagHandle (cursor : Cursor) : Except Fault (Text × Cursor) :=
  if cursor.peek != '!' then .error .malformed
  else if cursor.peekAt 1 = ' ' then .ok ("!", cursor.advance)
  else
    let word := cursor.advance.run isWordMark
    let after := cursor.advance.skip isWordMark
    if after.peek = '!' then .ok ("!" ++ word ++ "!", after.advance) else .error .malformed

def writtenTag (cursor : Cursor) : Except Fault (WrittenTag × Cursor) := do
  let next := cursor.peekAt 1
  let read ←
    if next = '<' then
      let uri ← tagUri (cursor.advanceBy 2)
      if uri.2.peek != '>' then throw .malformed
      pure (⟨none, uri.1⟩, uri.2.advance)
    else if isGap next then pure (⟨none, "!"⟩, cursor.advance)
    else if (cursor.advance.run (fun point => !isSpaceOrEnd point)).contains
      (CodePoint.ofChar '!') then
      let handle ← tagHandle cursor
      let suffix ← tagUri handle.2
      pure (⟨some handle.1, suffix.1⟩, suffix.2)
    else
      let suffix ← tagUri cursor.advance
      pure ((⟨some "!", suffix.1⟩ : WrittenTag), suffix.2)
  if isSpaceOrEnd read.2.peek then return read
  throw .malformed

def versionNumber (cursor : Cursor) : Except Fault (Nat × Cursor) :=
  let digits := cursor.run CodePoint.isDigit
  if digits.isEmpty then .error .malformed
  else if Text.digitLimit < digits.length then .error (.longInteger digits.length)
  else
    .ok (digits.decimalNumber, cursor.skip CodePoint.isDigit)

def directiveValue (name : Text) (cursor : Cursor) : Except Fault (Directive × Cursor) := do
  if name = "YAML" then
    let major ← versionNumber cursor.skipSpaces
    if major.2.peek != '.' then throw .malformed
    let minor ← versionNumber major.2.advance
    if !isSpaceOrEnd minor.2.peek then throw .malformed
    return (.version major.1 minor.1, minor.2)
  else if name = "TAG" then
    let handle ← tagHandle cursor.skipSpaces
    if handle.2.peek != ' ' then throw .malformed
    let start ← tagUri handle.2.skipSpaces
    if !isSpaceOrEnd start.2.peek then throw .malformed
    return (.handle handle.1 start.1, start.2)
  else return (.other, cursor.skip (fun point => !isLineEnd point))

def directiveLine (cursor : Cursor) : Except Fault (Directive × Cursor) := do
  let cursor := cursor.advance
  let name := cursor.run isWordMark
  let after := cursor.skip isWordMark
  if name.isEmpty || !isSpaceOrEnd after.peek then throw .malformed
  let read ← directiveValue name after
  let final := read.2.skipSpaces.skipComment
  if !isLineEnd final.peek then throw .malformed
  return (read.1, final.lineBreak.2)

end ContractTypes.Yaml
