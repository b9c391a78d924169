import ContractTypes.Yaml.Property
import ContractTypes.Yaml.ScalarText

/-!
The stream of the tokens of a YAML text.

Tokens are read from the text in order, with one exception: that something is the key of a mapping
shows only at the colon behind it, and the tokens that announce a key and the start of its mapping
stand before it.  A token that may still turn out to be the start of a key is therefore held back,
until its colon comes or until none can come: a key stands on one line and has at most 1024 code
points.

A stream lists the tokens that can be handed out before the text is found to be at fault, and the
fault.
-/

namespace ContractTypes.Yaml

/-- A token that may be the start of a key: its number, whether it must be one, and its place. -/
structure KeyCandidate where
  number : Nat
  isRequired : Bool
  index : Nat
  line : Nat
  column : Nat

structure Scan where
  cursor : Cursor
  depth : Nat
  pending : List Token
  taken : Nat
  /-- The indent of the innermost block collection, and those of the collections around it. -/
  indent : Int
  outer : List Int
  allowsKey : Bool
  /-- The possible keys, at most one for each number of brackets open. -/
  keys : List (Nat × KeyCandidate)
  isDone : Bool

namespace Scan

def start (text : Text) : Scan :=
  ⟨Cursor.start text, 0, [.streamStart], 0, -1, [], true, [], false⟩

def push (scan : Scan) (token : Token) : Scan := { scan with pending := scan.pending ++ [token] }

def insertAt (scan : Scan) (number : Nat) (token : Token) : Scan :=
  { scan with pending :=
      scan.pending.take (number - scan.taken) ++ token :: scan.pending.drop (number - scan.taken) }

def keyLimit : Nat := 1024

def hasExpired (cursor : Cursor) (key : KeyCandidate) : Bool :=
  key.line != cursor.line || decide (keyLimit < cursor.index - key.index)

def dropExpired (scan : Scan) : Except Fault Scan :=
  if scan.keys.any (fun entry => hasExpired scan.cursor entry.2 && entry.2.isRequired) then
    .error .malformed
  else .ok { scan with keys := scan.keys.filter (fun entry => !hasExpired scan.cursor entry.2) }

def dropKey (scan : Scan) : Except Fault Scan :=
  match scan.keys.lookup scan.depth with
  | none => .ok scan
  | some key =>
      if key.isRequired then .error .malformed
      else .ok { scan with keys := scan.keys.filter (fun entry => entry.1 != scan.depth) }

/-- The state in which the next token may be the start of a key, if keys are allowed here. -/
def noteKey (scan : Scan) : Except Fault Scan :=
  if scan.allowsKey then
    scan.dropKey.map (fun scan =>
      let key : KeyCandidate :=
        { number := scan.taken + scan.pending.length
          isRequired := decide (scan.depth = 0) && scan.indent == Int.ofNat scan.cursor.column
          index := scan.cursor.index
          line := scan.cursor.line
          column := scan.cursor.column }
      { scan with keys := (scan.depth, key) :: scan.keys })
  else .ok scan

def closed (column : Int) (indent : Int) : List Int → Int × List Int × Nat
  | [] => if column < indent then (-1, [], 1) else (indent, [], 0)
  | next :: rest =>
      if column < indent then
        let more := closed column next rest
        (more.1, more.2.1, more.2.2 + 1)
      else (indent, next :: rest, 0)

def closeBeyond (scan : Scan) (column : Int) : Scan :=
  if scan.depth = 0 then
    let left := closed column scan.indent scan.outer
    { scan with
      indent := left.1
      outer := left.2.1
      pending := scan.pending ++ List.replicate left.2.2 .blockEnd }
  else scan

def opensAt (scan : Scan) (column : Nat) : Bool := decide (scan.indent < Int.ofNat column)

def openAt (scan : Scan) (column : Nat) : Scan :=
  { scan with indent := Int.ofNat column, outer := scan.indent :: scan.outer }

def gapBefore : Nat → Bool → Cursor → Cursor × Bool
  | 0, ended, cursor => (cursor, ended)
  | steps + 1, ended, cursor =>
      let cursor := cursor.skipSpaces.skipComment
      if isBreak cursor.peek then gapBefore steps true cursor.lineBreak.2 else (cursor, ended)

def toNextToken (scan : Scan) : Scan :=
  let cursor :=
    if scan.cursor.index = 0 && scan.cursor.peek = CodePoint.byteOrderMark then scan.cursor.advance
    else scan.cursor
  let found := gapBefore (cursor.rest.length + 1) false cursor
  { scan with
    cursor := found.1
    allowsKey := scan.allowsKey || (found.2 && decide (scan.depth = 0)) }

def consume (scan : Scan) (width : Nat) (token : Token) : Scan :=
  { scan with cursor := scan.cursor.advanceBy width }.push token

def afterEnd (scan : Scan) : Except Fault Scan := do
  let scan ← (scan.closeBeyond (-1)).dropKey
  return { scan with allowsKey := false, keys := [], isDone := true }.push .streamEnd

def afterDirective (scan : Scan) : Except Fault Scan := do
  let scan ← (scan.closeBeyond (-1)).dropKey
  let read ← directiveLine scan.cursor
  return { scan with allowsKey := false, cursor := read.2 }.push (.directive read.1)

def afterDocumentMark (scan : Scan) (token : Token) : Except Fault Scan := do
  let scan ← (scan.closeBeyond (-1)).dropKey
  return { scan with allowsKey := false }.consume 3 token

def afterOpening (scan : Scan) (token : Token) : Except Fault Scan := do
  let scan ← scan.noteKey
  return { scan with depth := scan.depth + 1, allowsKey := true }.consume 1 token

def afterClosing (scan : Scan) (token : Token) : Except Fault Scan := do
  let scan ← scan.dropKey
  return { scan with depth := scan.depth - 1, allowsKey := false }.consume 1 token

def afterComma (scan : Scan) : Except Fault Scan := do
  let scan ← { scan with allowsKey := true }.dropKey
  return scan.consume 1 .flowEntry

/-- The state in which a collection has started at the cursor, if none is open at its column;
outside brackets it may start only where a key may. -/
def openHere (scan : Scan) (token : Token) : Except Fault Scan :=
  if scan.depth != 0 then .ok scan
  else if !scan.allowsKey then .error .malformed
  else if scan.opensAt scan.cursor.column then .ok ((scan.openAt scan.cursor.column).push token)
  else .ok scan

def afterItemMark (scan : Scan) : Except Fault Scan := do
  let scan ← scan.openHere .blockSequenceStart
  let scan ← { scan with allowsKey := true }.dropKey
  return scan.consume 1 .blockEntry

def afterKeyMark (scan : Scan) : Except Fault Scan := do
  let scan ← scan.openHere .blockMappingStart
  let scan ← { scan with allowsKey := decide (scan.depth = 0) }.dropKey
  return scan.consume 1 .key

/-- The state after the mark of a value.  The possible key before it is one now, and a mapping that
starts with it has started there. -/
def afterValueMark (scan : Scan) : Except Fault Scan :=
  match scan.keys.lookup scan.depth with
  | some key =>
      let scan := { scan with keys := scan.keys.filter (fun entry => entry.1 != scan.depth) }
      let scan := scan.insertAt key.number .key
      let scan :=
        if scan.depth = 0 && scan.opensAt key.column then
          (scan.openAt key.column).insertAt key.number .blockMappingStart
        else scan
      .ok ({ scan with allowsKey := false }.consume 1 .value)
  | none => do
      let scan ← scan.openHere .blockMappingStart
      let scan ← { scan with allowsKey := decide (scan.depth = 0) }.dropKey
      return scan.consume 1 .value

def afterWord (scan : Scan) (read : Cursor → Except Fault (Token × Cursor)) : Except Fault Scan :=
  do
  let scan ← scan.noteKey
  let found ← read scan.cursor
  return { scan with allowsKey := false, cursor := found.2 }.push found.1

def afterBlockScalar (scan : Scan) : Except Fault Scan := do
  let scan ← { scan with allowsKey := true }.dropKey
  let found ← blockScalar scan.indent scan.cursor
  return { scan with cursor := found.2 }.push (.scalar found.1 false)

def afterPlain (scan : Scan) : Except Fault Scan := do
  let scan ← scan.noteKey
  let found := plainScalar (scan.depth != 0) scan.indent scan.cursor
  return { scan with allowsKey := found.endsLine, cursor := found.cursor }.push
    (.scalar found.text true)

def startsPlain (scan : Scan) : Bool :=
  let point := scan.cursor.peek
  !(isGap point || isOneOf point "-?:,[]\x7b\x7d#&*!|>'\"%@`") ||
    (!isGap (scan.cursor.peekAt 1) &&
      (point = '-' || (scan.depth = 0 && (point = '?' || point = ':'))))

def afterNext (scan : Scan) : Except Fault Scan := do
  let scan ← scan.toNextToken.dropExpired
  let scan := scan.closeBeyond scan.cursor.column
  let cursor := scan.cursor
  let point := cursor.peek
  let isMark := scan.depth != 0 || isGap (cursor.peekAt 1)
  if point = endMark then scan.afterEnd
  else if cursor.column = 0 && point = '%' then scan.afterDirective
  else if cursor.column = 0 && cursor.atMark "---" then scan.afterDocumentMark .documentStart
  else if cursor.column = 0 && cursor.atMark "..." then scan.afterDocumentMark .documentEnd
  else if point = '[' then scan.afterOpening .flowSequenceStart
  else if point = '\x7b' then scan.afterOpening .flowMappingStart
  else if point = ']' then scan.afterClosing .flowSequenceEnd
  else if point = '\x7d' then scan.afterClosing .flowMappingEnd
  else if point = ',' then scan.afterComma
  else if point = '-' && isGap (cursor.peekAt 1) then scan.afterItemMark
  else if point = '?' && isMark then scan.afterKeyMark
  else if point = ':' && isMark then scan.afterValueMark
  else if point = '*' then
    scan.afterWord (fun cursor => (anchorName cursor).map (fun read => (.alias read.1, read.2)))
  else if point = '&' then
    scan.afterWord (fun cursor => (anchorName cursor).map (fun read => (.anchor read.1, read.2)))
  else if point = '!' then
    scan.afterWord (fun cursor => (writtenTag cursor).map (fun read => (.tag read.1, read.2)))
  else if (point = '|' || point = '>') && scan.depth = 0 then scan.afterBlockScalar
  else if point = '\'' || point = '"' then
    scan.afterWord
      (fun cursor => (quotedScalar cursor).map (fun read => (.scalar read.1 false, read.2)))
  else if scan.startsPlain then scan.afterPlain
  else throw .malformed

/-- Whether the next token to hand out may still turn out to be a key, or is not read yet; with the
state after the keys that can get no colon are dropped. -/
def holdsBack (scan : Scan) : Except Fault (Bool × Scan) :=
  if scan.isDone then .ok (false, scan)
  else if scan.pending.isEmpty then .ok (true, scan)
  else scan.dropExpired.map (fun scan =>
    ((scan.keys.map (fun entry => entry.2.number)).min? == some scan.taken, scan))

end Scan

/-- The tokens that a text hands out, and what is wrong after the last of them, if anything is. -/
structure TokenStream where
  tokens : List Token
  fault : Option Fault

namespace TokenStream

/-- The stream from some state on, behind tokens that are given with the last first. -/
def after : Nat → List Token → Scan → TokenStream
  | 0, before, _ => ⟨before.reverse, some .malformed⟩
  | steps + 1, before, scan =>
      match scan.holdsBack with
      | .error fault => ⟨before.reverse, some fault⟩
      | .ok (true, scan) =>
          match scan.afterNext with
          | .error fault => ⟨before.reverse, some fault⟩
          | .ok scan => after steps before scan
      | .ok (false, scan) =>
          match scan.pending with
          | [] => ⟨before.reverse, none⟩
          | token :: rest =>
              after steps (token :: before) { scan with pending := rest, taken := scan.taken + 1 }

/-- The stream of a text.  Each code point gives at most a few tokens, which the supply covers. -/
def ofText (text : Text) : TokenStream :=
  if text.all isReadable then after (12 * text.length + 32) [] (Scan.start text)
  else ⟨[], some .malformed⟩

end TokenStream

end ContractTypes.Yaml
