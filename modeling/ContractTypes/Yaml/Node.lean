import ContractTypes.Yaml.Tag
import ContractTypes.Yaml.TokenStream

/-!
The nodes of a YAML document.

A document is a graph: an alias stands for the node with its anchor, also inside that node.  The
nodes are kept in the order in which they start, and known by their numbers.

Tokens are taken only as they are needed.  What is wrong with the text behind the last token counts
only when a further token is asked for, so a fault of the structure before it comes first.
-/

namespace ContractTypes.Yaml

inductive Content where
  | scalar (text : Text)
  | sequence (items : List Nat)
  | mapping (entries : List (Nat × Nat))

structure Node where
  tag : Tag
  content : Content

abbrev Graph := Array Node

namespace Graph

def node (graph : Graph) (id : Nat) : Node := graph.getD id ⟨.unknown, .scalar []⟩

def entries (graph : Graph) (id : Nat) : List (Nat × Nat) :=
  match (graph.node id).content with
  | .mapping entries => entries
  | _ => []

def withContent (graph : Graph) (id : Nat) (content : Content) : Graph :=
  graph.setIfInBounds id { graph.node id with content := content }

def withTag (graph : Graph) (id : Nat) (tag : Tag) : Graph :=
  graph.setIfInBounds id { graph.node id with tag := tag }

end Graph

/-- The state of building nodes: the tokens left and what is wrong behind them, the nodes, the
anchors with the nodes that they name, and the handles of tags with the starts that they stand
for. -/
structure GraphState where
  tokens : List Token
  fault : Fault
  graph : Graph
  anchors : List (Text × Nat)
  handles : List (Text × Text)

abbrev GraphBuild := StateT GraphState (Except Fault)

namespace GraphBuild

def peek : GraphBuild Token := do
  let state ← get
  match state.tokens with
  | token :: _ => return token
  | [] => throw state.fault

def take : GraphBuild Unit := modify (fun state => { state with tokens := state.tokens.drop 1 })

def expect (token : Token) : GraphBuild Unit := do
  if (← peek) = token then take else throw .malformed

def isNext (tokens : List Token) : GraphBuild Bool := return tokens.contains (← peek)

def takeIf (token : Token) : GraphBuild Bool := do
  if (← peek) = token then
    take
    return true
  else return false

def addNode (anchor : Option Text) (tag : Tag) (content : Content) : GraphBuild Nat := do
  let state ← get
  let id := state.graph.size
  set { state with
    graph := state.graph.push ⟨tag, content⟩
    anchors := (anchor.map (fun name => (name, id))).toList ++ state.anchors }
  return id

def fill (id : Nat) (content : Content) : GraphBuild Unit :=
  modify (fun state => { state with graph := state.graph.withContent id content })

def emptyNode : GraphBuild Nat := addNode none (Tag.ofPlain []) (.scalar [])

def fullName (written : WrittenTag) : GraphBuild Text := do
  match written.handle with
  | none => return written.suffix
  | some handle =>
      match (← get).handles.lookup handle with
      | some start => return start ++ written.suffix
      | none => throw .malformed

def anchor? : GraphBuild (Option Text) := do
  match ← peek with
  | .anchor name => take; return some name
  | _ => return none

def tag? : GraphBuild (Option WrittenTag) := do
  match ← peek with
  | .tag written => take; return some written
  | _ => return none

def properties : GraphBuild (Option Text × Option Text) := do
  let first ← anchor?
  let written ← tag?
  let anchor ← if first.isNone && written.isSome then anchor? else pure first
  match written with
  | none => return (anchor, none)
  | some written => return (anchor, some (← fullName written))

def openTag : Text := "!"

def tagOr (usual : Tag) (name : Option Text) : Tag :=
  match name with
  | none => usual
  | some name => if name = openTag then usual else Tag.ofFullName name

def scalarTag (name : Option Text) (text : Text) (isPlain : Bool) : Tag :=
  match name with
  | none => if isPlain then Tag.ofPlain text else .text
  | some name => if name = openTag then Tag.ofPlain text else Tag.ofFullName name

def checkAnchor (anchor : Option Text) : GraphBuild Unit := do
  match anchor with
  | none => return ()
  | some name => if ((← get).anchors.lookup name).isSome then throw .malformed

/-- Where a node stands: between brackets, in a block collection, or in a block mapping, where a
sequence may have no indent of its own. -/
inductive Place where
  | flow
  | block
  | blockMapping
deriving DecidableEq

/- Each call below takes one step from a supply that the number of tokens covers. -/
mutual

def nodeWithin : Nat → Place → GraphBuild Nat
  | 0, _ => throw .malformed
  | steps + 1, place => do
      match ← peek with
      | .alias name =>
          take
          match (← get).anchors.lookup name with
          | some id => return id
          | none => throw .malformed
      | _ =>
          let (anchor, name) ← properties
          let next ← peek
          if place = .blockMapping && next = .blockEntry then
            checkAnchor anchor
            let id ← addNode anchor (tagOr .sequence name) (.sequence [])
            fill id (.sequence (← looseItemsWithin steps))
            return id
          else
            match next with
            | .scalar text isPlain =>
                take
                checkAnchor anchor
                addNode anchor (scalarTag name text isPlain) (.scalar text)
            | .flowSequenceStart =>
                checkAnchor anchor
                let id ← addNode anchor (tagOr .sequence name) (.sequence [])
                take
                fill id (.sequence (← flowItemsWithin steps true))
                return id
            | .flowMappingStart =>
                checkAnchor anchor
                let id ← addNode anchor (tagOr .mapping name) (.mapping [])
                take
                fill id (.mapping (← flowEntriesWithin steps true))
                return id
            | .blockSequenceStart =>
                if place = .flow then emptyAs anchor name
                else
                  checkAnchor anchor
                  let id ← addNode anchor (tagOr .sequence name) (.sequence [])
                  take
                  fill id (.sequence (← blockItemsWithin steps))
                  return id
            | .blockMappingStart =>
                if place = .flow then emptyAs anchor name
                else
                  checkAnchor anchor
                  let id ← addNode anchor (tagOr .mapping name) (.mapping [])
                  take
                  fill id (.mapping (← blockEntriesWithin steps))
                  return id
            | _ => emptyAs anchor name

def emptyAs (anchor name : Option Text) : GraphBuild Nat := do
  if anchor.isNone && name.isNone then throw .malformed
  checkAnchor anchor
  addNode anchor (scalarTag name [] name.isNone) (.scalar [])

def nodeUnless : Nat → Place → List Token → GraphBuild Nat
  | 0, _, _ => throw .malformed
  | steps + 1, place, ends => do
      if ← isNext ends then emptyNode else nodeWithin steps place

def blockItemsWithin : Nat → GraphBuild (List Nat)
  | 0 => throw .malformed
  | steps + 1 => do
      if ← takeIf .blockEntry then
        let item ← nodeUnless steps .block [.blockEntry, .blockEnd]
        return item :: (← blockItemsWithin steps)
      else
        expect .blockEnd
        return []

def looseItemsWithin : Nat → GraphBuild (List Nat)
  | 0 => throw .malformed
  | steps + 1 => do
      if ← takeIf .blockEntry then
        let item ← nodeUnless steps .block [.blockEntry, .key, .value, .blockEnd]
        return item :: (← looseItemsWithin steps)
      else return []

def blockEntriesWithin : Nat → GraphBuild (List (Nat × Nat))
  | 0 => throw .malformed
  | steps + 1 => do
      if ← takeIf .key then
        let key ← nodeUnless steps .blockMapping [.key, .value, .blockEnd]
        let value ← valueWithin steps .blockMapping .value [.key, .value, .blockEnd]
        return (key, value) :: (← blockEntriesWithin steps)
      else
        expect .blockEnd
        return []

def valueWithin : Nat → Place → Token → List Token → GraphBuild Nat
  | 0, _, _, _ => throw .malformed
  | steps + 1, place, mark, ends => do
      if ← takeIf mark then nodeUnless steps place ends else emptyNode

/-- The items of a sequence between brackets, from one of them on.  An item with a mark of a key is
a mapping of one entry. -/
def flowItemsWithin : Nat → Bool → GraphBuild (List Nat)
  | 0, _ => throw .malformed
  | steps + 1, isFirst => do
      if ← takeIf .flowSequenceEnd then return []
      if !isFirst then expect .flowEntry
      if ← isNext [.key] then
        let id ← addNode none .mapping (.mapping [])
        take
        let key ← nodeUnless steps .flow [.value, .flowEntry, .flowSequenceEnd]
        let value ← valueWithin steps .flow .value [.flowEntry, .flowSequenceEnd]
        fill id (.mapping [(key, value)])
        return id :: (← flowItemsWithin steps false)
      else if ← takeIf .flowSequenceEnd then return []
      else
        let item ← nodeWithin steps .flow
        return item :: (← flowItemsWithin steps false)

def flowEntriesWithin : Nat → Bool → GraphBuild (List (Nat × Nat))
  | 0, _ => throw .malformed
  | steps + 1, isFirst => do
      if ← takeIf .flowMappingEnd then return []
      if !isFirst then expect .flowEntry
      if ← takeIf .key then
        let key ← nodeUnless steps .flow [.value, .flowEntry, .flowMappingEnd]
        let value ← valueWithin steps .flow .value [.flowEntry, .flowMappingEnd]
        return (key, value) :: (← flowEntriesWithin steps false)
      else if ← takeIf .flowMappingEnd then return []
      else
        let key ← nodeWithin steps .flow
        let value ← emptyNode
        return (key, value) :: (← flowEntriesWithin steps false)

end

def usualHandles : List (Text × Text) := [("!", "!"), ("!!", Tag.schemaStart)]

/-- Reads the directives before a document: at most one version, which must be of the first kind,
and each handle at most once. -/
def directives : Nat → Bool → List (Text × Text) → GraphBuild (List (Text × Text))
  | 0, _, _ => throw .malformed
  | steps + 1, hasVersion, handles => do
      match ← peek with
      | .directive (.version major _) =>
          take
          if hasVersion || major != 1 then throw .malformed
          directives steps true handles
      | .directive (.handle handle start) =>
          take
          if (handles.lookup handle).isSome then throw .malformed
          directives steps hasVersion (handles ++ [(handle, start)])
      | .directive .other =>
          take
          directives steps hasVersion handles
      | _ => return handles ++ usualHandles

def documentEnds : Nat → GraphBuild Unit
  | 0 => return ()
  | steps + 1 => do
      if ← takeIf .documentEnd then documentEnds steps

def documentStart (supply : Nat) : GraphBuild Unit := do
  let handles ← directives supply false []
  modify (fun state => { state with handles := handles })
  expect .documentStart

def onlyDocument (supply : Nat) : GraphBuild (Option Nat) := do
  expect .streamStart
  if ← isNext [.streamEnd] then return none
  let startsExplicitly ←
    match ← peek with
    | .directive _ => pure true
    | .documentStart => pure true
    | _ => pure false
  if startsExplicitly then documentStart supply
  let isEmpty ←
    match ← peek with
    | .directive _ => pure startsExplicitly
    | .documentStart => pure startsExplicitly
    | .documentEnd => pure startsExplicitly
    | .streamEnd => pure startsExplicitly
    | _ => pure false
  let root ← if isEmpty then emptyNode else nodeWithin supply .block
  documentEnds supply
  if ← isNext [.streamEnd] then return some root
  documentStart supply
  throw .malformed

end GraphBuild

def Graph.ofText (text : Text) : Except Fault (Graph × Option Nat) :=
  let stream := TokenStream.ofText text
  let state : GraphState :=
    ⟨stream.tokens, stream.fault.getD .malformed, #[], [], GraphBuild.usualHandles⟩
  ((GraphBuild.onlyDocument (4 * stream.tokens.length + 8)).run state).map
    (fun result => (result.2.graph, result.1))

end ContractTypes.Yaml
