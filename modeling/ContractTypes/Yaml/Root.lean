import ContractTypes.Yaml.Node
import ContractTypes.Yaml.Value

/-!
The value of a YAML document.

The value of a collection is begun when its node is met and completed later, in the order in which
the nodes were met; so a node may stand inside itself, and of two faults the one in the collection
met first counts.  A mapping is completed in two steps: the entries that it merges from others are
put before its own, and then its entries are read in order, where a key that was there before keeps
its place and takes the new value.
-/

namespace ContractTypes.Yaml

inductive Root where
  | single (value : Value)
  | mapping (entries : List (Value × Value))
deriving DecidableEq

namespace Graph

def mergeCount (graph : Graph) : Nat :=
  (graph.toList.map (fun node =>
    match node.content with
    | .mapping entries => (entries.filter (fun entry => (graph.node entry.1).tag = .merge)).length
    | _ => 0)).foldl (· + ·) 0

def firstMerge (graph : Graph) (id : Nat) : Option (Nat × Nat) :=
  let isMerge (entry : Nat × Nat) : Bool := (graph.node entry.1).tag = .merge
  let entries := graph.entries id
  match entries.find? isMerge with
  | some entry => some (entries.findIdx isMerge, entry.2)
  | none => none

def settleKeys (graph : Graph) (entries : List (Nat × Nat)) : Graph :=
  entries.foldl (fun graph entry =>
    if (graph.node entry.1).tag = .standIn then graph.withTag entry.1 .text else graph) graph

def isMapping (graph : Graph) (id : Nat) : Bool :=
  match (graph.node id).content with
  | .mapping _ => true
  | _ => false

/-- The graph in which the merging entries of a mapping are replaced by what they merge.  Each step
removes a merging entry and makes no new one, so their number supplies the steps. -/
def flatten : Nat → Graph → Nat → Except Fault Graph
  | 0, graph, id => .ok (graph.settleKeys (graph.entries id))
  | steps + 1, graph, id =>
      match graph.firstMerge id with
      | none => .ok (graph.settleKeys (graph.entries id))
      | some (place, source) => do
          let graph := graph.withContent id (.mapping ((graph.entries id).eraseIdx place))
          let sources ←
            match (graph.node source).content with
            | .mapping _ => pure [source]
            | .sequence items => pure items
            | .scalar _ => throw .malformed
          let (graph, merged) ← sources.foldlM (fun (state : Graph × List (Nat × Nat)) item =>
            if state.1.isMapping item then
              (flatten steps state.1 item).map (fun graph => (graph, graph.entries item ++ state.2))
            else .error .malformed) (graph, [])
          let graph ← flatten steps graph id
          return graph.withContent id (.mapping (merged ++ graph.entries id))

/-- The text of a node where a scalar is wanted: its own, or that of the stand-in of a mapping. -/
def scalarText (graph : Graph) : Nat → Nat → Except Fault Text
  | 0, _ => .error .malformed
  | steps + 1, id =>
      match (graph.node id).content with
      | .scalar text => .ok text
      | .sequence _ => .error .malformed
      | .mapping entries =>
          match entries.find? (fun entry => (graph.node entry.1).tag = .standIn) with
          | some entry => scalarText graph steps entry.2
          | none => .error .malformed

/-- The value of a node when it is met; a collection has no contents yet. -/
def valueOf (graph : Graph) (id : Nat) : Except Fault Value :=
  let text := graph.scalarText (graph.size + 1) id
  match (graph.node id).tag with
  | .null => text.map (fun _ => .null)
  | .truth => text.bind Value.ofTruth
  | .integer => text.bind Value.ofInteger
  | .float => text.bind Value.ofFloat
  | .bytes => text.bind Value.ofBytes
  | .moment => text.bind (fun text =>
      if graph.isMapping id then .error .momentMapping else Value.ofMoment text)
  | .text => text.map .text
  | .orderedMapping => .ok .sequence
  | .pairs => .ok .sequence
  | .sequence => .ok .sequence
  | .set => .ok .set
  | .mapping => .ok .mapping
  | .merge => .error .malformed
  | .standIn => .error .malformed
  | .unknown => .error .malformed

end Graph

structure Builder where
  graph : Graph
  met : List (Nat × Value)
  waiting : List Nat

namespace Builder

def meet (state : Builder) (id : Nat) : Except Fault (Value × Builder) :=
  match state.met.lookup id with
  | some value => .ok (value, state)
  | none =>
      (state.graph.valueOf id).map (fun value =>
        (value, { state with
          met := (id, value) :: state.met
          waiting := if value.isKey then state.waiting else state.waiting ++ [id] }))

structure Entry where
  keyNode : Nat
  key : Value
  value : Value

/-- Whether an entry has a given key.  What is not a number is the same key if it is the same node,
or if both are written by the word for it. -/
def hasKey (graph : Graph) (id : Nat) (key : Value) (entry : Entry) : Bool :=
  let isWord (node : Nat) : Bool :=
    match graph.scalarText (graph.size + 1) node with
    | .ok text => Value.isNanWord text
    | .error _ => false
  if key = .float .notANumber && entry.key = .float .notANumber then
    entry.keyNode = id || (isWord id && isWord entry.keyNode)
  else key.sameKey entry.key

/-- Entries with one more; a key that is there keeps its place and takes the new value. -/
def put (graph : Graph) (id : Nat) (key value : Value) : List Entry → List Entry
  | [] => [⟨id, key, value⟩]
  | entry :: rest =>
      if hasKey graph id key entry then { entry with value := value } :: rest
      else entry :: put graph id key value rest

def readEntries (state : Builder) (before : List Entry) :
    List (Nat × Nat) → Except Fault (List Entry × Builder)
  | [] => .ok (before, state)
  | entry :: rest => do
      let (key, state) ← state.meet entry.1
      if !key.isKey then throw .malformed
      let (value, state) ← state.meet entry.2
      readEntries state (put state.graph entry.1 key value before) rest

def completeMapping (state : Builder) (id : Nat) : Except Fault (List Entry × Builder) := do
  if !state.graph.isMapping id then throw .malformed
  let graph ← state.graph.flatten (state.graph.mergeCount + 1) id
  readEntries { state with graph := graph } [] (graph.entries id)

def meetAll (state : Builder) : List Nat → Except Fault Builder
  | [] => .ok state
  | id :: rest => do
      let (_, state) ← state.meet id
      meetAll state rest

def meetPairs (state : Builder) : List Nat → Except Fault Builder
  | [] => .ok state
  | id :: rest =>
      match (state.graph.node id).content with
      | .mapping [(key, value)] => do
          let state ← state.meetAll [key, value]
          meetPairs state rest
      | _ => .error .malformed

def complete (state : Builder) (id : Nat) : Except Fault (List Entry × Builder) :=
  let node := state.graph.node id
  match node.tag, node.content with
  | .sequence, .sequence items => (state.meetAll items).map (fun state => ([], state))
  | .orderedMapping, .sequence items => (state.meetPairs items).map (fun state => ([], state))
  | .pairs, .sequence items => (state.meetPairs items).map (fun state => ([], state))
  | .mapping, _ => state.completeMapping id
  | .set, _ => state.completeMapping id
  | _, _ => .error .malformed

def completeAll : Nat → Builder → Except Fault Unit
  | 0, _ => .ok ()
  | steps + 1, state =>
      match state.waiting with
      | [] => .ok ()
      | id :: rest => do
          let (_, state) ← { state with waiting := rest }.complete id
          completeAll steps state

end Builder

namespace Root

def ofNode (graph : Graph) (id : Nat) : Except Fault Root := do
  let (value, state) ← (Builder.mk graph [] []).meet id
  if value.isKey then return .single value
  let (entries, state) ← { state with waiting := state.waiting.drop 1 }.complete id
  Builder.completeAll (graph.size + 1) state
  match value with
  | .mapping => return .mapping (entries.map (fun entry => (entry.key, entry.value)))
  | other => return .single other

def ofText (text : Text) : Except Fault Root := do
  let (graph, root) ← Graph.ofText text
  match root with
  | none => return .single .null
  | some id => ofNode graph id

end Root

end ContractTypes.Yaml
