import ContractTypes.Proofs.Result
import ContractTypes.Yaml.Node

/-!
Where the scalars and the faults of nodes come from.

The scalar of a node is that of a token, or the empty one, which stands for what is not written.
Building nodes fails because the tokens break a rule, or because of what is wrong behind them.
-/

namespace ContractTypes.Yaml

/-- All scalars among the nodes are of some kind. -/
def Graph.HasScalars (good : Text → Prop) (graph : Graph) : Prop :=
  ∀ node ∈ graph, ∀ text, node.content = .scalar text → good text

structure GraphState.Within (good : Text → Prop) (late : Fault) (state : GraphState) : Prop where
  fault : state.fault = late
  tokens : ∀ text isPlain, .scalar text isPlain ∈ state.tokens → good text
  nodes : state.graph.HasScalars good

def Content.Admits (good : Text → Prop) (content : Content) : Prop :=
  ∀ text, content = .scalar text → good text

variable {good : Text → Prop} {late : Fault} {graph : Graph}

namespace Graph

theorem HasScalars.push (has : graph.HasScalars good) {content : Content}
    (admits : content.Admits good) (tag : Tag) :
    HasScalars good (Array.push graph ⟨tag, content⟩) := by
  intro node member text same
  rcases Array.mem_push.1 member with old | rfl
  · exact has node old text same
  · exact admits text same

theorem HasScalars.node (has : graph.HasScalars good) (empty : good []) (id : Nat) :
    (graph.node id).content.Admits good := by
  intro text same
  unfold Graph.node at same
  rw [Array.getD_eq_getD_getElem?] at same
  cases found : graph[id]? with
  | none =>
      rw [found] at same
      cases same
      exact empty
  | some node =>
      rw [found] at same
      exact has node (Array.mem_of_getElem? found) text same

theorem HasScalars.withContent (has : graph.HasScalars good) {content : Content}
    (admits : content.Admits good) (id : Nat) : (graph.withContent id content).HasScalars good := by
  intro node member text same
  rcases Array.mem_or_eq_of_mem_setIfInBounds member with old | rfl
  · exact has node old text same
  · exact admits text same

theorem HasScalars.withTag (has : graph.HasScalars good) (empty : good []) (id : Nat) (tag : Tag) :
    (graph.withTag id tag).HasScalars good := by
  intro node member text same
  rcases Array.mem_or_eq_of_mem_setIfInBounds member with old | rfl
  · exact has node old text same
  · exact has.node empty id text same

end Graph

namespace GraphBuild

variable {Value Result : Type} {gives : Value → Prop} {offers : Result → Prop}

/-- A step that keeps the scalars to their kind, gives a value of some kind and fails in one of two
ways. -/
def Yields (good : Text → Prop) (late : Fault) (build : GraphBuild Value)
    (gives : Value → Prop) : Prop :=
  ∀ state, state.Within good late → Ends (fun fault => fault = .malformed ∨ fault = late)
    (fun both => both.2.Within good late ∧ gives both.1) (build state)

def Safe (good : Text → Prop) (late : Fault) (build : GraphBuild Value) : Prop :=
  Yields good late build (fun _ => True)

theorem yields_pure {value : Value} (given : gives value) : Yields good late (pure value) gives :=
  fun _ within => ⟨within, given⟩

theorem safe_pure (value : Value) : Safe good late (pure value) := yields_pure trivial

theorem Yields.bind {build : GraphBuild Value} {after : Value → GraphBuild Result}
    (first : Yields good late build gives)
    (second : ∀ value, gives value → Yields good late (after value) offers) :
    Yields good late (build >>= after) offers :=
  fun state within => (first state within).bind
    (fun both given => second both.1 given.2 both.2 given.1)

theorem Safe.bind {build : GraphBuild Value} {after : Value → GraphBuild Result}
    (first : Safe good late build) (second : ∀ value, Yields good late (after value) offers) :
    Yields good late (build >>= after) offers :=
  Yields.bind first (fun value _ => second value)

theorem Yields.safe {build : GraphBuild Value} (yields : Yields good late build gives) :
    Safe good late build :=
  fun state within => (yields state within).mono (fun _ allowed => allowed)
    (fun _ given => ⟨given.1, trivial⟩)

theorem yields_throw : Yields good late (throw .malformed : GraphBuild Value) gives := fun _ _ =>
    .inl rfl

theorem safe_get : Safe good late (get : GraphBuild GraphState) := fun _ within => ⟨within, trivial⟩

theorem safe_modify {change : GraphState → GraphState}
    (keeps : ∀ state, state.Within good late → (change state).Within good late) :
    Safe good late (modify change : GraphBuild Unit) :=
  fun state within => ⟨keeps state within, trivial⟩

def Admits (good : Text → Prop) (token : Token) : Prop :=
  ∀ text isPlain, token = .scalar text isPlain → good text

theorem yields_peek : Yields good late peek (Admits good) := by
  intro state within
  obtain ⟨tokens, fault, graph, anchors, handles⟩ := state
  cases tokens with
  | nil => exact .inr within.fault
  | cons token rest =>
      refine ⟨within, ?_⟩
      rintro text isPlain rfl
      exact within.tokens text isPlain List.mem_cons_self

theorem safe_peek : Safe good late peek := yields_peek.safe

theorem safe_take : Safe good late take := by
  refine safe_modify (fun state within => ⟨within.fault, ?_, within.nodes⟩)
  intro text isPlain member
  exact within.tokens text isPlain (List.mem_of_mem_drop member)

theorem safe_expect (token : Token) : Safe good late (expect token) := by
  refine Safe.bind safe_peek (fun next => ?_)
  split
  · exact safe_take
  · exact yields_throw

theorem safe_isNext (tokens : List Token) : Safe good late (isNext tokens) :=
  Safe.bind safe_peek (fun _ => safe_pure _)

theorem safe_takeIf (token : Token) : Safe good late (takeIf token) := by
  refine Safe.bind safe_peek (fun next => ?_)
  split
  · exact Safe.bind safe_take (fun _ => safe_pure _)
  · exact safe_pure _

theorem safe_addNode (anchor : Option Text) (tag : Tag) {content : Content}
    (admits : content.Admits good) : Safe good late (addNode anchor tag content) :=
  fun _ within => ⟨⟨within.fault, within.tokens, within.nodes.push admits tag⟩, trivial⟩

theorem safe_fill (id : Nat) {content : Content} (admits : content.Admits good) :
    Safe good late (fill id content) :=
  safe_modify (fun _ within => ⟨within.fault, within.tokens, within.nodes.withContent admits id⟩)

theorem admits_sequence (items : List Nat) : (Content.sequence items).Admits good := nofun

theorem admits_mapping (entries : List (Nat × Nat)) : (Content.mapping entries).Admits good := nofun

theorem admits_empty (empty : good []) : (Content.scalar []).Admits good := by
  rintro text same
  cases same
  exact empty

/-! ### Nodes -/

theorem safe_emptyNode (empty : good []) : Safe good late emptyNode :=
  safe_addNode none _ (admits_empty empty)

theorem safe_fullName (written : WrittenTag) : Safe good late (fullName written) := by
  unfold fullName
  split
  · exact safe_pure _
  · refine Safe.bind safe_get (fun state => ?_)
    split
    · exact safe_pure _
    · exact yields_throw

theorem safe_anchor? : Safe good late anchor? := by
  refine Safe.bind safe_peek (fun next => ?_)
  split
  · exact Safe.bind safe_take (fun _ => safe_pure _)
  · exact safe_pure _

theorem safe_tag? : Safe good late tag? := by
  refine Safe.bind safe_peek (fun next => ?_)
  split
  · exact Safe.bind safe_take (fun _ => safe_pure _)
  · exact safe_pure _

theorem safe_properties : Safe good late properties := by
  refine Safe.bind safe_anchor? (fun first => Safe.bind safe_tag? (fun written => ?_))
  cases written with
  | none =>
      dsimp only
      split
      · exact Safe.bind safe_anchor? (fun _ => safe_pure _)
      · exact Safe.bind (safe_pure _) (fun _ => safe_pure _)
  | some written =>
      dsimp only
      split
      · exact Safe.bind safe_anchor? (fun _ =>
          Safe.bind (safe_fullName written) (fun _ => safe_pure _))
      · exact Safe.bind (safe_pure _) (fun _ =>
          Safe.bind (safe_fullName written) (fun _ => safe_pure _))

theorem safe_checkAnchor (anchor : Option Text) : Safe good late (checkAnchor anchor) := by
  unfold checkAnchor
  split
  · exact safe_pure _
  · refine Safe.bind safe_get (fun state => ?_)
    split
    · exact yields_throw
    · exact safe_pure _

theorem safe_emptyAs (empty : good []) (anchor name : Option Text) :
    Safe good late (emptyAs anchor name) := by
  have added : Safe good late (checkAnchor anchor >>= fun _ =>
      addNode anchor (scalarTag name [] name.isNone) (.scalar [])) :=
    Safe.bind (safe_checkAnchor anchor) (fun _ => safe_addNode anchor _ (admits_empty empty))
  unfold emptyAs
  dsimp only
  split
  · exact Safe.bind yields_throw (fun _ => added)
  · exact added

structure SafeWithin (good : Text → Prop) (late : Fault) (steps : Nat) : Prop where
  node : ∀ place, Safe good late (nodeWithin steps place)
  nodeUnless : ∀ place ends, Safe good late (nodeUnless steps place ends)
  blockItems : Safe good late (blockItemsWithin steps)
  looseItems : Safe good late (looseItemsWithin steps)
  blockEntries : Safe good late (blockEntriesWithin steps)
  value : ∀ place mark ends, Safe good late (valueWithin steps place mark ends)
  flowItems : ∀ isFirst, Safe good late (flowItemsWithin steps isFirst)
  flowEntries : ∀ isFirst, Safe good late (flowEntriesWithin steps isFirst)

variable {steps : Nat}

theorem safe_filled {inside : GraphBuild Value} (safe : Safe good late inside) (id : Nat)
    {content : Value → Content} (admits : ∀ value, (content value).Admits good) :
    Safe good late (inside >>= fun value => fill id (content value) >>= fun _ => pure id) :=
  Safe.bind safe (fun value => Safe.bind (safe_fill id (admits value)) (fun _ => safe_pure id))

theorem safe_nodeWithin (within : SafeWithin good late steps) (empty : good []) (place : Place) :
    Safe good late (nodeWithin (steps + 1) place) := by
  have opened (anchor : Option Text) (tag : Tag) {first : Content} (admits : first.Admits good)
      {after : Nat → GraphBuild Nat} (safe : ∀ id, Safe good late (after id)) :
      Safe good late (checkAnchor anchor >>= fun _ => addNode anchor tag first >>= after) :=
    Safe.bind (safe_checkAnchor anchor) (fun _ => Safe.bind (safe_addNode anchor tag admits) safe)
  rw [nodeWithin]
  -- An alias adds no node; every other node is added empty and filled once what is inside has been
  -- read.
  refine Safe.bind safe_peek (fun next => ?_)
  split
  · refine Safe.bind safe_take (fun _ => Safe.bind safe_get (fun state => ?_))
    split
    · exact safe_pure _
    · exact yields_throw
  · refine Safe.bind safe_properties (fun both => ?_)
    obtain ⟨anchor, name⟩ := both
    refine Yields.bind yields_peek (fun next admits => ?_)
    split
    · exact opened anchor _ (admits_sequence [])
        (fun id => safe_filled within.looseItems id admits_sequence)
    · split
      next text isPlain _ =>
        refine Safe.bind safe_take (fun _ => Safe.bind (safe_checkAnchor anchor) (fun _ => ?_))
        refine safe_addNode anchor _ ?_
        rintro other same
        cases same
        exact admits text isPlain rfl
      · exact opened anchor _ (admits_sequence [])
          (fun id =>
            Safe.bind safe_take (fun _ => safe_filled (within.flowItems true) id admits_sequence))
      · exact opened anchor _ (admits_mapping [])
          (fun id =>
            Safe.bind safe_take (fun _ => safe_filled (within.flowEntries true) id admits_mapping))
      · split
        · exact safe_emptyAs empty anchor name
        · exact opened anchor _ (admits_sequence [])
            (fun id =>
              Safe.bind safe_take (fun _ => safe_filled within.blockItems id admits_sequence))
      · split
        · exact safe_emptyAs empty anchor name
        · exact opened anchor _ (admits_mapping [])
            (fun id =>
              Safe.bind safe_take (fun _ => safe_filled within.blockEntries id admits_mapping))
      · exact safe_emptyAs empty anchor name

theorem safe_nodeUnless (within : SafeWithin good late steps) (empty : good []) (place : Place)
    (ends : List Token) : Safe good late (nodeUnless (steps + 1) place ends) := by
  rw [nodeUnless]
  refine Safe.bind (safe_isNext ends) (fun found => ?_)
  split
  · exact safe_emptyNode empty
  · exact within.node place

theorem safe_valueWithin (within : SafeWithin good late steps) (empty : good []) (place : Place)
    (mark : Token) (ends : List Token) :
    Safe good late (valueWithin (steps + 1) place mark ends) := by
  rw [valueWithin]
  refine Safe.bind (safe_takeIf mark) (fun found => ?_)
  split
  · exact within.nodeUnless place ends
  · exact safe_emptyNode empty

theorem safe_blockItems (within : SafeWithin good late steps) :
    Safe good late (blockItemsWithin (steps + 1)) := by
  rw [blockItemsWithin]
  refine Safe.bind (safe_takeIf .blockEntry) (fun found => ?_)
  split
  · exact Safe.bind (within.nodeUnless _ _)
      (fun item => Safe.bind within.blockItems (fun _ => safe_pure _))
  · exact Safe.bind (safe_expect .blockEnd) (fun _ => safe_pure _)

theorem safe_looseItems (within : SafeWithin good late steps) :
    Safe good late (looseItemsWithin (steps + 1)) := by
  rw [looseItemsWithin]
  refine Safe.bind (safe_takeIf .blockEntry) (fun found => ?_)
  split
  · exact Safe.bind (within.nodeUnless _ _)
      (fun item => Safe.bind within.looseItems (fun _ => safe_pure _))
  · exact safe_pure _

theorem safe_blockEntries (within : SafeWithin good late steps) :
    Safe good late (blockEntriesWithin (steps + 1)) := by
  rw [blockEntriesWithin]
  refine Safe.bind (safe_takeIf .key) (fun found => ?_)
  split
  · exact Safe.bind (within.nodeUnless _ _) (fun key => Safe.bind (within.value _ _ _) (fun value =>
      Safe.bind within.blockEntries (fun _ => safe_pure _)))
  · exact Safe.bind (safe_expect .blockEnd) (fun _ => safe_pure _)

/-- What stands between two commas is read behind the first of them. -/
theorem safe_afterComma {build : GraphBuild Value} (safe : Safe good late build) (isFirst : Bool) :
    Safe good late (if (!isFirst) = true then expect .flowEntry >>= fun _ => build else build) := by
  split
  · exact Safe.bind (safe_expect .flowEntry) (fun _ => safe)
  · exact safe

theorem safe_flowItems (within : SafeWithin good late steps) (isFirst : Bool) :
    Safe good late (flowItemsWithin (steps + 1) isFirst) := by
  rw [flowItemsWithin]
  refine Safe.bind (safe_takeIf .flowSequenceEnd) (fun ended => ?_)
  split
  · exact safe_pure _
  · refine safe_afterComma ?_ isFirst
    refine Safe.bind (safe_isNext [.key]) (fun isKey => ?_)
    split
    · refine Safe.bind (safe_addNode none _ (admits_mapping []))
        (fun id => Safe.bind safe_take (fun _ => ?_))
      refine Safe.bind (within.nodeUnless _ _)
        (fun key => Safe.bind (within.value _ _ _) (fun value => ?_))
      exact Safe.bind (safe_fill id (admits_mapping _)) (fun _ =>
        Safe.bind (within.flowItems false) (fun _ => safe_pure _))
    · refine Safe.bind (safe_takeIf .flowSequenceEnd) (fun ended => ?_)
      split
      · exact safe_pure _
      · exact Safe.bind (within.node _) (fun item =>
          Safe.bind (within.flowItems false) (fun _ => safe_pure _))

theorem safe_flowEntries (within : SafeWithin good late steps) (empty : good []) (isFirst : Bool) :
    Safe good late (flowEntriesWithin (steps + 1) isFirst) := by
  rw [flowEntriesWithin]
  refine Safe.bind (safe_takeIf .flowMappingEnd) (fun ended => ?_)
  split
  · exact safe_pure _
  · refine safe_afterComma ?_ isFirst
    refine Safe.bind (safe_takeIf .key) (fun isKey => ?_)
    split
    · exact Safe.bind (within.nodeUnless _ _)
        (fun key => Safe.bind (within.value _ _ _) (fun value =>
        Safe.bind (within.flowEntries false) (fun _ => safe_pure _)))
    · refine Safe.bind (safe_takeIf .flowMappingEnd) (fun ended => ?_)
      split
      · exact safe_pure _
      · exact Safe.bind (within.node _) (fun key => Safe.bind (safe_emptyNode empty) (fun value =>
          Safe.bind (within.flowEntries false) (fun _ => safe_pure _)))

theorem safeWithin (empty : good []) (steps : Nat) : SafeWithin good late steps := by
  induction steps with
  | zero =>
      exact ⟨fun _ => yields_throw, fun _ _ =>
        yields_throw, yields_throw, yields_throw, yields_throw, fun _ _ _ => yields_throw, fun _ =>
        yields_throw, fun _ => yields_throw⟩
  | succ steps within =>
      exact ⟨safe_nodeWithin within empty, safe_nodeUnless within empty, safe_blockItems within,
        safe_looseItems within, safe_blockEntries within, safe_valueWithin within empty,
        safe_flowItems within, safe_flowEntries within empty⟩

theorem safe_directives (steps : Nat) (hasVersion : Bool) (handles : List (Text × Text)) :
    Safe good late (directives steps hasVersion handles) := by
  induction steps generalizing hasVersion handles with
  | zero => exact yields_throw
  | succ steps ih =>
      rw [directives]
      refine Safe.bind safe_peek (fun next => ?_)
      split
      · refine Safe.bind safe_take (fun _ => ?_)
        dsimp only
        split
        · exact Safe.bind yields_throw (fun _ => ih _ _)
        · exact ih _ _
      · refine Safe.bind safe_take (fun _ => ?_)
        dsimp only
        split
        · exact Safe.bind yields_throw (fun _ => ih _ _)
        · exact ih _ _
      · exact Safe.bind safe_take (fun _ => ih _ _)
      · exact safe_pure _

theorem safe_documentEnds (steps : Nat) : Safe good late (documentEnds steps) := by
  induction steps with
  | zero => exact safe_pure _
  | succ steps ih =>
      rw [documentEnds]
      refine Safe.bind (safe_takeIf .documentEnd) (fun found => ?_)
      split
      · exact ih
      · exact safe_pure _

theorem safe_documentStart (supply : Nat) : Safe good late (documentStart supply) := by
  refine Safe.bind (safe_directives supply false []) (fun handles => ?_)
  refine Safe.bind (safe_modify (fun state within => ?_)) (fun _ => safe_expect .documentStart)
  exact ⟨within.fault, within.tokens, within.nodes⟩

theorem safe_onlyDocument (empty : good []) (supply : Nat) :
    Safe good late (onlyDocument supply) := by
  unfold onlyDocument
  refine Safe.bind (safe_expect .streamStart) (fun _ => Safe.bind (safe_isNext _) (fun found => ?_))
  split
  · exact safe_pure _
  · refine Safe.bind safe_peek (fun next => ?_)
    -- The steps behind each choice are taken from the last one on.
    extract_lets ended rooted started
    have safeEnded (root : Nat) : Safe good late (ended root) := by
      refine Safe.bind (safe_documentEnds supply)
        (fun _ => Safe.bind (safe_isNext _) (fun found => ?_))
      split
      · exact safe_pure _
      · exact Safe.bind (safe_documentStart supply) (fun _ => yields_throw)
    have safeRooted (isEmpty : Bool) : Safe good late (rooted isEmpty) := by
      dsimp only [rooted]
      split
      · exact Safe.bind (safe_emptyNode empty) safeEnded
      · exact Safe.bind ((safeWithin empty supply).node .block) safeEnded
    have safeStarted (isExplicit : Bool) : Safe good late (started isExplicit) := by
      unfold started
      extract_lets behind
      have safeBehind (nothing : Unit) : Safe good late (behind nothing) := by
        refine Safe.bind safe_peek (fun next => ?_)
        split <;> exact Safe.bind (safe_pure _) safeRooted
      split
      · exact Safe.bind (safe_documentStart supply) safeBehind
      · exact safeBehind ()
    split <;> exact Safe.bind (safe_pure _) safeStarted

end GraphBuild

def TokenStream.Writes (stream : TokenStream) (text : Text) : Prop :=
  text = [] ∨ ∃ isPlain, .scalar text isPlain ∈ stream.tokens

theorem TokenStream.writes_empty (stream : TokenStream) : stream.Writes [] := .inl rfl

theorem Graph.ends_ofText (text : Text) :
    Ends (fun fault => fault = .malformed ∨ (TokenStream.ofText text).fault = some fault)
      (fun both => both.1.HasScalars (TokenStream.ofText text).Writes) (Graph.ofText text) := by
  unfold Graph.ofText
  generalize TokenStream.ofText text = stream
  dsimp only
  have start : GraphState.Within stream.Writes (stream.fault.getD .malformed)
      ⟨stream.tokens, stream.fault.getD .malformed, #[], [], GraphBuild.usualHandles⟩ :=
    ⟨rfl, fun text isPlain member => .inr ⟨isPlain, member⟩,
      fun node member => absurd member (Array.not_mem_empty node)⟩
  have ends := GraphBuild.safe_onlyDocument stream.writes_empty
    (4 * stream.tokens.length + 8) _ start
  refine (ends.mono ?_ (fun both given => given)).map (fun both given => given.1.nodes)
  rintro fault (malformed | rfl)
  · exact .inl malformed
  · cases stream.fault with
    | none => exact .inl rfl
    | some fault => exact .inr rfl

end ContractTypes.Yaml
