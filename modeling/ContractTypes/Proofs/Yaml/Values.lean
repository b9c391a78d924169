import ContractTypes.Proofs.Yaml.Nodes
import ContractTypes.Proofs.Yaml.Tokens
import ContractTypes.Yaml.Root

/-!
Where the faults of values come from.

A text without a value breaks a rule, misspells a token, gives a point in time as a mapping, or
writes a scalar that has no value of some kind.  Merging and completing collections add no scalar
and no fault of their own.
-/

namespace ContractTypes.Yaml

namespace Value

def readers : List (Text → Except Fault Value) := [ofTruth, ofInteger, ofFloat, ofBytes, ofMoment]

def Fails (scalar : Text) (fault : Fault) : Prop := ∃ read ∈ readers, read scalar = .error fault

end Value

/-- The faults of what is written with scalars of some kind. -/
inductive Fault.Arises (good : Text → Prop) : Fault → Prop
  | spelling {fault : Fault} (misspelled : fault.OfSpelling) : Arises good fault
  | momentMapping : Arises good .momentMapping
  | scalar {text : Text} {fault : Fault} (written : good text) (fails : Value.Fails text fault) :
      Arises good fault

theorem Fault.arises_malformed {good : Text → Prop} : Fault.Arises good .malformed :=
  .spelling .malformed

variable {good : Text → Prop} {graph : Graph}

namespace Graph

theorem HasScalars.settleKeys (has : graph.HasScalars good) (empty : good [])
    (entries : List (Nat × Nat)) : (graph.settleKeys entries).HasScalars good := by
  unfold Graph.settleKeys
  induction entries generalizing graph with
  | nil => exact has
  | cons entry entries ih =>
      rw [List.foldl_cons]
      refine ih ?_
      split
      · exact has.withTag empty _ _
      · exact has

theorem ends_flatten (has : graph.HasScalars good) (empty : good []) (steps id : Nat) :
    Ends (Fault.Arises good) (HasScalars good) (graph.flatten steps id) := by
  induction steps generalizing graph id with
  | zero => exact has.settleKeys empty _
  | succ steps ih =>
      unfold flatten
      split
      · exact has.settleKeys empty _
      next place source _ =>
        extract_lets opened merge
        -- The mapping without its merging entry holds no new scalar, and neither does any mapping
        -- that it merges.
        have start : opened.HasScalars good :=
          has.withContent (GraphBuild.admits_mapping ((graph.entries id).eraseIdx place)) id
        have merged (sources : List Nat) : Ends (Fault.Arises good) (HasScalars good)
            (merge sources) := by
          refine (?_ : Ends _ (fun state : Graph × List (Nat × Nat) => state.1.HasScalars good)
            _).bind
            (fun state given => ?_)
          · refine Ends.foldlM start (fun state given item => ?_)
            split
            · exact (ih given item).map (fun _ flat => flat)
            · exact Fault.arises_malformed
          · exact (ih given id).bind (fun flat given =>
              given.withContent (GraphBuild.admits_mapping _) id)
        split
        · exact merged _
        · exact merged _
        · exact Fault.arises_malformed

theorem HasScalars.ends_scalarText (has : graph.HasScalars good) (empty : good [])
    (steps id : Nat) : Ends (Fault.Arises good) good (graph.scalarText steps id) := by
  induction steps generalizing id with
  | zero => exact Fault.arises_malformed
  | succ steps ih =>
      rw [scalarText]
      cases same : (graph.node id).content with
      | scalar text => exact has.node empty id text same
      | sequence items => exact Fault.arises_malformed
      | mapping entries =>
          dsimp only
          cases entries.find? (fun entry => (graph.node entry.1).tag = .standIn) with
          | some entry => exact ih entry.2
          | none => exact Fault.arises_malformed

theorem HasScalars.ends_valueOf (has : graph.HasScalars good) (empty : good []) (id : Nat) :
    Ends (Fault.Arises good) (fun _ => True) (graph.valueOf id) := by
  have scalar := has.ends_scalarText empty (graph.size + 1) id
  have read {reader : Text → Except Fault Value} (member : reader ∈ Value.readers) (text : Text)
    (written : good text) :
      Ends (Fault.Arises good) (fun _ => True) (reader text) := by
    cases failed : reader text with
    | ok value => trivial
    | error fault => exact .scalar written ⟨reader, member, failed⟩
  unfold valueOf
  dsimp only
  split
  · exact scalar.map (fun _ _ => trivial)
  · exact scalar.bind (read (by simp [Value.readers]))
  · exact scalar.bind (read (by simp [Value.readers]))
  · exact scalar.bind (read (by simp [Value.readers]))
  · exact scalar.bind (read (by simp [Value.readers]))
  · refine scalar.bind (fun text written => ?_)
    split
    · exact .momentMapping
    · exact read (by simp [Value.readers]) text written
  · exact scalar.map (fun _ _ => trivial)
  · trivial
  · trivial
  · trivial
  · trivial
  · trivial
  · exact Fault.arises_malformed
  · exact Fault.arises_malformed
  · exact Fault.arises_malformed

end Graph

namespace Builder

variable {state : Builder}

theorem ends_meet (has : state.graph.HasScalars good) (empty : good []) (id : Nat) :
    Ends (Fault.Arises good) (fun both => both.2.graph.HasScalars good) (state.meet id) := by
  unfold meet
  split
  · exact has
  · exact (has.ends_valueOf empty id).map (fun _ _ => has)

theorem ends_readEntries (has : state.graph.HasScalars good) (empty : good []) (before : List Entry)
    (entries : List (Nat × Nat)) :
    Ends (Fault.Arises good) (fun both => both.2.graph.HasScalars good)
      (state.readEntries before entries) := by
  induction entries generalizing state before with
  | nil => exact has
  | cons entry entries ih =>
      rw [readEntries]
      refine (ends_meet has empty entry.1).bind (fun key given => ?_)
      dsimp only
      split
      · exact Fault.arises_malformed
      · exact (ends_meet given empty entry.2).bind (fun value given => ih given _)

theorem ends_completeMapping (has : state.graph.HasScalars good) (empty : good []) (id : Nat) :
    Ends (Fault.Arises good) (fun both => both.2.graph.HasScalars good)
      (state.completeMapping id) := by
  unfold completeMapping
  dsimp only
  split
  · exact Fault.arises_malformed
  · exact (Graph.ends_flatten has empty _ id).bind (fun graph given =>
      ends_readEntries given empty [] (graph.entries id))

theorem ends_meetAll (has : state.graph.HasScalars good) (empty : good []) (ids : List Nat) :
    Ends (Fault.Arises good) (fun after => after.graph.HasScalars good) (state.meetAll ids) := by
  induction ids generalizing state with
  | nil => exact has
  | cons id ids ih => exact (ends_meet has empty id).bind (fun both given => ih given)

theorem ends_meetPairs (has : state.graph.HasScalars good) (empty : good []) (ids : List Nat) :
    Ends (Fault.Arises good) (fun after => after.graph.HasScalars good) (state.meetPairs ids) := by
  induction ids generalizing state with
  | nil => exact has
  | cons id ids ih =>
      unfold meetPairs
      split
      · exact (ends_meetAll has empty _).bind (fun after given => ih given)
      · exact Fault.arises_malformed

theorem ends_complete (has : state.graph.HasScalars good) (empty : good []) (id : Nat) :
    Ends (Fault.Arises good) (fun both => both.2.graph.HasScalars good) (state.complete id) := by
  unfold complete
  dsimp only
  split
  · exact (ends_meetAll has empty _).map (fun _ given => given)
  · exact (ends_meetPairs has empty _).map (fun _ given => given)
  · exact (ends_meetPairs has empty _).map (fun _ given => given)
  · exact ends_completeMapping has empty id
  · exact ends_completeMapping has empty id
  · exact Fault.arises_malformed

theorem ends_completeAll (has : state.graph.HasScalars good) (empty : good []) (steps : Nat) :
    Ends (Fault.Arises good) (fun _ => True) (completeAll steps state) := by
  induction steps generalizing state with
  | zero => trivial
  | succ steps ih =>
      rw [completeAll]
      cases state.waiting with
      | nil => trivial
      | cons id rest =>
          have begun : { state with waiting := rest }.graph.HasScalars good := has
          exact (ends_complete begun empty id).bind (fun both given => ih given)

end Builder

namespace Root

theorem ends_ofNode (has : graph.HasScalars good) (empty : good []) (id : Nat) :
    Ends (Fault.Arises good) (fun _ => True) (ofNode graph id) := by
  have start : (Builder.mk graph [] []).graph.HasScalars good := has
  unfold ofNode
  refine (Builder.ends_meet start empty id).bind (fun both given => ?_)
  dsimp only
  split
  · trivial
  · have waiting : { both.2 with waiting := both.2.waiting.drop 1 }.graph.HasScalars good := given
    refine (Builder.ends_complete waiting empty id).bind (fun after given => ?_)
    refine (Builder.ends_completeAll given empty _).bind (fun _ _ => ?_)
    split <;> trivial

theorem fault_of_ofText {text : Text} {fault : Fault} (failed : ofText text = .error fault) :
    fault.Arises (TokenStream.ofText text).Writes := by
  have ends : Ends (Fault.Arises (TokenStream.ofText text).Writes) (fun _ => True)
      (ofText text) := by
    refine ((Graph.ends_ofText text).mono ?_ (fun _ given => given)).bind (fun both has => ?_)
    · rintro fault (rfl | late)
      · exact Fault.arises_malformed
      · exact .spelling (TokenStream.fault_ofText late)
    · dsimp only
      split
      · trivial
      · exact ends_ofNode has (TokenStream.writes_empty _) _
  rw [failed] at ends
  exact ends

end Root

end ContractTypes.Yaml
