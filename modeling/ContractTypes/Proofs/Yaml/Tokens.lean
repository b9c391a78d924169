import ContractTypes.Proofs.Result
import ContractTypes.Yaml.TokenStream

/-!
The faults that tokens can have.

Most readers of tokens fail only because the text breaks a rule.  The exceptions are the escape of a
number that is no code point and the part of a version that has too many digits.
-/

namespace ContractTypes.Yaml

inductive Fault.OfSpelling : Fault → Prop
  | malformed : OfSpelling .malformed
  | noCodePoint : OfSpelling .noCodePoint
  | wideEscape : OfSpelling .wideEscape
  | longVersion {digits : Nat} (long : Text.digitLimit < digits) : OfSpelling (.longInteger digits)

/-- The result of reading what is spelled: where it is none, the spelling is at fault. -/
def Spelled {Value : Type} (result : Except Fault Value) : Prop :=
  Ends Fault.OfSpelling (fun _ => True) result

section Spelled

variable {Value Result : Type}

theorem spelled_ok (value : Value) : Spelled (.ok value) := trivial

theorem spelled_malformed : Spelled (.error .malformed : Except Fault Value) := .malformed

theorem Spelled.bind {result : Except Fault Value} {next : Value → Except Fault Result}
    (first : Spelled result) (second : ∀ value, Spelled (next value)) : Spelled (result >>= next) :=
  Ends.bind first (fun value _ => second value)

theorem Spelled.map {result : Except Fault Value} (change : Value → Result)
    (first : Spelled result) : Spelled (result.map change) :=
  Ends.map first (fun _ _ => trivial)

theorem spelled_ite {condition : Prop} [Decidable condition] {first second : Except Fault Value}
    (left : Spelled first) (right : Spelled second) :
    Spelled (if condition then first else second) := by
  split
  · exact left
  · exact right

end Spelled

variable (cursor : Cursor)

theorem spelled_escapedPoint (number : Nat) : Spelled (escapedPoint number) := by
  unfold escapedPoint
  split
  · exact spelled_ok _
  · split
    · exact .noCodePoint
    · exact .wideEscape

theorem spelled_quotedBreaks (steps : Nat) : Spelled (quotedBreaks steps cursor) := by
  induction steps generalizing cursor with
  | zero => exact spelled_ok _
  | succ steps ih =>
      rw [quotedBreaks]
      exact spelled_ite spelled_malformed (spelled_ite ((ih _).map _) (spelled_ok _))

theorem spelled_quotedSpaces : Spelled (quotedSpaces cursor) := by
  unfold quotedSpaces
  exact spelled_ite spelled_malformed
    (spelled_ite ((spelled_quotedBreaks _ _).map _) (spelled_ok _))

theorem spelled_quotedEscape : Spelled (quotedEscape cursor) := by
  unfold quotedEscape
  dsimp only
  split
  · exact spelled_ok _
  · split
    · exact spelled_malformed
    · exact (spelled_escapedPoint _).bind (fun _ => spelled_ok _)
  · exact spelled_ite (spelled_quotedBreaks _ _) spelled_malformed

theorem spelled_quotedRun (isDouble : Bool) (steps : Nat) :
    Spelled (quotedRun isDouble steps cursor) := by
  induction steps generalizing cursor with
  | zero => exact spelled_ok _
  | succ steps ih =>
      have more (after : Cursor) (change : Text × Cursor → Text × Cursor) :
          Spelled (quotedRun isDouble steps after >>= fun more => pure (change more)) :=
        (ih after).bind (fun _ => spelled_ok _)
      rw [quotedRun]
      refine spelled_ite (more _ _) (spelled_ite (more _ _) (spelled_ite ?_ (spelled_ok _)))
      exact (spelled_quotedEscape _).bind (fun _ => more _ _)

theorem spelled_quotedParts (isDouble : Bool) (quote : CodePoint) (steps : Nat) :
    Spelled (quotedParts isDouble quote steps cursor) := by
  induction steps generalizing cursor with
  | zero => exact spelled_malformed
  | succ steps ih =>
      rw [quotedParts]
      refine (spelled_quotedRun _ _ _).bind (fun first => spelled_ite (spelled_ok _) ?_)
      exact (spelled_quotedSpaces _).bind (fun _ => (ih _).bind (fun _ => spelled_ok _))

theorem spelled_quotedScalar : Spelled (quotedScalar cursor) := spelled_quotedParts _ _ _ _

theorem spelled_blockIndent : Spelled (blockIndent cursor) := by
  unfold blockIndent
  exact spelled_ite (spelled_ite spelled_malformed (spelled_ok _)) (spelled_ok _)

theorem spelled_blockHeader : Spelled (blockHeader cursor) := by
  unfold blockHeader
  extract_lets finish
  have finished (read : Chomping × Option Nat × Cursor) : Spelled (finish read) :=
    spelled_ite (spelled_ok _) spelled_malformed
  split
  · exact (spelled_blockIndent _).bind (fun _ => finished _)
  · refine (spelled_blockIndent _).bind (fun indent => ?_)
    split
    · exact finished _
    · exact finished _

theorem spelled_ignoredLine : Spelled (ignoredLine cursor) := by
  unfold ignoredLine
  exact spelled_ite (spelled_ok _) spelled_malformed

theorem spelled_blockScalar (parent : Int) : Spelled (blockScalar parent cursor) := by
  unfold blockScalar
  refine (spelled_blockHeader _).bind (fun header => (spelled_ignoredLine _).bind (fun after => ?_))
  dsimp only
  split
  · exact spelled_ok _
  · exact spelled_ok _

theorem spelled_anchorName : Spelled (anchorName cursor) := by
  unfold anchorName
  exact spelled_ite spelled_malformed (spelled_ite (spelled_ok _) spelled_malformed)

theorem spelled_tagBytes (steps : Nat) : Spelled (tagBytes steps cursor) := by
  induction steps generalizing cursor with
  | zero => exact spelled_ok _
  | succ steps ih =>
      rw [tagBytes]
      refine spelled_ite ?_ (spelled_ok _)
      split
      · exact (ih _).map _
      · exact spelled_malformed

theorem spelled_tagText (steps : Nat) : Spelled (tagText steps cursor) := by
  induction steps generalizing cursor with
  | zero => exact spelled_ok _
  | succ steps ih =>
      rw [tagText]
      refine spelled_ite ?_ (spelled_ite (spelled_ok _) ((ih _).bind (fun _ => spelled_ok _)))
      refine (spelled_tagBytes _ _).bind (fun bytes => ?_)
      split
      · exact spelled_malformed
      · exact (ih _).bind (fun _ => spelled_ok _)

theorem spelled_tagUri : Spelled (tagUri cursor) :=
  (spelled_tagText _ _).bind (fun _ => spelled_ite spelled_malformed (spelled_ok _))

theorem spelled_tagHandle : Spelled (tagHandle cursor) := by
  unfold tagHandle
  exact spelled_ite spelled_malformed
    (spelled_ite (spelled_ok _) (spelled_ite (spelled_ok _) spelled_malformed))

theorem spelled_writtenTag : Spelled (writtenTag cursor) := by
  unfold writtenTag
  extract_lets next finish
  have finished (read : WrittenTag × Cursor) : Spelled (finish read) :=
    spelled_ite (spelled_ok _) spelled_malformed
  refine spelled_ite ?_ (spelled_ite (finished _) (spelled_ite ?_ ?_))
  · exact (spelled_tagUri _).bind (fun _ => spelled_ite spelled_malformed (finished _))
  · exact (spelled_tagHandle _).bind (fun _ => (spelled_tagUri _).bind (fun _ => finished _))
  · exact (spelled_tagUri _).bind (fun _ => finished _)

theorem spelled_versionNumber : Spelled (versionNumber cursor) := by
  unfold versionNumber
  dsimp only
  split
  · exact spelled_malformed
  · split
    · exact .longVersion ‹_›
    · exact spelled_ok _

theorem spelled_directiveValue (name : Text) : Spelled (directiveValue name cursor) := by
  have checked {condition : Prop} [Decidable condition] (read : Directive × Cursor) :
      Spelled (if condition then .error .malformed else .ok read) :=
        spelled_ite spelled_malformed (spelled_ok _)
  unfold directiveValue
  refine spelled_ite ?_ (spelled_ite ?_ (spelled_ok _))
  · refine (spelled_versionNumber _).bind (fun _ => spelled_ite spelled_malformed ?_)
    exact (spelled_versionNumber _).bind (fun _ => checked _)
  · refine (spelled_tagHandle _).bind (fun _ => spelled_ite spelled_malformed ?_)
    exact (spelled_tagUri _).bind (fun _ => checked _)

theorem spelled_directiveLine : Spelled (directiveLine cursor) := by
  unfold directiveLine
  refine spelled_ite spelled_malformed ?_
  exact (spelled_directiveValue _ _).bind (fun _ => spelled_ite spelled_malformed (spelled_ok _))

/-! ### Tokens -/

namespace Scan

variable (scan : Scan)

theorem spelled_dropExpired : Spelled scan.dropExpired := by
  unfold dropExpired
  exact spelled_ite spelled_malformed (spelled_ok _)

theorem spelled_dropKey : Spelled scan.dropKey := by
  unfold dropKey
  split
  · exact spelled_ok _
  · exact spelled_ite spelled_malformed (spelled_ok _)

theorem spelled_noteKey : Spelled scan.noteKey := by
  unfold noteKey
  exact spelled_ite ((spelled_dropKey _).map _) (spelled_ok _)

theorem spelled_openHere (token : Token) : Spelled (scan.openHere token) := by
  unfold openHere
  exact spelled_ite (spelled_ok _)
    (spelled_ite spelled_malformed (spelled_ite (spelled_ok _) (spelled_ok _)))

theorem spelled_dropped (finish : Scan → Scan) :
    Spelled (scan.dropKey >>= fun scan => pure (finish scan)) :=
  (spelled_dropKey _).bind (fun _ => spelled_ok _)

theorem spelled_afterDirective : Spelled scan.afterDirective :=
  (spelled_dropKey _).bind (fun _ => (spelled_directiveLine _).bind (fun _ => spelled_ok _))

theorem spelled_afterOpening (token : Token) : Spelled (scan.afterOpening token) :=
  (spelled_noteKey _).bind (fun _ => spelled_ok _)

theorem spelled_afterItemMark : Spelled scan.afterItemMark :=
  (spelled_openHere _ _).bind (fun _ => spelled_dropped _ _)

theorem spelled_afterKeyMark : Spelled scan.afterKeyMark :=
  (spelled_openHere _ _).bind (fun _ => spelled_dropped _ _)

theorem spelled_afterValueMark : Spelled scan.afterValueMark := by
  unfold afterValueMark
  split
  · exact spelled_ok _
  · exact (spelled_openHere _ _).bind (fun _ => spelled_dropped _ _)

theorem spelled_afterWord {read : Cursor → Except Fault (Token × Cursor)}
    (reads : ∀ cursor, Spelled (read cursor)) : Spelled (scan.afterWord read) :=
  (spelled_noteKey _).bind (fun _ => (reads _).bind (fun _ => spelled_ok _))

theorem spelled_afterBlockScalar : Spelled scan.afterBlockScalar :=
  (spelled_dropKey _).bind (fun _ => (spelled_blockScalar _ _).bind (fun _ => spelled_ok _))

theorem spelled_afterPlain : Spelled scan.afterPlain :=
  (spelled_noteKey _).bind (fun _ => spelled_ok _)

theorem spelled_afterNext : Spelled scan.afterNext := by
  unfold afterNext
  refine (spelled_dropExpired _).bind (fun scan => ?_)
  -- One step for each way in which a token starts.
  refine spelled_ite (spelled_dropped _ _) ?_
  refine spelled_ite (spelled_afterDirective _) ?_
  refine spelled_ite (spelled_dropped _ _) ?_
  refine spelled_ite (spelled_dropped _ _) ?_
  refine spelled_ite (spelled_afterOpening _ _) ?_
  refine spelled_ite (spelled_afterOpening _ _) ?_
  refine spelled_ite (spelled_dropped _ _) ?_
  refine spelled_ite (spelled_dropped _ _) ?_
  refine spelled_ite (spelled_dropped _ _) ?_
  refine spelled_ite (spelled_afterItemMark _) ?_
  refine spelled_ite (spelled_afterKeyMark _) ?_
  refine spelled_ite (spelled_afterValueMark _) ?_
  refine spelled_ite (spelled_afterWord _ (fun _ => (spelled_anchorName _).map _)) ?_
  refine spelled_ite (spelled_afterWord _ (fun _ => (spelled_anchorName _).map _)) ?_
  refine spelled_ite (spelled_afterWord _ (fun _ => (spelled_writtenTag _).map _)) ?_
  refine spelled_ite (spelled_afterBlockScalar _) ?_
  refine spelled_ite (spelled_afterWord _ (fun _ => (spelled_quotedScalar _).map _)) ?_
  exact spelled_ite (spelled_afterPlain _) spelled_malformed

theorem spelled_holdsBack : Spelled scan.holdsBack := by
  unfold holdsBack
  exact spelled_ite (spelled_ok _) (spelled_ite (spelled_ok _) ((spelled_dropExpired _).map _))

end Scan

namespace TokenStream

theorem fault_after {steps : Nat} {before : List Token} {scan : Scan} {fault : Fault}
    (failed : (after steps before scan).fault = some fault) : fault.OfSpelling := by
  induction steps generalizing before scan with
  | zero =>
      cases failed
      exact .malformed
  | succ steps ih =>
      have held := scan.spelled_holdsBack
      unfold after at failed
      cases step : scan.holdsBack with
      | error reason =>
          rw [step] at failed held
          cases failed
          exact held
      | ok found =>
          obtain ⟨holds, next⟩ := found
          rw [step] at failed
          cases holds with
          | true =>
              have read := next.spelled_afterNext
              cases further : next.afterNext with
              | error reason =>
                  dsimp only at failed
                  rw [further] at failed read
                  cases failed
                  exact read
              | ok later =>
                  dsimp only at failed
                  rw [further] at failed
                  exact ih failed
          | false =>
              cases waiting : next.pending with
              | nil =>
                  dsimp only at failed
                  rw [waiting] at failed
                  cases failed
              | cons token rest =>
                  dsimp only at failed
                  rw [waiting] at failed
                  exact ih failed

theorem fault_ofText {text : Text} {fault : Fault} (failed : (ofText text).fault = some fault) :
    fault.OfSpelling := by
  unfold ofText at failed
  split at failed
  · exact fault_after failed
  · cases failed
    exact .malformed

end TokenStream

end ContractTypes.Yaml
