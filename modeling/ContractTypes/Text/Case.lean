import ContractTypes.Text.CodePoint
import ContractTypes.Text.CaseTable

/-!
Capital and small forms.

The form of one code point is a text, because some code points have a form of several code points:
the capital form of `ß` is `SS`.  The letters of ASCII are settled by arithmetic and the rest by the
tables.  The small form of a whole text differs from the forms of its members in one place only: a
capital sigma at the end of a word has a small form of its own.
-/

namespace ContractTypes

namespace CodePoint

def moved (point : CodePoint) (distance : Int) : CodePoint :=
  (ofNat? (Int.toNat (point.val + distance))).getD point

def formIn (runs : List CaseTable.Run) (expansions : List (Nat × List Nat)) (point : CodePoint) :
    Text :=
  match expansions.lookup point.val with
  | some numbers => numbers.filterMap ofNat?
  | none =>
      match runs.find? (fun run => run.holds point.val) with
      | some run => [point.moved run.distance]
      | none => [point]

def capital (point : CodePoint) : Text :=
  if point.val < 0x80 then
    if point.isSmall then [point.moved (-32)] else [point]
  else point.formIn CaseTable.capitalRuns CaseTable.capitalExpansions

def small (point : CodePoint) : Text :=
  if point.val < 0x80 then
    if point.isCapital then [point.moved 32] else [point]
  else point.formIn CaseTable.smallRuns CaseTable.smallExpansions

def isWithin (point : CodePoint) (ranges : List (Nat × Nat)) : Bool :=
  ranges.any (fun range => point.isBetween range.1 range.2)

def capitalSigma : CodePoint := ⟨0x3A3, by decide⟩

def finalSigma : CodePoint := ⟨0x3C2, by decide⟩

end CodePoint

namespace Text

/-- Whether the nearest code point that counts beside a sigma is a letter with case. -/
def meetsLetter : Text → Bool
  | [] => false
  | point :: rest =>
      if point.isWithin CaseTable.ignorableRanges then meetsLetter rest
      else point.isWithin CaseTable.casedRanges

/-- The small form of a text that follows another one, given with its last code point first. -/
def smallAfter : Text → Text → Text
  | _, [] => []
  | before, point :: rest =>
      let form :=
        if point = CodePoint.capitalSigma && meetsLetter before && !meetsLetter rest then
          [CodePoint.finalSigma]
        else point.small
      form ++ smallAfter (point :: before) rest

def small (text : Text) : Text := smallAfter [] text

end Text

end ContractTypes
