/-!
Code points and texts.

A text is a finite sequence of Unicode code points.  Declaration documents may name a surrogate on
its own through an escape, so a code point is any number below `0x110000`; a text in which no
surrogate occurs is called scalar, and only such a text has an encoded form.

The order of texts is the lexicographic order of their code points.
-/

namespace ContractTypes

structure CodePoint where
  val : Nat
  isLt : val < 0x110000
deriving DecidableEq

namespace CodePoint

def ofChar (character : Char) : CodePoint :=
  ⟨character.toNat,
    character.valid.elim (fun low => Nat.lt_trans low (by decide)) (fun high => high.2)⟩

instance : Coe Char CodePoint := ⟨ofChar⟩

instance : Inhabited CodePoint := ⟨ofChar ' '⟩

def ofNat? (number : Nat) : Option CodePoint :=
  if bound : number < 0x110000 then some ⟨number, bound⟩ else none

theorem ext {left right : CodePoint} (same : left.val = right.val) : left = right := by
  cases left; cases right; simp_all

theorem eq_iff {left right : CodePoint} : left = right ↔ left.val = right.val :=
  ⟨fun same => same ▸ rfl, ext⟩

def byteOrderMark : CodePoint := ⟨0xFEFF, by decide⟩

def isBetween (point : CodePoint) (low high : Nat) : Bool :=
  Nat.ble low point.val && Nat.ble point.val high

theorem isBetween_iff {point : CodePoint} {low high : Nat} :
    point.isBetween low high = true ↔ low ≤ point.val ∧ point.val ≤ high := by
  simp [isBetween]

def isHighSurrogate (point : CodePoint) : Bool := point.isBetween 0xD800 0xDBFF

def isLowSurrogate (point : CodePoint) : Bool := point.isBetween 0xDC00 0xDFFF

/-- Whether a code point is one half of a pair, and so no character by itself. -/
def isSurrogate (point : CodePoint) : Bool := point.isBetween 0xD800 0xDFFF

def isAscii (point : CodePoint) : Bool := decide (point.val < 0x80)

def isDigit (point : CodePoint) : Bool := point.isBetween 0x30 0x39

def isCapital (point : CodePoint) : Bool := point.isBetween 0x41 0x5A

def isSmall (point : CodePoint) : Bool := point.isBetween 0x61 0x7A

def digitValue (point : CodePoint) : Nat := point.val - 0x30

def hexValue? (point : CodePoint) : Option Nat :=
  if point.isDigit then some (point.val - 0x30)
  else if point.isBetween 0x41 0x46 then some (point.val - 0x41 + 10)
  else if point.isBetween 0x61 0x66 then some (point.val - 0x61 + 10)
  else none

def ofDigit (digit : Nat) : CodePoint := ⟨0x30 + digit % 10, by omega⟩

end CodePoint

abbrev Text := List CodePoint

namespace Text

def ofString (string : String) : Text := string.toList.map CodePoint.ofChar

instance : Coe String Text := ⟨ofString⟩

def isScalar (text : Text) : Bool := text.all (fun point => !point.isSurrogate)

def le : Text → Text → Bool
  | [], _ => true
  | _ :: _, [] => false
  | left :: lefts, right :: rights =>
      if left.val < right.val then true
      else if right.val < left.val then false
      else le lefts rights

def sorted (texts : List Text) : List Text := texts.mergeSort le

def joined (separator : Text) : List Text → Text
  | [] => []
  | [text] => text
  | text :: next :: more => text ++ separator ++ joined separator (next :: more)

/-- The parts of a text between the occurrences of a separating code point: one more than these. -/
def splitAt (separator : CodePoint) : Text → List Text
  | [] => [[]]
  | point :: rest =>
      if point = separator then [] :: splitAt separator rest
      else
        match splitAt separator rest with
        | [] => [[point]]
        | part :: parts => (point :: part) :: parts

def startsWith : Text → Text → Bool
  | _, [] => true
  | [], _ :: _ => false
  | point :: rest, wanted :: more => decide (point = wanted) && startsWith rest more

def ofNat (number : Nat) : Text := (Nat.toDigits 10 number).map CodePoint.ofChar

def ofInt : Int → Text
  | .ofNat number => ofNat number
  | .negSucc number => '-' :: ofNat (number + 1)

/-- A number in hexadecimal with small letters, filled up with zeros to a least width. -/
def ofHex (width number : Nat) : Text :=
  let digits := (Nat.toDigits 16 number).map CodePoint.ofChar
  List.replicate (width - digits.length) (CodePoint.ofChar '0') ++ digits

end Text

end ContractTypes
