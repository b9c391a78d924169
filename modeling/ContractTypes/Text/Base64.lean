import ContractTypes.Text.Utf8

/-!
Base 64.

Four letters carry three bytes.  Code points that are no letters are passed over.  The text ends at
a filler that completes a group of four; otherwise the last group must be complete.
-/

namespace ContractTypes.Base64

def letterValue? (point : CodePoint) : Option Nat :=
  if point.isCapital then some (point.val - 0x41)
  else if point.isSmall then some (point.val - 0x61 + 26)
  else if point.isDigit then some (point.val - 0x30 + 52)
  else if point = '+' then some 62
  else if point = '/' then some 63
  else none

/-- The bytes of a text, behind those read so far, which are given with the last first.  A group is
known by the number of its letters, the bits not yet written, and the number of fillers in a row. -/
def decodeOnto (before : Bytes) (count bits fillers : Nat) : Text → Option Bytes
  | [] => if count = 0 then some before.reverse else none
  | point :: rest =>
      if point = '=' then
        if 2 ≤ count then
          if 4 ≤ count + (fillers + 1) then some before.reverse
          else decodeOnto before count bits (fillers + 1) rest
        else decodeOnto before count bits fillers rest
      else
        match letterValue? point with
        | none => decodeOnto before count bits fillers rest
        | some value =>
            match count with
            | 0 => decodeOnto before 1 value 0 rest
            | 1 => decodeOnto ((bits * 4 + value / 16).toUInt8 :: before) 2 (value % 16) 0 rest
            | 2 => decodeOnto ((bits * 16 + value / 4).toUInt8 :: before) 3 (value % 4) 0 rest
            | _ => decodeOnto ((bits * 64 + value).toUInt8 :: before) 0 0 0 rest

def decode (text : Text) : Option Bytes := decodeOnto [] 0 0 0 text

end ContractTypes.Base64
