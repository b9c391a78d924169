import ContractTypes.Text.CodePoint

/-!
UTF-8.

Only the shortest form of a code point is read, and a surrogate has no form.  A failure to read
names the first byte that cannot be read, the number of bytes passed over with it, and the reason; a
failure to write names the first surrogate and the number of surrogates in a row.
-/

namespace ContractTypes

abbrev Bytes := List UInt8

namespace Utf8

inductive Reason where
  | startByte
  | continuationByte
  | endOfData
deriving DecidableEq

def Reason.message : Reason → Text
  | startByte => "invalid start byte"
  | continuationByte => "invalid continuation byte"
  | endOfData => "unexpected end of data"

/-- Bytes that cannot be read: how many follow from the first of them on, how many of these are at
fault, and the first itself. -/
structure Fault where
  remaining : Nat
  width : Nat
  byte : UInt8
  reason : Reason
deriving DecidableEq

def between (byte : UInt8) (low high : Nat) : Bool :=
  Nat.ble low byte.toNat && Nat.ble byte.toNat high

def isContinuation (byte : UInt8) : Bool := between byte 0x80 0xBF

def isSecondOfThree (first second : UInt8) : Bool :=
  if first = 0xE0 then between second 0xA0 0xBF
  else if first = 0xED then between second 0x80 0x9F
  else isContinuation second

def isSecondOfFour (first second : UInt8) : Bool :=
  if first = 0xF0 then between second 0x90 0xBF
  else if first = 0xF4 then between second 0x80 0x8F
  else isContinuation second

def payload (byte : UInt8) : Nat := byte.toNat % 0x40

def point (number : Nat) : CodePoint := (CodePoint.ofNat? number).getD default

def decodeOnto (before : Text) : Bytes → Except Fault Text
  | [] => .ok before.reverse
  | first :: rest =>
      if first.toNat < 0x80 then decodeOnto (point first.toNat :: before) rest
      else if between first 0xC2 0xDF then
        match rest with
        | [] => .error ⟨1, 1, first, .endOfData⟩
        | second :: more =>
            if isContinuation second then
              decodeOnto (point (first.toNat % 0x20 * 0x40 + payload second) :: before) more
            else .error ⟨more.length + 2, 1, first, .continuationByte⟩
      else if between first 0xE0 0xEF then
        match rest with
        | [] => .error ⟨1, 1, first, .endOfData⟩
        | second :: more =>
            if isSecondOfThree first second then
              match more with
              | [] => .error ⟨2, 2, first, .endOfData⟩
              | third :: left =>
                  if isContinuation third then
                    decodeOnto (point ((first.toNat % 0x10 * 0x40 + payload second) * 0x40 +
                      payload third) :: before) left
                  else .error ⟨left.length + 3, 2, first, .continuationByte⟩
            else .error ⟨more.length + 2, 1, first, .continuationByte⟩
      else if between first 0xF0 0xF4 then
        match rest with
        | [] => .error ⟨1, 1, first, .endOfData⟩
        | second :: more =>
            if isSecondOfFour first second then
              match more with
              | [] => .error ⟨2, 2, first, .endOfData⟩
              | third :: left =>
                  if isContinuation third then
                    match left with
                    | [] => .error ⟨3, 3, first, .endOfData⟩
                    | fourth :: final =>
                        if isContinuation fourth then
                          decodeOnto (point (((first.toNat % 0x08 * 0x40 + payload second) * 0x40 +
                            payload third) * 0x40 + payload fourth) :: before) final
                        else .error ⟨final.length + 4, 3, first, .continuationByte⟩
                  else .error ⟨left.length + 3, 2, first, .continuationByte⟩
            else .error ⟨more.length + 2, 1, first, .continuationByte⟩
      else .error ⟨rest.length + 1, 1, first, .startByte⟩

def decode (bytes : Bytes) : Except Fault Text := decodeOnto [] bytes

def Fault.message (fault : Fault) (total : Nat) : Text :=
  let start := total - fault.remaining
  let place : Text :=
    if fault.width = 1 then
      "byte 0x" ++ Text.ofHex 2 fault.byte.toNat ++ " in position " ++ Text.ofNat start
    else
      "bytes in position " ++ Text.ofNat start ++ "-" ++ Text.ofNat (start + fault.width - 1)
  "'utf-8' codec can't decode " ++ place ++ ": " ++ fault.reason.message

def encodePoint (point : CodePoint) : Bytes :=
  let number := point.val
  if number < 0x80 then [number.toUInt8]
  else if number < 0x800 then
    [(0xC0 + number / 0x40).toUInt8, (0x80 + number % 0x40).toUInt8]
  else if number < 0x10000 then
    [(0xE0 + number / 0x1000).toUInt8, (0x80 + number / 0x40 % 0x40).toUInt8,
      (0x80 + number % 0x40).toUInt8]
  else
    [(0xF0 + number / 0x40000).toUInt8, (0x80 + number / 0x1000 % 0x40).toUInt8,
      (0x80 + number / 0x40 % 0x40).toUInt8, (0x80 + number % 0x40).toUInt8]

/-- The bytes of a text in which each surrogate is passed over. -/
def encodeScalar (text : Text) : Bytes :=
  text.flatMap (fun point => if point.isSurrogate then [] else encodePoint point)

/-- A surrogate that has no bytes: its place in the text, itself, and the number of those in a
row. -/
structure SurrogateFault where
  position : Nat
  point : CodePoint
  count : Nat
deriving DecidableEq

def encode (text : Text) : Except SurrogateFault Bytes :=
  match text.dropWhile (fun point => !point.isSurrogate) with
  | [] => .ok (text.flatMap encodePoint)
  | point :: rest =>
      .error ⟨text.length - (rest.length + 1), point,
        (rest.takeWhile CodePoint.isSurrogate).length + 1⟩

def SurrogateFault.message (fault : SurrogateFault) : Text :=
  let place : Text :=
    if fault.count = 1 then
      "character '\\u" ++ Text.ofHex 4 fault.point.val ++ "' in position " ++
        Text.ofNat fault.position
    else
      "characters in position " ++ Text.ofNat fault.position ++ "-" ++
        Text.ofNat (fault.position + fault.count - 1)
  "'utf-8' codec can't encode " ++ place ++ ": surrogates not allowed"

end Utf8

end ContractTypes
