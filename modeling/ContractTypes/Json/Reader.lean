import ContractTypes.Json.Basic
import ContractTypes.Text.DecimalDigit

/-!
Reading JSON text.

Each reader takes the text that is left and gives what it read with the text after it.  A failure
carries the text from the place of the fault on, so that its line and column are found by comparing
lengths with the whole text; no reader counts.

Beyond the usual grammar three words for numbers are read (`NaN`, `Infinity`, `-Infinity`) and an
escaped surrogate may stand alone.  A run of digits that is too long for an integer is a failure of
its own kind.
-/

namespace ContractTypes.Json

inductive Fault where
  | byteOrderMark
  | expectedValue
  | expectedName
  | expectedColon
  | expectedComma
  | extraData
  | unterminatedString
  | controlCharacter
  | escapeLetter
  | escapeNumber
deriving DecidableEq

/-- A fault with the text from its place on, or an integer with more digits than are read. -/
inductive Failure where
  | fault (fault : Fault) (rest : Text)
  | longInteger (digits : Nat)
deriving DecidableEq

def isSpace (point : CodePoint) : Bool :=
  point = ' ' || point = '\t' || point = '\n' || point = '\r'

def skipSpaces (input : Text) : Text := input.dropWhile isSpace

def hexNumber? (first second third fourth : CodePoint) : Option Nat := do
  let thousands ← first.hexValue?
  let hundreds ← second.hexValue?
  let tens ← third.hexValue?
  let ones ← fourth.hexValue?
  return ((thousands * 16 + hundreds) * 16 + tens) * 16 + ones

def escaped? (letter : CodePoint) : Option CodePoint :=
  if letter = '"' || letter = '\\' || letter = '/' then some letter
  else if letter = 'b' then CodePoint.ofNat? 0x08
  else if letter = 'f' then CodePoint.ofNat? 0x0C
  else if letter = 'n' then some '\n'
  else if letter = 'r' then some '\r'
  else if letter = 't' then some '\t'
  else none

/-- Four hexadecimal digits that at least one more code point follows: their number and the rest. -/
def codeUnit (input : Text) (mark : Text) : Except Failure (CodePoint × Text) :=
  match input with
  | first :: second :: third :: fourth :: next :: rest =>
      match (hexNumber? first second third fourth).bind CodePoint.ofNat? with
      | some point => .ok (point, next :: rest)
      | none => .error (.fault .escapeNumber mark)
  | _ => .error (.fault .escapeNumber mark)

def paired (high low : CodePoint) : CodePoint :=
  (CodePoint.ofNat? (0x10000 + (high.val - 0xD800) * 0x400 + (low.val - 0xDC00))).getD high

def lowHalf (input : Text) : Except Failure (Option (CodePoint × Text)) :=
  match input with
  | slash :: letter :: first :: second :: third :: fourth :: next :: rest =>
      if slash = '\\' && letter = 'u' then
        match codeUnit (first :: second :: third :: fourth :: next :: rest)
          (letter :: first :: second :: third :: fourth :: next :: rest) with
        | .error failure => .error failure
        | .ok (low, after) => .ok (if low.isLowSurrogate then some (low, after) else none)
      else .ok none
  | _ => .ok none

def numberedEscape (input : Text) (mark : Text) : Except Failure (CodePoint × Text) :=
  match codeUnit input mark with
  | .error failure => .error failure
  | .ok (point, rest) =>
      if point.isHighSurrogate then
        match lowHalf rest with
        | .error failure => .error failure
        | .ok (some (low, after)) => .ok (paired point low, after)
        | .ok none => .ok (point, rest)
      else .ok (point, rest)

def stringStep (opening input : Text) : Except Failure (Option CodePoint × Text) :=
  match input with
  | [] => .error (.fault .unterminatedString opening)
  | point :: rest =>
      if point = '"' then .ok (none, rest)
      else if point = '\\' then
        match rest with
        | [] => .error (.fault .unterminatedString opening)
        | letter :: after =>
            if letter = 'u' then
              match numberedEscape after rest with
              | .error failure => .error failure
              | .ok (value, left) => .ok (some value, left)
            else
              match escaped? letter with
              | some value => .ok (some value, after)
              | none => .error (.fault .escapeLetter input)
      else if point.val ≤ 0x1F then .error (.fault .controlCharacter input)
      else .ok (some point, rest)

theorem length_codeUnit {input mark rest : Text} {point : CodePoint}
    (read : codeUnit input mark = .ok (point, rest)) : rest.length < input.length := by
  revert read
  fun_cases codeUnit input mark with
  | case1 =>
      intro read
      cases read
      simp only [List.length_cons]
      omega
  | case2 => nofun
  | case3 => nofun

theorem length_lowHalf {input rest : Text} {point : CodePoint}
    (read : lowHalf input = .ok (some (point, rest))) : rest.length < input.length := by
  revert read
  fun_cases lowHalf input with
  | case1 => nofun
  | case2 slash letter first second third fourth next more marks low after unit =>
      have shorter := length_codeUnit unit
      intro read
      cases isLow : low.isLowSurrogate with
      | true =>
          rw [isLow] at read
          cases read
          simp only [List.length_cons] at shorter ⊢
          omega
      | false =>
          rw [isLow] at read
          cases read
  | case3 => nofun
  | case4 => nofun

theorem length_numberedEscape {input mark rest : Text} {point : CodePoint}
    (read : numberedEscape input mark = .ok (point, rest)) : rest.length < input.length := by
  revert read
  fun_cases numberedEscape input mark with
  | case1 => nofun
  | case2 => nofun
  | case3 high left unit isHigh low after half =>
      intro read
      have shorter := length_codeUnit unit
      have behind := length_lowHalf half
      simp only [Except.ok.injEq, Prod.mk.injEq] at read
      obtain ⟨_, rfl⟩ := read
      omega
  | case4 high left unit =>
      intro read
      cases read
      exact length_codeUnit unit
  | case5 high left unit =>
      intro read
      cases read
      exact length_codeUnit unit

theorem length_stringStep {opening input rest : Text} {value : Option CodePoint}
    (read : stringStep opening input = .ok (value, rest)) : rest.length < input.length := by
  revert read
  fun_cases stringStep opening input with
  | case2 =>
      intro read
      cases read
      simp
  | case4 after failure _ escape =>
      rw [escape]
      nofun
  | case5 after number left _ escape =>
      intro read
      rw [escape] at read
      cases read
      have shorter := length_numberedEscape escape
      simp only [List.length_cons]
      omega
  | case6 =>
      intro read
      cases read
      simp only [List.length_cons]
      omega
  | case9 =>
      intro read
      cases read
      simp
  | _ => nofun

/-- The value of a string from some place inside it on, behind the part before that place, which is
given with its last code point first; and the text after its closing quote.  The first argument is
the text from the opening quote on. -/
def stringOnto (opening before input : Text) : Except Failure (Text × Text) :=
  match _step : stringStep opening input with
  | .error failure => .error failure
  | .ok (none, rest) => .ok (before.reverse, rest)
  | .ok (some point, rest) => stringOnto opening (point :: before) rest
termination_by input.length
decreasing_by exact length_stringStep _step

def stringBody (opening input : Text) : Except Failure (Text × Text) := stringOnto opening [] input

/-! ### Numbers -/

/-- The digits of the whole part of a number: a zero alone, or digits that start with no zero. -/
def wholeDigits (input : Text) : Text :=
  match input with
  | [] => []
  | point :: _ =>
      if point = '0' then [point] else input.takeWhile CodePoint.isDigit

def fractionDigits (input : Text) : Text :=
  match input with
  | point :: rest => if point = '.' then rest.takeWhile CodePoint.isDigit else []
  | [] => []

/-- The sign and the digits of an exponent, with the number of code points that they take; nothing
if no digit comes. -/
def exponentPart (input : Text) : Option (Bool × Text × Nat) :=
  match input with
  | [] => none
  | letter :: rest =>
      if letter = 'e' || letter = 'E' then
        match rest with
        | [] => none
        | sign :: after =>
            if sign = '-' || sign = '+' then
              let digits := after.takeWhile CodePoint.isDigit
              if digits.isEmpty then none else some (decide (sign = '-'), digits, digits.length + 2)
            else
              let digits := rest.takeWhile CodePoint.isDigit
              if digits.isEmpty then none else some (false, digits, digits.length + 1)
      else none

def unsignedNumber (isNegative : Bool) (input mark : Text) : Except Failure (Json × Text) :=
  let whole := wholeDigits input
  if whole.isEmpty then .error (.fault .expectedValue mark)
  else
    let afterWhole := input.drop whole.length
    let fraction := fractionDigits afterWhole
    let afterFraction :=
      if fraction.isEmpty then afterWhole else afterWhole.drop (fraction.length + 1)
    match exponentPart afterFraction with
    | some (below, digits, width) =>
        let size : Int := digits.decimalNumber
        let power := (if below then -size else size) - fraction.length
        .ok (.float (Binary64.ofDecimal isNegative (Text.decimalNumber (whole ++ fraction)) power),
          afterFraction.drop width)
    | none =>
        if fraction.isEmpty then
          if Text.digitLimit < whole.length then .error (.longInteger whole.length)
          else
            let size : Int := whole.decimalNumber
            .ok (.integer (if isNegative then -size else size), afterWhole)
        else
          .ok (.float (Binary64.ofDecimal isNegative (Text.decimalNumber (whole ++ fraction))
            (-fraction.length)), afterFraction)

def number (input : Text) : Except Failure (Json × Text) :=
  match input with
  | [] => .error (.fault .expectedValue input)
  | sign :: rest =>
      if sign = '-' then unsignedNumber true rest input else unsignedNumber false input input

/-! ### Values -/

def words : List (Text × Json) := [
  ("null", .null),
  ("true", .boolean true),
  ("false", .boolean false),
  ("NaN", .float .notANumber),
  ("Infinity", .float (.infinite false)),
  ("-Infinity", .float (.infinite true))]

def plainValue (input : Text) : Except Failure (Json × Text) :=
  match words.find? (fun word => input.startsWith word.1) with
  | some word => .ok (word.2, input.drop word.1.length)
  | none => number input

/- Each call below takes one step from a supply that the length of the text covers, because at least
one code point goes with it. -/
mutual

def valueWithin : Nat → Text → Except Failure (Json × Text)
  | 0, input => .error (.fault .expectedValue input)
  | steps + 1, input =>
      match input with
      | [] => .error (.fault .expectedValue input)
      | point :: rest =>
          if point = '"' then
            match stringBody input rest with
            | .error failure => .error failure
            | .ok (value, after) => .ok (.string value, after)
          else if point = '[' then
            match skipSpaces rest with
            | [] => .error (.fault .expectedValue [])
            | next :: after =>
                if next = ']' then .ok (.array [], after)
                else
                  match itemsWithin steps (next :: after) with
                  | .error failure => .error failure
                  | .ok (items, left) => .ok (.array items, left)
          else if point = '\x7b' then
            match skipSpaces rest with
            | [] => .error (.fault .expectedName [])
            | next :: after =>
                if next = '\x7d' then .ok (.object [], after)
                else
                  match membersWithin steps (next :: after) with
                  | .error failure => .error failure
                  | .ok (members, left) => .ok (.object members, left)
          else plainValue input

def itemsWithin : Nat → Text → Except Failure (List Json × Text)
  | 0, input => .error (.fault .expectedValue input)
  | steps + 1, input =>
      match valueWithin steps input with
      | .error failure => .error failure
      | .ok (value, rest) =>
          match skipSpaces rest with
          | [] => .error (.fault .expectedComma [])
          | next :: after =>
              if next = ']' then .ok ([value], after)
              else if next = ',' then
                match itemsWithin steps (skipSpaces after) with
                | .error failure => .error failure
                | .ok (items, left) => .ok (value :: items, left)
              else .error (.fault .expectedComma (next :: after))

def membersWithin : Nat → Text → Except Failure (List (Text × Json) × Text)
  | 0, input => .error (.fault .expectedName input)
  | steps + 1, input =>
      match input with
      | [] => .error (.fault .expectedName [])
      | point :: rest =>
          if point = '"' then
            match stringBody input rest with
            | .error failure => .error failure
            | .ok (name, afterName) =>
                match skipSpaces afterName with
                | [] => .error (.fault .expectedColon [])
                | colon :: afterColon =>
                    if colon = ':' then
                      match valueWithin steps (skipSpaces afterColon) with
                      | .error failure => .error failure
                      | .ok (value, afterValue) =>
                          match skipSpaces afterValue with
                          | [] => .error (.fault .expectedComma [])
                          | next :: after =>
                              if next = '\x7d' then .ok ([(name, value)], after)
                              else if next = ',' then
                                match membersWithin steps (skipSpaces after) with
                                | .error failure => .error failure
                                | .ok (members, left) => .ok ((name, value) :: members, left)
                              else .error (.fault .expectedComma (next :: after))
                    else .error (.fault .expectedColon (colon :: afterColon))
          else .error (.fault .expectedName input)

end

/-- The value of a whole text, which may have spaces around it and may not start with the mark of
byte order. -/
def ofText (input : Text) : Except Failure Json :=
  if input.head? = some CodePoint.byteOrderMark then .error (.fault .byteOrderMark input)
  else
    match valueWithin (2 * input.length + 1) (skipSpaces input) with
    | .error failure => .error failure
    | .ok (value, rest) =>
        let left := skipSpaces rest
        if left.isEmpty then .ok value else .error (.fault .extraData left)

end ContractTypes.Json
