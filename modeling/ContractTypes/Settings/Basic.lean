import ContractTypes.Declaration
import ContractTypes.Naming.Convention

/-!
Settings of a run and the layout that they give.

The width of the indent is any integer, as it may come from the command line; a negative one gives
no layout, and neither does one that no text can have.
-/

namespace ContractTypes

structure Settings where
  convention : Convention
  namePrefix : Option Text
  indentWidth : Int
  useTabs : Bool
  exported : Bool
deriving DecidableEq

inductive LayoutError where
  | negativeIndent (width : Int)
  /-- A width that is no count of anything in memory. -/
  | uncountableIndent
  | outOfMemory
deriving DecidableEq

def LayoutError.message : LayoutError → Text
  | negativeIndent width => "Indent width must not be negative, got " ++ Text.ofInt width
  | uncountableIndent => "cannot fit 'int' into an index-sized integer"
  | outOfMemory => ""

namespace Settings

def standard : Settings := ⟨.pascal, none, 4, false, false⟩

def countLimit : Nat := 0x8000000000000000

/-- The least width for which there is no memory.  Where it lies is a matter of the machine and of
what else runs on it: the number stands for a machine without room for a text of 64 GiB. -/
def memoryLimit : Nat := 0x1000000000

def indentPoint (settings : Settings) : CodePoint := if settings.useTabs then '\t' else ' '

def layout (settings : Settings) : Except LayoutError Layout :=
  match settings.indentWidth with
  | .negSucc below => .error (.negativeIndent (.negSucc below))
  | .ofNat width =>
      if countLimit ≤ width then .error .uncountableIndent
      else if memoryLimit ≤ width then .error .outOfMemory
      else
        .ok {
          indentUnit := [settings.indentPoint]
          indentWidth := width
          format := settings.convention.format settings.namePrefix
          exported := settings.exported }

end Settings

structure SelectionError where
  chosen : List Convention
deriving DecidableEq

def SelectionError.message (error : SelectionError) : Text :=
  "Only one naming convention may be selected, got: " ++
    Text.joined ", " (error.chosen.map Convention.word)

namespace Convention

/-- The one convention chosen by three flags, or the first of all where none is. -/
def select (pascalFlag camelFlag snakeFlag : Bool) : Except SelectionError Convention :=
  let chosen := ([(Convention.pascal, pascalFlag), (Convention.camel, camelFlag),
    (Convention.snake, snakeFlag)].filter (·.2)).map (·.1)
  match chosen with
  | [] => .ok .pascal
  | [convention] => .ok convention
  | several => .error ⟨several⟩

end Convention

end ContractTypes
