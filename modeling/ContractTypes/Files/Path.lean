import ContractTypes.Text.CodePoint

/-!
File paths.

A path is a list of names after a start: the current directory, or the root, whose text is kept
because two slashes differ from one.  Empty names and single dots do not count; a double dot is a
name like any other, because what it leads to depends on the directories.
-/

namespace ContractTypes

/-- A path: the slashes at its start, if any, and the names. -/
structure Path where
  root : Text
  names : List Text
deriving DecidableEq

namespace Path

def parentName : Text := ".."

def namesOf (text : Text) : List Text :=
  (text.splitAt '/').filter (fun name => !name.isEmpty && name != ".")

/-- The root of a text: two slashes at its start count as such only without a third one. -/
def rootOf (text : Text) : Text :=
  let slashes := text.takeWhile (fun point : CodePoint => decide (point = '/'))
  if slashes.length = 2 then "//" else if slashes.isEmpty then "" else "/"

def ofText (text : Text) : Path := ⟨rootOf text, namesOf text⟩

def text (path : Path) : Text :=
  if path.root.isEmpty && path.names.isEmpty then "." else path.root ++ Text.joined "/" path.names

def join (path next : Path) : Path :=
  if next.root.isEmpty then { path with names := path.names ++ next.names } else next

def initials (path : Path) : List Path :=
  (List.range path.names.length).map (fun count =>
    { path with names := path.names.take (count + 1) })

end Path

end ContractTypes
