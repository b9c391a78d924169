import ContractTypes.Files.Path
import ContractTypes.Text.Quoted
import ContractTypes.Text.Utf8

/-!
A work directory.

A work directory is the tree of directories and files that a run sees from its current directory on.
A place in it is a list of names without dots.  The places above it are lists of double dots, of
which it is known that they are directories, and so is the root, from which a place may start as
well.  A path is followed name by name, and each name but the last must lead to a directory.

Different lists are different places.  So an absolute spelling of a place below the work directory
counts as another place than the relative one, and so does a way up out of the directory and back
into it: such aliases of one file are not modelled, nor are links.
-/

namespace ContractTypes

inductive FileFault where
  | notFound
  | notDirectory
  | isDirectory
  | nameTooLong
deriving DecidableEq

def FileFault.describe : FileFault → Text
  | notFound => "[Errno 2] No such file or directory"
  | notDirectory => "[Errno 20] Not a directory"
  | isDirectory => "[Errno 21] Is a directory"
  | nameTooLong => "[Errno 36] File name too long"

/-- Why an operation on a path fails.  A path with the code point zero in it reaches no file at
all. -/
inductive FileError where
  | failed (fault : FileFault) (path : Text)
  | zeroInPath
deriving DecidableEq

def FileError.message : FileError → Text
  | failed fault path => fault.describe ++ ": " ++ path.quoted
  | zeroInPath => "embedded null byte"

structure WorkDir where
  /-- The text of the place of the directory itself. -/
  location : Text
  directories : List (List Text)
  files : List (List Text × Bytes)

namespace WorkDir

inductive Target where
  | directory (place : List Text)
  | file (place : List Text) (contents : Bytes)
  /-- Nothing yet: the place where a file could be made. -/
  | free (place : List Text)

def contents? (dir : WorkDir) (place : List Text) : Option Bytes := dir.files.lookup place

def rootName : Text := "/"

/-- Whether a place is that of the work directory or lies above it. -/
def isOnTop (place : List Text) : Bool := place.all (fun name => name == Path.parentName)

def isDirectory (dir : WorkDir) (place : List Text) : Bool :=
  isOnTop place || place == [rootName] || dir.directories.contains place

def above (place : List Text) : List Text :=
  if isOnTop place then Path.parentName :: place
  else if place = [rootName] then place
  else place.dropLast

def below (place : List Text) (name : Text) : List Text :=
  if name = Path.parentName then above place else place ++ [name]

def start (path : Path) : List Text := if path.root.isEmpty then [] else [rootName]

def placeOf (path : Path) : List Text := path.names.foldl below (start path)

def nameLimit : Nat := 255

def pathLimit : Nat := 4095

def follow (dir : WorkDir) (place : List Text) : List Text → Except FileFault Target
  | [] => .ok (.directory place)
  | name :: rest =>
      let next := below place name
      if name = Path.parentName then follow dir next rest
      else
        if nameLimit < (Utf8.encodeScalar name).length then .error .nameTooLong
        else if dir.isDirectory next then follow dir next rest
        else
          match dir.contents? next with
          | some contents =>
              if rest.isEmpty then .ok (.file next contents) else .error .notDirectory
          | none => if rest.isEmpty then .ok (.free next) else .error .notFound

def target (dir : WorkDir) (path : Path) : Except FileFault Target :=
  if pathLimit < (Utf8.encodeScalar path.text).length then .error .nameTooLong
  else dir.follow (start path) path.names

def hasZero (path : Path) : Bool :=
  path.names.any (fun name => name.any (fun point => point.val == 0))

def pathOf : List Text → Path
  | [] => ⟨[], []⟩
  | name :: rest => if name = rootName then ⟨rootName, rest⟩ else ⟨[], name :: rest⟩

def read (dir : WorkDir) (path : Path) (shown : Text) : Except FileError Bytes :=
  if hasZero path then .error .zeroInPath
  else
    match dir.target path with
    | .ok (.file _ contents) => .ok contents
    | .ok (.directory _) => .error (.failed .isDirectory shown)
    | .ok (.free _) => .error (.failed .notFound shown)
    | .error fault => .error (.failed fault shown)

def reaches (dir : WorkDir) (path : Path) : Bool :=
  match dir.target path with
  | .ok (.file _ _) => true
  | .ok (.directory _) => true
  | .ok (.free _) => false
  | .error _ => false

def put (dir : WorkDir) (place : List Text) (contents : Bytes) : WorkDir :=
  if (dir.files.lookup place).isSome then
    { dir with files :=
      dir.files.map (fun file => if file.1 = place then (place, contents) else file) }
  else { dir with files := dir.files ++ [(place, contents)] }

theorem lookup_append_one (files : List (List Text × Bytes)) (place other : List Text)
    (contents : Bytes) :
    (files ++ [(place, contents)]).lookup other =
      (files.lookup other).or (if other = place then some contents else none) := by
  induction files with
  | nil =>
      rw [List.nil_append, List.lookup_cons]
      by_cases same : other = place
      · rw [if_pos same, same]
        simp
      · have apart : (other == place) = false := beq_eq_false_iff_ne.2 same
        rw [if_neg same, apart]
        rfl
  | cons file rest step =>
      rw [List.cons_append, List.lookup_cons, List.lookup_cons, step]
      cases other == file.1 with
      | true => rfl
      | false => rfl

theorem lookup_replace (files : List (List Text × Bytes)) (place other : List Text)
    (contents : Bytes) :
    (files.map (fun file => if file.1 = place then (place, contents) else file)).lookup other =
      if other = place then (files.lookup place).map (fun _ => contents) else
        files.lookup other := by
  induction files with
  | nil => simp
  | cons file rest step =>
      rw [List.map_cons, List.lookup_cons, List.lookup_cons, List.lookup_cons, step]
      by_cases here : file.1 = place
      · rw [if_pos here, here]
        by_cases same : other = place
        · simp [same]
        · have apart : (other == place) = false := beq_eq_false_iff_ne.2 same
          simp [same, apart]
      · have away : (place == file.1) = false := beq_eq_false_iff_ne.2 (Ne.symm here)
        rw [if_neg here]
        by_cases same : other = place
        · rw [if_pos same, if_pos same, same, away]
        · rw [if_neg same, if_neg same]

theorem contents?_put (dir : WorkDir) (place other : List Text) (contents : Bytes) :
    (dir.put place contents).contents? other =
      if other = place then some contents else dir.contents? other := by
  unfold put contents?
  cases found : dir.files.lookup place with
  | some old =>
      simp only [Option.isSome_some, if_true]
      rw [lookup_replace, found]
      rfl
  | none =>
      simp only [Option.isSome_none, Bool.false_eq_true, if_false]
      rw [lookup_append_one]
      by_cases same : other = place
      · rw [same, found]
        rfl
      · simp [same]

def writable (dir : WorkDir) (path : Path) (shown : Text) : Except FileError (List Text) :=
  if hasZero path then .error .zeroInPath
  else
    match dir.target path with
    | .ok (.file place _) => .ok place
    | .ok (.free place) => .ok place
    | .ok (.directory _) => .error (.failed .isDirectory shown)
    | .error fault => .error (.failed fault shown)

def addDirectory (dir : WorkDir) (place : List Text) : WorkDir :=
  if dir.directories.contains place then dir else
    { dir with directories := dir.directories ++ [place] }

def addDirectories (dir : WorkDir) (path : Path) : WorkDir :=
  path.initials.foldl (fun dir initial => dir.addDirectory (placeOf initial)) dir

def addFile (dir : WorkDir) (path : Path) (contents : Bytes) : WorkDir :=
  (dir.addDirectories { path with names := path.names.dropLast }).put (placeOf path) contents

def empty (location : Text) : WorkDir := ⟨location, [], []⟩

/-- A work directory with directories and files made in it; the directories above each come
along. -/
def ofContents (location : Text) (directories : List Path) (files : List (Path × Bytes)) :
    WorkDir :=
  files.foldl (fun dir file => dir.addFile file.1 file.2)
    (directories.foldl addDirectories (empty location))

def changedSince (dir before : WorkDir) : List (List Text × Bytes) :=
  dir.files.filter (fun file => before.contents? file.1 != some file.2)

end WorkDir

end ContractTypes
