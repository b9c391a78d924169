import ContractTypes.CommandLine.Run

/-!
The program.

The files that a run may touch are looked up first, the run is worked out, and then its effects are
made: changed files are written, and the streams are filled.
-/

namespace ContractTypes.CommandLine

def stringOf (text : Text) : String := String.ofList (text.map (fun point => Char.ofNat point.val))

def arrayOf (bytes : Bytes) : ByteArray := ⟨bytes.toArray⟩

def directoryError : UInt32 := 21

/-- Adds to a work directory what a path leads to, if anything. -/
def observe (dir : WorkDir) (path : Path) : IO WorkDir := do
  let place := WorkDir.placeOf path
  try
    return dir.put place (← IO.FS.readBinFile (stringOf path.text)).toList
  catch
    | .noFileOrDirectory .. => return dir
    | .inappropriateType _ code _ =>
        return if code = directoryError then dir.addDirectory place else dir
    | error => throw error

/-- All bytes of a stream, behind bytes already read. -/
partial def readStream (stream : IO.FS.Stream) (before : ByteArray) : IO ByteArray := do
  let piece ← stream.read 65536
  if piece.isEmpty then return before else readStream stream (before ++ piece)

def execute (words : List Text) : IO UInt32 := do
  let location := Text.ofString (toString (← IO.currentDir))
  let dir ← ((paths words).flatMap Path.initials).foldlM observe (WorkDir.empty location)
  let stream ←
    if readsStream words then readStream (← IO.getStdin) ByteArray.empty else pure ByteArray.empty
  let outcome := run dir stream.toList words
  (← IO.getStderr).putStr (stringOf outcome.messages)
  for (place, contents) in outcome.directory.changedSince dir do
    IO.FS.writeBinFile (stringOf (WorkDir.pathOf place).text) (arrayOf contents)
  (← IO.getStdout).write (arrayOf outcome.output)
  match outcome.ending with
  | .exit status => return status.toUInt32
  | .broken fault =>
      (← IO.getStderr).putStrLn (stringOf fault.message)
      return 1

end ContractTypes.CommandLine

def main (words : List String) : IO UInt32 :=
  ContractTypes.CommandLine.execute (words.map ContractTypes.Text.ofString)
