import CodeAtlas.Command.Run
import CodeAtlas.FileSystem.Changes

namespace CodeAtlas.Main

def currentPlace : IO Place := do
  let directory := toString (← IO.currentDir)
  return (Path.pieces (Text.encode directory)).filter (!·.isEmpty)

/-- Takes in what a line names. -/
def load (fs : FileSystem) (line : String) : IO FileSystem := do
  let p := Path.ofString line
  if line.isEmpty then return fs
  else if p.bytes.getLast? = some Path.slash then return (fs.makeDirectories p).toOption.getD fs
  else return fs.put p (.file (← IO.FS.readBinFile line).toList)

partial def loadAll (input : IO.FS.Stream) (fs : FileSystem) : IO FileSystem := do
  let line ← input.getLine
  if line.isEmpty then return fs
  else loadAll input (← load fs (line.dropEndWhile (· = '\n')).toString)

def store (change : Place × Bytes) : IO Unit := do
  let shown (place : Place) : String := (FileSystem.pathOf place).display
  IO.FS.createDirAll (shown change.1.dropLast)
  IO.FS.writeBinFile (shown change.1) (ByteArray.mk change.2.toArray)

def environment : IO (List (String × String)) := do
  let value (name : String) : IO (List (String × String)) := do
    return (← IO.getEnv name).toList.map (name, ·)
  return (← value "RUST_LOG") ++ (← value "CODESKEL_REPO_URL")

def surroundings : IO Surroundings := do
  return { environment := ← environment, today := (← IO.getEnv "TODAY").getD "today" }

end CodeAtlas.Main

open CodeAtlas CodeAtlas.Main in
/-- The files a run may meet are named on the standard input, one path a line; a slash at the end
names a directory. They are read before the run, and what it changed is written after it. -/
def main (words : List String) : IO UInt32 := do
  let place ← currentPlace
  let empty : FileSystem := ⟨.directory [], place⟩
  let start := (empty.makeDirectories (FileSystem.pathOf place)).toOption.getD empty
  let fs ← loadAll (← IO.getStdin) start
  let result := Run.words (← surroundings) words fs
  (FileSystem.changes fs result.files).forM store
  let err ← IO.getStderr
  result.warning.forM err.putStrLn
  result.records.forM fun r => err.putStr (r.line "")
  (← IO.getStdout).putStr result.output
  result.error.forM err.putStrLn
  return result.exit.toUInt32
