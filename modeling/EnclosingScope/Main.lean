import EnclosingScope.Command.Run
import EnclosingScope.Files.Discovery

namespace EnclosingScope

open Files

structure Fetched where
  contents : List (Path × Except AccessError ByteArray) := []
  directories : List (Path × Except WalkError (List (List Path))) := []

namespace Fetched

def access (f : Fetched) : Access where
  read path :=
    match f.contents.find? (·.1 = path) with
    | some (_, content) => content
    | none => .error .notFound
  below path := (f.directories.find? (·.1 = path)).map (·.2)

end Fetched

def accessError : IO.Error → AccessError
  | .noFileOrDirectory _ _ _ => .notFound
  | .inappropriateType _ code _ => if code = 21 then .isDirectory else .notDirectory
  | e => .other e.toString

def fetch (path : Path) : IO (Path × Except AccessError ByteArray) := do
  let content ← (IO.FS.readBinFile path.shown).toBaseIO
  return (path, content.mapError accessError)

-- No path is longer than this, so none goes deeper.
def depthLimit : Nat := 4096

def orFail {α : Type} (place : String) (act : IO α) : ExceptT WalkError IO α := do
  match ← act.toBaseIO with
  | .ok a => return a
  | .error e => throw ⟨some place, accessError e⟩

def walk (place : String) : Nat → ExceptT WalkError IO (List (List Path))
  | 0 => return []
  | depth + 1 => do
      let entries ← orFail place do (← IO.FS.realPath place).readDir
      let found ← entries.toList.mapM fun entry => do
        let inner := place ++ "/" ++ entry.fileName
        let metadata ← orFail inner entry.path.symlinkMetadata
        let below ←
          match metadata.type with
          | .file => pure [[]]
          | .dir => walk inner depth
          | _ => pure []
        return below.map ((entry.fileName : Path) :: ·)
      return found.flatten

def fetchDirectory (path : String) :
    IO (Option (Path × Except WalkError (List (List Path)))) := do
  match ← (IO.FS.realPath path).toBaseIO with
  | .error _ => return none
  | .ok place =>
      if ← place.isDir then return some (path, ← (walk path depthLimit).run) else return none

def fetchFor (request : Command.Request) : IO Fetched := do
  let (found, searched) := match request.task with
    | .find file _ _ _ => ([file], [])
    | .check paths _ => ([], paths)
  let directories := (← searched.mapM fetchDirectory).filterMap id
  let listing : Fetched := { directories }
  let discovered := (discover listing.access (searched.map .ofText)).toOption.getD []
  let files := (request.config.toList ++ found).map .ofText ++ discovered
  return { listing with contents := ← files.mapM fetch }

def environment : IO Command.Environment := do
  return ⟨← IO.getEnv "RUST_LOG", ← IO.getEnv "CLICOLOR_FORCE"⟩

def print (piece : Command.Piece) : IO Unit := do
  match piece.stream with
  | .out => (← IO.getStdout).putStr piece.text
  | .err => (← IO.getStderr).putStr piece.text

end EnclosingScope

open EnclosingScope

def main (args : List String) : IO UInt32 := do
  let fetched ← match Command.Request.ofArguments args with
    | .ok request => fetchFor request
    | .error _ => pure {}
  let outcome := Command.run Python.engine fetched.access (← environment) args
  outcome.pieces.forM print
  return outcome.code.toUInt32
