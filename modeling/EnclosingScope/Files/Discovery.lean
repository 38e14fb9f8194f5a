import EnclosingScope.Files.Access

namespace EnclosingScope.Files

def isPythonName (name : Path) : Bool :=
  let ending := Text.bytes ".py"
  ending.isSuffixOf name.bytes && ending.length < name.bytes.length

def isPython (names : List Path) : Bool :=
  match names.getLast? with
  | some name => isPythonName name
  | none => false

def sortPaths (paths : List (List Path)) : List (List Path) :=
  paths.mergeSort fun a b => !decide (pathBefore b a)

def expand (files : Access) (path : Path) : Except WalkError (List Path) :=
  match files.below path with
  | none => .ok [path]
  | some (.error e) => .error e
  | some (.ok found) => .ok ((sortPaths (found.filter isPython)).map path.join)

def discover (files : Access) (paths : List Path) : Except WalkError (List Path) :=
  (paths.mapM (expand files)).map List.flatten

end EnclosingScope.Files
