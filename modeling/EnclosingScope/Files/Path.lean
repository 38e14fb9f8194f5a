import EnclosingScope.Text.Bytes

namespace EnclosingScope.Files

open Text

-- What the system takes for a path, or for a name in one: bytes that need not be those of a text.
structure Path where
  bytes : List UInt8
  deriving DecidableEq, Repr

def slash : UInt8 := 0x2F

def dot : UInt8 := 0x2E

namespace Path

def ofText (text : String) : Path := ⟨Text.bytes text⟩

instance : Coe String Path := ⟨ofText⟩

def shown (path : Path) : String := lossy path.bytes

def isAbsolute (path : Path) : Bool := path.bytes.head? = some slash

def endsInSlash (path : Path) : Bool := path.bytes.getLast? = some slash

def join (directory : Path) (names : List Path) : Path :=
  let below := [slash].intercalate (names.map bytes)
  ⟨if directory.endsInSlash then directory.bytes ++ below else directory.bytes ++ slash :: below⟩

def parts (path : Path) : List Path :=
  go [] path.bytes
where
  go (back : List UInt8) : List UInt8 → List Path
    | [] => if back.isEmpty then [] else [⟨back.reverse⟩]
    | b :: bs =>
        if b = slash then if back.isEmpty then go [] bs else ⟨back.reverse⟩ :: go [] bs
        else go (b :: back) bs

end Path

def splitPath (path : Path) : List Path :=
  if path.endsInSlash then path.parts ++ [⟨[dot]⟩] else path.parts

def pathBefore (a b : List Path) : Prop :=
  a.map Path.bytes < b.map Path.bytes

instance (a b : List Path) : Decidable (pathBefore a b) :=
  inferInstanceAs (Decidable (a.map Path.bytes < b.map Path.bytes))

end EnclosingScope.Files
