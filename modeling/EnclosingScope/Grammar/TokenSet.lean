namespace EnclosingScope.Grammar

structure TokenSet where
  low : UInt64
  high : UInt64
  deriving DecidableEq, Hashable

namespace TokenSet

def empty : TokenSet := ⟨0, 0⟩

def singleton (token : Nat) : TokenSet :=
  if token < 64 then ⟨1 <<< token.toUInt64, 0⟩ else ⟨0, 1 <<< (token - 64).toUInt64⟩

def contains (set : TokenSet) (token : Nat) : Bool :=
  if token < 64 then (set.low >>> token.toUInt64) &&& 1 != 0
  else (set.high >>> (token - 64).toUInt64) &&& 1 != 0

def union (a b : TokenSet) : TokenSet :=
  ⟨a.low ||| b.low, a.high ||| b.high⟩

def inter (a b : TokenSet) : TokenSet :=
  ⟨a.low &&& b.low, a.high &&& b.high⟩

def without (a b : TokenSet) : TokenSet :=
  ⟨a.low &&& ~~~b.low, a.high &&& ~~~b.high⟩

def insert (set : TokenSet) (token : Nat) : TokenSet :=
  set.union (singleton token)

def isEmpty (set : TokenSet) : Bool :=
  set.low == 0 && set.high == 0

def ofList (tokens : List Nat) : TokenSet :=
  tokens.foldl insert empty

def toList (set : TokenSet) : List Nat :=
  (List.range 128).filter set.contains

end TokenSet

end EnclosingScope.Grammar
