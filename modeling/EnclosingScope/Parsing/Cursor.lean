namespace EnclosingScope.Parsing

abbrev Source := Array Char

structure Place where
  index : Nat
  byte : Nat
  row : Nat
  column : Nat
  deriving DecidableEq

namespace Place

def origin : Place := ⟨0, 0, 0, 0⟩

def after (p : Place) (c : Char) : Place :=
  if c == '\n' then ⟨p.index + 1, p.byte + 1, p.row + 1, 0⟩
  else ⟨p.index + 1, p.byte + c.utf8Size, p.row, p.column + c.utf8Size⟩

end Place

namespace Source

def ofString (text : String) : Source :=
  text.toList.toArray

def peek (s : Source) (p : Place) : Option Char :=
  s[p.index]?

def atEnd (s : Source) (p : Place) : Bool :=
  s.size ≤ p.index

def step (s : Source) (p : Place) : Place :=
  match s[p.index]? with
  | some c => p.after c
  | none => p

def look (s : Source) (p : Place) : Char :=
  (s[p.index]?).getD '\x00'

def skipWhile (s : Source) (holds : Char → Bool) (p : Place) : Place :=
  go (s.size - p.index) p
where
  go : Nat → Place → Place
    | 0, p => p
    | fuel + 1, p =>
        match s[p.index]? with
        | some c => if holds c then go fuel (p.after c) else p
        | none => p

def behind (s : Source) (p : Place) : List Char → Option Place
  | [] => some p
  | c :: cs => if s[p.index]? = some c then behind s (p.after c) cs else none

def slice (s : Source) (first last : Place) : String :=
  String.ofList (s.extract first.index last.index).toList

end Source

end EnclosingScope.Parsing
