import EnclosingScope.Text.Bytes

namespace EnclosingScope

open Text

namespace SortedNames

def insert (name : String) : List String → List String
  | [] => [name]
  | first :: rest =>
      if name = first then first :: rest
      else if before name first then name :: first :: rest
      else first :: insert name rest

def erase (name : String) : List String → List String
  | [] => []
  | first :: rest => if name = first then rest else first :: erase name rest

end SortedNames

structure KindSet where
  names : List String

namespace KindSet

def scopeKinds : List String :=
  ["function_definition", "class_definition", "if_statement", "for_statement",
   "while_statement", "try_statement", "with_statement", "async_function_definition",
   "async_for_statement"]

def empty : KindSet := ⟨[]⟩

def contains (set : KindSet) (name : String) : Bool :=
  set.names.contains name

def insert (set : KindSet) (name : String) : KindSet × Bool :=
  (⟨SortedNames.insert name set.names⟩, !set.contains name)

def erase (set : KindSet) (name : String) : KindSet × Bool :=
  (⟨SortedNames.erase name set.names⟩, set.contains name)

def size (set : KindSet) : Nat := set.names.length

def isEmpty (set : KindSet) : Bool := set.names.isEmpty

def toList (set : KindSet) : List String := set.names

def ofList (names : List String) : KindSet :=
  names.foldl (fun set name => (set.insert name).1) empty

def scopes : KindSet := ofList scopeKinds

end KindSet

end EnclosingScope
