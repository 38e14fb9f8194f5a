namespace EnclosingScope.Toml

structure Span where
  start : Nat
  stop : Nat
  deriving DecidableEq, Repr

structure Key where
  name : String
  span : Span
  deriving DecidableEq, Repr

inductive Origin where
  | inline
  | headed
  | implied
  | dotted
  deriving DecidableEq, Repr

inductive Item where
  | string (value : String)
  | integer (value : Int)
  | float (bits : UInt64)
  | boolean (value : Bool)
  | moment
  | array (grows : Bool) (items : List (Span × Item))
  | table (origin : Origin) (members : List (Key × Span × Item))
  deriving Repr

abbrev Members := List (Key × Span × Item)

namespace Members

def find? (members : Members) (name : String) : Option (Key × Span × Item) :=
  List.find? (fun member => member.1.name = name) members

def erase (members : Members) (name : String) : Members :=
  List.filter (fun member => member.1.name ≠ name) members

def replace (name : String) (item : Item) : Members → Members
  | [] => []
  | (key, span, old) :: rest =>
      if key.name = name then (key, span, item) :: rest
      else (key, span, old) :: replace name item rest

end Members

def mapLast {α : Type} (f : α → Option α) : List α → Option (List α)
  | [] => none
  | [a] => (f a).map ([·])
  | a :: b :: rest => (mapLast f (b :: rest)).map (a :: ·)

-- Changes the members of the table that a path leads to, and says how that table came to be. Tables
-- that the path lacks are begun, by dots or by headers; through an array of tables it goes into the
-- last of them.
def Item.under (dots : Bool) (change : Origin → Members → Option Members) :
    List Key → Origin → Members → Option Members
  | [], origin, members => change origin members
  | key :: path, _, members =>
      match members.find? key.name with
      | none =>
          let origin := if dots then Origin.dotted else Origin.implied
          (Item.under dots change path origin []).map fun below =>
            members ++ [(key, key.span, .table origin below)]
      | some (_, _, .table origin below) =>
          if origin = .inline || (dots && origin = .headed) then none
          else
            (Item.under dots change path origin below).map fun below =>
              members.replace key.name (.table origin below)
      | some (_, _, .array true items) =>
          let grown := mapLast
            (fun (span, item) =>
              match item with
              | .table origin below =>
                  (Item.under dots change path origin below).map fun below =>
                    (span, .table origin below)
              | _ => none)
            items
          grown.map fun items => members.replace key.name (.array true items)
      | some _ => none

def addMember (path : List Key) (key : Key) (span : Span) (item : Item) (origin : Origin)
    (members : Members) : Option Members :=
  Item.under true
    (fun origin members =>
      if !path.isEmpty && origin ≠ .dotted || path.isEmpty && origin = .dotted then none
      else if (members.find? key.name).isSome then none
      else some (members ++ [(key, span, item)]))
    path origin members

-- A table of its own; one that was only implied so far moves to the end.
def addTable (key : Key) (span : Span) (members : Members) : Option Members :=
  match members.find? key.name with
  | none => some (members ++ [(key, span, .table .headed [])])
  | some (_, _, .table .implied below) =>
      some (members.erase key.name ++ [(key, span, .table .headed below)])
  | some _ => none

def addElement (key : Key) (span : Span) (members : Members) : Option Members :=
  match members.find? key.name with
  | none => some (members ++ [(key, span, .array true [(span, .table .headed [])])])
  | some (_, _, .array true items) =>
      some (members.replace key.name (.array true (items ++ [(span, .table .headed [])])))
  | some _ => none

end EnclosingScope.Toml
