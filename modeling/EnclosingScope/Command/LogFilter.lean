import EnclosingScope.Command.Output
import EnclosingScope.Log
import EnclosingScope.Text.Blank

namespace EnclosingScope.Command

open Log

-- The gravest level is the first; nothing is shown at `none`.
abbrev Threshold := Option Level

structure Directive where
  -- Without a name it holds for all parts.
  name : Option String
  threshold : Threshold
  deriving DecidableEq, Repr

structure LogFilter where
  directives : List Directive := []
  wanted : Option String := none
  deriving Repr

namespace LogFilter

def lower (text : String) : List Char :=
  text.toList.map Char.toLower

def threshold? (text : String) : Option Threshold :=
  let word := String.ofList (lower text)
  if word = "off" then some none
  else if word = "error" then some (some .error)
  else if word = "warn" then some (some .warn)
  else if word = "info" then some (some .info)
  else if word = "debug" then some (some .debug)
  else if word = "trace" then some (some .trace)
  else none

def split (mark : Char) (text : String) : List String :=
  go [] text.toList
where
  go (back : List Char) : List Char → List String
    | [] => [String.ofList back.reverse]
    | c :: cs =>
        if c = mark then String.ofList back.reverse :: go [] cs else go (c :: back) cs

def all : Threshold := some .trace

def directive (text : String) : Except String Directive :=
  match split '=' text with
  | [only] =>
      match threshold? only with
      | some threshold => .ok ⟨none, threshold⟩
      | none => .ok ⟨some only, all⟩
  | [name, level] =>
      let level := Text.trim level
      if level.isEmpty then .ok ⟨some name, all⟩
      else
        match threshold? level with
        | some threshold => .ok ⟨some name, threshold⟩
        | none => .error level
  | _ => .error text

def insert (d : Directive) : List Directive → List Directive
  | [] => [d]
  | first :: rest => if first.name = d.name then d :: rest else first :: insert d rest

def add (f : LogFilter) (d : Directive) : LogFilter :=
  { f with directives := insert d f.directives }

def parse (text : String) : LogFilter × List String :=
  match split '/' text with
  | names :: rest =>
      if 1 < rest.length then ({}, [tooMany text])
      else
        let found := ((split ',' names).map Text.trim).filter fun part => !part.isEmpty
        found.foldl
          (fun (f, refused) part =>
            match directive part with
            | .ok d => (f.add d, refused)
            | .error piece => (f, refused ++ ["invalid logging spec '" ++ piece ++ "'"]))
          ({ wanted := rest.head? }, [])
  | [] => ({}, [])
where
  tooMany (text : String) : String :=
    "invalid logging spec '" ++ text ++ "' (too many '/'s)"

def nameLength (d : Directive) : Nat :=
  match d.name with
  | some name => name.utf8ByteSize
  | none => 0

def ordered (f : LogFilter) : List Directive :=
  if f.directives.isEmpty then [⟨none, some .error⟩]
  else f.directives.mergeSort fun a b => nameLength a ≤ nameLength b

def fits (entry : Entry) (d : Directive) : Bool :=
  match d.name with
  | some name => name.toList.isPrefixOf entry.source.toList
  | none => true

def allows (threshold : Threshold) (level : Level) : Bool :=
  match threshold with
  | some limit => level.rank ≤ limit.rank
  | none => false

def contains (part : List Char) : List Char → Bool
  | [] => part.isEmpty
  | c :: cs => part.isPrefixOf (c :: cs) || contains part cs

def shows (f : LogFilter) (entry : Entry) : Bool :=
  let wanted := match f.wanted with
    | some part => contains part.toList entry.text.toList
    | none => true
  match f.ordered.reverse.find? (fits entry) with
  | some d => allows d.threshold entry.level && wanted
  | none => false

def padded (name : String) : String :=
  name ++ String.ofList (List.replicate (5 - name.length) ' ')

def line (entry : Entry) : String :=
  "[" ++ padded entry.level.name ++ " " ++ entry.source ++ "] " ++ entry.text ++ "\n"

def pieces (f : LogFilter) (entries : List Entry) : List Piece :=
  (entries.filter f.shows).map fun entry => ⟨.err, line entry⟩

def ofSetting (text : Option String) (verbose : Bool) : LogFilter × List Piece :=
  let (f, refused) := match text with
    | some text => parse text
    | none => ({}, [])
  let f := if verbose then f.add ⟨none, some .debug⟩ else f
  (f, refused.map fun reason => ⟨.err, "warning: " ++ reason ++ ", ignoring it\n"⟩)

end LogFilter

end EnclosingScope.Command
