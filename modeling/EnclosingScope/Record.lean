import EnclosingScope.Json.Shape
import EnclosingScope.Search
import EnclosingScope.Verdict

namespace EnclosingScope

open Json

structure Position where
  line : UInt64
  column : UInt64
  deriving DecidableEq, Repr

structure Location where
  start : Position
  stop : Position
  deriving DecidableEq, Repr

structure NodeRecord where
  kind : String
  location : Location
  leadingComments : Option (List Value) := none
  innerComments : Option (List Value) := none
  trailingComments : Option (List Value) := none
  start : Option UInt64 := none
  stop : Option UInt64 := none
  deriving DecidableEq, Repr

structure Enclosure where
  node : Option NodeRecord := none
  deriving DecidableEq, Repr

namespace Position

def ofPoint (p : Tree.Point) : Position :=
  ⟨p.line, p.column⟩

def toJson (p : Position) : Value :=
  .object [("line", .ofUInt64 p.line), ("column", .ofUInt64 p.column)]

def shape : Shape Position where
  name := "LocationData"
  blank := ⟨0, 0⟩
  fields :=
    [.of "line" true (fun _ => Reader.count) fun line p => { p with line },
     .of "column" true (fun _ => Reader.count) fun column p => { p with column }]

end Position

namespace Location

def toJson (l : Location) : Value :=
  .object [("start", l.start.toJson), ("end", l.stop.toJson)]

def shape : Shape Location where
  name := "NodeLocation"
  blank := ⟨Position.shape.blank, Position.shape.blank⟩
  fields :=
    [.of "start" true Position.shape.read fun start l => { l with start },
     .of "end" true Position.shape.read fun stop l => { l with stop }]

end Location

namespace NodeRecord

def ofNode {ν : Type} [Tree.SyntaxNode ν] (node : ν) : NodeRecord where
  kind := Tree.SyntaxNode.kind node
  location :=
    ⟨.ofPoint (Tree.SyntaxNode.start node), .ofPoint (Tree.SyntaxNode.stop node)⟩

def startLine (r : NodeRecord) : UInt64 := r.location.start.line

def stopLine (r : NodeRecord) : UInt64 := r.location.stop.line

def toJson (r : NodeRecord) : Value :=
  .object
    [("type", .string r.kind), ("loc", r.location.toJson),
     ("leadingComments", .ofOption .array r.leadingComments),
     ("innerComments", .ofOption .array r.innerComments),
     ("trailingComments", .ofOption .array r.trailingComments),
     ("start", .ofOption .ofUInt64 r.start), ("end", .ofOption .ofUInt64 r.stop)]

def shape : Shape NodeRecord where
  name := "AstNode"
  blank := { kind := "", location := Location.shape.blank }
  fields :=
    [.of "type" true (fun _ => Reader.text) fun kind r => { r with kind },
     .of "loc" true Location.shape.read fun location r => { r with location },
     .of "leadingComments" false (fun depth => Reader.optional (Reader.values depth))
       fun leadingComments r => { r with leadingComments },
     .of "innerComments" false (fun depth => Reader.optional (Reader.values depth))
       fun innerComments r => { r with innerComments },
     .of "trailingComments" false (fun depth => Reader.optional (Reader.values depth))
       fun trailingComments r => { r with trailingComments },
     .of "start" false (fun _ => Reader.optional Reader.count) fun start r => { r with start },
     .of "end" false (fun _ => Reader.optional Reader.count) fun stop r => { r with stop }]

end NodeRecord

namespace Enclosure

def none : Enclosure := ⟨.none⟩

def isFound (e : Enclosure) : Bool := e.node.isSome

def toJson (e : Enclosure) : Value :=
  .object [("enclosingContext", .ofOption NodeRecord.toJson e.node)]

def shape : Shape Enclosure where
  name := "EnclosingContext"
  blank := none
  fields :=
    [.of "enclosingContext" false (fun depth => Reader.optional (NodeRecord.shape.read depth))
      fun node e => { e with node }]

def parse (text : String) : Except Failure Enclosure :=
  shape.parse text

end Enclosure

namespace Verdict

def toJson (v : Verdict) : Value :=
  .object [("valid", .boolean v.valid), ("error", .string v.error)]

def shape : Shape Verdict where
  name := "ValidationResult"
  blank := accepted
  fields :=
    [.of "valid" true (fun _ => Reader.truth) fun valid v => { v with valid },
     .of "error" true (fun _ => Reader.text) fun error v => { v with error }]

def parse (text : String) : Except Failure Verdict :=
  shape.parse text

end Verdict

end EnclosingScope
