import EnclosingScope.Grammar.Compaction
import EnclosingScope.Parsing.Layout

namespace EnclosingScope.Parsing

open EnclosingScope.Grammar

def errorSymbol : Nat := 65535

def skippedSymbol : Nat := 65534

structure Subtree where
  symbol : Nat
  visible : Bool
  origin : Place
  start : Place
  stop : Place
  extra : Bool
  missing : Bool
  keyword : Bool
  children : Array Subtree
  labels : List (Option Label)
  cost : Nat
  dynamic : Int
  shown : Nat
  inside : Nat
  layout : Option Layout
  layoutChanged : Bool

namespace Cost

def recovery : Nat := 500
def missingTree : Nat := 110
def skippedTree : Nat := 100
def skippedChar : Nat := 1
def skippedLine : Nat := 30

def tolerance : Nat := 18 * skippedTree

end Cost

namespace Subtree

def isError (t : Subtree) : Bool := t.symbol == errorSymbol

def isEnd (t : Subtree) : Bool := t.symbol == 0

def bytes (t : Subtree) : Nat := t.stop.byte - t.origin.byte

def rows (t : Subtree) : Nat := t.stop.row - t.origin.row

def count (t : Subtree) : Nat :=
  t.inside + (if t.visible then 1 else 0) + (if t.symbol == skippedSymbol then 1 else 0)

def isVisible (g : Productions) (symbol : Nat) : Bool :=
  if symbol == errorSymbol then true
  else
    match g.appearances[symbol]? with
    | some appearance => appearance.visible
    | none => false

def leaf (g : Productions) (symbol : Nat) (origin start stop : Place) : Subtree :=
  { symbol, visible := isVisible g symbol, origin, start, stop, extra := symbol == 0
    missing := false, keyword := false, children := #[], labels := [], cost := 0, dynamic := 0
    shown := 0, inside := 0, layout := none, layoutChanged := false }

def absent (g : Productions) (symbol : Nat) (p : Place) : Subtree :=
  { leaf g symbol p p p with
    missing := true, extra := false, cost := Cost.missingTree + Cost.recovery }

structure Summary where
  cost : Nat := 0
  dynamic : Int := 0
  shown : Nat := 0
  inside : Nat := 0
  layout : Option Layout := none
  layoutChanged : Bool := false

def skipCost (child : Subtree) : Nat :=
  if child.extra || (child.isError && child.children.isEmpty) then 0
  else if child.visible then Cost.skippedTree
  else Cost.skippedTree * child.shown

def Summary.add (inError : Bool) (m : Summary) (child : Subtree) (label : Option Label) :
    Summary :=
  let visible := label.isSome || child.visible
  { cost := m.cost + (if child.symbol == skippedSymbol then 0 else child.cost)
      + (if inError then skipCost child else 0)
    dynamic := m.dynamic + child.dynamic
    shown := m.shown + (if visible then 1 else child.shown)
    inside := m.inside + child.inside + (if visible then 1 else 0)
    layout := child.layout <|> m.layout
    layoutChanged := m.layoutChanged || child.layoutChanged }

def withLabels : List Subtree → List (Option Label) → List (Subtree × Option Label)
  | [], _ => []
  | child :: children, labels =>
      if child.extra then (child, none) :: withLabels children labels
      else
        match labels with
        | [] => (child, none) :: withLabels children []
        | label :: labels => (child, label) :: withLabels children labels

def node (g : Productions) (symbol : Nat) (children : List Subtree)
    (labels : List (Option Label)) (p : Place) : Subtree :=
  let inError := symbol == errorSymbol || symbol == skippedSymbol
  let m := (withLabels children labels).foldl
    (fun m (child, label) => m.add inError child label) ({} : Summary)
  let origin := match children.head? with | some child => child.origin | none => p
  let start := match children.head? with | some child => child.start | none => p
  let stop := match children.getLast? with | some child => child.stop | none => p
  let around :=
    if inError then
      Cost.recovery + Cost.skippedChar * (stop.byte - start.byte)
        + Cost.skippedLine * (stop.row - start.row)
    else 0
  { symbol, visible := isVisible g symbol, origin, start, stop, extra := false, missing := false
    keyword := false, children := children.toArray, labels, cost := m.cost + around
    dynamic := m.dynamic, shown := m.shown, inside := m.inside, layout := m.layout
    layoutChanged := m.layoutChanged }

def splitExtras (trees : List Subtree) : List Subtree × List Subtree :=
  let back := trees.reverse
  ((back.dropWhile (·.extra)).reverse, (back.takeWhile (·.extra)).reverse)

mutual

def compare (a b : Subtree) : Nat → Ordering
  | 0 => .eq
  | fuel + 1 =>
      (Ord.compare a.symbol b.symbol).then
        ((Ord.compare a.children.size b.children.size).then
          (compareAll a.children.toList b.children.toList fuel))

def compareAll (as bs : List Subtree) : Nat → Ordering
  | 0 => .eq
  | fuel + 1 =>
      match as, bs with
      | a :: as, b :: bs => (compare a b fuel).then (compareAll as bs fuel)
      | _, _ => .eq

end

def isWorse (a b : Subtree) : Bool :=
  if b.cost < a.cost then true
  else if a.cost < b.cost then false
  else if b.dynamic > a.dynamic then true
  else if a.dynamic > b.dynamic then false
  else if a.cost > 0 then true
  else compare a b 1000000 == .gt

def sameOutline (a b : Subtree) : Bool :=
  a.symbol == b.symbol &&
    ((a.cost > 0 && b.cost > 0) ||
      (a.start.byte - a.origin.byte == b.start.byte - b.origin.byte &&
        a.stop.byte - a.start.byte == b.stop.byte - b.start.byte &&
        a.children.size == b.children.size && a.extra == b.extra &&
        (if a.children.isEmpty then a.layout else none)
          == (if b.children.isEmpty then b.layout else none)))

end Subtree

end EnclosingScope.Parsing
