import EnclosingScope.Parsing.Subtree

namespace EnclosingScope.Parsing

open EnclosingScope.Grammar

structure Link where
  node : Nat
  tree : Option Subtree

structure Vertex where
  state : Nat
  place : Place
  links : List Link
  cost : Nat
  count : Nat
  dynamic : Int

structure Retreat where
  depth : Nat
  state : Nat
  place : Place

inductive Status where
  | active
  | paused (lookahead : Subtree)
  | halted

structure Head where
  node : Nat
  layout : Option Layout
  status : Status
  retreats : Option (List Retreat)
  countAtError : Nat

structure Stack where
  nodes : Array Vertex
  heads : Array Head

namespace Stack

def maxLinks : Nat := 8
def maxPaths : Nat := 64

def initial : Stack :=
  ⟨#[⟨1, .origin, [], 0, 0, 0⟩], #[⟨0, none, .active, none, 0⟩]⟩

def vertex (s : Stack) (node : Nat) : Vertex :=
  (s.nodes[node]?).getD ⟨0, .origin, [], 0, 0, 0⟩

def head (s : Stack) (version : Nat) : Head :=
  (s.heads[version]?).getD ⟨0, none, .halted, none, 0⟩

def top (s : Stack) (version : Nat) : Vertex :=
  s.vertex (s.head version).node

def state (s : Stack) (version : Nat) : Nat :=
  (s.top version).state

def place (s : Stack) (version : Nat) : Place :=
  (s.top version).place

def size (s : Stack) : Nat :=
  s.heads.size

def isActive (s : Stack) (version : Nat) : Bool :=
  match (s.head version).status with
  | .active => true
  | _ => false

def isPaused (s : Stack) (version : Nat) : Bool :=
  match (s.head version).status with
  | .paused _ => true
  | _ => false

def isHalted (s : Stack) (version : Nat) : Bool :=
  match (s.head version).status with
  | .halted => true
  | _ => false

def haltedCount (s : Stack) : Nat :=
  (s.heads.toList.filter fun head => match head.status with | .halted => true | _ => false).length

def modifyHead (s : Stack) (version : Nat) (f : Head → Head) : Stack :=
  { s with heads := s.heads.modify version f }

def halt (s : Stack) (version : Nat) : Stack :=
  s.modifyHead version fun head => { head with status := .halted }

def pause (s : Stack) (version : Nat) (lookahead : Subtree) : Stack :=
  let count := (s.top version).count
  s.modifyHead version fun head =>
    { head with status := .paused lookahead, countAtError := count }

def setLayout (s : Stack) (version : Nat) (layout : Option Layout) : Stack :=
  s.modifyHead version fun head => { head with layout }

def remove (s : Stack) (version : Nat) : Stack :=
  { s with heads := s.heads.eraseIdxIfInBounds version }

def swap (s : Stack) (a b : Nat) : Stack :=
  { s with heads := s.heads.swapIfInBounds a b }

def copy (s : Stack) (version : Nat) : Stack :=
  { s with heads := s.heads.push { s.head version with retreats := none } }

def renumber (s : Stack) (source target : Nat) : Stack :=
  if source == target then s
  else
    let head := s.head source
    let moved := { head with retreats := head.retreats <|> (s.head target).retreats }
    ({ s with heads := s.heads.setIfInBounds target moved }).remove source

def push (s : Stack) (version : Nat) (tree : Option Subtree) (state : Nat) : Stack :=
  let head := s.head version
  let below := s.vertex head.node
  let new : Vertex :=
    match tree with
    | some t =>
        ⟨state, t.stop, [⟨head.node, tree⟩], below.cost + t.cost, below.count + t.count,
          below.dynamic + t.dynamic⟩
    | none => ⟨state, below.place, [⟨head.node, none⟩], below.cost, below.count, below.dynamic⟩
  let node := s.nodes.size
  { nodes := s.nodes.push new
    heads := s.heads.modify version fun head =>
      { head with node, countAtError := if tree.isNone then new.count else head.countAtError } }

def cost (s : Stack) (version : Nat) : Nat :=
  let top := s.top version
  let broken :=
    match top.links with
    | link :: _ => top.state == 0 && link.tree.isNone
    | [] => false
  top.cost + (if s.isPaused version || broken then Cost.recovery else 0)

def progress (s : Stack) (version : Nat) : Nat :=
  (s.top version).count - (s.head version).countAtError

def settleMark (s : Stack) (version : Nat) : Stack :=
  let count := (s.top version).count
  s.modifyHead version fun head =>
    if count < head.countAtError then { head with countAtError := count } else head

def sameTree : Option Subtree → Option Subtree → Bool
  | some a, some b => a.sameOutline b
  | none, none => true
  | _, _ => false

def treeDynamic : Option Subtree → Int
  | some t => t.dynamic
  | none => 0

def treeCount : Option Subtree → Nat
  | some t => t.count
  | none => 0

def mergeable (nodes : Array Vertex) (a b : Nat) : Bool :=
  match nodes[a]?, nodes[b]? with
  | some x, some y => x.state == y.state && x.place.byte == y.place.byte && x.cost == y.cost
  | _, _ => false

def raise (count : Nat) (dynamic : Int) (v : Vertex) : Vertex :=
  { v with count := max v.count count, dynamic := max v.dynamic dynamic }

def addLink : Nat → Array Vertex → Nat → Link → Array Vertex
  | 0, nodes, _, _ => nodes
  | fuel + 1, nodes, node, link =>
      if link.node == node then nodes
      else
        match nodes[node]?, nodes[link.node]? with
        | some vertex, some previous =>
            match vertex.links.findIdx? (fun known =>
              sameTree known.tree link.tree &&
                (known.node == link.node || mergeable nodes known.node link.node)) with
            | some index =>
                let known := (vertex.links[index]?).getD link
                if known.node == link.node then
                  if treeDynamic link.tree > treeDynamic known.tree then
                    nodes.setIfInBounds node { vertex with
                      links := vertex.links.set index { known with tree := link.tree }
                      dynamic := previous.dynamic + treeDynamic link.tree }
                  else nodes
                else
                  let nodes := previous.links.foldl
                    (fun nodes deeper => addLink fuel nodes known.node deeper) nodes
                  nodes.modify node (raise 0 (previous.dynamic + treeDynamic link.tree))
            | none =>
                if vertex.links.length == maxLinks then nodes
                else
                  nodes.setIfInBounds node
                    (raise (previous.count + treeCount link.tree)
                      (previous.dynamic + treeDynamic link.tree)
                      { vertex with links := vertex.links ++ [link] })
        | _, _ => nodes

def canMerge (s : Stack) (a b : Nat) : Bool :=
  s.isActive a && s.isActive b && mergeable s.nodes (s.head a).node (s.head b).node &&
    (s.head a).layout == (s.head b).layout

def merge (s : Stack) (a b : Nat) : Option Stack :=
  if s.canMerge a b then
    let node := (s.head a).node
    let nodes := (s.top b).links.foldl
      (fun nodes link => addLink (s.nodes.size + 1) nodes node link) s.nodes
    let s : Stack := { s with nodes }
    let s := if s.state a == 0 then
        let count := (s.top a).count
        s.modifyHead a fun head => { head with countAtError := count }
      else s
    some (s.remove b)
  else none

structure Path where
  node : Nat
  trees : List Subtree
  depth : Nat

def Path.along (p : Path) (link : Link) : Path :=
  match link.tree with
  | some tree => ⟨link.node, tree :: p.trees, if tree.extra then p.depth else p.depth + 1⟩
  | none => ⟨link.node, p.trees, p.depth + 1⟩

structure Choice where
  take : Bool
  stop : Bool

structure Slice where
  version : Nat
  trees : List Subtree

def insertAfter (slices : List Slice) (version : Nat) (new : Slice) : List Slice :=
  let back := slices.reverse
  (back.dropWhile (·.version != version)).reverse
    ++ new :: (back.takeWhile (·.version != version)).reverse

def addSlice (s : Stack) (version : Nat) (slices : List Slice) (path : Path) :
    Stack × List Slice :=
  match slices.reverse.find? (fun slice => (s.head slice.version).node == path.node) with
  | some slice => (s, insertAfter slices slice.version ⟨slice.version, path.trees⟩)
  | none =>
      let head := s.head version
      let new : Head := ⟨path.node, head.layout, .active, none, head.countAtError⟩
      ({ s with heads := s.heads.push new }, slices ++ [⟨s.heads.size, path.trees⟩])

structure Walk (σ : Type) where
  stack : Stack
  slices : List Slice
  memory : σ
  kept : List Path
  added : List Path

def walkStep {σ : Type} (version : Nat) (choose : σ → Vertex → Path → σ × Choice)
    (waiting : Nat) (w : Walk σ) (path : Path) : Walk σ :=
  let vertex := w.stack.vertex path.node
  let (memory, choice) := choose w.memory vertex path
  let w := { w with memory }
  let w :=
    if choice.take then
      let (stack, slices) := addSlice w.stack version w.slices path
      { w with stack, slices }
    else w
  if choice.stop then w
  else
    match vertex.links with
    | [] => w
    | first :: others =>
        let room := maxPaths - (w.kept.length + waiting + w.added.length)
        { w with
          kept := w.kept ++ [path.along first]
          added := w.added ++ (others.take room).map path.along }

def walkRound {σ : Type} (version : Nat) (choose : σ → Vertex → Path → σ × Choice) :
    List Path → Walk σ → Walk σ
  | [], w => w
  | path :: paths, w => walkRound version choose paths
      (walkStep version choose (paths.length + 1) w path)

def walk {σ : Type} (version : Nat) (choose : σ → Vertex → Path → σ × Choice) :
    Nat → List Path → Walk σ → Walk σ
  | 0, _, w => w
  | _, [], w => w
  | fuel + 1, paths, w =>
      let w := walkRound version choose paths w
      walk version choose fuel (w.kept ++ w.added) { w with kept := [], added := [] }

def walkFrom {σ : Type} (s : Stack) (version : Nat) (memory : σ)
    (choose : σ → Vertex → Path → σ × Choice) : Walk σ :=
  walk version choose (s.nodes.size + 2) [⟨(s.head version).node, [], 0⟩]
    ⟨s, [], memory, [], []⟩

def popCount (s : Stack) (version count : Nat) : Stack × List Slice :=
  let w := s.walkFrom version () fun _ _ path =>
    let arrived := path.depth == count
    ((), ⟨arrived, arrived⟩)
  (w.stack, w.slices)

def popAll (s : Stack) (version : Nat) : Stack × List Slice :=
  let w := s.walkFrom version () fun _ vertex _ => ((), ⟨vertex.links.isEmpty, false⟩)
  (w.stack, w.slices)

def popError (s : Stack) (version : Nat) : Stack × Option Subtree :=
  if (s.top version).links.any (fun link =>
      match link.tree with | some tree => tree.isError | none => false) then
    let w := s.walkFrom version false fun found _ path =>
      match path.trees with
      | [] => (found, ⟨false, false⟩)
      | tree :: _ =>
          if !found && tree.isError then (true, ⟨true, true⟩) else (found, ⟨false, true⟩)
    match w.slices with
    | slice :: _ => (w.stack.renumber slice.version version, slice.trees.head?)
    | [] => (s, none)
  else (s, none)

def recordRetreats (s : Stack) (version bound : Nat) : Stack :=
  let w := s.walkFrom version ([] : List Retreat) fun retreats vertex path =>
    if bound < path.depth then (retreats, ⟨false, true⟩)
    else if retreats.any (fun r => r.depth == path.depth && r.state == vertex.state) then
      (retreats, ⟨false, false⟩)
    else (retreats ++ [⟨path.depth, vertex.state, vertex.place⟩], ⟨false, false⟩)
  s.modifyHead version fun head => { head with retreats := some w.memory }

def advancedSinceError (s : Stack) (version : Nat) : Bool :=
  let head := s.head version
  let rec back : Nat → Nat → Bool
    | 0, _ => false
    | fuel + 1, node =>
        let vertex := s.vertex node
        match vertex.links with
        | ⟨previous, some tree⟩ :: _ =>
            if tree.bytes > 0 then true
            else if vertex.count > head.countAtError && tree.cost == 0 then back fuel previous
            else false
        | _ => false
  (s.top version).cost == 0 || back (s.nodes.size + 1) head.node

end Stack

end EnclosingScope.Parsing
