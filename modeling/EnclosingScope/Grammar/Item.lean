import EnclosingScope.Grammar.Production
import EnclosingScope.Grammar.TokenSet

namespace EnclosingScope.Grammar

structure Position where
  head : Option Nat
  passed : List (Option Label)
  level : Option Int
  side : Option Side
  rest : List Step
  dynamic : Int
  deriving DecidableEq, Hashable

namespace Position

def start (head : Option Nat) (steps : List Step) (dynamic : Int) : Position :=
  ⟨head, [], none, none, steps, dynamic⟩

def advance (p : Position) : Position :=
  match p.rest with
  | [] => p
  | step :: rest =>
      { p with
        passed := p.passed ++ [step.label], level := step.level, side := step.side, rest }

def length (p : Position) : Nat :=
  p.passed.length + p.rest.length

def sideRank : Option Side → Nat
  | none => 0
  | some .left => 1
  | some .right => 2

def before (a b : Position) : Bool :=
  let keys (p : Position) : List Int :=
    [p.passed.length, match p.head with | none => 1000000 | some head => head, p.dynamic, p.length,
      match p.level with | none => -1000 | some level => level, sideRank p.side]
  keys a < keys b

end Position

structure Item where
  position : Position
  next : Option Nat
  successor : Nat

structure ItemTable where
  items : Array Item
  numbers : Std.HashMap Position Nat
  starts : Array (Array Nat)
  origin : Nat

namespace ItemTable

def add (items : Array Item × Std.HashMap Position Nat) (p : Position) :
    List Step → (Array Item × Std.HashMap Position Nat) × Nat
  | [] =>
      match items.2.get? p with
      | some number => (items, number)
      | none => ((items.1.push ⟨p, none, 0⟩, items.2.insert p items.1.size), items.1.size)
  | step :: steps =>
      match items.2.get? p with
      | some number => (items, number)
      | none =>
          let (items, successor) := add items p.advance steps
          ((items.1.push ⟨p, some step.symbol, successor⟩, items.2.insert p items.1.size),
            items.1.size)

def ofProductions (g : Productions) : ItemTable :=
  let first := Position.start none [⟨g.start, none, none, none⟩] 0
  let (items, origin) := add (#[], ∅) first first.rest
  let starts : Array (Array Nat) := Array.replicate g.appearances.size #[]
  let (items, starts) := g.productions.foldl (fun (items, starts) production =>
    let p := Position.start (some production.head) production.steps production.dynamic
    let (items, number) := add items p p.rest
    (items, starts.modify production.head fun known =>
      if known.contains number then known else known.push number)) (items, starts)
  ⟨items.1, items.2, starts, origin⟩

end ItemTable

def firstTokens (g : Productions) : Array TokenSet :=
  let step (firsts : Array TokenSet) : Array TokenSet :=
    g.productions.foldl (fun firsts production =>
      match production.steps with
      | [] => firsts
      | step :: _ =>
          firsts.modify production.head (·.union (firsts.getD step.symbol .empty))) firsts
  let base := (Array.range g.appearances.size).map fun symbol =>
    if symbol < g.tokens.size then TokenSet.singleton symbol else .empty
  let rec settle : Nat → Array TokenSet → Array TokenSet
    | 0, firsts => firsts
    | rounds + 1, firsts =>
        let next := step firsts
        if next == firsts then firsts else settle rounds next
  settle g.appearances.size base

end EnclosingScope.Grammar
