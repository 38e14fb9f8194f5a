import EnclosingScope.Grammar.Item

namespace EnclosingScope.Grammar

abbrev Kernel := Array (Nat × TokenSet)

structure Spread where
  symbol : Nat
  follow : TokenSet
  inherits : Bool
  deriving DecidableEq

structure Frame where
  grammar : Productions
  table : ItemTable
  firsts : Array TokenSet
  spreads : Array (Array Spread)

namespace Frame

def directSpreads (g : Productions) (firsts : Array TokenSet) (symbol : Nat) : List Spread :=
  (g.productions.toList.filter (·.head == symbol)).filterMap fun production =>
    match production.steps with
    | [] => none
    | step :: rest =>
        if step.symbol < g.tokens.size then none
        else
          match rest with
          | [] => some ⟨step.symbol, .empty, true⟩
          | next :: _ => some ⟨step.symbol, firsts.getD next.symbol .empty, false⟩

def addSpread (known : List Spread) (new : Spread) : List Spread × Bool :=
  match known.find? (·.symbol == new.symbol) with
  | none => (known ++ [new], true)
  | some old =>
      let merged : Spread :=
        ⟨old.symbol, old.follow.union new.follow, old.inherits || new.inherits⟩
      if merged == old then (known, false)
      else (known.map fun s => if s.symbol == new.symbol then merged else s, true)

def allSpreads (direct : Array (List Spread)) : Nat → List Spread → List Spread → List Spread
  | 0, known, _ => known
  | _, known, [] => known
  | fuel + 1, known, new :: todo =>
      match addSpread known new with
      | (known, false) => allSpreads direct fuel known todo
      | (known, true) =>
          let further := (direct.getD new.symbol []).map fun s : Spread =>
            if s.inherits then
              ⟨s.symbol, s.follow.union new.follow, new.inherits⟩
            else s
          allSpreads direct fuel known (further ++ todo)

def ofLanguage (language : Language) : Frame :=
  let g := language.compile
  let firsts := firstTokens g
  let direct := (Array.range g.appearances.size).map fun symbol =>
    if symbol < g.tokens.size then [] else directSpreads g firsts symbol
  let spreads := (Array.range g.appearances.size).map fun symbol =>
    if symbol < g.tokens.size then #[]
    else (allSpreads direct 100000 [] [⟨symbol, .empty, true⟩]).toArray
  ⟨g, .ofProductions g, firsts, spreads⟩

def follows (f : Frame) (kernel : Kernel) : Array TokenSet :=
  kernel.foldl (fun follows (number, after) =>
    match f.table.items[number]? with
    | none => follows
    | some item =>
        match item.next with
        | none => follows
        | some symbol =>
            let after :=
              match item.position.rest with
              | _ :: step :: _ => f.firsts.getD step.symbol .empty
              | _ => after
            (f.spreads.getD symbol #[]).foldl (fun follows spread =>
              follows.modify spread.symbol fun set =>
                let set := set.union spread.follow
                if spread.inherits then set.union after else set) follows)
    (Array.replicate f.grammar.appearances.size .empty)

def closure (f : Frame) (kernel : Kernel) : Array (Nat × TokenSet) :=
  let follows := f.follows kernel
  (Array.range follows.size).foldl (fun all symbol =>
    let after := follows.getD symbol .empty
    if after.isEmpty then all
    else (f.table.starts.getD symbol #[]).foldl (fun all number => all.push (number, after)) all)
    kernel

def mergeSorted (items : List (Nat × TokenSet)) : List (Nat × TokenSet) → List (Nat × TokenSet)
  | [] => items.reverse
  | (number, after) :: rest =>
      match items with
      | (last, lastAfter) :: front =>
          if last == number then mergeSorted ((last, lastAfter.union after) :: front) rest
          else mergeSorted ((number, after) :: items) rest
      | [] => mergeSorted [(number, after)] rest

def normalise (items : Array (Nat × TokenSet)) : Kernel :=
  if items.size ≤ 1 then items
  else (mergeSorted [] (items.toList.mergeSort fun a b => a.1 ≤ b.1)).toArray

def successors (f : Frame) (kernel : Kernel) : Array (Nat × Kernel) :=
  let buckets : Array Kernel := Array.replicate f.grammar.appearances.size #[]
  let (buckets, met) := (f.closure kernel).foldl (fun (buckets, met) (number, after) =>
    match f.table.items[number]? with
    | none => (buckets, met)
    | some item =>
        match item.next with
        | none => (buckets, met)
        | some symbol =>
            let met := if (buckets.getD symbol #[]).isEmpty then met.push symbol else met
            (buckets.modify symbol (·.push (item.successor, after)), met))
    (buckets, (#[] : Array Nat))
  met.map fun symbol => (symbol, normalise (buckets.getD symbol #[]))

end Frame

-- State 0 stands for a place where nothing is expected.
structure Collection where
  kernels : Array Kernel
  edges : Array (Array (Nat × Nat))
  numbers : Std.HashMap Kernel Nat

namespace Collection

def enter (c : Collection) (kernel : Kernel) : Collection × Nat :=
  match c.numbers.get? kernel with
  | some number => (c, number)
  | none =>
      let number := c.kernels.size
      (⟨c.kernels.push kernel, c.edges, c.numbers.insert kernel number⟩, number)

def expand (f : Frame) (c : Collection) (kernel : Kernel) : Collection :=
  let (c, edges) := (f.successors kernel).foldl
    (fun (c, edges) (symbol, kernel) =>
      let (c, target) := c.enter kernel
      (c, edges.push (symbol, target)))
    (c, #[])
  { c with edges := c.edges.push edges }

def grow (f : Frame) : Nat → Collection → Collection
  | 0, c => c
  | fuel + 1, c =>
      match c.kernels[c.edges.size]? with
      | none => c
      | some kernel => grow f fuel (c.expand f kernel)

-- The bound only has to be larger than the number of states that can be reached.
def ofFrame (f : Frame) : Collection :=
  grow f 1000000 ⟨#[#[], #[(f.table.origin, .singleton 0)]], #[#[]], ∅⟩

end Collection

end EnclosingScope.Grammar
