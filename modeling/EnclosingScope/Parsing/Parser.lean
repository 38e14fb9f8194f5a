import EnclosingScope.Parsing.Lexer
import EnclosingScope.Parsing.Stack

namespace EnclosingScope.Parsing

open EnclosingScope.Grammar

def maxVersions : Nat := 6
def maxExtraVersions : Nat := 4
def maxRetreat : Nat := 16

structure Setting where
  table : Table
  source : Source

structure Reading where
  stack : Stack
  finished : Option Subtree
  accepted : Nat

namespace Setting

def grammar (e : Setting) : Productions := e.table.grammar

def expects (e : Setting) (state token : Nat) : Bool :=
  !(e.table.actions state token).isEmpty

def tokenNumber (e : Setting) (token : Token) : Nat :=
  (e.grammar.tokens.findIdx? (· == token)).getD 0

def validLayout (e : Setting) (state : Nat) (token : Token) : Bool :=
  e.expects state (e.tokenNumber token)

def isExtraToken (e : Setting) (state token : Nat) : Bool :=
  e.table.next state token == state

-- A layout token that is empty and changes nothing must not be found again and again.
def isIdle (e : Setting) (stack : Stack) (version state : Nat) (skipping : Bool) (p : Place)
    (found : Layout.Found) : Bool :=
  found.stop.byte ≤ p.byte && (stack.head version).layout == some found.layout &&
    (skipping || !stack.advancedSinceError version ||
      e.isExtraToken state (e.tokenNumber found.token))

def layoutToken (e : Setting) (stack : Stack) (version state : Nat) (skipping : Bool)
    (p : Place) : Option Layout.Found :=
  let layout := ((stack.head version).layout).getD .initial
  match Layout.scan e.source layout (e.validLayout (if skipping then 0 else state)) p with
  | some found => if e.isIdle stack version state skipping p found then none else some found
  | none => none

def layoutLeaf (e : Setting) (stack : Stack) (version : Nat) (origin : Place)
    (found : Layout.Found) : Subtree :=
  { Subtree.leaf e.grammar (e.tokenNumber found.token) origin found.start found.stop with
    layout := some found.layout
    layoutChanged := (stack.head version).layout != some found.layout }

def wordLeaf (e : Setting) (state symbol : Nat) (origin start stop : Place) : Subtree :=
  if symbol == 1 then
    match e.table.keywords.get? (e.source.slice start stop) with
    | some keyword =>
        let reserved := e.expects state 1 && e.grammar.reserved.contains keyword
        let symbol := if e.expects state keyword || reserved then keyword else symbol
        { Subtree.leaf e.grammar symbol origin start stop with keyword := true }
    | none => Subtree.leaf e.grammar symbol origin start stop
  else Subtree.leaf e.grammar symbol origin start stop

structure Junk where
  start : Place
  stop : Place

def skipJunk (e : Setting) (stack : Stack) (version state : Nat) (origin : Place) :
    Nat → Place → Junk → Junk
  | 0, _, junk => junk
  | fuel + 1, p, junk =>
      match e.layoutToken stack version state true p with
      | some _ => junk
      | none =>
          match Lexer.cut e.source (e.table.cutsAt 0) p with
          | .token _ _ _ => junk
          | .nothing _ tried =>
              if tried.byte == junk.stop.byte then
                if e.source.atEnd tried then junk
                else
                  let next := e.source.step tried
                  skipJunk e stack version state origin fuel next { junk with stop := next }
              else skipJunk e stack version state origin fuel tried { junk with stop := tried }

def lex (e : Setting) (stack : Stack) (version state : Nat) : Subtree :=
  let place := stack.place version
  let p := if place.byte == 0 && e.source.peek place == some '\uFEFF' then e.source.step place
    else place
  let attempt (skipping : Bool) : Sum Subtree (Place × Place) :=
    match e.layoutToken stack version state skipping p with
    | some found => .inl (e.layoutLeaf stack version place found)
    | none =>
        match Lexer.cut e.source (e.table.cutsAt (if skipping then 0 else state)) p with
        | .token symbol start stop => .inl (e.wordLeaf state symbol place start stop)
        | .nothing start tried => .inr (start, tried)
  let first := if state == 0 then .inr (p, p) else attempt false
  match first with
  | .inl leaf => leaf
  | .inr _ =>
      match attempt true with
      | .inl leaf => leaf
      | .inr (start, tried) =>
          let junk : Junk :=
            if tried.byte == start.byte then ⟨start, e.source.step tried⟩ else ⟨start, tried⟩
          let junk := e.skipJunk stack version state place (e.source.size + 1) junk.stop junk
          Subtree.leaf e.grammar errorSymbol place junk.start junk.stop

end Setting

def chooseTree (e : Setting) (symbol : Nat) (labels : List (Option Label)) (p : Place)
    (trees : List Subtree) : List (List Subtree) → Subtree × List Subtree →
    Subtree × List Subtree
  | [], best => best
  | other :: others, best =>
      let (children, extras) := Subtree.splitExtras other
      let plain := Subtree.node e.grammar symbol children [] p
      let best :=
        if best.1.isWorse plain then
          (Subtree.node e.grammar symbol children labels p, extras)
        else best
      chooseTree e symbol labels p trees others best

structure Reduction where
  head : Nat
  count : Nat
  dynamic : Int
  labels : List (Option Label)

def pushAll (stack : Stack) (version state : Nat) (trees : List Subtree) : Stack :=
  trees.foldl (fun stack tree => stack.push version (some tree) state) stack

def mergeIntoEarlier (stack : Stack) (version first last : Nat) (skip : Option Nat) :
    Option Stack :=
  (List.range' first (last - first)).findSome? fun other =>
    if some other == skip then none else stack.merge other version

def reduceSlices (e : Setting) (r : Reduction) (version halted : Nat) :
    Nat → List Stack.Slice → Nat → Stack → Stack
  | 0, _, _, stack => stack
  | _, [], _, stack => stack
  | fuel + 1, slice :: slices, removed, stack =>
      let same := slices.takeWhile (·.version == slice.version)
      let later := slices.dropWhile (·.version == slice.version)
      let target := slice.version - removed
      if target > maxVersions + maxExtraVersions + halted then
        reduceSlices e r version halted fuel later (removed + 1) (stack.remove target)
      else
        let place := stack.place target
        let (children, extras) := Subtree.splitExtras slice.trees
        let parent := Subtree.node e.grammar r.head children r.labels place
        let (parent, extras) := chooseTree e r.head r.labels place []
          (same.map (·.trees)) (parent, extras)
        let parent := { parent with dynamic := parent.dynamic + r.dynamic }
        let next := e.table.next (stack.state target) r.head
        let stack := stack.push target (some parent) next
        let stack := pushAll stack target next extras
        match mergeIntoEarlier stack target 0 target (some version) with
        | some stack => reduceSlices e r version halted fuel later (removed + 1) stack
        | none => reduceSlices e r version halted fuel later removed stack

def reduce (e : Setting) (stack : Stack) (version : Nat) (r : Reduction) :
    Stack × Option Nat :=
  let before := stack.size
  let halted := stack.haltedCount
  let (stack, slices) := stack.popCount version r.count
  let stack := reduceSlices e r version halted (slices.length + 1) slices 0 stack
  (stack, if stack.size > before then some before else none)

def reductionsOf (actions : List Action) : List Reduction :=
  actions.filterMap fun action =>
    match action with
    | .reduce head count dynamic labels => some ⟨head, count, dynamic, labels⟩
    | _ => none

def hasShift (actions : List Action) : Bool :=
  actions.any fun action =>
    match action with
    | .shift _ repetition => !repetition
    | .recover => true
    | _ => false

def addReduction (known : List Reduction) (r : Reduction) : List Reduction :=
  if r.count == 0 || known.any (fun k => k.head == r.head && k.count == r.count) then known
  else known ++ [r]

-- A token of number 0 stands for any. Says whether that token can then be read.
def reduceAll (e : Setting) (token start first : Nat) :
    Nat → Nat → Nat → Bool → Stack → Stack × Bool
  | 0, _, _, able, stack => (stack, able)
  | fuel + 1, round, version, able, stack =>
      let size := stack.size
      if version ≥ size then (stack, able)
      else
        match mergeIntoEarlier stack version first version none with
        | some stack => reduceAll e token start first fuel (round + 1) version able stack
        | none =>
            let state := stack.state version
            let tokens :=
              if token == 0 then (List.range e.grammar.tokens.size).drop 1 else [token]
            let actions := tokens.map (e.table.actions state)
            let shifts := actions.any hasShift
            let reductions := (actions.flatMap reductionsOf).foldl addReduction []
            let (stack, last) := reductions.foldl (fun (stack, _) r => reduce e stack version r)
              (stack, (none : Option Nat))
            let next := if version == start then size else version + 1
            if shifts then
              reduceAll e token start first fuel (round + 1) next true stack
            else
              match last with
              | some source =>
                  if round < maxVersions then
                    reduceAll e token start first fuel (round + 1) version able
                      (stack.renumber source version)
                  else if token != 0 then
                    reduceAll e token start first fuel (round + 1) next able
                      (stack.remove version)
                  else reduceAll e token start first fuel (round + 1) next able stack
              | none =>
                  if token != 0 then
                    reduceAll e token start first fuel (round + 1) next able
                      (stack.remove version)
                  else reduceAll e token start first fuel (round + 1) next able stack

def reduceEverything (e : Setting) (stack : Stack) (version token : Nat) : Stack × Bool :=
  reduceAll e token version stack.size 10000 0 version false stack

structure Standing where
  cost : Nat
  count : Nat
  dynamic : Int
  inError : Bool

inductive Preference where
  | takeLeft
  | preferLeft
  | even
  | preferRight
  | takeRight
  deriving DecidableEq

def Standing.against (a b : Standing) : Preference :=
  if !a.inError && b.inError then
    if a.cost < b.cost then .takeLeft else .preferLeft
  else if a.inError && !b.inError then
    if b.cost < a.cost then .takeRight else .preferRight
  else if a.cost < b.cost then
    if (b.cost - a.cost) * (1 + a.count) > Cost.tolerance then .takeLeft else .preferLeft
  else if b.cost < a.cost then
    if (a.cost - b.cost) * (1 + b.count) > Cost.tolerance then .takeRight else .preferRight
  else if a.dynamic > b.dynamic then .preferLeft
  else if b.dynamic > a.dynamic then .preferRight
  else .even

def standing (stack : Stack) (version : Nat) : Standing :=
  let paused := stack.isPaused version
  { cost := stack.cost version + (if paused then Cost.skippedTree else 0)
    count := stack.progress version
    dynamic := (stack.top version).dynamic
    inError := paused || stack.state version == 0 }

def betterExists (r : Reading) (version : Nat) (inError : Bool) (cost : Nat) : Bool :=
  let stack := r.stack
  let here := stack.place version
  let mine : Standing :=
    ⟨cost, stack.progress version, (stack.top version).dynamic, inError⟩
  (match r.finished with
    | some tree => tree.cost ≤ cost
    | none => false) ||
  (List.range stack.size).any fun other =>
    other != version && stack.isActive other && here.byte ≤ (stack.place other).byte &&
      match mine.against (standing stack other) with
      | .takeRight => true
      | .preferRight => stack.canMerge other version
      | _ => false

def rootOf (e : Setting) (trees : List Subtree) : Option Subtree :=
  let back := trees.reverse
  match back.dropWhile (·.extra) with
  | [] => none
  | tree :: front =>
      let later := (back.takeWhile (·.extra)).reverse
      some (Subtree.node e.grammar tree.symbol (front.reverse ++ tree.children.toList ++ later)
        tree.labels .origin)

def acceptSlices (e : Setting) : List Stack.Slice → Reading → Reading
  | [], r => r
  | slice :: slices, r =>
      match rootOf e slice.trees with
      | none => acceptSlices e slices r
      | some root =>
          let finished :=
            match r.finished with
            | some known => if known.isWorse root then root else known
            | none => root
          acceptSlices e slices
            { r with finished := some finished, accepted := r.accepted + 1 }

def accept (e : Setting) (r : Reading) (version : Nat) (lookahead : Subtree) : Reading :=
  let stack := r.stack.push version (some lookahead) 1
  let (stack, slices) := stack.popAll version
  let r := acceptSlices e slices { r with stack }
  let stack :=
    match slices with
    | slice :: _ => r.stack.remove slice.version
    | [] => r.stack
  { r with stack := stack.halt version }

def retreatOn (e : Setting) (stack : Stack) (version goal : Nat) (trees : List Subtree) :
    Stack :=
  let (stack, known) := stack.popError version
  let trees :=
    match known with
    | some tree => tree.children.toList ++ trees
    | none => trees
  let (children, extras) := Subtree.splitExtras trees
  let stack :=
    if children.isEmpty then stack
    else
      let error := Subtree.node e.grammar errorSymbol children [] (stack.place version)
      stack.push version (some { error with extra := true }) goal
  pushAll stack version goal extras

def retreatSlices (e : Setting) (goal : Nat) : List Stack.Slice → Option Nat → Stack →
    Stack × Bool
  | [], previous, stack => (stack, previous.isSome)
  | slice :: slices, previous, stack =>
      if previous == some slice.version then retreatSlices e goal slices previous stack
      else if stack.state slice.version != goal then
        retreatSlices e goal slices previous (stack.halt slice.version)
      else
        retreatSlices e goal slices (some slice.version)
          (retreatOn e stack slice.version goal slice.trees)

def retreat (e : Setting) (stack : Stack) (version depth goal : Nat) : Stack × Bool :=
  let (stack, slices) := stack.popCount version depth
  retreatSlices e goal slices none stack

def retreatAny (e : Setting) (version versions cost : Nat) (skippedSome : Bool)
    (lookahead : Subtree) : List Retreat → Reading → Reading × Bool
  | [], r => (r, false)
  | entry :: entries, r =>
      let stack := r.stack
      let here := stack.place version
      if entry.state == 0 || entry.place.byte == here.byte ||
          (List.range versions).any (fun other =>
            stack.state other == entry.state && (stack.place other).byte == here.byte) then
        retreatAny e version versions cost skippedSome lookahead entries r
      else
        let newCost := cost + entry.depth * Cost.skippedTree
          + (here.byte - entry.place.byte) * Cost.skippedChar
          + (here.row - entry.place.row) * Cost.skippedLine
        if betterExists r version false newCost then (r, false)
        else if e.expects entry.state lookahead.symbol then
          let depth := if skippedSome then entry.depth + 1 else entry.depth
          match retreat e stack version depth entry.state with
          | (stack, true) => ({ r with stack }, true)
          | (stack, false) =>
              retreatAny e version versions cost skippedSome lookahead entries { r with stack }
        else retreatAny e version versions cost skippedSome lookahead entries r

def dropInactive (first : Nat) : Nat → Nat → Stack → Stack
  | 0, _, stack => stack
  | fuel + 1, version, stack =>
      if version < stack.size then
        if stack.isActive version then dropInactive first fuel (version + 1) stack
        else dropInactive first fuel version (stack.remove version)
      else stack

def skipToken (e : Setting) (stack : Stack) (version : Nat) (skippedSome : Bool)
    (lookahead : Subtree) : Stack :=
  let lookahead :=
    match (e.table.actions 1 lookahead.symbol).getLast? with
    | some .shiftExtra => { lookahead with extra := true }
    | _ => lookahead
  let place := stack.place version
  let alone := Subtree.node e.grammar skippedSymbol [lookahead] [] place
  let (stack, skipped) :=
    if skippedSome then
      let (popped, slices) := stack.popCount version 1
      match slices with
      | [] => (stack, alone)
      | slice :: others =>
          let popped :=
            if others.isEmpty then popped
            else { popped with heads := popped.heads.extract 0 (slice.version + 1) }
          (popped.renumber slice.version version,
            Subtree.node e.grammar skippedSymbol (slice.trees ++ [alone]) [] place)
    else (stack, alone)
  let stack := stack.push version (some skipped) 0
  if lookahead.layout.isSome then stack.setLayout version lookahead.layout else stack

def recover (e : Setting) (r : Reading) (version : Nat) (lookahead : Subtree) : Reading :=
  let versions := r.stack.size
  let r := { r with stack := r.stack.settleMark version }
  let progress := r.stack.progress version
  let cost := r.stack.cost version
  let retreats := ((r.stack.head version).retreats).getD []
  let (r, did) :=
    if lookahead.isError then (r, false)
    else retreatAny e version versions cost (progress > 0) lookahead retreats r
  let stack := dropInactive versions (r.stack.size + 1) versions r.stack
  let r := { r with stack }
  if lookahead.isEnd then
    let error := Subtree.node e.grammar errorSymbol [] [] (stack.place version)
    accept e { r with stack := stack.push version (some error) 1 } version lookahead
  else if did && (stack.size > maxVersions || lookahead.layoutChanged) then
    { r with stack := stack.halt version }
  else
    let newCost := cost + Cost.skippedTree + lookahead.bytes * Cost.skippedChar
      + lookahead.rows * Cost.skippedLine
    if betterExists r version false newCost then { r with stack := stack.halt version }
    else { r with stack := skipToken e stack version (progress > 0) lookahead }

def supplyMissing (e : Setting) (stack : Stack) (version : Nat) (lookahead : Subtree) :
    List Nat → Stack × Bool
  | [] => (stack, false)
  | symbol :: symbols =>
      let state := stack.state version
      let next := e.table.next state symbol
      let reduces :=
        match (e.table.actions next lookahead.symbol).head? with
        | some (.reduce _ _ _ _) => true
        | _ => false
      if next == 0 || next == state || !reduces then
        supplyMissing e stack version lookahead symbols
      else
        let copied := stack.copy version
        let new := copied.size - 1
        let missing := Subtree.absent e.grammar symbol (stack.place version)
        let (stack, able) := reduceEverything e (copied.push new (some missing) next) new
          lookahead.symbol
        if able then (stack, true) else supplyMissing e stack version lookahead symbols

def breakOff (e : Setting) (lookahead : Subtree) (version previous count : Nat) :
    Nat → Nat → Bool → Stack → Stack
  | 0, _, _, stack => stack
  | fuel + 1, v, supplied, stack =>
      if v ≥ count then stack
      else
        let (stack, supplied) :=
          if supplied then (stack, true)
          else supplyMissing e stack v lookahead ((List.range e.grammar.tokens.size).drop 1)
        let stack := stack.push v none 0
        breakOff e lookahead version previous count fuel
          (if v == version then previous else v + 1) supplied stack

def handleError (e : Setting) (r : Reading) (version : Nat) (lookahead : Subtree) : Reading :=
  let previous := r.stack.size
  let (stack, _) := reduceEverything e r.stack version 0
  let count := stack.size
  let stack := breakOff e lookahead version previous count (count + 1) version false stack
  let stack := (List.range (count - previous)).foldl (fun stack _ =>
    (stack.merge version previous).getD stack) stack
  let stack := stack.recordRetreats version maxRetreat
  recover e { r with stack } version lookahead

inductive Turn where
  | shift (state : Nat) (extra : Bool)
  | accept
  | recover
  | done (last : Option Nat) (reduced : Bool)

def takeTurn (e : Setting) (version : Nat) : List Action → Stack → Option Nat → Bool →
    Stack × Turn
  | [], stack, last, reduced => (stack, .done last reduced)
  | action :: actions, stack, last, reduced =>
      match action with
      | .shift _ true => takeTurn e version actions stack last reduced
      | .shift state false => (stack, .shift state false)
      | .shiftExtra => (stack, .shift (stack.state version) true)
      | .accept => (stack, .accept)
      | .recover => (stack, .recover)
      | .reduce head count dynamic labels =>
          let (stack, new) := reduce e stack version ⟨head, count, dynamic, labels⟩
          takeTurn e version actions stack (new <|> last) true

def shiftToken (stack : Stack) (version state : Nat) (extra : Bool) (lookahead : Subtree) :
    Stack :=
  let stack := stack.push version (some { lookahead with extra }) state
  if lookahead.layout.isSome then stack.setLayout version lookahead.layout else stack

def advance (e : Setting) (version : Nat) : Nat → Subtree → Reading → Reading
  | 0, _, r => { r with stack := r.stack.halt version }
  | fuel + 1, lookahead, r =>
      let state := r.stack.state version
      match takeTurn e version (e.table.actions state lookahead.symbol) r.stack none false with
      | (stack, .shift next extra) =>
          { r with stack := shiftToken stack version next extra lookahead }
      | (stack, .accept) => accept e { r with stack } version lookahead
      | (stack, .recover) => recover e { r with stack } version lookahead
      | (stack, .done (some last) _) =>
          advance e version fuel lookahead { r with stack := stack.renumber last version }
      | (stack, .done none true) => { r with stack := stack.halt version }
      | (stack, .done none false) =>
          if lookahead.keyword && lookahead.symbol != 1 &&
              !(e.expects state 1 && e.grammar.reserved.contains lookahead.symbol) &&
              e.expects state 1 then
            advance e version fuel
              { lookahead with symbol := 1, visible := Subtree.isVisible e.grammar 1 } r
          else if state == 0 then recover e { r with stack } version lookahead
          else { r with stack := stack.pause version lookahead }

def advanceVersion (e : Setting) (version : Nat) : Nat → Nat → Reading → Reading × Nat
  | 0, last, r => (r, last)
  | fuel + 1, last, r =>
      if r.stack.isActive version then
        let lookahead := e.lex r.stack version (r.stack.state version)
        let bound := (r.stack.nodes.size + 10) * e.grammar.appearances.size
        let r := advance e version bound lookahead r
        let here := (r.stack.place version).byte
        if here > last || (version > 0 && here == last) then (r, here)
        else advanceVersion e version fuel last r
      else (r, last)

def advanceAll (e : Setting) : Nat → Nat → Nat → Reading → Reading × Nat × Nat
  | 0, version, last, r => (r, last, version)
  | fuel + 1, version, last, r =>
      if version < r.stack.size then
        let (r, last) := advanceVersion e version (10 * e.source.size + 1000) last r
        advanceAll e fuel (version + 1) last r
      else (r, last, r.stack.size)

structure Sorting where
  stack : Stack
  least : Option Nat

def lower (least : Option Nat) (cost : Nat) : Option Nat :=
  match least with
  | some known => some (min known cost)
  | none => some cost

def sortOne (mine : Standing) : Nat → Nat → Nat → Stack → Stack × Nat
  | 0, i, _, stack => (stack, i + 1)
  | fuel + 1, i, j, stack =>
      if j < i then
        match (standing stack j).against mine with
        | .takeLeft => (stack.remove i, i)
        | .preferLeft | .even =>
            match stack.merge j i with
            | some stack => (stack, i)
            | none => sortOne mine fuel i (j + 1) stack
        | .preferRight =>
            match stack.merge j i with
            | some stack => (stack, i)
            | none => sortOne mine fuel i (j + 1) (stack.swap i j)
        | .takeRight => sortOne mine fuel (i - 1) j (stack.remove j)
      else (stack, i + 1)

def sortVersions : Nat → Nat → Sorting → Sorting
  | 0, _, s => s
  | fuel + 1, i, s =>
      if i < s.stack.size then
        if s.stack.isHalted i then sortVersions fuel i { s with stack := s.stack.remove i }
        else
          let stack := s.stack.settleMark i
          let mine := standing stack i
          let least := if mine.inError then s.least else lower s.least mine.cost
          let (stack, next) := sortOne mine (stack.size + 1) i 0 stack
          sortVersions fuel next ⟨stack, least⟩
      else s

def resumeVersions (e : Setting) (bound : Nat) :
    Nat → Nat → Bool → Reading → Option Nat → Reading × Option Nat
  | 0, _, _, r, least => (r, least)
  | fuel + 1, i, going, r, least =>
      if i < bound then
        match (r.stack.head i).status with
        | .paused lookahead =>
            if !going && r.accepted < maxVersions then
              let least := some (r.stack.cost i)
              let stack := r.stack.modifyHead i fun head => { head with status := .active }
              let r := handleError e { r with stack } i lookahead
              resumeVersions e bound fuel (i + 1) true r least
            else
              resumeVersions e (bound - 1) fuel i going { r with stack := r.stack.remove i }
                least
        | _ => resumeVersions e bound fuel (i + 1) true r least
      else (r, least)

def condense (e : Setting) (r : Reading) : Reading × Option Nat :=
  let sorted := sortVersions (4 * r.stack.size + 10) 0 ⟨r.stack, none⟩
  let stack := { sorted.stack with heads := sorted.stack.heads.extract 0 maxVersions }
  resumeVersions e stack.size (stack.size + 1) 0 false { r with stack } sorted.least

def readAll (e : Setting) : Nat → Nat → Reading → Reading
  | 0, _, r => r
  | fuel + 1, last, r =>
      let (r, last, versions) := advanceAll e 1000 0 last r
      let (r, least) := condense e r
      let won :=
        match r.finished, least with
        | some tree, some least => tree.cost < least
        | some _, none => true
        | none, _ => false
      if won || versions == 0 then r else readAll e fuel last r

def read (table : Table) (text : String) : Option Subtree :=
  let source := Source.ofString text
  (readAll ⟨table, source⟩ (100 * source.size + 1000) 0 ⟨.initial, none, 0⟩).finished

end EnclosingScope.Parsing
