import EnclosingScope.Grammar.Action
import EnclosingScope.Grammar.Lexis

namespace EnclosingScope.Grammar

structure Groups where
  members : Array (List Nat)
  group : Array Nat

namespace Groups

def ofKeys (keys : Array (List Nat)) : Groups :=
  let (members, group, _) := (Array.range keys.size).foldl
    (fun (members, group, numbers) state =>
      let key := keys.getD state []
      match numbers.get? key with
      | some number =>
          (members.modify number (state :: ·), group.push number, numbers)
      | none =>
          (members.push [state], group.push members.size, numbers.insert key members.size))
    ((#[] : Array (List Nat)), (#[] : Array Nat), (∅ : Std.HashMap (List Nat) Nat))
  ⟨members.map List.reverse, group⟩

def partition (apart : Nat → Nat → Bool) : Nat → List Nat → List Nat × List Nat
  | 0, states => (states, [])
  | _, [] => ([], [])
  | fuel + 1, state :: states =>
      let (out, kept) := states.partition (apart state)
      let (kept, more) := partition apart fuel kept
      (state :: kept, out ++ more)

def splitFrom (apart : Groups → Nat → Nat → Bool) : Nat → Nat → Groups → Bool → Groups × Bool
  | 0, _, g, changed => (g, changed)
  | fuel + 1, i, g, changed =>
      match g.members[i]? with
      | none => (g, changed)
      | some states =>
          let (kept, out) := partition (apart g) states.length states
          if out.isEmpty then splitFrom apart fuel (i + 1) g changed
          else
            let new := g.members.size
            let out := out.mergeSort
            let members := (g.members.setIfInBounds i kept).push out
            let group := out.foldl (fun group state => group.setIfInBounds state new) g.group
            splitFrom apart fuel (i + 1) ⟨members, group⟩ true

def settle (apart : Groups → Nat → Nat → Bool) (bound : Nat) : Nat → Groups → Groups
  | 0, g => g
  | rounds + 1, g =>
      let (g, changed) := splitFrom apart bound 0 g false
      if changed then settle apart bound rounds g else g

end Groups

structure Table where
  grammar : Productions
  states : Array State
  cutOf : Array Nat
  -- Tokens that can be cut from a text together; keywords are cut as identifiers.
  cuts : Array (List (Nat × Token))
  keywords : Std.HashMap String Nat

namespace Table

def tokensOf (state : State) : TokenSet :=
  (state.actions.toList.zipIdx).foldl (fun set (actions, token) =>
    if actions.isEmpty then set else set.insert token) .empty

def sameAction (group : Array Nat) : Action → Action → Bool
  | .shift a repetitionA, .shift b repetitionB =>
      group.getD a 0 == group.getD b 0 && repetitionA == repetitionB
  | a, b => a == b

def sameActions (group : Array Nat) : List Action → List Action → Bool
  | [], [] => true
  | a :: as, b :: bs => sameAction group a b && sameActions group as bs
  | _, _ => false

def unwelcome (g : Productions) (lexis : Lexis) (keywords : TokenSet) (present : TokenSet)
    (token : Nat) : Bool :=
  match g.tokens[token]? with
  | none => true
  | some kind =>
      kind.isLayout || g.watched.contains token ||
        (token != 0 &&
          let rivals := (lexis.clashes.getD token .empty).inter present
          !((if kind == .identifier then rivals.toList.filter (!keywords.contains ·)
            else if keywords.contains token then
              rivals.toList.filter fun other => g.tokens[other]? != some .identifier
            else rivals.toList).isEmpty))

def stateSplit (g : Productions) (lexis : Lexis) (keywords : TokenSet) (states : Array State)
    (tokens : Array TokenSet) (groups : Groups) (a b : Nat) : Bool :=
  match states[a]?, states[b]? with
  | some x, some y =>
      let here := tokens.getD a .empty
      let there := tokens.getD b .empty
      (here.inter there).toList.any (fun token =>
        !sameActions groups.group (x.actions.getD token []) (y.actions.getD token [])) ||
      (here != there &&
        (here.union there).toList.any (fun token =>
          if here.contains token then
            !there.contains token && unwelcome g lexis keywords there token
          else unwelcome g lexis keywords here token))
  | _, _ => false

def shiftTarget (actions : List Action) : Option Nat :=
  match actions.getLast? with
  | some (.shift state _) => some state
  | _ => none

def successorSplit (states : Array State) (groups : Groups) (a b : Nat) : Bool :=
  match states[a]?, states[b]? with
  | some x, some y =>
      (List.range x.actions.size).any (fun token =>
        match shiftTarget (x.actions.getD token []), shiftTarget (y.actions.getD token []) with
        | some s, some t => groups.group.getD s 0 != groups.group.getD t 0
        | _, _ => false) ||
      x.gotos.any (fun (symbol, s) =>
        match y.gotos.find? (·.1 == symbol) with
        | some (_, t) => groups.group.getD s 0 != groups.group.getD t 0
        | none => false)
  | _, _ => false

def redirectAction (place : Nat → Nat) : Action → Action
  | .shift state repetition => .shift (place state) repetition
  | action => action

def redirect (place : Nat → Nat) (state : State) : State :=
  ⟨state.actions.map (·.map (redirectAction place)), state.gotos.map fun (s, t) => (s, place t)⟩

def joinStates (states : Array State) : List Nat → State
  | [] => ⟨#[], #[]⟩
  | first :: rest =>
      rest.foldl (fun joined number =>
        match states[number]? with
        | none => joined
        | some other =>
            ⟨joined.actions.zipWith (fun a b => if a.isEmpty then b else a) other.actions,
              other.gotos.foldl (fun gotos (symbol, target) =>
                if gotos.any (·.1 == symbol) then gotos else gotos.push (symbol, target))
                joined.gotos⟩)
        (states.getD first ⟨#[], #[]⟩)

def renamedTo (g : Productions) (labelled : List Nat) (state : State) : Option Nat :=
  let actions := (state.actions.toList.flatten).filter (· != .shiftExtra)
  match actions with
  | .reduce head 1 0 labels :: _ =>
      if labels.all Option.isNone && actions.all (· == .reduce head 1 0 labels) &&
          !g.grouping.getD head true && !labelled.contains head &&
          !(g.appearances.getD head ⟨"", true, true⟩).visible
      then some head else none
  | _ => none

def follow (renames : Array (Option Nat)) (gotos : Array (Nat × Nat)) : Nat → Nat → Nat
  | 0, target => target
  | fuel + 1, target =>
      match renames.getD target none with
      | none => target
      | some head =>
          match gotos.find? (·.1 == head) with
          | some (_, next) => follow renames gotos fuel next
          | none => target

def weight (state : State) : Nat :=
  (state.actions.toList.filter (!·.isEmpty)).length + state.gotos.size

def reach (states : Array State) : Nat → List Nat → Array Bool → Array Bool
  | 0, _, seen => seen
  | _, [], seen => seen
  | fuel + 1, number :: todo, seen =>
      if seen.getD number true then reach states fuel todo seen
      else
        match states[number]? with
        | none => reach states fuel todo seen
        | some state =>
            let targets := (state.actions.toList.flatten.filterMap fun action =>
              match action with
              | .shift target _ => some target
              | _ => none) ++ state.gotos.toList.map (·.2)
            reach states fuel (targets ++ todo) (seen.setIfInBounds number true)

def tidy (states : Array State) : Array State :=
  let seen := reach states 10000000 [0, 1] (Array.replicate states.size false)
  let rest := (List.range states.size).filter fun number =>
    number ≥ 2 && seen.getD number false
  let order := [0, 1] ++ ((rest.map fun number =>
    (number, weight (states.getD number ⟨#[], #[]⟩))).mergeSort fun a b => a.2 ≥ b.2).map (·.1)
  let places := order.zipIdx.foldl (fun (places : Array Nat) (number, place) =>
    places.setIfInBounds number place) (Array.replicate states.size 0)
  (order.map fun number =>
    redirect (places.getD · 0) (states.getD number ⟨#[], #[]⟩)).toArray

def companions (g : Productions) (tokens : Array TokenSet) : Array TokenSet :=
  tokens.foldl (fun found set =>
    set.toList.foldl (fun found token => found.modify token (·.union set)) found)
    (Array.replicate g.tokens.size .empty)

def compatible (lexis : Lexis) (companions : Array TokenSet) (a b : TokenSet) : Bool :=
  let rivals (token : Nat) : TokenSet :=
    (lexis.clashes.getD token .empty).union
      ((lexis.overlaps.getD token .empty).without (companions.getD token .empty))
  (a.without b).toList.all (fun token => ((rivals token).inter b).isEmpty) &&
    (b.without a).toList.all (fun token => ((rivals token).inter a).isEmpty)

def classify (fits : TokenSet → TokenSet → Bool) (set : TokenSet) :
    List TokenSet → List TokenSet × Nat
  | [] => ([set], 0)
  | known :: rest =>
      if fits known set then (known.union set :: rest, 0)
      else
        let (rest, place) := classify fits set rest
        (known :: rest, place + 1)

def classes (fits : TokenSet → TokenSet → Bool) (sets : Array TokenSet) :
    List TokenSet × Array Nat :=
  sets.foldl (fun (classes, places) set =>
    let (classes, place) := classify fits set classes
    (classes, places.push place)) ([], #[])

def cuttable (g : Productions) (set : TokenSet) : TokenSet :=
  TokenSet.ofList (set.toList.filterMap fun token =>
    match g.tokens[token]? with
    | none => none
    | some kind =>
        if kind.isLayout then none else if kind.isKeyword then some 1 else some token)

def recovering (free : Nat → Bool) (state : State) : State :=
  { state with
    actions := state.actions.mapIdx fun token actions =>
      if actions.isEmpty && free token then [.recover] else actions }

def isFree (g : Productions) (token : Nat) : Bool :=
  g.tokens[token]? != some .formatText

def compact (frame : Frame) (collection : Collection) : Table :=
  let g := frame.grammar
  let lexis := Lexis.ofProductions g frame.firsts
  let keywords := g.tokens.toList.zipIdx.filter (·.1.isKeyword)
  let keywordSet := TokenSet.ofList (keywords.map (·.2))
  let states := frame.states collection
  let tokens := states.map tokensOf
  let cores := collection.kernels.map fun kernel => kernel.toList.map (·.1)
  let groups := Groups.ofKeys cores
  let bound := 2 * states.size
  let groups := (Groups.splitFrom (stateSplit g lexis keywordSet states tokens) bound 0 groups
    false).1
  let groups := Groups.settle (successorSplit states) bound bound groups
  let joined := groups.members.map fun members =>
    redirect (groups.group.getD · 0) (joinStates states members)
  let labelled := (g.productions.toList.flatMap fun production =>
    production.steps.filterMap fun step =>
      if step.label.isSome then some step.symbol else none).eraseDups
  let renames := joined.map (renamedTo g labelled)
  let short := joined.map fun state => redirect (follow renames state.gotos 100) state
  let states := (tidy short).modify 0 (recovering (isFree g))
  let fits := compatible lexis (companions g (tokens.map (cuttable g)))
  let (cuts, cutOf) := classes fits (states.map fun state => cuttable g (tokensOf state))
  { grammar := g
    states
    cutOf
    cuts := (cuts.map fun set => set.toList.filterMap fun number =>
      (g.tokens[number]?).map fun token => (number, token)).toArray
    keywords := .ofList (keywords.filterMap fun (token, number) =>
      match token with
      | .literal text => some (text, number)
      | _ => none) }

def ofLanguage (language : Language) : Table :=
  let frame := Frame.ofLanguage language
  compact frame (Collection.ofFrame frame)

def cutsAt (table : Table) (state : Nat) : List (Nat × Token) :=
  table.cuts.getD (table.cutOf.getD state 0) []

def actions (table : Table) (state token : Nat) : List Action :=
  match table.states[state]? with
  | some state => state.actions.getD token []
  | none => []

def next (table : Table) (state symbol : Nat) : Nat :=
  if symbol < table.grammar.tokens.size then
    match (table.actions state symbol).getLast? with
    | some (.shift target _) => target
    | some .shiftExtra => state
    | _ => 0
  else
    match table.states[state]? with
    | some state =>
        match state.gotos.find? (·.1 == symbol) with
        | some (_, target) => target
        | none => 0
    | none => 0

end Table

end EnclosingScope.Grammar
