import EnclosingScope.Grammar.Automaton

namespace EnclosingScope.Grammar

inductive Action where
  | shift (state : Nat) (repetition : Bool)
  | shiftExtra
  | reduce (head count : Nat) (dynamic : Int) (labels : List (Option Label))
  | accept
  | recover
  deriving DecidableEq

structure State where
  actions : Array (List Action)
  gotos : Array (Nat × Nat)

structure Completed where
  actions : List Action
  level : Int
  left : Bool
  none : Bool
  right : Bool

namespace Completed

def add (c : Completed) (action : Action) (level : Int) (side : Option Side) : Completed :=
  if c.actions.isEmpty || level > c.level then
    ⟨[action], level, side == some .left, side == Option.none, side == some .right⟩
  else if level < c.level then c
  else
    ⟨c.actions ++ [action], level, c.left || side == some .left, c.none || side == Option.none,
      c.right || side == some .right⟩

def against (c : Completed) (levels : List Int) (shift : Action) : List Action :=
  let more := levels.any (· > c.level)
  let less := levels.any (· < c.level)
  if more && !less then [shift]
  else if less && !more then c.actions
  else if !less && !more then
    if c.left && !c.none && !c.right then c.actions
    else if c.right && !c.none && !c.left then [shift]
    else c.actions ++ [shift]
  else c.actions ++ [shift]

end Completed

namespace Frame

def level (item : Item) : Int :=
  item.position.level.getD 0

def finishAction (item : Item) : Action :=
  match item.position.head with
  | none => .accept
  | some head =>
      .reduce head item.position.passed.length item.position.dynamic item.position.passed

def complete (f : Frame) (kernel : Kernel) : List (Item × TokenSet) :=
  let done := (f.closure kernel).toList.filterMap fun (number, after) =>
    match f.table.items[number]? with
    | some item => if item.next.isNone then some (item, after) else none
    | none => none
  done.mergeSort fun a b => !b.1.position.before a.1.position

def begun (f : Frame) (kernel : Kernel) (token : Nat) : List Item :=
  kernel.toList.filterMap fun (number, _) =>
    match f.table.items[number]? with
    | some item =>
        match item.next with
        | some symbol =>
            if !item.position.passed.isEmpty && (f.firsts.getD symbol .empty).contains token
            then some item else none
        | none => none
    | none => none

-- All items belong to one repetition: going on is then only another way to group it.
def isRepetition (f : Frame) (items : List Item) : Bool :=
  match items with
  | [] => false
  | first :: rest =>
      match first.position.head with
      | none => false
      | some head =>
          f.grammar.repetitions.getD head false && rest.all (·.position.head == some head)

def actionsFor (f : Frame) (kernel : Kernel) (done : List (Item × TokenSet)) (token : Nat)
    (target : Option Nat) : List Action :=
  let done := done.filter (·.2.contains token)
  let completed : Completed := done.foldl (fun c (item, _) =>
    c.add (finishAction item) (level item) item.position.side) ⟨[], 0, false, false, false⟩
  match target with
  | none => completed.actions
  | some state =>
      if completed.actions.isEmpty then [.shift state false]
      else
        let begun := f.begun kernel token
        if f.isRepetition (begun ++ done.map (·.1)) then
          completed.actions ++ [.shift state true]
        else completed.against (begun.map level) (.shift state false)

def state (f : Frame) (kernel : Kernel) (edges : Array (Nat × Nat)) : State :=
  let done := f.complete kernel
  let tokens := done.foldl (fun set (_, after) => set.union after)
    (TokenSet.ofList (edges.toList.map (·.1) |>.filter (· < f.grammar.tokens.size)))
  let shifts := edges.toList.filter (·.1 < f.grammar.tokens.size)
  let actions := tokens.toList.foldl (fun (actions : Array (List Action)) token =>
    actions.setIfInBounds token (f.actionsFor kernel done token (shifts.lookup token)))
    (Array.replicate f.grammar.tokens.size [])
  let actions := f.grammar.extras.foldl (fun actions extra =>
    actions.modify extra fun known => if known.isEmpty then [.shiftExtra] else known) actions
  ⟨actions, edges.filter (·.1 ≥ f.grammar.tokens.size)⟩

def states (f : Frame) (c : Collection) : Array State :=
  c.kernels.zipWith (f.state · ·) c.edges

end Frame

end EnclosingScope.Grammar
