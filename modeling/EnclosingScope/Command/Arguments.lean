import EnclosingScope.Command.Interface
import EnclosingScope.Decimal.Digits
import EnclosingScope.Text.Similar

namespace EnclosingScope.Command

inductive CountError where
  | empty
  | invalidDigit
  | tooLarge
  deriving DecidableEq, Repr

def CountError.message : CountError → String
  | empty => "cannot parse integer from empty string"
  | invalidDigit => "invalid digit found in string"
  | tooLarge => "number too large to fit in target type"

def countFrom (n : Nat) : List Char → Except CountError Nat
  | [] => .ok n
  | c :: cs =>
      if !Decimal.isDigit c then .error .invalidDigit
      else if 2 ^ 64 ≤ 10 * n + Decimal.digitValue c then .error .tooLarge
      else countFrom (10 * n + Decimal.digitValue c) cs

def parseCount (text : String) : Except CountError UInt64 :=
  match text.toList with
  | [] => .error .empty
  | ['+'] => .error .invalidDigit
  | '+' :: cs => (countFrom 0 cs).map Nat.toUInt64
  | cs => (countFrom 0 cs).map Nat.toUInt64

inductive Refusal where
  | unexpected (argument : String) (similar : Option String) (tips : List String)
      (usage : String)
  | unexpectedValue (value argument usage : String)
  | repeated (argument usage : String)
  | noValue (argument : String)
  | invalidValue (value argument : String) (error : CountError)
  | missing (arguments : List String) (usage : String)
  | noCommand (commands : List String) (usage : String)
  | unknownCommand (name : String) (similar : List String) (usage : String) (hasHelp : Bool)
  deriving DecidableEq, Repr

namespace Refusal

def inQuotes (text : String) : String := "'" ++ text ++ "'"

def moreHelp : String := "\n\nFor more information, try '--help'.\n"

def tip (text : String) : String := "\n  tip: " ++ text

def similarCommands (names : List String) : List String :=
  match names with
  | [] => []
  | [name] => ["a similar subcommand exists: " ++ inQuotes name]
  | names =>
      ["some similar subcommands exist: " ++ String.intercalate ", " (names.map inQuotes)]

def withTips (tips : List String) : String :=
  if tips.isEmpty then "" else "\n" ++ String.join (tips.map tip)

def body : Refusal → String
  | unexpected argument similar tips usage =>
      let tips := (similar.map fun name => "a similar argument exists: " ++ inQuotes name).toList
        ++ tips
      "unexpected argument " ++ inQuotes argument ++ " found" ++ withTips tips ++ "\n\n" ++ usage
  | unexpectedValue value argument usage =>
      "unexpected value " ++ inQuotes value ++ " for " ++ inQuotes argument
        ++ " found; no more were expected\n\n" ++ usage
  | repeated argument usage =>
      "the argument " ++ inQuotes argument ++ " cannot be used multiple times\n\n" ++ usage
  | noValue argument =>
      "a value is required for " ++ inQuotes argument ++ " but none was supplied"
  | invalidValue value argument error =>
      "invalid value " ++ inQuotes value ++ " for " ++ inQuotes argument ++ ": " ++ error.message
  | missing arguments usage =>
      "the following required arguments were not provided:"
        ++ String.join (arguments.map ("\n  " ++ ·)) ++ "\n\n" ++ usage
  | noCommand commands usage =>
      inQuotes Interface.program ++ " requires a subcommand but one was not provided\n"
        ++ "  [subcommands: " ++ String.intercalate ", " commands ++ "]\n\n" ++ usage
  | unknownCommand name similar usage _ =>
      "unrecognized subcommand " ++ inQuotes name ++ withTips (similarCommands similar)
        ++ "\n\n" ++ usage

def message (r : Refusal) : String :=
  let ending := match r with
    | unknownCommand _ _ _ false => "\n"
    | _ => moreHelp
  "error: " ++ r.body ++ ending

end Refusal

inductive Stop where
  | help (text : String)
  | noRequest (text : String)
  | version
  | refused (refusal : Refusal)

structure Pending where
  name : String
  isOperand : Bool
  values : List String

inductive Expecting where
  | anything
  | value
  | operands
  deriving DecidableEq

structure Arguments where
  given : List (String × List String) := []
  pending : Option Pending := none
  expecting : Expecting := .anything
  operandTaken : Bool := false
  onlyOperands : Bool := false

namespace Arguments

def names (a : Arguments) : List String := a.given.map (·.1)

def valuesOf (a : Arguments) (name : String) : List String :=
  match a.given.find? (·.1 = name) with
  | some (_, values) => values
  | none => []

def has (a : Arguments) (name : String) : Bool := a.names.contains name

def give (a : Arguments) (name : String) (values : List String) : Arguments :=
  if a.has name then
    { a with given := a.given.map fun (other, old) =>
        if other = name then (other, old ++ values) else (other, old) }
  else { a with given := a.given ++ [(name, values)] }

def refuse {α : Type} (r : Refusal) : Except Stop α :=
  .error (.refused r)

def takeSwitch (i : Interface) (a : Arguments) (s : Switch) (values : List String) :
    Except Stop Arguments := do
  if values.isEmpty && s.effect ≠ .flag then refuse (.noValue s.text)
  else if a.has s.name then refuse (.repeated s.text i.usage)
  else
    match s.effect, values with
    | .path _, value :: _ =>
        if value.isEmpty then refuse (.noValue s.text) else return a.give s.name values
    | .count _, value :: _ =>
        match parseCount value with
        | .ok _ => return a.give s.name values
        | .error e => refuse (.invalidValue value s.text e)
    | _, _ => return a.give s.name values

def takeOperands (a : Arguments) (o : Operand) (values : List String) : Except Stop Arguments :=
  if values.any String.isEmpty then refuse (.noValue o.text)
  else .ok (a.give o.name values)

def settle (i : Interface) (a : Arguments) : Except Stop Arguments :=
  match a.pending with
  | none => .ok a
  | some p =>
      let a := { a with pending := none }
      if p.isOperand then
        match i.operand with
        | some o => a.takeOperands o p.values
        | none => .ok a
      else
        match i.switches.find? (·.name = p.name) with
        | some s => a.takeSwitch i s p.values
        | none => .ok a

def bareSwitch (i : Interface) (a : Arguments) (s : Switch) : Except Stop Arguments := do
  let a ← a.settle i
  match s.effect with
  | .help => .error (.help i.help)
  | .version => .error .version
  | .flag => return { ← a.takeSwitch i s [] with expecting := .anything }
  | _ => return { a with pending := some ⟨s.name, false, []⟩, expecting := .value }

def attachedSwitch (i : Interface) (a : Arguments) (s : Switch) (value : String) :
    Except Stop Arguments := do
  let a ← a.settle i
  return { ← a.takeSwitch i s [value] with expecting := .anything }

def takesValue (s : Switch) : Bool :=
  match s.effect with
  | .path _ | .count _ => true
  | _ => false

def operandTip (i : Interface) (argument : String) : List String :=
  if i.operand.isSome then
    ["to pass " ++ Refusal.inQuotes argument ++ " as a value, use "
      ++ Refusal.inQuotes ("-- " ++ argument)]
  else []

def elsewhere (name : String) (rest : List String) : Option (String × String) :=
  let hits := [("find", Interface.find), ("check", Interface.check)].filterMap
    fun (command, i) => do
      let switch ← (Text.suggestions name (i.switches.map (·.name))).getLast?
      let place ← rest.findIdx? (· = command)
      return (place, command, switch)
  (hits.mergeSort fun p q => p.1 ≤ q.1).head?.map (·.2)

def unknownSwitch (i : Interface) (a : Arguments) (name : String) (rest : List String) :
    Refusal :=
  let argument := "--" ++ name
  match (Text.suggestions name (i.switches.map (·.name))).getLast? with
  | some similar =>
      .unexpected argument (some ("--" ++ similar)) []
        (i.usageWith ((a.give similar []).names))
  | none =>
      match if i.commands.isEmpty then none else elsewhere name rest with
      | some (command, switch) =>
          .unexpected argument none
            [Refusal.inQuotes (command ++ " --" ++ switch) ++ " exists"] (i.usageWith a.names)
      | none => .unexpected argument none (operandTip i argument) (i.usageWith a.names)

def splitValue (cs : List Char) : String × Option String :=
  let name := String.ofList (cs.takeWhile (· ≠ '='))
  match cs.dropWhile (· ≠ '=') with
  | [] => (name, none)
  | _ :: value => (name, some (String.ofList value))

def long (i : Interface) (a : Arguments) (cs : List Char) (rest : List String) :
    Except Stop Arguments :=
  let (name, value) := splitValue cs
  match i.switches.find? (·.name = name), value with
  | none, _ => refuse (unknownSwitch i a name rest)
  | some s, none => a.bareSwitch i s
  | some s, some value =>
      if takesValue s then a.attachedSwitch i s value
      else
        let optional := a.names.filter fun name =>
          !(i.required.map (·.name)).contains name && i.operand.map (·.name) ≠ some name
        refuse (.unexpectedValue value s.text (i.usageWith (optional ++ [s.name])))

-- Letters behind one dash; the first that wants a value takes the rest for it.
def shorts (i : Interface) (a : Arguments) : List Char → Except Stop Arguments
  | [] => .ok a
  | c :: cs =>
      match i.switches.find? (·.short = some c) with
      | none =>
          let argument := String.ofList ['-', c]
          refuse (.unexpected argument none (operandTip i argument) i.usage)
      | some s =>
          if takesValue s then
            match cs with
            | [] => a.bareSwitch i s
            | '=' :: value => a.attachedSwitch i s (String.ofList value)
            | value => a.attachedSwitch i s (String.ofList value)
          else do
            let a ← a.bareSwitch i s
            shorts i a cs

def misplaced (i : Interface) (a : Arguments) (argument : String) : Refusal :=
  if a.onlyOperands && i.commands.contains argument then
    .unexpected argument none
      ["subcommand " ++ Refusal.inQuotes argument
        ++ " exists; to use it, remove the '--' before it"]
      i.usage
  else
    let similar := if i.commands.isEmpty then [] else Text.suggestions argument i.commands
    if !similar.isEmpty || !i.commands.isEmpty then
      .unknownCommand argument similar i.usage true
    else .unexpected argument none [] i.usage

def operand (i : Interface) (a : Arguments) (argument : String) : Except Stop Arguments := do
  match i.operand with
  | none => refuse (misplaced i a argument)
  | some o =>
      if a.operandTaken then refuse (misplaced i a argument)
      else
        match a.pending with
        | some p =>
            if p.isOperand then
              return { a with pending := some { p with values := p.values ++ [argument] } }
            else
              let a ← a.settle i
              return start o a
        | none => return start o a
where
  start (o : Operand) (a : Arguments) : Arguments :=
    { a with
      pending := some ⟨o.name, true, [argument]⟩
      expecting := if o.many then .operands else .anything
      operandTaken := !o.many }

def take (i : Interface) (a : Arguments) (argument : String) (rest : List String) :
    Except Stop Arguments :=
  if a.onlyOperands then a.operand i argument
  else
    match argument.toList with
    | ['-', '-'] => .ok { a with onlyOperands := true }
    | '-' :: '-' :: cs => a.long i cs rest
    | '-' :: c :: cs => a.shorts i (c :: cs)
    | _ =>
        match a.expecting, a.pending with
        | .value, some p =>
            .ok { a with
              pending := some { p with values := p.values ++ [argument] }
              expecting := .anything }
        | _, _ => a.operand i argument

def complete (i : Interface) (a : Arguments) : Except Stop Arguments :=
  let switches := i.required.filter fun s => !a.has s.name
  let operands := i.operand.toList.filter fun o => !a.has o.name
  if switches.isEmpty && operands.isEmpty then .ok a
  else
    refuse (.missing (switches.map Switch.text ++ operands.map Operand.text)
      (i.usageWith (a.names ++ switches.map (·.name) ++ operands.map (·.name))))

def ofList (i : Interface) (a : Arguments) : List String → Except Stop Arguments
  | [] => do
      let a ← a.settle i
      a.complete i
  | argument :: rest => do
      let a ← a.take i argument rest
      ofList i a rest

end Arguments

inductive Task where
  | find (file : String) (start : UInt64) (stop : Option UInt64) (json : Bool)
  | check (paths : List String) (json : Bool)
  deriving DecidableEq, Repr

structure Request where
  config : Option String
  verbose : Bool
  task : Task
  deriving DecidableEq, Repr

namespace Request

open Arguments

def helpFor : List String → Stop
  | [] => .help Interface.top.help
  | name :: rest =>
      match name with
      | "find" => below Interface.find rest
      | "check" => below Interface.check rest
      | "help" =>
          match rest with
          | [] => .help Interface.helpHelp
          | other :: _ => .refused (.unknownCommand other [] Interface.helpUsage false)
      | other => .refused (.unknownCommand other [] Interface.top.usage true)
where
  below (i : Interface) : List String → Stop
    | [] => .help i.help
    | other :: _ => .refused (.unknownCommand other [] i.usage true)

def count? (a : Arguments) (name : String) : Option UInt64 :=
  match a.valuesOf name with
  | value :: _ => (parseCount value).toOption
  | [] => none

def taskOf (command : String) (a : Arguments) : Task :=
  let json := a.has "json"
  if command = "find" then
    .find ((a.valuesOf "FILE").headD "") ((count? a "start").getD 0) (count? a "end") json
  else .check (a.valuesOf "PATHS") json

-- A switch that all commands share counts where it is given last.
def join (outer inner : Arguments) (command : String) : Request where
  config := (inner.valuesOf "config" ++ outer.valuesOf "config").head?
  verbose := inner.has "verbose" || outer.has "verbose"
  task := taskOf command inner

def top (a : Arguments) : List String → Except Stop Request
  | [] => do
      let a ← a.settle .top
      if a.given.isEmpty then .error (.noRequest Interface.top.help)
      else refuse (.noCommand Interface.top.commands Interface.top.usage)
  | argument :: rest =>
      if !a.onlyOperands && a.expecting = .anything
          && Interface.top.commands.contains argument then
        if argument = "help" then .error (helpFor rest)
        else do
          let i := if argument = "find" then Interface.find else Interface.check
          let inner ← ofList i {} rest
          let outer ← a.settle .top
          return join outer inner argument
      else do
        let a ← a.take .top argument rest
        top a rest

def ofArguments (arguments : List String) : Except Stop Request :=
  top {} arguments

end Request

end EnclosingScope.Command
