import Std.Data.HashMap
import EnclosingScope.Grammar.Rule

namespace EnclosingScope.Grammar

structure Step where
  symbol : Nat
  level : Option Int
  side : Option Side
  label : Option Label
  deriving DecidableEq, Hashable

structure Production where
  head : Nat
  steps : List Step
  dynamic : Int
  deriving DecidableEq

structure Appearance where
  name : String
  visible : Bool
  named : Bool

structure Productions where
  tokens : Array Token
  appearances : Array Appearance
  start : Nat
  productions : Array Production
  repetitions : Array Bool
  grouping : Array Bool
  extras : List Nat
  watched : List Nat
  reserved : List Nat

namespace Rule

mutual

def tokens : Rule → List Token
  | .empty => []
  | .token t => [t]
  | .ref _ => []
  | .seq rules => tokensOfAll rules
  | .choice rules => tokensOfAll rules
  | .many1 rule => tokens rule
  | .prec _ _ rule => tokens rule
  | .dynamic _ rule => tokens rule
  | .labelled _ rule => tokens rule

def tokensOfAll : List Rule → List Token
  | [] => []
  | rule :: rules => tokens rule ++ tokensOfAll rules

end

structure Unrolling where
  owner : String
  count : Nat
  repeated : List (Rule × String)

def Unrolling.name (u : Unrolling) (content : Rule) : String × Unrolling :=
  match u.repeated.lookup content with
  | some name => (name, u)
  | none =>
      let name := u.owner ++ "_repeat" ++ toString (u.count + 1)
      (name, { u with count := u.count + 1, repeated := u.repeated ++ [(content, name)] })

mutual

def unroll : Rule → StateM Unrolling Rule
  | .seq rules => return .seq (← unrollAll rules)
  | .choice rules => return .choice (← unrollAll rules)
  | .many1 rule => do
      let content ← unroll rule
      let name ← modifyGet (Unrolling.name · content)
      return .ref name
  | .prec level side rule => return .prec level side (← unroll rule)
  | .dynamic level rule => return .dynamic level (← unroll rule)
  | .labelled label rule => return .labelled label (← unroll rule)
  | rule => return rule

def unrollAll : List Rule → StateM Unrolling (List Rule)
  | [] => return []
  | rule :: rules => return (← unroll rule) :: (← unrollAll rules)

end

mutual

def alternatives : Rule → List Rule
  | .seq rules => sequences rules [.empty]
  | .choice rules => alternativesOfAll rules
  | .prec level side rule => (alternatives rule).map (.prec level side ·)
  | .dynamic level rule => (alternatives rule).map (.dynamic level ·)
  | .labelled label rule => (alternatives rule).map (.labelled label ·)
  | rule => [rule]

def sequences : List Rule → List Rule → List Rule
  | [], acc => acc
  | rule :: rules, acc =>
      let next := alternatives rule
      sequences rules (acc.flatMap fun front => next.map fun part => .seq [front, part])

def alternativesOfAll : List Rule → List Rule
  | [] => []
  | rule :: rules => alternatives rule ++ alternativesOfAll rules

end

structure Marks where
  level : Option Int := none
  side : Option Side := none
  label : Option Label := none

-- The last step of a marked part that does not end its production takes the outer marks.
def Marks.close (outer : Marks) (side : Option Side) : List Step → List Step
  | [] => []
  | [step] => [{ step with
      level := outer.level, side := if side.isSome then outer.side else step.side }]
  | step :: steps => step :: outer.close side steps

mutual

def steps (number : Token ⊕ String → Nat) (marks : Marks) (atEnd : Bool) : Rule → List Step
  | .token t => [⟨number (.inl t), marks.level, marks.side, marks.label⟩]
  | .ref name => [⟨number (.inr name), marks.level, marks.side, marks.label⟩]
  | .seq rules => stepsOfAll number marks atEnd rules
  | .prec level side rule =>
      let inner := steps number { marks with level, side := side <|> marks.side } atEnd rule
      if atEnd then inner else marks.close side inner
  | .dynamic _ rule => steps number marks atEnd rule
  | .labelled label rule => steps number { marks with label } atEnd rule
  | _ => []

def stepsOfAll (number : Token ⊕ String → Nat) (marks : Marks) (atEnd : Bool) :
    List Rule → List Step
  | [] => []
  | rule :: rules =>
      steps number marks (atEnd && rules.isEmpty) rule ++ stepsOfAll number marks atEnd rules

end

mutual

def weight : Rule → Int → Int
  | .seq rules, acc => weightOfAll rules acc
  | .prec _ _ rule, acc => weight rule acc
  | .dynamic level rule, acc =>
      weight rule (if level.natAbs > acc.natAbs then level else acc)
  | .labelled _ rule, acc => weight rule acc
  | _, acc => acc

def weightOfAll : List Rule → Int → Int
  | [], acc => acc
  | rule :: rules, acc => weightOfAll rules (weight rule acc)

end

def productions (number : Token ⊕ String → Nat) (head : Nat) (rule : Rule) : List Production :=
  (rule.alternatives.map fun alternative =>
    ⟨head, alternative.steps number {} true, alternative.weight 0⟩).eraseDups

end Rule

def defaultLabel (uses : List (Option Label)) : Option Label :=
  if uses.isEmpty || uses.contains none then none
  else
    let labels := uses.filterMap id
    labels.eraseDups.foldl (fun best label =>
      match best with
      | none => some label
      | some other => if labels.count label > labels.count other then some label else best) none

-- A step drops a label that its symbol takes by default, unless another production of the same rule
-- needs that label at the same place for another symbol.
def clearLabels (default : Nat → Option Label) (productions : List Production) :
    List Production :=
  productions.map fun production =>
    { production with
      steps := production.steps.zipIdx.map fun (step, index) =>
        if step.label.isSome && step.label == default step.symbol &&
            productions.all fun other =>
              other == production ||
                match other.steps[index]? with
                | some otherStep =>
                    otherStep.label != step.label || default otherStep.symbol == step.label
                | none => true
        then { step with label := none }
        else step }

def Step.inlinedBy (step : Step) (inner : Production) : List Step :=
  let relabelled := inner.steps.map fun s =>
    { s with label := if step.label.isSome then step.label else s.label }
  match relabelled.reverse with
  | [] => []
  | last :: front =>
      (({ last with level := last.level <|> step.level, side := last.side <|> step.side } : Step)
        :: front).reverse

def inlineSteps (inlined : Nat → Option (List Production)) : List Step → List (List Step × Int)
  | [] => [([], 0)]
  | step :: steps =>
      let rest := inlineSteps inlined steps
      match inlined step.symbol with
      | none => rest.map fun (tail, weight) => (step :: tail, weight)
      | some inners => inners.flatMap fun inner =>
          rest.map fun (tail, weight) =>
            (step.inlinedBy inner ++ tail,
              if inner.dynamic.natAbs ≥ weight.natAbs then inner.dynamic else weight)

def Production.inline (inlined : Nat → Option (List Production)) (production : Production) :
    List Production :=
  ((inlineSteps inlined production.steps).map fun (steps, weight) =>
    { production with
      steps
      dynamic := if weight.natAbs > production.dynamic.natAbs then weight
        else production.dynamic }).eraseDups

def isHidden (name : String) : Bool :=
  name.startsWith "_"

namespace Language

-- Rules that are a single token used nowhere else: the token takes the rule's name.
def tokenNames (language : Language) : List (Token × String) :=
  let used := language.rules.flatMap fun (_, rule) => rule.tokens
  language.rules.filterMap fun (name, rule) =>
    match rule with
    | .token t => if used.count t == 1 then some (t, name) else none
    | _ => none

def tokenOrder (language : Language) : List Token :=
  let used := (language.rules.flatMap fun (_, rule) => rule.tokens).eraseDups
  [.endOfSource, .identifier] ++ used.filter (· != .identifier) ++ language.layout.map (·.2)

def tokenAppearance (language : Language) (token : Token) : Appearance :=
  match language.tokenNames.lookup token with
  | some name => ⟨name, !isHidden name, true⟩
  | none =>
      match language.layout.find? (·.2 == token) with
      | some (name, _) => ⟨name, !isHidden name, true⟩
      | none =>
          match token with
          | .literal text => ⟨text, true, false⟩
          | .endOfSource => ⟨"end", false, true⟩
          | _ => ⟨"", false, false⟩

def unrolled (language : Language) : List (String × Rule) × List (Rule × String) :=
  language.rules.foldl (fun (done, repeated) (name, rule) =>
    if (language.tokenNames.any (·.2 == name)) then (done, repeated)
    else
      let (rule, unrolling) := rule.unroll.run ⟨name, 0, repeated⟩
      (done ++ [(name, rule)], unrolling.repeated)) ([], [])

def compile (language : Language) : Productions :=
  let tokens := language.tokenOrder
  let (rules, repeated) := language.unrolled
  let repetitions := repeated.map fun (content, name) =>
    (name, Rule.choice [.seq [.ref name, .ref name], content])
  let tokenNumbers : Std.HashMap Token Nat := .ofList tokens.zipIdx
  let names : Std.HashMap String Nat := .ofList
    (((rules ++ repetitions).map (·.1)).zipIdx tokens.length
      ++ language.tokenNames.map (fun (token, name) => (name, tokenNumbers.getD token 0))
      ++ language.layout.map (fun (name, token) => (name, tokenNumbers.getD token 0)))
  let number : Token ⊕ String → Nat
    | .inl token => tokenNumbers.getD token 0
    | .inr name => names.getD name 0
  let ofRule : List (List Production) := (rules ++ repetitions).zipIdx.map fun ((_, rule), index) =>
    rule.productions number (tokens.length + index)
  let inlined := language.inlined.map fun name => number (.inr name)
  let extras := language.extras.map fun name => number (.inr name)
  let uses : Std.HashMap Nat (List (Option Label)) :=
    ofRule.flatten.foldl (fun uses production =>
      production.steps.foldl (fun uses step =>
        if inlined.contains step.symbol then uses
        else uses.alter step.symbol fun seen => some (seen.getD [] ++ [step.label])) uses) ∅
  let default (symbol : Nat) : Option Label :=
    if extras.contains symbol then none else defaultLabel (uses.getD symbol [])
  let defaults : Std.HashMap Nat (Option Label) :=
    .ofList ((List.range (tokens.length + ofRule.length)).map fun symbol =>
      (symbol, default symbol))
  let cleared := (ofRule.map (clearLabels fun symbol => (defaults.getD symbol none))).toArray
  let inlinedProductions (symbol : Nat) : Option (List Production) :=
    if inlined.contains symbol then some (cleared.getD (symbol - tokens.length) []) else none
  let kept := cleared.toList.flatMap fun productions =>
    productions.flatMap fun production =>
      if inlined.contains production.head then [] else production.inline inlinedProductions
  let plain : List Appearance :=
    tokens.map language.tokenAppearance
      ++ (rules.map (·.1)).map (fun name =>
          ⟨name, !(isHidden name || language.grouping.contains name), true⟩)
      ++ (repetitions.map (·.1)).map (fun name => ⟨name, false, false⟩)
  let appearances := plain.zipIdx.map fun (appearance, symbol) =>
    match defaults.getD symbol none with
    | some label => ⟨label.name, true, label.named⟩
    | none => appearance
  { tokens := tokens.toArray
    appearances := appearances.toArray
    start := tokens.length
    productions := kept.toArray
    repetitions := (tokens.map (fun _ => false) ++ rules.map (fun _ => false)
      ++ repetitions.map (fun _ => true)).toArray
    grouping := (tokens.map (fun _ => false)
      ++ (rules.map (·.1)).map language.grouping.contains
      ++ repetitions.map (fun _ => false)).toArray
    extras
    watched := language.watched.map fun token => number (.inl token)
    reserved := language.reserved.map fun text => number (.inl (.literal text)) }

end Language

end EnclosingScope.Grammar
