import EnclosingScope.Grammar.Compaction
import EnclosingScope.Parsing.Layout
import EnclosingScope.Text.Identifier

namespace EnclosingScope.Parsing

open EnclosingScope.Grammar
open EnclosingScope.Text

namespace Lexer

def isBlank (c : Char) : Bool :=
  c == ' ' || ('\t' ≤ c && c ≤ '\r') || c == '\uFEFF' || c == '\u2060' || c == '\u200B'

def digitRun (s : Source) (holds : Char → Bool) (p : Place) : Option Place :=
  if holds (s.look p) then
    some (go (s.size - p.index) p)
  else none
where
  go : Nat → Place → Place
    | 0, p => p
    | fuel + 1, p =>
        if holds (s.look p) then
          let next := s.step p
          go fuel (if s.look next == '_' then s.step next else next)
        else p

def markedRun (s : Source) (holds : Char → Bool) (p : Place) : Option Place :=
  go (s.size - p.index) p none
where
  go : Nat → Place → Option Place → Option Place
    | 0, _, best => best
    | fuel + 1, p, best =>
        let digit := if s.look p == '_' then s.step p else p
        if holds (s.look digit) then
          let next := s.step digit
          go fuel next (some next)
        else best

def isHex (c : Char) : Bool :=
  c.isDigit || ('a' ≤ c && c ≤ 'f') || ('A' ≤ c && c ≤ 'F')

def optionally (s : Source) (holds : Char → Bool) (p : Place) : Place :=
  if holds (s.look p) then s.step p else p

def isImaginary (c : Char) : Bool := c == 'j' || c == 'J'

def isLong (c : Char) : Bool := c == 'l' || c == 'L'

def based (s : Source) (marks : List Char) (holds : Char → Bool) (p : Place) : Option Place :=
  let mark := s.step p
  if s.look p == '0' && marks.contains (s.look mark) then
    (markedRun s holds (s.step mark)).map (optionally s isLong)
  else none

def integer (s : Source) (p : Place) : Option Place :=
  match based s ['x', 'X'] isHex p with
  | some stop => some stop
  | none =>
      match based s ['o', 'O'] (fun c => '0' ≤ c && c ≤ '7') p with
      | some stop => some stop
      | none =>
          match based s ['b', 'B'] (fun c => c == '0' || c == '1') p with
          | some stop => some stop
          | none =>
              (digitRun s Char.isDigit p).map
                (optionally s fun c => isLong c || isImaginary c)

def exponent (s : Source) (p : Place) : Option Place :=
  if s.look p == 'e' || s.look p == 'E' then
    digitRun s Char.isDigit (optionally s (fun c => c == '+' || c == '-') (s.step p))
  else none

def float (s : Source) (p : Place) : Option Place :=
  let whole := digitRun s Char.isDigit p
  let front := whole.getD p
  let mantissa : Option Place :=
    if s.look front == '.' then
      let point := s.step front
      match digitRun s Char.isDigit point with
      | some stop => some stop
      | none => whole.map fun _ => point
    else none
  let stop : Option Place :=
    match mantissa with
    | some stop => some ((exponent s stop).getD stop)
    | none => whole.bind (exponent s)
  stop.map (optionally s isImaginary)

def identifier (s : Source) (p : Place) : Option Place :=
  match s.peek p with
  | some c => if isIdentifierStart c then some (s.skipWhile isIdentifierPart (p.after c)) else none
  | none => none

def comment (s : Source) (p : Place) : Option Place :=
  if s.look p == '#' then some (s.skipWhile (fun c => c != '\n' && c != '\x00') p) else none

def lineContinuation (s : Source) (p : Place) : Option Place :=
  if s.look p == '\\' then
    let next := s.step p
    if s.look next == '\x00' then some (s.step next)
    else s.behind (if s.look next == '\r' then s.step next else next) ['\n']
  else none

def hexRun (s : Source) : Nat → Place → Option Place
  | 0, p => some p
  | count + 1, p => if isHex (s.look p) then hexRun s count (s.step p) else none

def escapeSequence (s : Source) (p : Place) : Option Place :=
  if s.look p == '\\' then
    let next := s.step p
    let c := s.look next
    let behind := s.step next
    if c == 'u' then hexRun s 4 behind
    else if c == 'U' then hexRun s 8 behind
    else if c == 'x' then hexRun s 2 behind
    else if c.isDigit then some (optionally s Char.isDigit (optionally s Char.isDigit behind))
    else if c == '\r' then s.behind behind ['\n']
    else if c == 'N' then
      if s.look behind == '\x7b' then
        let name := s.step behind
        let stop := s.skipWhile (fun c => c != '\x7d' && c != '\x00') name
        if stop.index == name.index then none else s.behind stop ['\x7d']
      else none
    else if ['\n', '\"', '\'', 'a', 'b', 'f', 'n', 'r', 't', 'v', '\\'].contains c then
      some behind
    else none
  else none

def typeConversion (s : Source) (p : Place) : Option Place :=
  let next := s.step p
  if s.look p == '!' && 'a' ≤ s.look next && s.look next ≤ 'z' then some (s.step next) else none

def endsFormatText (c : Char) : Bool :=
  c == '\x7b' || c == '\x7d' || c == '\n' || c == '\x00'

def formatText (s : Source) (p : Place) : Option Place :=
  let stop := s.skipWhile (!endsFormatText ·) p
  if stop.index == p.index then none else some stop

def reach (s : Source) (p : Place) : Token → Option Place
  | .endOfSource => if s.atEnd p then some p else none
  | .literal text => s.behind p text.toList
  | .identifier => identifier s p
  | .integer => integer s p
  | .float => float s p
  | .comment => comment s p
  | .lineContinuation => lineContinuation s p
  | .typeConversion => typeConversion s p
  | .formatText => formatText s p
  | _ => none

def farthest (candidates : List (Nat × Place)) : Option (Nat × Place) :=
  candidates.foldl (fun best candidate =>
    match best with
    | none => some candidate
    | some other => if other.2.index < candidate.2.index then some candidate else best) none

def backslash (s : Source) (numbered : List (Nat × Token)) (p : Place) : Option (Nat × Place) :=
  let reached (kind : Token) (stop : Option Place) : Option (Nat × Place) :=
    match numbered.find? (·.2 == kind), stop with
    | some (number, _), some stop => some (number, stop)
    | _, _ => none
  if s.look p == '\\' then
    match reached .escapeSequence (escapeSequence s p) with
    | some result => some result
    | none =>
        match reached .lineContinuation (lineContinuation s p) with
        | some result => some result
        | none => reached .loneBackslash (some (s.step p))
  else none

-- How far a text is looked into although no token comes of it.
def tried (s : Source) (p : Place) : Place :=
  let next := s.step p
  if s.look p == '\\' then
    if s.look next == '\r' then s.step next else next
  else if s.look p == '!' then next
  else p

inductive Cut where
  | token (number : Nat) (start stop : Place)
  | nothing (start tried : Place)

def cut (s : Source) (numbered : List (Nat × Token)) (p : Place) : Cut :=
  match backslash s numbered p with
  | some (number, stop) => .token number p stop
  | none =>
      let text (p : Place) : Option (Nat × Place) :=
        match numbered.find? (·.2 == .formatText) with
        | some (number, _) => (formatText s p).map fun stop => (number, stop)
        | none => none
      match text p with
      | some (number, stop) => .token number p stop
      | none =>
          let start := s.skipWhile isBlank p
          match text start with
          | some (number, stop) => .token number start stop
          | none =>
              match farthest (numbered.filterMap fun (number, kind) =>
                (reach s start kind).map fun stop => (number, stop)) with
              | some (number, stop) => .token number start stop
              | none => .nothing start (tried s start)

end Lexer

end EnclosingScope.Parsing
