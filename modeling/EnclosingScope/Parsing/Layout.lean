import EnclosingScope.Grammar.Rule
import EnclosingScope.Parsing.Cursor

namespace EnclosingScope.Parsing

open EnclosingScope.Grammar (Token)

structure Delimiter where
  format : Bool
  raw : Bool
  bytes : Bool
  triple : Bool
  quote : Char
  deriving DecidableEq

structure Layout where
  indents : List Nat
  delimiters : List Delimiter
  insideFormat : Bool
  deriving DecidableEq

namespace Layout

def initial : Layout := ⟨[], [], false⟩

def indent (layout : Layout) : Nat :=
  layout.indents.headD 0

structure Found where
  token : Token
  start : Place
  stop : Place
  layout : Layout

inductive Attempt where
  | found (result : Found)
  | refused
  | goOn (place : Place)

-- No token is excluded: something is wrong and the text is being skipped.
def isSkipping (valid : Token → Bool) : Bool :=
  valid .stringText && valid .indent

def doubledBrace (s : Source) (layout : Layout) (valid : Token → Bool) (p : Place) : Attempt :=
  match layout.delimiters with
  | delimiter :: _ =>
      let c := s.look p
      if valid .doubledBrace && !isSkipping valid && delimiter.format &&
          (c == '\x7b' || c == '\x7d') then
        let second := s.step p
        if s.look second == c then .found ⟨.doubledBrace, p, s.step second, layout⟩ else .refused
      else .goOn p
  | [] => .goOn p

def afterRawBackslash (s : Source) (quote : Char) (p : Place) : Place :=
  let p := s.step p
  let p := if s.look p == quote || s.look p == '\\' then s.step p else p
  if s.look p == '\r' then
    let p := s.step p
    if s.look p == '\n' then s.step p else p
  else if s.look p == '\n' then s.step p
  else p

def closing (s : Source) (layout : Layout) (delimiter : Delimiter) (start : Place)
    (hasText : Bool) (p : Place) : Found :=
  let text (stop : Place) : Found := ⟨.stringText, start, stop, layout⟩
  let finish (stop : Place) : Found :=
    ⟨.stringEnd, start, stop, { layout with
      delimiters := layout.delimiters.drop 1, insideFormat := false }⟩
  if delimiter.triple then
    let second := s.step p
    if s.look second == delimiter.quote then
      let third := s.step second
      if s.look third == delimiter.quote then
        if hasText then text p else finish (s.step third)
      else text third
    else text second
  else if hasText then text p
  else finish (s.step p)

def stringText (s : Source) (layout : Layout) (delimiter : Delimiter) (start : Place) :
    Nat → Bool → Place → Attempt
  | 0, _, p => .goOn p
  | fuel + 1, hasText, p =>
      let c := s.look p
      let stopHere : Attempt :=
        if hasText then .found ⟨.stringText, start, p, layout⟩ else .refused
      if c == '\x00' then .goOn p
      else if delimiter.format && (c == '\x7b' || c == '\x7d') then stopHere
      else if c == '\\' then
        if delimiter.raw then
          stringText s layout delimiter start fuel hasText
            (afterRawBackslash s delimiter.quote p)
        else if delimiter.bytes then
          let letter := s.look (s.step p)
          if letter == 'N' || letter == 'u' || letter == 'U' then
            stringText s layout delimiter start fuel true (s.step (s.step (s.step p)))
          else stopHere
        else stopHere
      else if c == delimiter.quote then .found (closing s layout delimiter start hasText p)
      else if c == '\n' && hasText && !delimiter.triple then .refused
      else stringText s layout delimiter start fuel true (s.step p)

structure Gap where
  place : Place
  lineEnded : Bool
  indent : Nat
  comment : Option Nat

def gap (s : Source) (watchesComments : Bool) : Nat → Gap → Option Gap
  | 0, g => some g
  | fuel + 1, g =>
      let next := s.step g.place
      if s.atEnd g.place then some { g with lineEnded := true, indent := 0 }
      else
        match s.look g.place with
        | '\n' =>
            gap s watchesComments fuel { g with place := next, lineEnded := true, indent := 0 }
        | ' ' => gap s watchesComments fuel { g with place := next, indent := g.indent + 1 }
        | '\r' => gap s watchesComments fuel { g with place := next, indent := 0 }
        | '\x0c' => gap s watchesComments fuel { g with place := next, indent := 0 }
        | '\t' => gap s watchesComments fuel { g with place := next, indent := g.indent + 8 }
        | '#' =>
            if !watchesComments then some g
            else if !g.lineEnded then none
            else
              let lineEnd := s.skipWhile (fun c => c != '\n' && c != '\x00') g.place
              gap s watchesComments fuel
                { g with
                  place := s.step lineEnd, indent := 0, comment := g.comment <|> some g.indent }
        | '\\' =>
            let next := if s.look next == '\r' then s.step next else next
            if s.look next == '\n' || s.atEnd next then
              gap s watchesComments fuel { g with place := s.step next }
            else none
        | _ => some g

def isQuote (c : Char) : Bool :=
  c == '\"' || c == '\'' || c == Char.ofNat 96

def opensBlock (layout : Layout) (valid : Token → Bool) (g : Gap) : Bool :=
  valid .indent && layout.indent < g.indent

-- A block may end although the grammar expects no end, unless a bracket, a format string or the
-- next token speaks against it. Comments at the depth of the block still belong to it.
def closesBlock (s : Source) (layout : Layout) (valid : Token → Bool) (g : Gap) : Bool :=
  let inBrackets := valid (.literal "\x7d") || valid (.literal ")") || valid (.literal "]")
  let unexpected := !valid .newline && !(valid .stringStart && isQuote (s.look g.place)) &&
    !inBrackets
  (valid .dedent || unexpected) && g.indent < layout.indent && !layout.insideFormat &&
    (match g.comment with
      | some depth => depth < layout.indent
      | none => true)

structure Opening where
  delimiter : Delimiter
  place : Place
  marked : Bool

def marks (s : Source) : Nat → Opening → Opening
  | 0, o => o
  | fuel + 1, o =>
      let c := s.look o.place
      let d := o.delimiter
      let next (d : Delimiter) : Opening := marks s fuel ⟨d, s.step o.place, true⟩
      if c == 'f' || c == 'F' || c == 't' || c == 'T' then next { d with format := true }
      else if c == 'r' || c == 'R' then next { d with raw := true }
      else if c == 'b' || c == 'B' then next { d with bytes := true }
      else if c == 'u' || c == 'U' then next d
      else o

def stringStart (s : Source) (layout : Layout) (origin p : Place) : Option Found :=
  let o := marks s (s.size + 1) ⟨⟨false, false, false, false, ' '⟩, p, false⟩
  let c := s.look o.place
  if isQuote c then
    let first := s.step o.place
    let second := s.step first
    let triple := c != Char.ofNat 96 && s.look first == c && s.look second == c
    let delimiter := { o.delimiter with quote := c, triple }
    some ⟨.stringStart, origin, if triple then s.step second else first,
      { layout with
        delimiters := delimiter :: layout.delimiters, insideFormat := delimiter.format }⟩
  else none

-- The tokens are empty, unless the text since `origin` was tried as a string and no blank space
-- follows it.
def lineTokens (s : Source) (layout : Layout) (valid : Token → Bool) (origin p : Place) :
    Option Found :=
  let watchesComments :=
    valid .indent || valid .dedent || valid .newline || valid (.literal "except")
  match gap s watchesComments (s.size + 2) ⟨p, false, 0, none⟩ with
  | none => none
  | some g =>
      let still := g.place == p
      let empty (token : Token) (layout : Layout) : Option Found :=
        some ⟨token, if still then origin else p, p, layout⟩
      if g.lineEnded && opensBlock layout valid g then
        empty .indent { layout with indents := g.indent :: layout.indents }
      else if g.lineEnded && closesBlock s layout valid g then
        empty .dedent { layout with indents := layout.indents.drop 1 }
      else if g.lineEnded && valid .newline && !isSkipping valid then empty .newline layout
      else if g.comment.isNone && valid .stringStart then
        stringStart s layout (if still then origin else g.place) g.place
      else none

def scan (s : Source) (layout : Layout) (valid : Token → Bool) (p : Place) : Option Found :=
  match doubledBrace s layout valid p with
  | .found result => some result
  | .refused => none
  | .goOn _ =>
      match layout.delimiters with
      | delimiter :: _ =>
          if valid .stringText && !isSkipping valid then
            match stringText s layout delimiter p (s.size + 1) false p with
            | .found result => some result
            | .refused => none
            | .goOn behind => lineTokens s layout valid p behind
          else lineTokens s layout valid p p
      | [] => lineTokens s layout valid p p

end Layout

end EnclosingScope.Parsing
