import EnclosingScope.Text.Bytes
import EnclosingScope.Toml.Scalar

namespace EnclosingScope.Toml

structure Input where
  offset : Nat
  rest : List Char

abbrev Reader := StateT Input Option

namespace Reader

def peek : Reader (Option Char) := do
  return (← get).rest.head?

def offset : Reader Nat := do
  return (← get).offset

def advance : Reader Unit :=
  modify fun s =>
    match s.rest with
    | [] => s
    | c :: rest => ⟨s.offset + c.utf8Size, rest⟩

def take (n : Nat) : Reader (List Char) := do
  let s ← get
  let cs := s.rest.take n
  set (⟨s.offset + Text.byteCount cs, s.rest.drop n⟩ : Input)
  return cs

def takeWhile (holds : Char → Bool) : Reader (List Char) := do
  take ((← get).rest.takeWhile holds).length

def starts (cs : List Char) : Reader Bool := do
  return cs.isPrefixOf (← get).rest

def accept (cs : List Char) : Reader Bool := do
  if ← starts cs then
    discard (take cs.length)
    return true
  else return false

def expect (cs : List Char) : Reader Unit := do
  if ← accept cs then pure () else failure

def size : Reader Nat := do
  return (← get).rest.length

def isBlank (c : Char) : Bool := c = ' ' || c = '\t'

def blanks : Reader Unit :=
  discard (takeWhile isBlank)

def isText (c : Char) : Bool := c = '\t' || (' ' ≤ c && c ≠ '\x7f')

def newline : Reader Bool := do
  if ← accept ['\n'] then return true
  else accept ['\r', '\n']

def comment : Reader Unit := do
  if (← peek) = some '#' then discard (takeWhile isText)

def endOfLine : Reader Unit := do
  blanks
  comment
  if (← peek).isNone then pure ()
  else if ← newline then pure ()
  else failure

def gapsFrom : Nat → Reader Unit
  | 0 => pure ()
  | fuel + 1 => do
      blanks
      comment
      if ← newline then gapsFrom fuel else pure ()

def gaps : Reader Unit := do
  gapsFrom ((← size) + 1)

def hexNumber (width : Nat) : Reader Char := do
  let cs ← take width
  if cs.length = width && cs.all (fun c => (Decimal.hexValue? c).isSome) then
    let n := Number.hexValue cs
    if h : n.isValidChar then return Char.ofNatAux n h else failure
  else failure

def escaped : Reader Char := do
  match ← take 1 with
  | ['b'] => return '\x08'
  | ['t'] => return '\t'
  | ['n'] => return '\n'
  | ['f'] => return '\x0c'
  | ['r'] => return '\r'
  | ['e'] => return '\x1b'
  | ['"'] => return '"'
  | ['\\'] => return '\\'
  | ['x'] => hexNumber 2
  | ['u'] => hexNumber 4
  | ['U'] => hexNumber 8
  | _ => failure

def basicFrom : Nat → List Char → Reader String
  | 0, _ => failure
  | fuel + 1, back => do
      match ← take 1 with
      | ['"'] => return String.ofList back.reverse
      | ['\\'] => basicFrom fuel ((← escaped) :: back)
      | [c] => if isText c then basicFrom fuel (c :: back) else failure
      | _ => failure

def basic : Reader String := do
  advance
  basicFrom ((← size) + 1) []

def literal : Reader String := do
  advance
  let cs ← takeWhile fun c => isText c && c ≠ '\''
  expect ['\'']
  return String.ofList cs

-- Three quotes end a text, and up to two more belong to it.
def closing (quote : Char) : Reader (Option (List Char)) := do
  let run := ((← get).rest.takeWhile (· = quote)).length
  if run < 3 then return none
  else if 5 < run then failure
  else
    discard (take run)
    return some (List.replicate (run - 3) quote)

def lineBreak : Reader (Option (List Char)) := do
  if ← accept ['\n'] then return some ['\n']
  else if ← accept ['\r', '\n'] then return some ['\r', '\n']
  else return none

def continued : Reader Bool := do
  let s ← get
  match s.rest with
  | '\\' :: rest =>
      match rest.dropWhile isBlank with
      | '\n' :: _ | '\r' :: '\n' :: _ => advance; return true
      | _ => return false
  | _ => return false

def isSpace (c : Char) : Bool := isBlank c || c = '\n' || c = '\r'

def longFrom (quote : Char) (escapes : Bool) : Nat → List Char → Reader String
  | 0, _ => failure
  | fuel + 1, back => do
      if let some tail ← closing quote then return String.ofList (back.reverse ++ tail)
      else if let some cs ← lineBreak then longFrom quote escapes fuel (cs.reverse ++ back)
      else if escapes && (← continued) then
        discard (takeWhile isSpace)
        longFrom quote escapes fuel back
      else
        match ← take 1 with
        | [c] =>
            if escapes && c = '\\' then longFrom quote escapes fuel ((← escaped) :: back)
            else if isText c then longFrom quote escapes fuel (c :: back)
            else failure
        | _ => failure

def long (quote : Char) (escapes : Bool) : Reader String := do
  discard lineBreak
  longFrom quote escapes ((← size) + 1) []

def isBare (c : Char) : Bool :=
  Decimal.isDigit c || ('a' ≤ c && c ≤ 'z') || ('A' ≤ c && c ≤ 'Z') || c = '_' || c = '-'

def name : Reader String := do
  match ← peek with
  | some '"' => basic
  | some '\'' => literal
  | _ =>
      match ← takeWhile isBare with
      | [] => failure
      | cs => return String.ofList cs

def key : Reader Key := do
  let start ← offset
  let name ← name
  return ⟨name, start, ← offset⟩

def keysFrom : Nat → List Key → Reader (List Key × Key)
  | 0, _ => failure
  | fuel + 1, back => do
      blanks
      let last ← key
      blanks
      if ← accept ['.'] then keysFrom fuel (last :: back)
      else return (back.reverse, last)

def keys : Reader (List Key × Key) := do
  keysFrom ((← size) + 1) []

def isScalar (c : Char) : Bool := isBare c || c = '+' || c = '.' || c = ':'

def bare : Reader Item := do
  let cs ← takeWhile isScalar
  let cs ←
    match (← get).rest with
    | ' ' :: d :: _ =>
        if isDate cs && Decimal.isDigit d then
          advance
          pure (cs ++ ' ' :: (← takeWhile isScalar))
        else pure cs
    | _ => pure cs
  match scalar cs with
  | some item => return item
  | none => failure

def itemsFrom (item : Reader (Span × Item)) :
    Nat → List (Span × Item) → Reader (List (Span × Item))
  | 0, _ => failure
  | fuel + 1, back => do
      gaps
      if ← accept [']'] then return back.reverse
      else
        let next ← item
        gaps
        if ← accept [','] then itemsFrom item fuel (next :: back)
        else
          expect [']']
          return (next :: back).reverse

def member (value : Reader (Span × Item)) (origin : Origin) (members : Members) :
    Reader Members := do
  let (path, last) ← keys
  expect ['=']
  blanks
  let (span, item) ← value
  match addMember path last span item origin members with
  | some members => return members
  | none => failure

def membersFrom (value : Reader (Span × Item)) : Nat → Members → Reader Members
  | 0, _ => failure
  | fuel + 1, members => do
      gaps
      if ← accept ['\x7d'] then return members
      else
        let members ← member value .inline members
        gaps
        if ← accept [','] then membersFrom value fuel members
        else
          expect ['\x7d']
          return members

def itemWith (onArray onTable : Reader Item) : Reader Item := do
  if ← accept ['"', '"', '"'] then return .string (← long '"' true)
  else if ← accept ['\'', '\'', '\''] then return .string (← long '\'' false)
  else
    match ← peek with
    | some '"' => return .string (← basic)
    | some '\'' => return .string (← literal)
    | some '[' => advance; onArray
    | some '\x7b' => advance; onTable
    | _ => bare

def spanned (item : Reader Item) : Reader (Span × Item) := do
  let start ← offset
  let item ← item
  return (⟨start, ← offset⟩, item)

def value : Nat → Reader (Span × Item)
  | 0 => spanned (itemWith failure failure)
  | depth + 1 =>
      spanned <|
        itemWith (do return .array false (← itemsFrom (value depth) ((← size) + 1) []))
          (do return .table .inline (← membersFrom (value depth) ((← size) + 1) []))

def nesting : Nat := 80

structure Section where
  path : List Key
  members : Members

def header (s : Section) : Reader Section := do
  let start ← offset
  expect ['[']
  let many ← accept ['[']
  let (path, last) ← keys
  expect (if many then [']', ']'] else [']'])
  let span : Span := ⟨start, ← offset⟩
  let add := if many then addElement last span else addTable last span
  match Item.under false (fun _ members => add members) path .headed s.members with
  | some members => return ⟨path ++ [last], members⟩
  | none => failure

def assignment (s : Section) : Reader Section := do
  let (path, last) ← keys
  expect ['=']
  blanks
  let (span, item) ← value nesting
  match Item.under false (addMember path last span item) s.path .headed s.members with
  | some members => return ⟨s.path, members⟩
  | none => failure

def statementsFrom : Nat → Section → Reader Section
  | 0, _ => failure
  | fuel + 1, s => do
      blanks
      match ← peek with
      | none => return s
      | some c =>
          let s ←
            if c = '#' || c = '\n' || c = '\r' then pure s
            else if c = '[' then header s
            else assignment s
          endOfLine
          statementsFrom fuel s

def document : Reader Members := do
  discard (accept ['\ufeff'])
  return (← statementsFrom ((← size) + 1) ⟨[], []⟩).members

end Reader

def parse (text : String) : Option Members :=
  (StateT.run Reader.document ⟨0, text.toList⟩).map (·.1)

end EnclosingScope.Toml
