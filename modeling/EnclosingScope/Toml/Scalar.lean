import EnclosingScope.Decimal.Digits
import EnclosingScope.Toml.Document

namespace EnclosingScope.Toml

open Decimal

namespace Number

def grouped (holds : Char → Bool) : List Char → Option (List Char)
  | [] => none
  | [c] => if holds c then some [c] else none
  | c :: '_' :: rest => if holds c then (grouped holds rest).map (c :: ·) else none
  | c :: d :: rest => if holds c then (grouped holds (d :: rest)).map (c :: ·) else none

def isSmallest (ds : List Char) : Bool :=
  ds.head? != some '0' || ds.length = 1

def signed : List Char → Bool × List Char
  | '-' :: rest => (true, rest)
  | '+' :: rest => (false, rest)
  | rest => (false, rest)

def inRange (i : Int) : Option Item :=
  if -9223372036854775808 ≤ i && i ≤ 9223372036854775807 then some (.integer i) else none

def decimal (cs : List Char) : Option Item := do
  let (negative, body) := signed cs
  let ds ← grouped isDigit body
  if isSmallest ds then inRange (if negative then -(value ds : Int) else value ds) else none

def hexValue (cs : List Char) : Nat :=
  cs.foldl (fun n c => 16 * n + (hexValue? c).getD 0) 0

def marked : List Char → Option Item
  | '0' :: 'x' :: body => do
      inRange (hexValue (← grouped (fun c => (hexValue? c).isSome) body))
  | '0' :: 'o' :: body => do
      let ds ← grouped (fun c => '0' ≤ c && c ≤ '7') body
      inRange (ds.foldl (fun n c => 8 * n + digitValue c) 0 : Nat)
  | '0' :: 'b' :: body => do
      let ds ← grouped (fun c => c = '0' || c = '1') body
      inRange (ds.foldl (fun n c => 2 * n + digitValue c) 0 : Nat)
  | _ => none

def nearest (ds : List Char) (exponent : Int) : Option Float :=
  let ds := ds.dropWhile (· = '0')
  let first : Int := ds.length + exponent
  if ds.isEmpty || first < -400 then some 0.0
  else if 400 < first then none
  else
    let f := Float.ofScientific (value ds) (exponent < 0) exponent.natAbs
    if f.isInf then none else some f

def isExponentMark (c : Char) : Bool := c = 'e' || c = 'E'

def exponent (cs : List Char) : Option Int := do
  let (negative, body) := signed cs
  let ds ← grouped isDigit body
  some (if negative then -(value ds : Int) else value ds)

def float (cs : List Char) : Option Item := do
  let (negative, body) := signed cs
  let mantissa := body.takeWhile fun c => !isExponentMark c
  let e ← match body.dropWhile fun c => !isExponentMark c with
    | [] => some 0
    | _ :: rest => exponent rest
  let whole ← grouped isDigit (mantissa.takeWhile (· ≠ '.'))
  let fraction ← match mantissa.dropWhile (· ≠ '.') with
    | [] => if mantissa.length = body.length then none else some []
    | _ :: rest => grouped isDigit rest
  if isSmallest whole then
    let f ← nearest (whole ++ fraction) (e - fraction.length)
    some (.float (if negative then -f else f).toBits)
  else none

def special (cs : List Char) : Option Item :=
  let (negative, body) := signed cs
  let named (f : Float) : Item := .float (if negative then -f else f).toBits
  if body = ['i', 'n', 'f'] then some (named (1.0 / 0.0))
  else if body = ['n', 'a', 'n'] then some (named (0.0 / 0.0))
  else none

end Number

namespace Moment

def field (width low high : Nat) (cs : List Char) : Option (Nat × List Char) :=
  let ds := cs.take width
  if ds.length = width && ds.all isDigit && low ≤ value ds && value ds ≤ high then
    some (value ds, cs.drop width)
  else none

def mark (c : Char) : List Char → Option (List Char)
  | d :: rest => if c = d then some rest else none
  | [] => none

def isLeap (year : Nat) : Bool :=
  year % 4 = 0 && (year % 100 ≠ 0 || year % 400 = 0)

def daysIn (year month : Nat) : Nat :=
  if month = 2 then (if isLeap year then 29 else 28)
  else if month = 4 || month = 6 || month = 9 || month = 11 then 30
  else 31

def date (cs : List Char) : Option (List Char) := do
  let (year, cs) ← field 4 0 9999 cs
  let (month, cs) ← field 2 1 12 (← mark '-' cs)
  let (_, cs) ← field 2 1 (daysIn year month) (← mark '-' cs)
  some cs

def time (cs : List Char) : Option (List Char) := do
  let (_, cs) ← field 2 0 23 cs
  let (_, cs) ← field 2 0 59 (← mark ':' cs)
  match mark ':' cs with
  | none => some cs
  | some cs =>
      let (_, cs) ← field 2 0 60 cs
      match mark '.' cs with
      | none => some cs
      | some cs =>
          if (cs.takeWhile isDigit).isEmpty then none else some (cs.dropWhile isDigit)

def zone : List Char → Option (List Char)
  | 'Z' :: rest | 'z' :: rest => some rest
  | '+' :: rest | '-' :: rest => do
      let (_, rest) ← field 2 0 23 rest
      let (_, rest) ← field 2 0 59 (← mark ':' rest)
      some rest
  | rest => some rest

def isSeparator (c : Char) : Bool := c = 'T' || c = 't' || c = ' '

def holds (cs : List Char) : Bool :=
  match date cs with
  | some [] => true
  | some (c :: rest) => isSeparator c && ((time rest).bind zone) == some []
  | none => time cs == some []

end Moment

def isDate (cs : List Char) : Bool :=
  Moment.date cs == some []

def scalar (cs : List Char) : Option Item :=
  if cs = ['t', 'r', 'u', 'e'] then some (.boolean true)
  else if cs = ['f', 'a', 'l', 's', 'e'] then some (.boolean false)
  else if Moment.holds cs then some .moment
  else Number.decimal cs <|> Number.marked cs <|> Number.float cs <|> Number.special cs

end EnclosingScope.Toml
