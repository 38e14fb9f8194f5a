import EnclosingScope.Decimal.Digits
import EnclosingScope.Json.Value
import EnclosingScope.Mismatch

namespace EnclosingScope.Json

inductive Failure where
  | early
  | malformed
  | unfit (mismatch : Mismatch)
  deriving DecidableEq, Repr

structure Literal where
  negative : Bool
  whole : List Char
  fraction : List Char
  exponent : Option (Bool × List Char)
  isWhole : Bool

abbrev Reader := StateT (List Char) (Except Failure)

namespace Reader

def isBlank (c : Char) : Bool :=
  c == ' ' || c == '\n' || c == '\t' || c == '\r'

def skipBlanks : Reader Unit :=
  modify (·.dropWhile isBlank)

def word : List Char → Reader Unit
  | [] => pure ()
  | c :: cs => do
      match ← get with
      | [] => throw .early
      | d :: rest => if c = d then set rest; word cs else throw .malformed

def peek : Reader Char := do
  skipBlanks
  match ← get with
  | [] => throw .early
  | c :: _ => pure c

def advance : Reader Unit :=
  modify (·.drop 1)

-- A text with less than four more bytes has ended.
def unit : Reader Nat := do
  match ← get with
  | a :: b :: c :: d :: rest =>
      match Decimal.hexValue? a, Decimal.hexValue? b, Decimal.hexValue? c,
        Decimal.hexValue? d with
      | some a, some b, some c, some d =>
          set rest
          pure (((16 * a + b) * 16 + c) * 16 + d)
      | _, _, _, _ => throw .malformed
  | rest =>
      if Text.byteCount rest < 4 then throw .early else throw .malformed

def isLeading (u : Nat) : Bool := 0xD800 ≤ u && u ≤ 0xDBFF

def isTrailing (u : Nat) : Bool := 0xDC00 ≤ u && u ≤ 0xDFFF

def exactly (c : Char) : Reader Unit := do
  match ← get with
  | [] => throw .early
  | d :: rest => if c = d then set rest else throw .malformed

def numbered : Reader Char := do
  let u ← unit
  if isTrailing u then throw .malformed
  else if isLeading u then
    exactly '\\'
    exactly 'u'
    let v ← unit
    if isTrailing v then pure (Char.ofNat ((u - 0xD800) * 0x400 + (v - 0xDC00) + 0x10000))
    else throw .malformed
  else pure (Char.ofNat u)

def escaped (onNumber : Reader Char) : Reader Char := do
  match ← get with
  | [] => throw .early
  | c :: rest =>
      set rest
      match c with
      | '"' => pure '"'
      | '\\' => pure '\\'
      | '/' => pure '/'
      | 'b' => pure '\x08'
      | 'f' => pure '\x0c'
      | 'n' => pure '\n'
      | 'r' => pure '\r'
      | 't' => pure '\t'
      | 'u' => onNumber
      | _ => throw .malformed

def characters (onNumber : Reader Char) : Nat → List Char → Reader String
  | 0, _ => throw .malformed
  | fuel + 1, back => do
      match ← get with
      | [] => throw .early
      | c :: rest =>
          set rest
          if c = '"' then pure (String.ofList back.reverse)
          else if c = '\\' then
            let d ← escaped onNumber
            characters onNumber fuel (d :: back)
          else if c < ' ' then throw .malformed
          else characters onNumber fuel (c :: back)

def string : Reader String := do
  advance
  characters numbered ((← get).length + 1) []

-- A string that nobody wants: the units in it need not make up characters.
def passString : Reader Unit := do
  advance
  discard (characters (do discard unit; pure ' ') ((← get).length + 1) [])

def digitRun : Reader (List Char) := do
  let cs ← get
  set (cs.dropWhile Decimal.isDigit)
  pure (cs.takeWhile Decimal.isDigit)

def someDigits (atEnd : Failure) : Reader (List Char) := do
  match ← digitRun with
  | [] => throw (if (← get).isEmpty then atEnd else .malformed)
  | ds => pure ds

def sign (cs : List Char) : Bool × List Char :=
  match cs with
  | '-' :: rest => (true, rest)
  | '+' :: rest => (false, rest)
  | rest => (false, rest)

def exponentPart (atEnd : Failure) : Reader (Option (Bool × List Char)) := do
  match ← get with
  | 'e' :: rest | 'E' :: rest =>
      let (negative, rest) := sign rest
      set rest
      pure (some (negative, ← someDigits atEnd))
  | _ => pure none

def literal (atEnd : Failure) : Reader Literal := do
  let negative := (← get).head? == some '-'
  if negative then advance
  let whole ← someDigits atEnd
  if whole.head? == some '0' && whole.length ≠ 1 then throw .malformed
  match ← get with
  | '.' :: rest =>
      set rest
      let fraction ← someDigits atEnd
      pure ⟨negative, whole, fraction, ← exponentPart atEnd, false⟩
  | _ =>
      let exponent ← exponentPart atEnd
      pure ⟨negative, whole, [], exponent, exponent.isNone⟩

end Reader

namespace Literal

def accumulate : Nat → List Char → Nat × List Char
  | n, [] => (n, [])
  | n, c :: cs =>
      if 10 * n + Decimal.digitValue c < 2 ^ 64 then
        accumulate (10 * n + Decimal.digitValue c) cs
      else (n, c :: cs)

def powerOfTen (e : Nat) : Float := Float.ofScientific 1 false e

-- Scales by one table entry, and by the largest of all before that if the entry is too small for
-- the table. Numbers beyond the largest float are refused.
def scale : Nat → Float → Int → Option Float
  | 0, f, _ => some f
  | fuel + 1, f, e =>
      if e.natAbs ≤ 308 then
        if 0 ≤ e then
          let scaled := f * powerOfTen e.natAbs
          if scaled.isInf then none else some scaled
        else some (f / powerOfTen e.natAbs)
      else if f == 0.0 then some f
      else if 0 ≤ e then none
      else scale fuel (f / powerOfTen 308) (e + 308)

def exponentLimit : Nat := 2147483647

-- Digits that do not fit in 64 bits count by their places only.
def toFloat (l : Literal) : Option Float := do
  let (whole, restOfWhole) := accumulate 0 l.whole
  let (digits, restOfFraction) := accumulate whole l.fraction
  let places : Int :=
    (restOfWhole.length : Int) - ((l.fraction.length : Int) - restOfFraction.length)
  let (negative, explicit) := l.exponent.getD (false, [])
  let f ←
    if Decimal.value explicit ≤ exponentLimit then
      let given : Int := Decimal.value explicit
      scale 16 digits.toUInt64.toFloat (if negative then places - given else places + given)
    else if digits = 0 || negative then some 0.0
    else none
  pure (if l.negative then -f else f)

-- Whole numbers stay integers as long as they fit; zero with a sign does not.
def toNumber (l : Literal) : Option Number :=
  let i : Int := if l.negative then -(Decimal.value l.whole : Int) else Decimal.value l.whole
  if h : l.isWhole ∧ ¬(l.negative ∧ i = 0) ∧ -9223372036854775808 ≤ i
      ∧ i ≤ 18446744073709551615 then
    some (.integer i h.2.2.1 h.2.2.2)
  else l.toFloat.map fun f => .float f.toBits

end Literal

namespace Reader

def number : Reader Number := do
  match (← literal .early).toNumber with
  | some n => pure n
  | none => throw .malformed

def moreItems (first : Bool) : Reader Bool := do
  let c ← peek
  if c = ']' then pure false
  else if first then pure true
  else if c = ',' then
    advance
    if (← peek) = ']' then throw .malformed else pure true
  else throw .malformed

def moreMembers (first : Bool) : Reader Bool := do
  let c ← peek
  if c = '\x7d' then pure false
  else if first then
    if c = '"' then pure true else throw .malformed
  else if c = ',' then
    advance
    if (← peek) = '"' then pure true else throw .malformed
  else throw .malformed

def close (bracket : Char) : Reader Unit := do
  if (← peek) = bracket then advance else throw .malformed

def colon : Reader Unit := do
  if (← peek) = ':' then advance else throw .malformed

def items {σ : Type} (item : σ → Reader σ) : Nat → Bool → σ → Reader σ
  | 0, _, _ => throw .malformed
  | fuel + 1, first, s => do
      if ← moreItems first then
        let s ← item s
        items item fuel false s
      else
        close ']'
        pure s

def members {σ : Type} (member : σ → Reader σ) : Nat → Bool → σ → Reader σ
  | 0, _, _ => throw .malformed
  | fuel + 1, first, s => do
      if ← moreMembers first then
        let s ← member s
        members member fuel false s
      else
        close '\x7d'
        pure s

def listOf {α : Type} (item : Reader α) : Reader (List α) := do
  advance
  let back ← items (fun back => do pure ((← item) :: back)) ((← get).length + 1) true []
  pure back.reverse

def valueWith (onArray onObject : Reader Value) : Reader Value := do
  match ← peek with
  | 'n' => advance; word ['u', 'l', 'l']; pure .null
  | 't' => advance; word ['r', 'u', 'e']; pure (.boolean true)
  | 'f' => advance; word ['a', 'l', 's', 'e']; pure (.boolean false)
  | '"' => return .string (← string)
  | '[' => onArray
  | '\x7b' => onObject
  | c => if c = '-' || Decimal.isDigit c then return .number (← number) else throw .malformed

def value : Nat → Reader Value
  | 0 => valueWith (throw .malformed) (throw .malformed)
  | depth + 1 =>
      valueWith (do return .array (← listOf (value depth)))
        (do
          advance
          let found ← members
            (fun found => do
              let name ← string
              colon
              return Members.insert name (← value depth) found)
            ((← get).length + 1) true []
          return .object found)

def pass : Nat → Reader Unit
  | 0 => throw .malformed
  | depth + 1 => do
      match ← peek with
      | 'n' => advance; word ['u', 'l', 'l']
      | 't' => advance; word ['r', 'u', 'e']
      | 'f' => advance; word ['a', 'l', 's', 'e']
      | '"' => passString
      | '[' => advance; items (fun _ => pass depth) ((← get).length + 1) true ()
      | '\x7b' =>
          advance
          members (fun _ => do passString; colon; pass depth) ((← get).length + 1) true ()
      | c =>
          if c = '-' || Decimal.isDigit c then discard (literal .malformed)
          else throw .malformed

def run {α : Type} (reader : Reader α) (text : String) : Except Failure α := do
  let (a, rest) ← StateT.run reader text.toList
  if rest.all isBlank then pure a else throw .malformed

end Reader

end EnclosingScope.Json
