import EnclosingScope.Json.Printer
import EnclosingScope.Json.Reader

namespace EnclosingScope.Json

def Number.found : Number → Found
  | .integer value _ _ => .integer value
  | .float bits => .float (floatText bits)

structure Field (α : Type) where
  name : String
  required : Bool
  read : Nat → Reader (α → α)

namespace Field

variable {α β : Type}

def of (name : String) (required : Bool) (read : Nat → Reader β) (put : β → α → α) : Field α :=
  ⟨name, required, fun depth => do return put (← read depth)⟩

end Field

structure Shape (α : Type) where
  name : String
  blank : α
  fields : List (Field α)

namespace Reader

def unfit {α : Type} (mismatch : Mismatch) : Reader α :=
  throw (.unfit mismatch)

def found : Reader Found := do
  match ← peek with
  | '[' => pure .sequence
  | '\x7b' => pure .table
  | _ =>
      match ← value 0 with
      | .boolean b => pure (.boolean b)
      | .number n => pure n.found
      | .string s => pure (.text s)
      | _ => pure .null

def otherThan {α : Type} (wanted : String) : Reader α := do
  unfit (.kind (← found) wanted)

def count : Reader UInt64 := do
  let c ← peek
  if c = '-' || Decimal.isDigit c then
    let n ← number
    match n with
    | .integer i _ _ =>
        if 0 ≤ i then pure i.toNat.toUInt64 else unfit (.value n.found "usize")
    | .float _ => unfit (.kind n.found "usize")
  else otherThan "usize"

def text : Reader String := do
  if (← peek) = '"' then string else otherThan "a string"

def truth : Reader Bool := do
  match ← peek with
  | 't' => advance; word ['r', 'u', 'e']; pure true
  | 'f' => advance; word ['a', 'l', 's', 'e']; pure false
  | _ => otherThan "a boolean"

def optional {α : Type} (reader : Reader α) : Reader (Option α) := do
  if (← peek) = 'n' then
    advance
    word ['u', 'l', 'l']
    pure none
  else return some (← reader)

def values : Nat → Reader (List Value)
  | 0 => do if (← peek) = '[' then throw .malformed else otherThan "a sequence"
  | depth + 1 => do
      if (← peek) = '[' then listOf (value depth) else otherThan "a sequence"

end Reader

namespace Shape

open Reader

variable {α : Type}

def fromItems (shape : Shape α) (depth : Nat) : List (Field α) → Nat → α → Reader α
  | [], _, a => do
      close ']'
      pure a
  | field :: fields, count, a => do
      if ← moreItems (count == 0) then
        let put ← field.read depth
        fromItems shape depth fields (count + 1) (put a)
      else unfit (.length count shape.name shape.fields.length)

def member (shape : Shape α) (depth : Nat) (s : List String × α) :
    Reader (List String × α) := do
  let name ← string
  match shape.fields.find? (·.name = name) with
  | none =>
      colon
      pass ((← get).length + 1)
      pure s
  | some field =>
      if s.1.contains name then unfit (.duplicate name)
      else
        colon
        let put ← field.read depth
        pure (name :: s.1, put s.2)

def absent? (shape : Shape α) (seen : List String) : Option (Field α) :=
  shape.fields.find? fun field => field.required && !seen.contains field.name

def fromMembers (shape : Shape α) (depth : Nat) : Reader α := do
  let (seen, a) ← members (shape.member depth) ((← get).length + 1) true ([], shape.blank)
  match shape.absent? seen with
  | some field => unfit (.missing field.name)
  | none => pure a

def read (shape : Shape α) : Nat → Reader α
  | 0 => do
      let c ← peek
      if c = '[' || c = '\x7b' then throw .malformed else otherThan ("struct " ++ shape.name)
  | depth + 1 => do
      match ← peek with
      | '[' => advance; shape.fromItems depth shape.fields 0 shape.blank
      | '\x7b' => advance; shape.fromMembers depth
      | _ => otherThan ("struct " ++ shape.name)

def nesting : Nat := 127

def parse (shape : Shape α) (text : String) : Except Failure α :=
  Reader.run (shape.read nesting) text

end Shape

end EnclosingScope.Json
