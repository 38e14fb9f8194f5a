import EnclosingScope.Decimal.Style
import EnclosingScope.Json.Value

namespace EnclosingScope.Json

def floatStyle : Decimal.Style where
  positional first := -5 ≤ first && first ≤ 15
  exponentMark := ['e']
  exponentWidth := 2

def floatText (bits : UInt64) : String :=
  if Decimal.isFinite bits then floatStyle.write bits else "null"

def Number.print : Number → List Char
  | integer value _ _ => (Decimal.intText value).toList
  | float bits => (floatText bits).toList

def escape (c : Char) : List Char :=
  if c = '"' then ['\\', '"']
  else if c = '\\' then ['\\', '\\']
  else if ' ' ≤ c then [c]
  else if c = '\n' then ['\\', 'n']
  else if c = '\r' then ['\\', 'r']
  else if c = '\t' then ['\\', 't']
  else if c = '\x08' then ['\\', 'b']
  else if c = '\x0c' then ['\\', 'f']
  else ['\\', 'u', '0', '0', Decimal.hexChar (c.toNat / 16), Decimal.hexChar (c.toNat % 16)]

def printString (s : String) : List Char :=
  '"' :: s.toList.flatMap escape ++ ['"']

structure Spacing where
  line : Nat → List Char
  colon : List Char

namespace Spacing

def compact : Spacing := ⟨fun _ => [], []⟩

def pretty : Spacing := ⟨fun depth => '\n' :: List.replicate (2 * depth) ' ', [' ']⟩

end Spacing

namespace Value

mutual

def print (spacing : Spacing) (depth : Nat) : Value → List Char
  | null => ['n', 'u', 'l', 'l']
  | boolean true => ['t', 'r', 'u', 'e']
  | boolean false => ['f', 'a', 'l', 's', 'e']
  | number value => value.print
  | string value => printString value
  | array [] => ['[', ']']
  | array (item :: items) =>
      '[' :: spacing.line (depth + 1) ++ print spacing (depth + 1) item
        ++ printItems spacing (depth + 1) items ++ spacing.line depth ++ [']']
  | object [] => ['\x7b', '\x7d']
  | object ((name, value) :: members) =>
      '\x7b' :: spacing.line (depth + 1) ++ printString name ++ ':' :: spacing.colon
        ++ print spacing (depth + 1) value ++ printMembers spacing (depth + 1) members
        ++ spacing.line depth ++ ['\x7d']

def printItems (spacing : Spacing) (depth : Nat) : List Value → List Char
  | [] => []
  | item :: items =>
      ',' :: spacing.line depth ++ print spacing depth item ++ printItems spacing depth items

def printMembers (spacing : Spacing) (depth : Nat) : List (String × Value) → List Char
  | [] => []
  | (name, value) :: members =>
      ',' :: spacing.line depth ++ printString name ++ ':' :: spacing.colon
        ++ print spacing depth value ++ printMembers spacing depth members

end

def compact (value : Value) : String :=
  String.ofList (value.print .compact 0)

def pretty (value : Value) : String :=
  String.ofList (value.print .pretty 0)

end Value

end EnclosingScope.Json
