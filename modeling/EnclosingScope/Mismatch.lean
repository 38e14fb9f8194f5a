import EnclosingScope.Decimal.Digits
import EnclosingScope.Text.Quoted

namespace EnclosingScope

inductive Found where
  | null
  | boolean (value : Bool)
  | integer (value : Int)
  | float (written : String)
  | text (value : String)
  | sequence
  | table
  deriving DecidableEq, Repr

def Found.message : Found → String
  | null => "null"
  | boolean value => "boolean `" ++ (if value then "true" else "false") ++ "`"
  | integer value => "integer `" ++ Decimal.intText value ++ "`"
  | float written => "floating point `" ++ written ++ "`"
  | text value => "string " ++ Text.quoted value
  | sequence => "sequence"
  | table => "map"

inductive Mismatch where
  | missing (field : String)
  | duplicate (field : String)
  | unknown (field : String) (known : List String)
  | kind (found : Found) (wanted : String)
  | value (found : Found) (wanted : String)
  | length (found : Nat) (name : String) (fields : Nat)
  deriving DecidableEq, Repr

namespace Mismatch

def inBackticks (name : String) : String :=
  "`" ++ name ++ "`"

def message : Mismatch → String
  | missing field => "missing field " ++ inBackticks field
  | duplicate field => "duplicate field " ++ inBackticks field
  | unknown field known =>
      "unknown field " ++ inBackticks field ++ ", expected "
        ++ String.intercalate " or " (known.map inBackticks)
  | kind found wanted => "invalid type: " ++ found.message ++ ", expected " ++ wanted
  | value found wanted => "invalid value: " ++ found.message ++ ", expected " ++ wanted
  | length found name fields =>
      "invalid length " ++ Decimal.text found ++ ", expected struct " ++ name ++ " with "
        ++ Decimal.text fields ++ (if fields = 1 then " element" else " elements")

end Mismatch

end EnclosingScope
