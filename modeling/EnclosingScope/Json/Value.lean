import EnclosingScope.Text.Bytes

namespace EnclosingScope.Json

inductive Number where
  | integer (value : Int) (lower : -9223372036854775808 ≤ value)
      (upper : value ≤ 18446744073709551615)
  | float (bits : UInt64)
  deriving DecidableEq, Repr

namespace Number

def ofUInt64 (n : UInt64) : Number :=
  integer n.toNat (by omega) (by have := n.toNat_lt; omega)

end Number

inductive Value where
  | null
  | boolean (value : Bool)
  | number (value : Number)
  | string (value : String)
  | array (items : List Value)
  | object (members : List (String × Value))
  deriving Repr

namespace Value

def ofUInt64 (n : UInt64) : Value :=
  number (Number.ofUInt64 n)

def ofOption {α : Type} (f : α → Value) : Option α → Value
  | none => null
  | some a => f a

mutual

def decEq : (a b : Value) → Decidable (a = b)
  | null, null => isTrue rfl
  | boolean a, boolean b => decidable_of_iff (a = b) (by simp)
  | number a, number b => decidable_of_iff (a = b) (by simp)
  | string a, string b => decidable_of_iff (a = b) (by simp)
  | array as, array bs =>
      match decEqItems as bs with
      | isTrue h => isTrue (by rw [h])
      | isFalse h => isFalse (by simpa using h)
  | object as, object bs =>
      match decEqMembers as bs with
      | isTrue h => isTrue (by rw [h])
      | isFalse h => isFalse (by simpa using h)
  | null, boolean _ | null, number _ | null, string _ | null, array _ | null, object _
  | boolean _, null | boolean _, number _ | boolean _, string _ | boolean _, array _
  | boolean _, object _
  | number _, null | number _, boolean _ | number _, string _ | number _, array _
  | number _, object _
  | string _, null | string _, boolean _ | string _, number _ | string _, array _
  | string _, object _
  | array _, null | array _, boolean _ | array _, number _ | array _, string _
  | array _, object _
  | object _, null | object _, boolean _ | object _, number _ | object _, string _
  | object _, array _ => isFalse (by simp)

def decEqItems : (as bs : List Value) → Decidable (as = bs)
  | [], [] => isTrue rfl
  | [], _ :: _ | _ :: _, [] => isFalse (by simp)
  | a :: as, b :: bs =>
      match decEq a b, decEqItems as bs with
      | isTrue h, isTrue hs => isTrue (by rw [h, hs])
      | isFalse h, _ => isFalse (by simp [h])
      | _, isFalse hs => isFalse (by simp [hs])

def decEqMembers : (as bs : List (String × Value)) → Decidable (as = bs)
  | [], [] => isTrue rfl
  | [], _ :: _ | _ :: _, [] => isFalse (by simp)
  | (k, a) :: as, (l, b) :: bs =>
      match decEq a b, decEqMembers as bs with
      | isTrue h, isTrue hs => decidable_of_iff (k = l) (by simp [h, hs])
      | isFalse h, _ => isFalse (by simp [h])
      | _, isFalse hs => isFalse (by simp [hs])

end

instance : DecidableEq Value := decEq

end Value

namespace Members

def insert (name : String) (value : Value) :
    List (String × Value) → List (String × Value)
  | [] => [(name, value)]
  | first :: rest =>
      if name = first.1 then (name, value) :: rest
      else if Text.before name first.1 then (name, value) :: first :: rest
      else first :: insert name value rest

end Members

end EnclosingScope.Json
