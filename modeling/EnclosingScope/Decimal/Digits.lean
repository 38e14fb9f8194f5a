namespace EnclosingScope.Decimal

def digitChar (d : Nat) : Char :=
  Char.ofNat ('0'.toNat + d)

def digits (n : Nat) : List Char :=
  if n < 10 then [digitChar n] else digits (n / 10) ++ [digitChar (n % 10)]

def text (n : Nat) : String :=
  String.ofList (digits n)

def intText (i : Int) : String :=
  if i < 0 then "-" ++ text i.natAbs else text i.natAbs

def isDigit (c : Char) : Bool :=
  '0' ≤ c && c ≤ '9'

def digitValue (c : Char) : Nat :=
  c.toNat - '0'.toNat

def extend (n : Nat) (cs : List Char) : Nat :=
  cs.foldl (fun n c => 10 * n + digitValue c) n

def value (cs : List Char) : Nat :=
  extend 0 cs

def hexValue? (c : Char) : Option Nat :=
  if isDigit c then some (digitValue c)
  else if 'a' ≤ c && c ≤ 'f' then some (c.toNat - 'a'.toNat + 10)
  else if 'A' ≤ c && c ≤ 'F' then some (c.toNat - 'A'.toNat + 10)
  else none

def hexChar (d : Nat) : Char :=
  if d < 10 then digitChar d else Char.ofNat ('a'.toNat + (d - 10))

def hexDigits (n : Nat) : List Char :=
  if n < 16 then [hexChar n] else hexDigits (n / 16) ++ [hexChar (n % 16)]

theorem digits_ne_nil (n : Nat) : digits n ≠ [] := by
  rw [digits]
  split <;> simp

theorem extend_append (n : Nat) (as bs : List Char) :
    extend n (as ++ bs) = extend (extend n as) bs := by
  simp [extend]

theorem digitValue_digitChar : ∀ d < 10, digitValue (digitChar d) = d := by
  decide

theorem value_digits (n : Nat) : value (digits n) = n := by
  induction n using Nat.strongRecOn with
  | ind n ih =>
      rw [digits]
      split
      · next h => simp [value, extend, digitValue_digitChar n h]
      · next h =>
          have hq := ih (n / 10) (by omega)
          rw [value] at hq
          rw [value, extend_append, hq]
          simp only [extend, List.foldl_cons, List.foldl_nil,
            digitValue_digitChar (n % 10) (Nat.mod_lt _ (by decide))]
          omega

end EnclosingScope.Decimal
