import EnclosingScope.Decimal.Shortest

namespace EnclosingScope.Decimal

structure Style where
  -- Of numbers whose first digit stands at this power of ten, whether all digits are written.
  positional : Int → Bool
  exponentMark : List Char
  exponentWidth : Nat

def Style.plain : Style := ⟨fun _ => true, [], 0⟩

def zeros (n : Nat) : List Char :=
  List.replicate n '0'

def positioned (ds : List Char) (e : Int) : List Char :=
  if 0 ≤ e then ds ++ zeros e.toNat ++ ['.', '0']
  else
    let places := (-e).toNat
    if places < ds.length then ds.take (ds.length - places) ++ '.' :: ds.drop (ds.length - places)
    else '0' :: '.' :: zeros (places - ds.length) ++ ds

def scientific (form : Style) (ds : List Char) (e : Int) : List Char :=
  let fraction := match ds.drop 1 with | [] => [] | rest => '.' :: rest
  let exponent := digits e.natAbs
  ds.take 1 ++ fraction ++ form.exponentMark ++ [if e < 0 then '-' else '+']
    ++ zeros (form.exponentWidth - exponent.length) ++ exponent

def Style.write (form : Style) (bits : UInt64) : String :=
  let s := shortest bits
  let ds := digits s.digits
  let first := s.exponent + (ds.length : Int) - 1
  let body :=
    if form.positional first then positioned ds s.exponent else scientific form ds first
  String.ofList (if isNegative bits then '-' :: body else body)

end EnclosingScope.Decimal
