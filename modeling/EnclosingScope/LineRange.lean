import EnclosingScope.Decimal.Digits

namespace EnclosingScope

structure LineRange where
  start : UInt64
  stop : UInt64
  start_ne_zero : start ≠ 0
  start_le_stop : start ≤ stop

structure InvalidRange where
  start : UInt64
  stop : UInt64
  deriving DecidableEq, Repr

namespace InvalidRange

def message (e : InvalidRange) : String :=
  "invalid line range " ++ Decimal.text e.start.toNat ++ "..=" ++ Decimal.text e.stop.toNat
    ++ ": lines are 1-indexed and start must not exceed end"

end InvalidRange

namespace LineRange

def ofLines (start stop : UInt64) : Except InvalidRange LineRange :=
  if h : start ≠ 0 ∧ start ≤ stop then .ok ⟨start, stop, h.1, h.2⟩
  else .error ⟨start, stop⟩

def line (line : UInt64) : Except InvalidRange LineRange :=
  ofLines line line

def isWithin (r : LineRange) (first last : UInt64) : Bool :=
  first ≤ r.start && r.stop ≤ last

def text (r : LineRange) : String :=
  Decimal.text r.start.toNat ++ "-" ++ Decimal.text r.stop.toNat

end LineRange

end EnclosingScope
