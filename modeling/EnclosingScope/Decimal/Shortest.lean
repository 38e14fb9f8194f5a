import EnclosingScope.Decimal.Digits

namespace EnclosingScope.Decimal

structure Scaled where
  digits : Nat
  exponent : Int
  deriving DecidableEq, Repr

-- A number above zero and the borders, in quarters of its last place, of what is read as it.
structure Rounded where
  quarters : Nat
  below : Nat
  above : Nat
  -- The borders belong to it themselves.
  closed : Bool
  exponent : Int

def fractionOf (bits : UInt64) : Nat :=
  (bits &&& 0xFFFFFFFFFFFFF).toNat

def exponentOf (bits : UInt64) : Nat :=
  (bits >>> 52 &&& 0x7FF).toNat

def isNegative (bits : UInt64) : Bool :=
  bits >>> 63 = 1

def isFinite (bits : UInt64) : Bool :=
  exponentOf bits ≠ 0x7FF

namespace Rounded

def ofBits (bits : UInt64) : Rounded :=
  let fraction := fractionOf bits
  let field := exponentOf bits
  let mantissa := if field = 0 then fraction else fraction + 0x10000000000000
  let place : Int := if field = 0 then -1074 else (field : Int) - 1075
  { quarters := 4 * mantissa
    below := if fraction = 0 && 1 < field then 4 * mantissa - 1 else 4 * mantissa - 2
    above := 4 * mantissa + 2
    closed := mantissa % 2 = 0
    exponent := place - 2 }

-- One unit of the grid with steps of `10 ^ e`, in units that are whole for the number as well: the
-- factor for the grid and the factor for the quarters.
def factors (r : Rounded) (e : Int) : Nat × Nat :=
  (Nat.pow 10 e.toNat * Nat.pow 2 (-r.exponent).toNat,
    Nat.pow 2 r.exponent.toNat * Nat.pow 10 (-e).toNat)

def holds (r : Rounded) (low high point : Nat) : Bool :=
  if r.closed then low ≤ point && point ≤ high else low < point && point < high

def onGrid (r : Rounded) (e : Int) : Option Nat :=
  let (grid, quarter) := r.factors e
  let value := r.quarters * quarter
  let down := value / grid
  let fits := fun k => r.holds (r.below * quarter) (r.above * quarter) (k * grid)
  match fits down, fits (down + 1) with
  | true, true =>
      let toDown := value - down * grid
      let toUp := (down + 1) * grid - value
      if toDown < toUp || (toDown = toUp && down % 2 = 0) then some down else some (down + 1)
  | true, false => some down
  | false, true => some (down + 1)
  | false, false => none

def magnitude (r : Rounded) : Int :=
  let (grid, quarter) := r.factors (-400)
  ((Decimal.digits (r.quarters * quarter / grid)).length : Int) - 401

def search (r : Rounded) : Nat → Int → Scaled
  | 0, e => ⟨0, e⟩
  | fuel + 1, e =>
      match r.onGrid e with
      | some k => ⟨k, e⟩
      | none => search r fuel (e - 1)

end Rounded

def Scaled.trim (s : Scaled) : Scaled :=
  if h : s.digits ≠ 0 ∧ s.digits % 10 = 0 then Scaled.trim ⟨s.digits / 10, s.exponent + 1⟩ else s
termination_by s.digits
decreasing_by omega

def shortest (bits : UInt64) : Scaled :=
  let r := Rounded.ofBits bits
  if r.quarters = 0 then ⟨0, 0⟩ else (r.search 18 r.magnitude).trim

end EnclosingScope.Decimal
