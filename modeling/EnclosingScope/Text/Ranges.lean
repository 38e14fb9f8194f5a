namespace EnclosingScope.Text

abbrev Ranges := Array (Nat × Nat)

namespace Ranges

def search (ranges : Ranges) (x : Nat) : Nat → Nat → Nat → Bool
  | 0, _, _ => false
  | fuel + 1, low, high =>
      if low < high then
        let middle := (low + high) / 2
        match ranges[middle]? with
        | none => false
        | some (first, last) =>
            if x < first then search ranges x fuel low middle
            else if last < x then search ranges x fuel (middle + 1) high
            else true
      else false

def holds (ranges : Ranges) (x : Nat) : Bool :=
  ranges.search x (ranges.size + 1) 0 ranges.size

end Ranges

end EnclosingScope.Text
