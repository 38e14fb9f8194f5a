namespace EnclosingScope.Text

def claim (c : Char) (low high : Nat) : Nat → List (Char × Bool) → Option (List (Char × Bool))
  | _, [] => none
  | i, (d, marked) :: rest =>
      if high ≤ i then none
      else if low ≤ i && c = d && !marked then some ((d, true) :: rest)
      else (claim c low high (i + 1) rest).map ((d, marked) :: ·)

def shared (reach : Nat) (i : Nat) :
    List Char → List (Char × Bool) → List Char × List (Char × Bool)
  | [], bs => ([], bs)
  | a :: as, bs =>
      match claim a (i - reach) (i + reach + 1) 0 bs with
      | none => shared reach (i + 1) as bs
      | some bs =>
          let (found, bs) := shared reach (i + 1) as bs
          (a :: found, bs)

-- A fraction, its denominator last.
def similarity (a b : String) : Nat × Nat :=
  let as := a.toList
  let bs := b.toList
  let m := as.length
  let n := bs.length
  if m = 0 && n = 0 then (1, 1)
  else
    let (found, marked) := shared (max m n / 2 - 1) 0 as (bs.map (·, false))
    let other := (marked.filter (·.2)).map (·.1)
    let k := found.length
    if k = 0 then (0, 1)
    else
      let swaps := ((found.zip other).filter fun (c, d) => c ≠ d).length / 2
      (k * k * n + k * k * m + (k - swaps) * m * n, 3 * k * m * n)

def lessSimilar (p q : Nat × Nat) : Bool :=
  p.1 * q.2 < q.1 * p.2

def suggestions (word : String) (known : List String) : List String :=
  let close := (known.map fun name => (similarity word name, name)).filter
    fun (score, _) => lessSimilar (7, 10) score
  (close.mergeSort fun p q => !lessSimilar q.1 p.1).map (·.2)

end EnclosingScope.Text
