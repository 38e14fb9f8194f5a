namespace EnclosingScope.Tree

structure Point where
  row : UInt64
  column : UInt64
  deriving DecidableEq, Repr

namespace Point

-- Lines count from one. The last row has no successor and shares the line before it.
def line (p : Point) : UInt64 :=
  if p.row = 18446744073709551615 then p.row else p.row + 1

instance : LE Point := ⟨fun p q => p.row < q.row ∨ (p.row = q.row ∧ p.column ≤ q.column)⟩

instance (p q : Point) : Decidable (p ≤ q) :=
  inferInstanceAs (Decidable (p.row < q.row ∨ (p.row = q.row ∧ p.column ≤ q.column)))

theorem le_iff {p q : Point} :
    p ≤ q ↔ p.row < q.row ∨ (p.row = q.row ∧ p.column ≤ q.column) := Iff.rfl

theorem line_toNat (p : Point) : p.line.toNat = min (p.row.toNat + 1) 18446744073709551615 := by
  have hb := p.row.toNat_lt
  unfold line
  split
  · next h => rw [h]; decide
  · next h =>
      have hne : p.row.toNat ≠ 18446744073709551615 := fun e => h (UInt64.toNat_inj.1 e)
      rw [UInt64.toNat_add]
      simp only [UInt64.toNat_one]
      omega

theorem line_ne_zero (p : Point) : p.line ≠ 0 := by
  intro h
  have hn := p.line_toNat
  rw [h, UInt64.toNat_zero] at hn
  omega

end Point

end EnclosingScope.Tree
