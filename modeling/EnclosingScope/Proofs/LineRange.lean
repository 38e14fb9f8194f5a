import EnclosingScope.LineRange

namespace EnclosingScope.LineRange

theorem ofLines_of_valid {start stop : UInt64} (h : start ≠ 0) (h' : start ≤ stop) :
    ofLines start stop = .ok ⟨start, stop, h, h'⟩ :=
  dif_pos ⟨h, h'⟩

theorem ofLines_ends (r : LineRange) : ofLines r.start r.stop = .ok r :=
  ofLines_of_valid r.start_ne_zero r.start_le_stop

theorem ofLines_of_invalid {start stop : UInt64} (h : start = 0 ∨ stop < start) :
    ofLines start stop = .error ⟨start, stop⟩ := by
  refine dif_neg fun hv => ?_
  rcases h with h | h
  · exact hv.1 h
  · exact UInt64.not_le.2 h hv.2

instance : HasSubset LineRange := ⟨fun r larger => larger.start ≤ r.start ∧ r.stop ≤ larger.stop⟩

instance (r larger : LineRange) : Decidable (r ⊆ larger) :=
  inferInstanceAs (Decidable (larger.start ≤ r.start ∧ r.stop ≤ larger.stop))

theorem isWithin_iff {r : LineRange} {first last : UInt64} :
    r.isWithin first last = true ↔ first ≤ r.start ∧ r.stop ≤ last := by
  simp [isWithin]

end EnclosingScope.LineRange
