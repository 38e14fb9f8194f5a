import EnclosingScope.Decimal.Digits

namespace EnclosingScope.Decimal

theorem isDigit_digitChar : ∀ d < 10, isDigit (digitChar d) = true := by
  decide

theorem digitChar_ne_zero : ∀ d < 10, d ≠ 0 → digitChar d ≠ '0' := by
  decide

theorem hexValue?_hexChar : ∀ d < 16, hexValue? (hexChar d) = some d := by
  decide

theorem isDigit_of_mem_digits {n : Nat} {c : Char} (h : c ∈ digits n) : isDigit c = true := by
  induction n using Nat.strongRecOn with
  | ind n ih =>
      rw [digits] at h
      split at h
      · next hn =>
          rw [List.mem_singleton] at h
          rw [h]
          exact isDigit_digitChar n hn
      · rcases List.mem_append.1 h with hc | hc
        · exact ih (n / 10) (by omega) hc
        · rw [List.mem_singleton] at hc
          rw [hc]
          exact isDigit_digitChar _ (Nat.mod_lt _ (by decide))

theorem head?_digits_ne_zero {n : Nat} (hn : n ≠ 0) : (digits n).head? ≠ some '0' := by
  induction n using Nat.strongRecOn with
  | ind n ih =>
      rw [digits]
      split
      · next hlt =>
          intro h
          exact digitChar_ne_zero n hlt hn (Option.some.inj h)
      · next hge =>
          rw [List.head?_append, Option.or_of_isSome (by simp [digits_ne_nil])]
          exact ih (n / 10) (by omega) (by omega)

theorem not_leading_zero (n : Nat) :
    ¬ ((digits n).head? = some '0' ∧ (digits n).length ≠ 1) := by
  rintro ⟨hzero, hlength⟩
  by_cases hn : n = 0
  · rw [hn, digits, if_pos (by decide)] at hlength
    exact hlength rfl
  · exact head?_digits_ne_zero hn hzero

end EnclosingScope.Decimal
