import EnclosingScope.Json.Printer
import EnclosingScope.Proofs.Decimal
import EnclosingScope.Proofs.Json.Reading

namespace EnclosingScope.Json.Reader

open Decimal

theorem control_cases : ∀ n < 32,
    isTrailing (((16 * 0 + 0) * 16 + n / 16) * 16 + n % 16) = false ∧
      isLeading (((16 * 0 + 0) * 16 + n / 16) * 16 + n % 16) = false ∧
      ((16 * 0 + 0) * 16 + n / 16) * 16 + n % 16 = n := by
  decide

theorem takes_unit_control {n : Nat} (hn : n < 32) (rest : List Char) :
    Takes unit ('0' :: '0' :: hexChar (n / 16) :: hexChar (n % 16) :: rest) n rest := by
  have hzero : hexValue? '0' = some 0 := by decide
  have hhigh := hexValue?_hexChar (n / 16) (by omega)
  have hlow := hexValue?_hexChar (n % 16) (Nat.mod_lt _ (by decide))
  refine (takes_get _).bind ?_
  simp only [hzero, hhigh, hlow]
  refine (takes_set _ _).bind ?_
  rw [(control_cases n hn).2.2]
  exact takes_pure _ _

theorem takes_numbered_control {n : Nat} (hn : n < 32) (rest : List Char) :
    Takes numbered ('0' :: '0' :: hexChar (n / 16) :: hexChar (n % 16) :: rest) (Char.ofNat n)
      rest := by
  obtain ⟨htrailing, hleading, hvalue⟩ := control_cases n hn
  rw [hvalue] at htrailing hleading
  refine (takes_unit_control hn rest).bind ?_
  simp only [htrailing, hleading, Bool.false_eq_true, if_false]
  exact takes_pure _ _

theorem toNat_lt_of_not_le {c : Char} (h : ¬ ' ' ≤ c) : c.toNat < 32 := by
  rw [Char.not_le, Char.lt_def, UInt32.lt_iff_toNat_lt] at h
  exact h

theorem escape_cases (c : Char) :
    (escape c = [c] ∧ c ≠ '"' ∧ c ≠ '\\' ∧ ¬ c < ' ') ∨
      ∃ mark, escape c = '\\' :: mark ∧
        ∀ rest, Takes (escaped numbered) (mark ++ rest) c rest := by
  unfold escape
  split
  · next h => exact .inr ⟨_, rfl, fun rest => by rw [h]; rfl⟩
  split
  · next h => exact .inr ⟨_, rfl, fun rest => by rw [h]; rfl⟩
  split
  · next hquote hslash hle => exact .inl ⟨rfl, hquote, hslash, Char.not_lt.2 hle⟩
  split
  · next h => exact .inr ⟨_, rfl, fun rest => by rw [h]; rfl⟩
  split
  · next h => exact .inr ⟨_, rfl, fun rest => by rw [h]; rfl⟩
  split
  · next h => exact .inr ⟨_, rfl, fun rest => by rw [h]; rfl⟩
  split
  · next h => exact .inr ⟨_, rfl, fun rest => by rw [h]; rfl⟩
  split
  · next h => exact .inr ⟨_, rfl, fun rest => by rw [h]; rfl⟩
  · next hcontrol _ _ _ _ _ =>
      refine .inr ⟨_, rfl, fun rest => (takes_get _).bind ((takes_set _ _).bind ?_)⟩
      have hnumbered := takes_numbered_control (toNat_lt_of_not_le hcontrol) rest
      rwa [Char.ofNat_toNat] at hnumbered

theorem takes_escape {c : Char} {fuel : Nat} {back cs rest : List Char} {s : String}
    (h : Takes (characters numbered fuel (c :: back)) cs s rest) :
    Takes (characters numbered (fuel + 1) back) (escape c ++ cs) s rest := by
  refine (takes_get _).bind ?_
  rcases escape_cases c with ⟨hc, hquote, hslash, hcontrol⟩ | ⟨mark, hc, hmark⟩
  · rw [hc]
    refine (takes_set _ _).bind ?_
    rwa [if_neg hquote, if_neg hslash, if_neg hcontrol]
  · rw [hc]
    refine (takes_set _ _).bind ?_
    rw [if_neg (by decide), if_pos rfl]
    exact (hmark cs).bind h

theorem takes_characters (s rest back : List Char) {fuel : Nat} (hf : s.length < fuel) :
    Takes (characters numbered fuel back) (s.flatMap escape ++ '"' :: rest)
      (String.ofList (back.reverse ++ s)) rest := by
  induction s generalizing back fuel with
  | nil =>
      obtain ⟨fuel, rfl⟩ := Nat.exists_eq_succ_of_ne_zero (Nat.ne_of_gt hf)
      refine (takes_get _).bind ((takes_set _ _).bind ?_)
      rw [List.append_nil]
      exact takes_pure _ _
  | cons c s ih =>
      obtain ⟨fuel, rfl⟩ := Nat.exists_eq_succ_of_ne_zero (Nat.ne_of_gt (Nat.zero_lt_of_lt hf))
      rw [List.flatMap_cons, List.append_assoc]
      refine takes_escape ?_
      have hrest := ih (c :: back) (Nat.lt_of_succ_lt_succ hf)
      rwa [List.reverse_cons, List.append_assoc] at hrest

theorem length_le_length_flatMap_escape (s : List Char) : s.length ≤ (s.flatMap escape).length := by
  induction s with
  | nil => exact Nat.le_refl _
  | cons c s ih =>
      have hpos : 0 < (escape c).length := by
        rcases escape_cases c with ⟨hc, -⟩ | ⟨mark, hc, -⟩ <;> rw [hc] <;> simp
      rw [List.flatMap_cons, List.length_append, List.length_cons]
      omega

theorem takes_string (s : String) (rest : List Char) :
    Takes string (printString s ++ rest) s rest := by
  have htext : printString s ++ rest = '"' :: (s.toList.flatMap escape ++ '"' :: rest) := by
    simp [printString]
  rw [htext]
  refine (takes_advance _ _).bind ((takes_get _).bind ?_)
  have hlength := length_le_length_flatMap_escape s.toList
  have hf : s.toList.length < (s.toList.flatMap escape ++ '"' :: rest).length + 1 := by
    rw [List.length_append]
    omega
  have hread := takes_characters s.toList rest [] hf
  rwa [List.reverse_nil, List.nil_append, String.ofList_toList] at hread

def Stops (rest : List Char) : Prop :=
  ∀ c ∈ rest.head?, isDigit c = false ∧ c ≠ '.' ∧ c ≠ 'e' ∧ c ≠ 'E'

theorem takes_digitRun {ds rest : List Char} (hd : ∀ c ∈ ds, isDigit c = true)
    (hr : ∀ c ∈ rest.head?, isDigit c = false) : Takes digitRun (ds ++ rest) ds rest := by
  have hnone : rest.takeWhile isDigit = [] ∧ rest.dropWhile isDigit = rest := by
    cases rest with
    | nil => exact ⟨rfl, rfl⟩
    | cons c rest =>
        have hc := hr c rfl
        simp [hc]
  have htake : (ds ++ rest).takeWhile isDigit = ds := by
    rw [List.takeWhile_append_of_pos hd, hnone.1, List.append_nil]
  have hdrop : (ds ++ rest).dropWhile isDigit = rest := by
    rw [List.dropWhile_append_of_pos hd, hnone.2]
  refine (takes_get _).bind ?_
  rw [hdrop, htake]
  exact (takes_set _ _).bind (takes_pure _ _)

theorem takes_someDigits {ds rest : List Char} (hne : ds ≠ []) (hd : ∀ c ∈ ds, isDigit c = true)
    (hr : ∀ c ∈ rest.head?, isDigit c = false) (atEnd : Failure) :
    Takes (someDigits atEnd) (ds ++ rest) ds rest := by
  refine (takes_digitRun hd hr).bind ?_
  cases ds with
  | nil => exact absurd rfl hne
  | cons d ds => exact takes_pure _ _

theorem takes_exponentPart {rest : List Char} (hr : Stops rest) (atEnd : Failure) :
    Takes (exponentPart atEnd) rest none rest := by
  refine (takes_get _).bind ?_
  split
  · exact absurd rfl (hr 'e' rfl).2.2.1
  · exact absurd rfl (hr 'E' rfl).2.2.2
  · exact takes_pure _ _

def signed (negative : Bool) (ds : List Char) : List Char :=
  if negative then '-' :: ds else ds

theorem head?_signed (negative : Bool) {ds : List Char} (hne : ds ≠ [])
    (hd : ∀ c ∈ ds, isDigit c = true) (rest : List Char) :
    ((signed negative ds ++ rest).head? == some '-') = negative := by
  cases negative with
  | true => rfl
  | false =>
      cases ds with
      | nil => exact absurd rfl hne
      | cons d ds =>
          have hdigit : isDigit d = true := hd d List.mem_cons_self
          have hminus : d ≠ '-' := by
            rintro rfl
            cases hdigit
          simp [signed, hminus]

def literalTail (atEnd : Failure) (negative : Bool) (whole : List Char) : Reader Literal := do
  match ← get with
  | '.' :: rest =>
      set rest
      let fraction ← someDigits atEnd
      pure ⟨negative, whole, fraction, ← exponentPart atEnd, false⟩
  | _ =>
      let exponent ← exponentPart atEnd
      pure ⟨negative, whole, [], exponent, exponent.isNone⟩

theorem takes_literal_of_tail {negative : Bool} {ds rest mid : List Char} {l : Literal}
    {atEnd : Failure} (hne : ds ≠ []) (hd : ∀ c ∈ ds, isDigit c = true)
    (hz : ¬ ((ds.head? == some '0' && decide (ds.length ≠ 1)) = true))
    (hr : ∀ c ∈ rest.head?, isDigit c = false)
    (h : Takes (literalTail atEnd negative ds) rest l mid) :
    Takes (literal atEnd) (signed negative ds ++ rest) l mid := by
  refine (takes_get _).bind ?_
  simp only [head?_signed negative hne hd]
  have hsign : Takes (if negative = true then advance else pure ())
      (signed negative ds ++ rest) () (ds ++ rest) := by
    cases negative <;> rfl
  refine hsign.bind_if ((takes_someDigits hne hd hr atEnd).bind ?_)
  rwa [if_neg hz]

theorem takes_literal (negative : Bool) (n : Nat) {rest : List Char} (hr : Stops rest)
    (atEnd : Failure) :
    Takes (literal atEnd) (signed negative (digits n) ++ rest)
      ⟨negative, digits n, [], none, true⟩ rest := by
  have hzero : ¬ (((digits n).head? == some '0' && decide ((digits n).length ≠ 1)) = true) := by
    simpa using not_leading_zero n
  refine takes_literal_of_tail (digits_ne_nil n) (fun c => isDigit_of_mem_digits) hzero
    (fun c hc => (hr c hc).1) ((takes_get _).bind ?_)
  split
  · exact absurd rfl (hr '.' rfl).2.1
  · exact (takes_exponentPart hr atEnd).bind (takes_pure _ _)

theorem print_integer (i : Int) (lower : -9223372036854775808 ≤ i)
    (upper : i ≤ 18446744073709551615) :
    (Number.integer i lower upper).print = signed (decide (i < 0)) (digits i.natAbs) := by
  rw [Number.print, intText]
  by_cases hi : i < 0
  · simp [hi, signed, Decimal.text]
  · simp [hi, signed, Decimal.text]

theorem takes_integer (i : Int) (lower : -9223372036854775808 ≤ i)
    (upper : i ≤ 18446744073709551615) {rest : List Char} (hr : Stops rest) :
    Takes number ((Number.integer i lower upper).print ++ rest) (.integer i lower upper) rest := by
  rw [print_integer]
  refine (takes_literal _ _ hr .early).bind ?_
  have hvalue : (if decide (i < 0) = true then -(Decimal.value (digits i.natAbs) : Int)
      else (Decimal.value (digits i.natAbs) : Int)) = i := by
    rw [value_digits]
    simp only [decide_eq_true_eq]
    split <;> omega
  have hnumber : Literal.toNumber ⟨decide (i < 0), digits i.natAbs, [], none, true⟩ =
      some (.integer i lower upper) := by
    have hzero : ¬ (decide (i < 0) = true ∧ i = 0) := by
      rintro ⟨hlt, rfl⟩
      cases hlt
    simp only [Literal.toNumber, hvalue]
    rw [dif_pos ⟨trivial, hzero, lower, upper⟩]
  rw [hnumber]
  exact takes_pure _ _

end EnclosingScope.Json.Reader
