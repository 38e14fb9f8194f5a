import EnclosingScope.Proofs.Json.Outcome

namespace EnclosingScope.Json.Reader

variable {c : Char} {ds cs s rest mid back : List Char} {u fuel : Nat}

theorem takes_unit (h : Codes ds u) (rest : List Char) : Takes unit (ds ++ rest) u rest := by
  obtain ⟨ha, hb, hc, hd⟩ := h
  refine (takes_get _).bind ?_
  simp only [ha, hb, hc, hd, List.cons_append, List.nil_append]
  exact (takes_set _ _).bind (takes_pure _ _)

theorem takes_mark {m : Char} (h : (m, c) ∈ marks) (onNumber : Reader Char) (rest : List Char) :
    Takes (escaped onNumber) (m :: rest) c rest := by
  simp only [marks, List.mem_cons, List.not_mem_nil, or_false, Prod.mk.injEq] at h
  rcases h with ⟨rfl, rfl⟩ | ⟨rfl, rfl⟩ | ⟨rfl, rfl⟩ | ⟨rfl, rfl⟩ | ⟨rfl, rfl⟩ | ⟨rfl, rfl⟩ |
    ⟨rfl, rfl⟩ | ⟨rfl, rfl⟩ <;> rfl

theorem takes_exactly_iff : Takes (exactly c) cs () rest ↔ cs = c :: rest := by
  cases cs with
  | nil =>
      refine (takes_get _).bind_iff.trans ⟨fun h => absurd h not_takes_throw, fun h => ?_⟩
      cases h
  | cons d cs =>
      refine (takes_get _).bind_iff.trans ?_
      dsimp only
      split
      · next heq =>
          have hset := takes_set cs (d :: cs)
          rw [heq, List.cons_inj_right]
          exact ⟨fun h => (hset.unique h).2, fun h => h ▸ hset⟩
      · next hne =>
          exact ⟨fun h => absurd h not_takes_throw, fun h => absurd (List.cons.inj h).1.symm hne⟩

theorem takes_numbered_unit (h : Codes ds u) (hu : u < 0xD800 ∨ 0xDFFF < u) (rest : List Char) :
    Takes numbered (ds ++ rest) (Char.ofNat u) rest := by
  have htrailing : isTrailing u = false := by
    simp [isTrailing]
    omega
  have hleading : isLeading u = false := by
    simp [isLeading]
    omega
  refine (takes_unit h rest).bind ?_
  simp only [htrailing, hleading, Bool.false_eq_true, if_false]
  exact takes_pure _ _

theorem takes_numbered_pair {es : List Char} {v : Nat} (hd : Codes ds u) (he : Codes es v)
    (hu : 0xD800 ≤ u ∧ u ≤ 0xDBFF) (hv : 0xDC00 ≤ v ∧ v ≤ 0xDFFF) (rest : List Char) :
    Takes numbered (ds ++ '\\' :: 'u' :: (es ++ rest))
      (Char.ofNat ((u - 0xD800) * 0x400 + (v - 0xDC00) + 0x10000)) rest := by
  have htrailing : isTrailing u = false := by
    simp [isTrailing]
    omega
  have hleading : isLeading u = true := by simpa [isLeading] using hu
  have htrails : isTrailing v = true := by simpa [isTrailing] using hv
  refine (takes_unit hd _).bind ?_
  simp only [htrailing, hleading, Bool.false_eq_true, if_false, if_true]
  refine (takes_exactly_iff.2 rfl).bind ((takes_exactly_iff.2 rfl).bind ?_)
  refine (takes_unit he rest).bind ?_
  rw [if_pos htrails]
  exact takes_pure _ _

theorem takes_characters_end (onNumber : Reader Char) (fuel : Nat) (back rest : List Char) :
    Takes (characters onNumber (fuel + 1) back) ('"' :: rest) (String.ofList back.reverse) rest :=
  (takes_get _).bind ((takes_set _ _).bind (takes_pure _ _))

theorem takes_characters_plain {onNumber : Reader Char} {t : String} (hc : Unescaped c) :
    Takes (characters onNumber (fuel + 1) back) (c :: cs) t rest ↔
      Takes (characters onNumber fuel (c :: back)) cs t rest := by
  obtain ⟨hle, hquote, hslash⟩ := hc
  refine (takes_get _).bind_iff.trans ((takes_set _ _).bind_iff.trans ?_)
  rw [if_neg hquote, if_neg hslash, if_neg (Char.not_lt.2 hle)]

theorem takes_characters_escape {onNumber : Reader Char} {t : String} :
    Takes (characters onNumber (fuel + 1) back) ('\\' :: cs) t rest ↔
      ∃ d mid, Takes (escaped onNumber) cs d mid ∧
        Takes (characters onNumber fuel (d :: back)) mid t rest := by
  refine (takes_get _).bind_iff.trans ((takes_set _ _).bind_iff.trans ?_)
  rw [if_neg (by decide), if_pos rfl]
  exact takes_bind_iff

theorem takes_escaped_number {onNumber : Reader Char} :
    Takes (escaped onNumber) ('u' :: cs) c rest ↔ Takes onNumber cs c rest :=
  (takes_get _).bind_iff.trans (takes_set _ _).bind_iff

theorem takes_of_spells (h : Spells cs s) (back rest : List Char) (hf : cs.length < fuel) :
    Takes (characters numbered fuel back) (cs ++ '"' :: rest)
      (String.ofList (s.reverse ++ back).reverse) rest := by
  induction h generalizing back fuel with
  | nil =>
      obtain ⟨fuel, rfl⟩ := Nat.exists_eq_add_one.2 hf
      exact takes_characters_end _ _ _ _
  | @plain c cs s hc further ih =>
      obtain ⟨fuel, rfl⟩ := Nat.exists_eq_add_one.2 (Nat.zero_lt_of_lt hf)
      rw [List.reverse_cons, List.append_assoc]
      exact (takes_characters_plain hc).2 (ih _ (Nat.lt_of_succ_lt_succ hf))
  | @mark m c cs s hm further ih =>
      obtain ⟨fuel, rfl⟩ := Nat.exists_eq_add_one.2 (Nat.zero_lt_of_lt hf)
      have hlength : cs.length < fuel := Nat.lt_of_succ_lt (Nat.lt_of_succ_lt_succ hf)
      rw [List.reverse_cons, List.append_assoc]
      exact takes_characters_escape.2 ⟨_, _, takes_mark hm _ _, ih _ hlength⟩
  | @unit ds cs s u hd hu further ih =>
      obtain ⟨fuel, rfl⟩ := Nat.exists_eq_add_one.2 (Nat.zero_lt_of_lt hf)
      simp only [List.length_cons, List.length_append] at hf
      have hlength : cs.length < fuel := by omega
      have hnumber := takes_numbered_unit hd hu (cs ++ '"' :: rest)
      simp only [List.reverse_cons, List.cons_append, List.append_assoc]
      exact takes_characters_escape.2 ⟨_, _, takes_escaped_number.2 hnumber, ih _ hlength⟩
  | @pair ds es cs s u v hd he hu hv further ih =>
      obtain ⟨fuel, rfl⟩ := Nat.exists_eq_add_one.2 (Nat.zero_lt_of_lt hf)
      simp only [List.length_cons, List.length_append] at hf
      have hlength : cs.length < fuel := by omega
      have hnumber := takes_numbered_pair hd he hu hv (cs ++ '"' :: rest)
      simp only [List.reverse_cons, List.cons_append, List.append_assoc]
      exact takes_characters_escape.2 ⟨_, _, takes_escaped_number.2 hnumber, ih _ hlength⟩

theorem takes_string_of_spells (h : Spells cs s) (rest : List Char) :
    Takes string (quoted cs ++ rest) (String.ofList s) rest := by
  have htext : quoted cs ++ rest = '"' :: (cs ++ '"' :: rest) := by simp [quoted]
  rw [htext]
  refine (takes_advance _ _).bind ((takes_get _).bind ?_)
  have hlength : cs.length < (cs ++ '"' :: rest).length + 1 := by
    rw [List.length_append]
    omega
  have htakes := takes_of_spells h [] rest hlength
  rwa [List.append_nil, List.reverse_reverse] at htakes

-- Only a unit that starts a pair makes more than its own digits a part of the character.
theorem numbered_cases (hd : Codes ds u) (h : Takes numbered (ds ++ cs) c mid) :
    (u < 0xD800 ∨ 0xDFFF < u) ∨ (0xD800 ≤ u ∧ u ≤ 0xDBFF) ∧ ∃ tail v, cs = '\\' :: 'u' :: tail ∧
      Takes unit tail v mid ∧ 0xDC00 ≤ v ∧ v ≤ 0xDFFF := by
  have hcases := (takes_unit hd cs).bind_iff.1 h
  split at hcases
  · exact absurd hcases not_takes_throw
  split at hcases
  · next htrailing hleading =>
      obtain ⟨_, cs₁, hslash, hcases⟩ := takes_bind_iff.1 hcases
      obtain ⟨_, cs₂, hletter, hcases⟩ := takes_bind_iff.1 hcases
      obtain ⟨v, cs₃, hunit, hpair⟩ := takes_bind_iff.1 hcases
      obtain rfl := takes_exactly_iff.1 hslash
      obtain rfl := takes_exactly_iff.1 hletter
      split at hpair
      · next hv =>
          obtain ⟨-, rfl⟩ := takes_pure_iff.1 hpair
          exact .inr ⟨by simpa [isLeading] using hleading, cs₂, v, rfl, hunit,
            by simpa [isTrailing] using hv⟩
      · exact absurd hpair not_takes_throw
  · next htrailing hleading =>
      simp only [isTrailing, isLeading, Bool.and_eq_true, decide_eq_true_eq] at htrailing hleading
      omega

theorem escaped_unit_of_body {body tail : List Char} (h : Body body)
    (heq : body ++ '"' :: rest = '\\' :: 'u' :: tail) :
    ∃ es cs v, Codes es v ∧ Body cs ∧ body = '\\' :: 'u' :: (es ++ cs) ∧
      tail = es ++ (cs ++ '"' :: rest) := by
  cases h with
  | nil => exact absurd (List.cons.inj heq).1 (by decide)
  | plain hc further => exact absurd (List.cons.inj heq).1 hc.2.2
  | mark hm further =>
      have hu := (List.cons.inj (List.cons.inj heq).2).1
      rw [hu] at hm
      simp [marks] at hm
  | @unit es cs v hd further =>
      have htail := (List.cons.inj (List.cons.inj heq).2).2
      exact ⟨es, cs, v, hd, further, rfl, htail.symm.trans (List.append_assoc _ _ _)⟩

theorem spells_of_takes {body : List Char} {t : String} (hb : Body body)
    (h : Takes (characters numbered fuel back) (body ++ '"' :: rest) t mid) :
    ∃ s, Spells body s := by
  induction fuel generalizing body back with
  | zero => exact absurd h not_takes_throw
  | succ fuel ih =>
      cases hb with
      | nil => exact ⟨_, .nil⟩
      | plain hc further =>
          obtain ⟨s, hs⟩ := ih further ((takes_characters_plain hc).1 h)
          exact ⟨_, .plain hc hs⟩
      | mark hm further =>
          obtain ⟨c, cs, hmark, hrest⟩ := takes_characters_escape.1 h
          obtain ⟨rfl, rfl⟩ := (takes_mark hm _ _).unique hmark
          obtain ⟨s, hs⟩ := ih further hrest
          exact ⟨_, .mark hm hs⟩
      | @unit ds cs u hd further =>
          simp only [List.cons_append, List.append_assoc] at h
          obtain ⟨c, mid', hnumber, hrest⟩ := takes_characters_escape.1 h
          rw [takes_escaped_number] at hnumber
          rcases numbered_cases hd hnumber with hu | ⟨hu, tail, v, htail, hunit, hv⟩
          · obtain ⟨-, rfl⟩ := (takes_numbered_unit hd hu _).unique hnumber
            obtain ⟨s, hs⟩ := ih further hrest
            exact ⟨_, .unit hd hu hs⟩
          · obtain ⟨es, cs', v', he, hbody, rfl, rfl⟩ := escaped_unit_of_body further htail
            obtain ⟨rfl, rfl⟩ := (takes_unit he _).unique hunit
            obtain ⟨s, hs⟩ := ih hbody hrest
            exact ⟨_, .pair hd he hu hv hs⟩

theorem decides_string_of_spells (h : Spells cs s) :
    Decides string (quoted cs) (some (String.ofList s)) :=
  decides_some fun rest _ => takes_string_of_spells h rest

theorem spells_of_takes_string {body : List Char} {t : String} (hb : Body body)
    (h : Takes string (quoted body ++ rest) t mid) : ∃ s, Spells body s ∧ t = String.ofList s := by
  have htext : quoted body ++ rest = '"' :: (body ++ '"' :: rest) := by simp [quoted]
  rw [htext] at h
  have hbehind := (takes_advance _ _).bind_iff.1 h
  have hcharacters := (takes_get _).bind_iff.1 hbehind
  obtain ⟨s, hs⟩ := spells_of_takes hb hcharacters
  rw [← htext] at h
  exact ⟨s, hs, ((takes_string_of_spells hs rest).unique h).1.symm⟩

theorem certain_string {body : List Char} (hb : Body body) : Certain string (quoted body) := by
  by_cases hs : ∃ s, Spells body s
  · obtain ⟨s, hs⟩ := hs
    exact (decides_string_of_spells hs).certain
  · refine (decides_none fun rest t mid h => ?_).certain
    obtain ⟨s, hspells, -⟩ := spells_of_takes_string hb h
    exact hs ⟨s, hspells⟩

theorem takes_discard {α : Type} {reader : Reader α} {a : α} (h : Takes reader cs a rest) :
    Takes (discard reader) cs () rest := by
  have hdiscard : (discard reader) cs = (reader cs >>= fun p => pure ((), p.2)) := rfl
  rw [Takes, hdiscard, h]
  rfl

theorem takes_of_body {body : List Char} (hb : Body body) (back rest : List Char)
    (hf : body.length < fuel) :
    ∃ t, Takes (characters (do discard unit; pure ' ') fuel back) (body ++ '"' :: rest) t rest := by
  induction hb generalizing back fuel with
  | nil =>
      obtain ⟨fuel, rfl⟩ := Nat.exists_eq_add_one.2 hf
      exact ⟨_, takes_characters_end _ _ _ _⟩
  | @plain c cs hc further ih =>
      obtain ⟨fuel, rfl⟩ := Nat.exists_eq_add_one.2 (Nat.zero_lt_of_lt hf)
      obtain ⟨t, ht⟩ := ih (c :: back) (Nat.lt_of_succ_lt_succ hf)
      exact ⟨t, (takes_characters_plain hc).2 ht⟩
  | @mark m c cs hm further ih =>
      obtain ⟨fuel, rfl⟩ := Nat.exists_eq_add_one.2 (Nat.zero_lt_of_lt hf)
      obtain ⟨t, ht⟩ := ih (c :: back) (Nat.lt_of_succ_lt (Nat.lt_of_succ_lt_succ hf))
      exact ⟨t, takes_characters_escape.2 ⟨_, _, takes_mark hm _ _, ht⟩⟩
  | @unit ds cs u hd further ih =>
      obtain ⟨fuel, rfl⟩ := Nat.exists_eq_add_one.2 (Nat.zero_lt_of_lt hf)
      simp only [List.length_cons, List.length_append] at hf
      have hlength : cs.length < fuel := by omega
      obtain ⟨t, ht⟩ := ih (' ' :: back) hlength
      have hunit : Takes (do discard unit; pure ' ') (ds ++ (cs ++ '"' :: rest)) ' '
          (cs ++ '"' :: rest) := (takes_discard (takes_unit hd _)).bind (takes_pure _ _)
      simp only [List.cons_append, List.append_assoc]
      exact ⟨t, takes_characters_escape.2 ⟨_, _, takes_escaped_number.2 hunit, ht⟩⟩

theorem decides_passString {body : List Char} (hb : Body body) :
    Decides passString (quoted body) (some ()) := by
  refine decides_some fun rest _ => ?_
  have htext : quoted body ++ rest = '"' :: (body ++ '"' :: rest) := by simp [quoted]
  have hlength : body.length < (body ++ '"' :: rest).length + 1 := by
    rw [List.length_append]
    omega
  obtain ⟨t, ht⟩ := takes_of_body hb [] rest hlength
  rw [htext]
  exact (takes_advance _ _).bind ((takes_get _).bind (takes_discard ht))

theorem head_of_exponent {e : List Char} (he : Exponent e) (hr : Stops rest) :
    ∀ c ∈ (e ++ rest).head?, Decimal.isDigit c = false ∧ c ≠ '.' := by
  cases he with
  | none => exact fun c hc => ⟨(hr c hc).1, (hr c hc).2.1⟩
  | some he hs hd =>
      intro c hc
      cases hc
      rcases he with rfl | rfl <;> decide

theorem sign_of_digits {sign : List Char} (hs : sign = [] ∨ sign = ['+'] ∨ sign = ['-'])
    (hd : Digits ds) :
    ∃ negative, ∀ rest, Reader.sign (sign ++ (ds ++ rest)) = (negative, ds ++ rest) := by
  obtain ⟨hne, hall⟩ := hd
  rcases hs with rfl | rfl | rfl
  · refine ⟨false, fun rest => ?_⟩
    cases ds with
    | nil => exact absurd rfl hne
    | cons d ds =>
        have hd := hall d List.mem_cons_self
        simp only [List.nil_append, List.cons_append, Reader.sign]
        split
        · next heq =>
            cases heq
            cases hd
        · next heq =>
            cases heq
            cases hd
        · rfl
  · exact ⟨false, fun _ => rfl⟩
  · exact ⟨true, fun _ => rfl⟩

theorem takes_exponent {e : List Char} (he : Exponent e) (atEnd : Failure) :
    ∃ o, ∀ rest, Stops rest → Takes (exponentPart atEnd) (e ++ rest) o rest := by
  cases he with
  | none => exact ⟨_, fun rest hr => takes_exponentPart hr atEnd⟩
  | @some e sign ds he hs hd =>
      obtain ⟨negative, hsign⟩ := sign_of_digits hs hd
      refine ⟨some (negative, ds), fun rest hr => ?_⟩
      have hdigits := takes_someDigits hd.1 hd.2 (fun c hc => (hr c hc).1) atEnd
      rcases he with rfl | rfl <;>
      · refine (takes_get _).bind ?_
        simp only [List.cons_append, List.append_assoc, hsign]
        exact (takes_set _ _).bind (hdigits.bind (takes_pure _ _))

theorem takes_literalTail {f e : List Char} (hf : Fraction f) (he : Exponent e)
    (atEnd : Failure) (negative : Bool) (whole : List Char) :
    ∃ l, ∀ rest, Stops rest →
      Takes (literalTail atEnd negative whole) (f ++ (e ++ rest)) l rest := by
  obtain ⟨o, ho⟩ := takes_exponent he atEnd
  cases hf with
  | none =>
      refine ⟨⟨negative, whole, [], o, o.isNone⟩, fun rest hr => (takes_get _).bind ?_⟩
      split
      · next heq =>
          have hmem : '.' ∈ (e ++ rest).head? := by
            rw [← List.nil_append (e ++ rest), heq]
            rfl
          exact absurd rfl (head_of_exponent he hr '.' hmem).2
      · exact (ho rest hr).bind (takes_pure _ _)
  | @some ds hd =>
      refine ⟨⟨negative, whole, ds, o, false⟩, fun rest hr => ?_⟩
      have hhead := fun c hc => (head_of_exponent he hr c hc).1
      refine (takes_get _).bind ((takes_set _ _).bind ?_)
      refine (takes_someDigits hd.1 hd.2 hhead atEnd).bind ?_
      exact (ho rest hr).bind (takes_pure _ _)

theorem decides_literal (h : Numeral cs) (atEnd : Failure) :
    ∃ l, Decides (literal atEnd) cs (some l) := by
  cases h with
  | @mk negative whole f e hw hz hf he =>
      obtain ⟨l, hl⟩ := takes_literalTail hf he atEnd negative whole
      refine ⟨l, decides_some fun rest hr => ?_⟩
      have hzero : ¬ ((whole.head? == some '0' && decide (whole.length ≠ 1)) = true) := by
        intro h
        simp only [Bool.and_eq_true, beq_iff_eq, decide_eq_true_eq] at h
        rw [hz h.1] at h
        exact h.2 rfl
      have hhead : ∀ c ∈ (f ++ (e ++ rest)).head?, Decimal.isDigit c = false := by
        cases hf with
        | none => exact fun c hc => (head_of_exponent he hr c hc).1
        | some hd =>
            intro c hc
            cases hc
            rfl
      have htext : signed negative (whole ++ (f ++ e)) ++ rest =
          signed negative whole ++ (f ++ (e ++ rest)) := by
        cases negative <;> simp [signed]
      rw [htext]
      exact takes_literal_of_tail hw.1 hw.2 hzero hhead (hl rest hr)

end EnclosingScope.Json.Reader
