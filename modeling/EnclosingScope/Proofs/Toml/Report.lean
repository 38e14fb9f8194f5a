import EnclosingScope.Toml.Report
import Mathlib.Data.List.Infix

namespace EnclosingScope.Toml

open Text

-- The first place in a text that is not before the byte at `offset`: behind all of `above`, which
-- are whole lines, and behind `back` on its own line.
structure Stands (text : List Char) (offset : Nat) (above back rest : List Char) : Prop where
  parts : text = above ++ back ++ rest
  lines : above = [] ∨ above.getLast? = some '\n'
  unbroken : '\n' ∉ back
  reached : rest = [] ∨ offset ≤ byteCount (above ++ back)
  first : ∀ seen, seen <+: above ++ back → seen ≠ above ++ back → byteCount seen < offset

inductive Reports (text : String) (span : Span) (why : String) : String → Prop
  | pointed {above back rest content : List Char} {line margin : String} {width : Nat}
      (stands : Stands text.toList span.start above back rest)
      (number : line = Decimal.text (above.count '\n' + 1))
      (whole : content = back ++ rest.takeWhile (· ≠ '\n'))
      (indent : margin = String.ofList (List.replicate (line.length + 1) ' '))
      (marks : width = max 1 (min (span.stop - span.start) (byteCount content - back.length))) :
      Reports text span why
        ("TOML parse error at line " ++ line
          ++ ", column " ++ Decimal.text (back.length + 1) ++ "\n"
          ++ margin ++ "|\n"
          ++ line ++ " | " ++ String.ofList content ++ "\n"
          ++ margin ++ "|" ++ String.ofList (List.replicate (back.length + 1) ' ')
          ++ String.ofList (List.replicate width '^') ++ "\n"
          ++ why ++ "\n")

theorem byteCount_append (as bs : List Char) :
    byteCount (as ++ bs) = byteCount as + byteCount bs := by
  induction as with
  | nil => rw [List.nil_append, byteCount, Nat.zero_add]
  | cons a as ih => rw [List.cons_append, byteCount, byteCount, ih, Nat.add_assoc]

def siteAt (above back rest : List Char) : Site :=
  ⟨above.count '\n' + 1, back.length + 1, back ++ rest.takeWhile (· ≠ '\n')⟩

theorem first_concat {seen : List Char} {c : Char} {offset : Nat}
    (h : ∀ earlier, earlier <+: seen → earlier ≠ seen → byteCount earlier < offset)
    (hseen : byteCount seen < offset) :
    ∀ earlier, earlier <+: seen ++ [c] → earlier ≠ seen ++ [c] → byteCount earlier < offset := by
  intro earlier hstart hne
  have hwithin := (List.prefix_concat_iff.1 hstart).resolve_left hne
  by_cases heq : earlier = seen
  · rw [heq]
    exact hseen
  · exact h earlier hwithin heq

-- What is left of the offset is the distance to it, so the place is reached when nothing is left.
theorem exists_stands {above back cs : List Char} {offset : Nat}
    (lines : above = [] ∨ above.getLast? = some '\n') (unbroken : '\n' ∉ back)
    (first : ∀ seen, seen <+: above ++ back.reverse → seen ≠ above ++ back.reverse →
      byteCount seen < offset) :
    ∃ above' back' rest, Stands (above ++ back.reverse ++ cs) offset above' back' rest ∧
      siteFrom (above.count '\n' + 1) back (offset - byteCount (above ++ back.reverse)) cs =
        siteAt above' back' rest := by
  have hreverse : '\n' ∉ back.reverse := fun h => unbroken (List.mem_reverse.1 h)
  induction cs generalizing above back with
  | nil =>
      refine ⟨above, back.reverse, [], ⟨rfl, lines, hreverse, .inl rfl, first⟩, ?_⟩
      rw [siteFrom, siteAt, List.length_reverse]
      simp
  | cons c cs ih =>
      by_cases hleft : offset - byteCount (above ++ back.reverse) = 0
      · refine ⟨above, back.reverse, c :: cs,
          ⟨rfl, lines, hreverse, .inr (Nat.sub_eq_zero_iff_le.1 hleft), first⟩, ?_⟩
        rw [siteFrom, if_pos hleft, siteAt, List.length_reverse]
      · have hbefore : byteCount (above ++ back.reverse) < offset := by omega
        by_cases hc : c = '\n'
        · have hnext := @ih (above ++ back.reverse ++ [c]) [] (by simp [hc]) List.not_mem_nil
            (by simpa using first_concat first hbefore) List.not_mem_nil
          obtain ⟨above', back', rest, hstands, hsite⟩ := hnext
          refine ⟨above', back', rest, by simpa using hstands, ?_⟩
          have hcount : (above ++ back.reverse ++ [c]).count '\n' = above.count '\n' + 1 := by
            rw [List.count_append, List.count_append, List.count_eq_zero_of_not_mem hreverse, hc]
            rfl
          rw [siteFrom, if_neg hleft, if_pos hc, ← hsite, hcount, List.reverse_nil, List.append_nil,
            byteCount_append (above ++ back.reverse), hc, Nat.sub_add_eq]
          rfl
        · have hnext := @ih above (c :: back) lines
            (fun h => (List.mem_cons.1 h).elim (fun heq => hc heq.symm) unbroken)
            (by simpa using first_concat first hbefore)
            (by simpa [hc, eq_comm] using unbroken)
          obtain ⟨above', back', rest, hstands, hsite⟩ := hnext
          refine ⟨above', back', rest, by simpa using hstands, ?_⟩
          rw [siteFrom, if_neg hleft, if_neg hc, ← hsite, List.reverse_cons, ← List.append_assoc,
            byteCount_append (above ++ back.reverse), Nat.sub_add_eq]
          rfl

theorem exists_siteFrom (text : List Char) (offset : Nat) :
    ∃ above back rest, Stands text offset above back rest ∧
      siteFrom 1 [] offset text = siteAt above back rest := by
  have hfirst : ∀ seen : List Char, seen <+: [] → seen ≠ [] → byteCount seen < offset :=
    fun seen hstart hne => absurd (List.prefix_nil.1 hstart) hne
  exact @exists_stands [] [] text offset (.inl rfl) List.not_mem_nil hfirst

-- Of two such places neither text before the place is a proper part of the other.
theorem Stands.before_eq {text above back rest above' back' rest' : List Char} {offset : Nat}
    (h : Stands text offset above back rest) (h' : Stands text offset above' back' rest')
    (hstart : above ++ back <+: above' ++ back') : above ++ back = above' ++ back' := by
  by_contra hne
  have hbefore := h'.first _ hstart hne
  rcases h.reached with rfl | hreached
  · have hwhole : above' ++ back' <+: above ++ back := by
      rw [← List.append_nil (above ++ back), ← h.parts]
      exact ⟨rest', h'.parts.symm⟩
    exact hne (hstart.eq_of_length_le hwhole.length_le)
  · omega

theorem Stands.above_prefix {text above back rest above' back' rest' : List Char} {offset : Nat}
    (h : Stands text offset above back rest) (h' : Stands text offset above' back' rest')
    (heq : above ++ back = above' ++ back') : above <+: above' := by
  rcases List.append_eq_append_iff.1 heq with ⟨between, habove, -⟩ | ⟨between, habove, hback⟩
  · exact ⟨between, habove.symm⟩
  · rcases List.eq_nil_or_concat between with rfl | ⟨front, last, rfl⟩
    · rw [habove, List.append_nil]
    · refine absurd ?_ h'.unbroken
      rcases h.lines with hnil | hlast
      · simp [hnil] at habove
      · rw [habove, List.concat_eq_append, ← List.append_assoc, List.getLast?_concat] at hlast
        simp [hback, Option.some.inj hlast]

theorem Stands.unique {text above back rest above' back' rest' : List Char} {offset : Nat}
    (h : Stands text offset above back rest) (h' : Stands text offset above' back' rest') :
    above = above' ∧ back = back' ∧ rest = rest' := by
  have heq : above ++ back = above' ++ back' := by
    have hstart : above ++ back <+: text := ⟨rest, h.parts.symm⟩
    have hstart' : above' ++ back' <+: text := ⟨rest', h'.parts.symm⟩
    rcases List.prefix_or_prefix_of_prefix hstart hstart' with hle | hge
    · exact h.before_eq h' hle
    · exact (h'.before_eq h hge).symm
  have habove : above = above' :=
    (h.above_prefix h' heq).eq_of_length_le (h'.above_prefix h heq.symm).length_le
  subst habove
  have hrest := h.parts.symm.trans h'.parts
  rw [heq] at hrest
  exact ⟨rfl, List.append_cancel_left heq, List.append_cancel_left hrest⟩

theorem Reports.unique {text why report report' : String} {span : Span}
    (h : Reports text span why report) (h' : Reports text span why report') :
    report = report' := by
  cases h with
  | pointed stands number whole indent marks =>
      cases h' with
      | pointed stands' number' whole' indent' marks' =>
          obtain ⟨rfl, rfl, rfl⟩ := stands.unique stands'
          subst number number' whole whole' indent indent' marks marks'
          rfl

theorem Span.reports (span : Span) (text why : String) :
    Reports text span why (span.report text why) := by
  obtain ⟨above, back, rest, hstands, hsite⟩ := exists_siteFrom text.toList span.start
  unfold Span.report
  rw [hsite]
  exact .pointed hstands rfl rfl rfl rfl

end EnclosingScope.Toml
