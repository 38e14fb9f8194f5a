import EnclosingScope.Proofs.Json.Value

namespace EnclosingScope.Json

open Value Reader

def Plain (text : List Char) : Prop :=
  ∀ c ∈ text, ' ' ≤ c

instance (text : List Char) : Decidable (Plain text) :=
  List.decidableBAll (' ' ≤ ·) text

theorem Plain.append {s t : List Char} (hs : Plain s) (ht : Plain t) : Plain (s ++ t) :=
  List.forall_mem_append.2 ⟨hs, ht⟩

theorem Plain.cons {c : Char} {s : List Char} (hc : ' ' ≤ c) (hs : Plain s) : Plain (c :: s) :=
  List.forall_mem_cons.2 ⟨hc, hs⟩

theorem plain_nil : Plain [] :=
  List.forall_mem_nil _

theorem Plain.line_feed_not_mem {text : List Char} (h : Plain text) : '\n' ∉ text :=
  fun hmem => absurd (h _ hmem) (by decide)

theorem space_le_hexChar : ∀ d < 16, ' ' ≤ Decimal.hexChar d := by
  decide

theorem plain_escape (c : Char) : Plain (escape c) := by
  unfold escape
  split
  · decide
  split
  · decide
  split
  · next hc => exact .cons hc plain_nil
  split
  · decide
  split
  · decide
  split
  · decide
  split
  · decide
  split
  · decide
  · next hcontrol _ _ _ _ _ =>
      have hlt := toNat_lt_of_not_le hcontrol
      have hmark : Plain ['\\', 'u', '0', '0'] := by decide
      have hhigh := space_le_hexChar (c.toNat / 16) (by omega)
      have hlow := space_le_hexChar (c.toNat % 16) (Nat.mod_lt _ (by decide))
      exact hmark.append (.cons hhigh (.cons hlow plain_nil))

theorem plain_printString (s : String) : Plain (printString s) := by
  refine Plain.append (.cons (by decide) fun c hc => ?_) (.cons (by decide) plain_nil)
  obtain ⟨source, -, hsource⟩ := List.mem_flatMap.1 hc
  exact plain_escape source c hsource

theorem plain_integer (i : Int) (lower : -9223372036854775808 ≤ i)
    (upper : i ≤ 18446744073709551615) : Plain (Number.integer i lower upper).print := by
  have hdigits : Plain (Decimal.digits i.natAbs) := by
    intro c hc
    have hdigit := Decimal.isDigit_of_mem_digits hc
    simp only [Decimal.isDigit, Bool.and_eq_true, decide_eq_true_eq] at hdigit
    exact Char.le_trans (by decide) hdigit.1
  rw [print_integer, signed]
  split
  · exact .cons (by decide) hdigits
  · exact hdigits

theorem plain_printItems {items : List Value}
    (h : ∀ item ∈ items, ∀ indent, Plain (item.print .compact indent)) (indent : Nat) :
    Plain (printItems .compact indent items) := by
  induction items with
  | nil => exact plain_nil
  | cons item items ih =>
      have hrest := ih fun i hi => h i (List.mem_cons_of_mem _ hi)
      exact .cons (by decide) ((h item List.mem_cons_self indent).append hrest)

theorem compact_line (indent : Nat) : Spacing.compact.line indent = [] := rfl

theorem compact_colon : Spacing.compact.colon = [] := rfl

theorem plain_member {v : Value} (name : String) (h : ∀ indent, Plain (v.print .compact indent))
    (indent : Nat) : Plain (printString name ++ ':' :: v.print .compact indent) :=
  (plain_printString name).append (.cons (by decide) (h indent))

theorem plain_printMembers {members : List (String × Value)}
    (h : ∀ m ∈ members, ∀ indent, Plain (m.2.print .compact indent)) (indent : Nat) :
    Plain (printMembers .compact indent members) := by
  induction members with
  | nil => exact plain_nil
  | cons m members ih =>
      have hmember := plain_member m.1 (h m List.mem_cons_self) indent
      have hrest := ih fun i hi => h i (List.mem_cons_of_mem _ hi)
      have hall := Plain.cons (c := ',') (by decide) (hmember.append hrest)
      simpa only [printMembers, compact_line, compact_colon, List.cons_append, List.nil_append,
        List.append_assoc] using hall

theorem plain_print {v : Value} (h : FloatFree v) (indent : Nat) :
    Plain (v.print .compact indent) := by
  induction h generalizing indent with
  | null => exact of_decide_eq_true rfl
  | boolean b => cases b <;> exact of_decide_eq_true rfl
  | integer i lower upper => exact plain_integer i lower upper
  | string s => exact plain_printString s
  | @array items each ih =>
      cases items with
      | nil => exact of_decide_eq_true rfl
      | cons item items =>
          have hitem := ih item List.mem_cons_self (indent + 1)
          have hrest := plain_printItems (fun i hi => ih i (List.mem_cons_of_mem _ hi))
            (indent + 1)
          have hclose : Plain [']'] := by decide
          have hall := Plain.cons (c := '[') (by decide) ((hitem.append hrest).append hclose)
          simpa only [print, compact_line, List.cons_append, List.nil_append, List.append_nil,
            List.append_assoc] using hall
  | @object members each ih =>
      cases members with
      | nil => exact of_decide_eq_true rfl
      | cons m members =>
          have hmember := plain_member m.1 (ih m List.mem_cons_self) (indent + 1)
          have hrest := plain_printMembers (fun i hi => ih i (List.mem_cons_of_mem _ hi))
            (indent + 1)
          have hclose : Plain ['\x7d'] := by decide
          have hall := Plain.cons (c := '\x7b') (by decide) ((hmember.append hrest).append hclose)
          simpa only [print, compact_line, compact_colon, List.cons_append, List.nil_append,
            List.append_nil, List.append_assoc] using hall

end EnclosingScope.Json
