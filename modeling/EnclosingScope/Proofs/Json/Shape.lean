import EnclosingScope.Json.Shape
import EnclosingScope.Proofs.Json.Value

namespace EnclosingScope.Json

open Value Reader

variable {α β : Type} {spacing : Spacing} {depth : Nat}

theorem reads_count (n : UInt64) : Reads count spacing (.ofUInt64 n) n := by
  intro indent blanks rest hb hr
  have hlower : (-9223372036854775808 : Int) ≤ n.toNat := by omega
  have hupper : (n.toNat : Int) ≤ 18446744073709551615 := by
    have := n.toNat_lt
    omega
  have hprint : (Value.ofUInt64 n).print spacing indent =
      (Number.integer n.toNat hlower hupper).print := rfl
  obtain ⟨c, tail, hp, hc⟩ := head_integer n.toNat hlower hupper
  have hnumber := takes_integer n.toNat hlower hupper hr
  have hif : (decide (c = '-') || Decimal.isDigit c) = true := by simpa using hc
  rw [List.append_assoc, hprint]
  rw [hp, List.cons_append] at hnumber ⊢
  refine (takes_peek hb (isBlank_of_isDigit hc) _).bind ?_
  rw [if_pos hif]
  refine hnumber.bind ?_
  have hcount : ((n.toNat : Int).toNat).toUInt64 = n := by simp
  simp only [Int.natCast_nonneg, if_true, hcount]
  exact takes_pure _ _

theorem reads_text (s : String) : Reads text spacing (.string s) s := by
  intro indent blanks rest hb _
  rw [List.append_assoc]
  exact (takes_peek hb (by decide) _).bind (takes_string s rest)

theorem reads_truth (b : Bool) : Reads truth spacing (.boolean b) b := by
  intro indent blanks rest hb _
  rw [List.append_assoc]
  cases b <;> exact (takes_peek hb (by decide) _).bind (takes_spelled _ _ rest _)

theorem reads_values (hs : spacing.IsBlank) {items : List Value}
    (h : ∀ item ∈ items, Within depth item ∧ FloatFree item) :
    Reads (values (depth + 1)) spacing (.array items) items := by
  intro indent blanks rest hb _
  have hlist := takes_listOf hs
    (fun item hi => ⟨(h item hi).2, reads_value hs (h item hi).1 (h item hi).2⟩) indent rest
  obtain ⟨cs, hcs⟩ := print_array spacing indent items rest
  rw [List.append_assoc, hcs]
  rw [hcs] at hlist
  exact (takes_peek hb (by decide) cs).bind hlist

theorem reads_optional_none {reader : Reader α} : Reads (optional reader) spacing .null none := by
  intro indent blanks rest hb _
  rw [List.append_assoc]
  exact (takes_peek hb (by decide) _).bind (takes_spelled _ _ rest _)

theorem reads_optional_some {reader : Reader α} {v : Value} {a : α}
    (ho : ∀ indent, Opens 'n' (v.print spacing indent)) (h : Reads reader spacing v a) :
    Reads (optional reader) spacing v (some a) := by
  intro indent blanks rest hb hr
  have hreader := h indent [] rest blank_nil hr
  obtain ⟨c, tail, hp, hc, hn⟩ := ho indent
  rw [List.append_assoc, hp, List.cons_append]
  rw [hp, List.nil_append, List.cons_append] at hreader
  refine (takes_peek hb hc _).bind ?_
  rw [if_neg hn]
  exact hreader.bind (takes_pure _ _)

theorem reads_ofOption {reader : Reader α} {f : α → Value} {o : Option α}
    (ho : ∀ a indent, Opens 'n' ((f a).print spacing indent))
    (h : ∀ a ∈ o, Reads reader spacing (f a) a) :
    Reads (optional reader) spacing (.ofOption f o) o := by
  cases o with
  | none => exact reads_optional_none
  | some a => exact reads_optional_some (ho a) (h a rfl)

theorem Field.reads_of {reader : Nat → Reader β} {v : Value} {b : β}
    (h : Reads (reader depth) spacing v b) (name : String) (required : Bool) (put : β → α → α) :
    Reads ((Field.of name required reader put).read depth) spacing v (put b) := by
  intro indent blanks rest hb hr
  exact (h indent blanks rest hb hr).bind (takes_pure _ _)

-- The members line up with the fields, and putting them all in makes the one record of the other.
inductive Fills (spacing : Spacing) (depth : Nat) :
    List (Field α) → List (String × Value) → α → α → Prop
  | nil (a : α) : Fills spacing depth [] [] a a
  | cons {field : Field α} {fields : List (Field α)} {v : Value}
      {members : List (String × Value)} {put : α → α} {a b : α}
      (here : Reads (field.read depth) spacing v put)
      (further : Fills spacing depth fields members (put a) b) :
      Fills spacing depth (field :: fields) ((field.name, v) :: members) a b

namespace Shape

variable {shape : Shape α}

theorem takes_member (hs : spacing.IsBlank) {field : Field α} {seen : List String}
    {v : Value} {put : α → α} (hfind : shape.fields.find? (·.name = field.name) = some field)
    (hseen : field.name ∉ seen) (h : Reads (field.read depth) spacing v put) (a : α)
    (indent : Nat) {rest : List Char} (hr : Stops rest) :
    Takes (shape.member depth (seen, a))
      (printString field.name ++ (':' :: (spacing.colon ++ v.print spacing indent ++ rest)))
      (field.name :: seen, put a) rest := by
  refine (takes_string field.name _).bind ?_
  simp only [hfind]
  rw [if_neg (by simpa using hseen)]
  exact (takes_colon _).bind ((h indent spacing.colon rest hs.colon hr).bind (takes_pure _ _))

theorem steps_member (hs : spacing.IsBlank) (hnames : (shape.fields.map Field.name).Nodup)
    (before : List (Field α)) {fields : List (Field α)} {members : List (String × Value)} {a b : α}
    (hfields : shape.fields = before ++ fields) (h : Fills spacing depth fields members a b) :
    Steps (shape.member depth) spacing ((before.map Field.name).reverse, a) members
      ((shape.fields.map Field.name).reverse, b) := by
  induction h generalizing before with
  | nil a =>
      rw [hfields, List.append_nil]
      exact .done _
  | @cons field fields v members put a b here further ih =>
      have hfresh : field.name ∉ before.map Field.name := by
        rw [hfields, List.map_append, List.map_cons] at hnames
        exact fun hmem => (List.nodup_append.1 hnames).2.2 _ hmem _ List.mem_cons_self rfl
      have hfind : shape.fields.find? (·.name = field.name) = some field := by
        refine List.find?_eq_some_iff_append.2 ⟨by simp, before, fields, hfields, ?_⟩
        intro other hother
        have hne : other.name ≠ field.name := fun heq =>
          hfresh (heq ▸ List.mem_map_of_mem hother)
        simpa using hne
      have hrest := ih (before ++ [field]) (by rw [hfields, List.append_cons])
      rw [List.map_append, List.reverse_append] at hrest
      refine .next (fun indent rest hr => ?_) hrest
      exact takes_member hs hfind (by simpa using hfresh) here a indent hr

theorem absent?_names : shape.absent? (shape.fields.map Field.name).reverse = none := by
  refine List.find?_eq_none.2 fun field hfield => ?_
  have hmem : field.name ∈ (shape.fields.map Field.name).reverse :=
    List.mem_reverse.2 (List.mem_map_of_mem hfield)
  simp [hmem]

theorem reads_object (hs : spacing.IsBlank) (hnames : (shape.fields.map Field.name).Nodup)
    {members : List (String × Value)} {a : α}
    (h : Fills spacing depth shape.fields members shape.blank a) :
    Reads (shape.read (depth + 1)) spacing (.object members) a := by
  intro indent blanks rest hb _
  have hsteps := steps_member hs hnames [] rfl h
  obtain ⟨body, hbody, hmembers⟩ := takes_object hs hsteps indent rest
  rw [List.append_assoc, hbody]
  refine (takes_peek hb (by decide) body).bind ((takes_advance _ _).bind ?_)
  refine (takes_get _).bind (hmembers.bind ?_)
  simp only [absent?_names]
  exact takes_pure _ _

end Shape

end EnclosingScope.Json
