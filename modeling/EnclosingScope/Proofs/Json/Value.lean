import EnclosingScope.Proofs.Json.Scalar
import EnclosingScope.Proofs.Text.Bytes

namespace EnclosingScope.Json

namespace Value

-- Objects hold their names in strict order, as reading leaves them.
inductive Within : Nat → Value → Prop
  | null (depth : Nat) : Within depth null
  | boolean (depth : Nat) (b : Bool) : Within depth (boolean b)
  | number (depth : Nat) (n : Number) : Within depth (number n)
  | string (depth : Nat) (s : String) : Within depth (string s)
  | array {depth : Nat} {items : List Value} (each : ∀ item ∈ items, Within depth item) :
      Within (depth + 1) (array items)
  | object {depth : Nat} {members : List (String × Value)}
      (ordered : members.Pairwise fun a b => Text.before a.1 b.1)
      (each : ∀ m ∈ members, Within depth m.2) : Within (depth + 1) (object members)

inductive FloatFree : Value → Prop
  | null : FloatFree null
  | boolean (b : Bool) : FloatFree (boolean b)
  | integer (i : Int) (lower : -9223372036854775808 ≤ i) (upper : i ≤ 18446744073709551615) :
      FloatFree (number (.integer i lower upper))
  | string (s : String) : FloatFree (string s)
  | array {items : List Value} (each : ∀ item ∈ items, FloatFree item) : FloatFree (array items)
  | object {members : List (String × Value)} (each : ∀ m ∈ members, FloatFree m.2) :
      FloatFree (object members)

end Value

open Value Reader

structure Spacing.IsBlank (spacing : Spacing) : Prop where
  line : ∀ indent, Blank (spacing.line indent)
  colon : Blank spacing.colon

theorem Spacing.isBlank_compact : compact.IsBlank where
  line _ := List.forall_mem_nil _
  colon := List.forall_mem_nil _

theorem Spacing.isBlank_pretty : pretty.IsBlank where
  line indent := by
    intro c hc
    rcases List.mem_cons.1 hc with rfl | hc
    · rfl
    · rw [List.eq_of_mem_replicate hc]
      rfl
  colon := by
    intro c hc
    rw [List.mem_singleton.1 hc]
    rfl

variable {α σ : Type} {spacing : Spacing}

-- What follows must stop a number, or its first digits would be taken for more of this one.
def Reads (reader : Reader α) (spacing : Spacing) (v : Value) (a : α) : Prop :=
  ∀ indent blanks rest, Blank blanks → Stops rest →
    Takes reader (blanks ++ v.print spacing indent ++ rest) a rest

theorem ne_of_isDigit {c d : Char} (hc : c = '-' ∨ Decimal.isDigit c = true) (hd : d ≠ '-')
    (hn : Decimal.isDigit d = false) : c ≠ d := by
  rintro rfl
  rcases hc with rfl | hc
  · exact hd rfl
  · rw [hn] at hc
    cases hc

theorem isBlank_of_isDigit {c : Char} (hc : c = '-' ∨ Decimal.isDigit c = true) :
    isBlank c = false := by
  simp only [isBlank, Bool.or_eq_false_iff, beq_eq_false_iff_ne]
  refine ⟨⟨⟨?_, ?_⟩, ?_⟩, ?_⟩ <;> exact ne_of_isDigit hc (by decide) (by decide)

theorem head_integer (i : Int) (lower : -9223372036854775808 ≤ i)
    (upper : i ≤ 18446744073709551615) :
    ∃ c tail, (Number.integer i lower upper).print = c :: tail ∧
      (c = '-' ∨ Decimal.isDigit c = true) := by
  rw [print_integer, signed]
  split
  · exact ⟨_, _, rfl, .inl rfl⟩
  · cases hds : Decimal.digits i.natAbs with
    | nil => exact absurd hds (Decimal.digits_ne_nil _)
    | cons d ds =>
        refine ⟨d, ds, rfl, .inr (Decimal.isDigit_of_mem_digits (n := i.natAbs) ?_)⟩
        rw [hds]
        exact List.mem_cons_self

def Opens (barred : Char) (text : List Char) : Prop :=
  ∃ c tail, text = c :: tail ∧ isBlank c = false ∧ c ≠ barred

theorem opens_integer {barred : Char} (hb : barred ≠ '-') (hd : Decimal.isDigit barred = false)
    (i : Int) (lower : -9223372036854775808 ≤ i) (upper : i ≤ 18446744073709551615) :
    Opens barred (Number.integer i lower upper).print := by
  obtain ⟨c, tail, hp, hc⟩ := head_integer i lower upper
  exact ⟨c, tail, hp, isBlank_of_isDigit hc, ne_of_isDigit hc hb hd⟩

theorem opens_array {barred : Char} (hb : '[' ≠ barred) (spacing : Spacing) (indent : Nat)
    (items : List Value) : Opens barred ((array items).print spacing indent) := by
  cases items <;> exact ⟨_, _, rfl, by decide, hb⟩

theorem opens_object {barred : Char} (hb : '\x7b' ≠ barred) (spacing : Spacing) (indent : Nat)
    (members : List (String × Value)) :
    Opens barred ((object members).print spacing indent) := by
  cases members <;> exact ⟨_, _, rfl, by decide, hb⟩

theorem opens_print {v : Value} (h : FloatFree v) (spacing : Spacing) (indent : Nat) :
    Opens ']' (v.print spacing indent) := by
  cases h with
  | null => exact ⟨_, _, rfl, by decide, by decide⟩
  | boolean b => cases b <;> exact ⟨_, _, rfl, by decide, by decide⟩
  | integer i lower upper => exact opens_integer (by decide) (by decide) i lower upper
  | string s => exact ⟨_, _, rfl, by decide, by decide⟩
  | array => exact opens_array (by decide) spacing indent _
  | object => exact opens_object (by decide) spacing indent _

theorem stops_blank {blanks rest : List Char} (hb : Blank blanks) (hr : Stops rest) :
    Stops (blanks ++ rest) := by
  cases blanks with
  | nil => exact hr
  | cons b blanks =>
      intro c hc
      have hcb : c = b := by simpa using hc.symm
      have hblank := hb b List.mem_cons_self
      rw [hcb]
      simp only [isBlank, Bool.or_eq_true, beq_iff_eq] at hblank
      rcases hblank with ((rfl | rfl) | rfl) | rfl <;> decide

theorem stops_cons {c : Char} (hc : c = ',' ∨ c = ']' ∨ c = '\x7d') (rest : List Char) :
    Stops (c :: rest) := by
  intro d hd
  cases hd
  rcases hc with rfl | rfl | rfl <;> decide

theorem blank_nil : Blank [] :=
  List.forall_mem_nil _

namespace Reader

theorem takes_peek_here {c : Char} (hc : isBlank c = false) (rest : List Char) :
    Takes peek (c :: rest) c (c :: rest) :=
  takes_peek blank_nil hc rest

theorem takes_close (c : Char) (hc : isBlank c = false) (rest : List Char) :
    Takes (close c) (c :: rest) () rest := by
  refine (takes_peek_here hc rest).bind ?_
  rw [if_pos rfl]
  exact takes_advance _ _

theorem takes_colon (rest : List Char) : Takes colon (':' :: rest) () rest :=
  (takes_peek_here (by decide) rest).bind (takes_advance _ _)

variable {blanks text : List Char}

theorem takes_moreItems_first (hb : Blank blanks) (ho : Opens ']' text) (rest : List Char) :
    Takes (moreItems true) (blanks ++ (text ++ rest)) true (text ++ rest) := by
  obtain ⟨c, tail, rfl, hc, hne⟩ := ho
  refine (takes_peek hb hc _).bind ?_
  rw [if_neg hne]
  exact takes_pure _ _

theorem takes_moreItems_next (hb : Blank blanks) (ho : Opens ']' text) (rest : List Char) :
    Takes (moreItems false) (',' :: (blanks ++ (text ++ rest))) true (text ++ rest) := by
  obtain ⟨c, tail, rfl, hc, hne⟩ := ho
  refine (takes_peek_here (by decide) _).bind ?_
  rw [if_neg (by decide), if_neg (by decide), if_pos rfl]
  refine (takes_advance _ _).bind ((takes_peek hb hc _).bind ?_)
  rw [if_neg hne]
  exact takes_pure _ _

theorem takes_moreItems_end (first : Bool) (hb : Blank blanks) (rest : List Char) :
    Takes (moreItems first) (blanks ++ ']' :: rest) false (']' :: rest) :=
  (takes_peek hb (by decide) rest).bind (takes_pure _ _)

theorem takes_moreMembers_first (hb : Blank blanks) (rest : List Char) :
    Takes (moreMembers true) (blanks ++ '"' :: rest) true ('"' :: rest) :=
  (takes_peek hb (by decide) rest).bind (takes_pure _ _)

theorem takes_moreMembers_next (hb : Blank blanks) (rest : List Char) :
    Takes (moreMembers false) (',' :: (blanks ++ '"' :: rest)) true ('"' :: rest) := by
  refine (takes_peek_here (by decide) _).bind ?_
  rw [if_neg (by decide), if_neg (by decide), if_pos rfl]
  exact (takes_advance _ _).bind ((takes_peek hb (by decide) rest).bind (takes_pure _ _))

theorem takes_moreMembers_end (first : Bool) (hb : Blank blanks) (rest : List Char) :
    Takes (moreMembers first) (blanks ++ '\x7d' :: rest) false ('\x7d' :: rest) :=
  (takes_peek hb (by decide) rest).bind (takes_pure _ _)

def onto (reader : Reader α) (back : List α) : Reader (List α) := do
  pure ((← reader) :: back)

theorem takes_onto {reader : Reader α} {cs rest : List Char} {a : α} (h : Takes reader cs a rest)
    (back : List α) : Takes (onto reader back) cs (a :: back) rest :=
  h.bind (takes_pure _ _)

end Reader

theorem stops_line (hs : spacing.IsBlank) (indent : Nat) {c : Char}
    (hc : c = ',' ∨ c = ']' ∨ c = '\x7d') (rest : List Char) :
    Stops (spacing.line indent ++ c :: rest) :=
  stops_blank (hs.line indent) (stops_cons hc rest)

theorem stops_printItems (hs : spacing.IsBlank) (items : List Value) (indent outer : Nat)
    (rest : List Char) :
    Stops (printItems spacing indent items ++ (spacing.line outer ++ ']' :: rest)) := by
  cases items with
  | nil => exact stops_line hs outer (.inr (.inl rfl)) rest
  | cons item items => exact stops_cons (.inl rfl) _

theorem takes_items (hs : spacing.IsBlank) {reader : Reader Value} {items : List Value}
    (h : ∀ item ∈ items, FloatFree item ∧ Reads reader spacing item item) (indent outer : Nat)
    (back : List Value) (rest : List Char) {fuel : Nat} (hf : items.length < fuel) :
    Takes (Reader.items (onto reader) fuel false back)
      (printItems spacing indent items ++ (spacing.line outer ++ ']' :: rest))
      (items.reverse ++ back) rest := by
  induction items generalizing fuel back with
  | nil =>
      obtain ⟨fuel, rfl⟩ := Nat.exists_eq_succ_of_ne_zero (Nat.ne_of_gt hf)
      refine (takes_moreItems_end false (hs.line outer) rest).bind ?_
      exact (takes_close _ (by decide) rest).bind (takes_pure _ _)
  | cons item items ih =>
      obtain ⟨fuel, rfl⟩ := Nat.exists_eq_succ_of_ne_zero (Nat.ne_of_gt (Nat.zero_lt_of_lt hf))
      obtain ⟨hfree, hread⟩ := h item List.mem_cons_self
      have hstops := stops_printItems hs items indent outer rest
      have hitem := takes_onto (hread indent [] _ blank_nil hstops) back
      have hrest := ih (fun item hi => h item (List.mem_cons_of_mem _ hi)) (item :: back)
        (Nat.lt_of_succ_lt_succ hf)
      rw [List.reverse_cons, List.append_assoc]
      simp only [printItems, List.cons_append, List.append_assoc]
      refine (takes_moreItems_next (hs.line indent) (opens_print hfree spacing indent) _).bind ?_
      rw [if_pos rfl]
      exact Takes.bind hitem hrest

theorem length_le_length_printItems (spacing : Spacing) (indent : Nat) (items : List Value) :
    items.length ≤ (printItems spacing indent items).length := by
  induction items with
  | nil => exact Nat.le_refl _
  | cons item items ih =>
      simp only [printItems, List.cons_append, List.length_cons, List.length_append]
      omega

theorem takes_items_first (hs : spacing.IsBlank) {reader : Reader Value} {item : Value}
    {items : List Value}
    (h : ∀ i ∈ item :: items, FloatFree i ∧ Reads reader spacing i i) (indent outer : Nat)
    (rest : List Char) {fuel : Nat} (hf : items.length + 1 < fuel) :
    Takes (Reader.items (onto reader) fuel true [])
      (spacing.line indent ++ (item.print spacing indent ++
        (printItems spacing indent items ++ (spacing.line outer ++ ']' :: rest))))
      (item :: items).reverse rest := by
  obtain ⟨fuel, rfl⟩ := Nat.exists_eq_succ_of_ne_zero (Nat.ne_of_gt (Nat.zero_lt_of_lt hf))
  obtain ⟨hfree, hread⟩ := h item List.mem_cons_self
  have hstops := stops_printItems hs items indent outer rest
  have hitem := takes_onto (hread indent [] _ blank_nil hstops) []
  have hrest := takes_items hs (fun i hi => h i (List.mem_cons_of_mem _ hi)) indent outer [item]
    rest (Nat.lt_of_succ_lt_succ hf)
  refine (takes_moreItems_first (hs.line indent) (opens_print hfree spacing indent) _).bind ?_
  rw [if_pos rfl, List.reverse_cons]
  exact Takes.bind hitem hrest

theorem takes_listOf (hs : spacing.IsBlank) {reader : Reader Value} {items : List Value}
    (h : ∀ item ∈ items, FloatFree item ∧ Reads reader spacing item item) (indent : Nat)
    (rest : List Char) :
    Takes (listOf reader) ((array items).print spacing indent ++ rest) items rest := by
  cases items with
  | nil => rfl
  | cons item items =>
      have hlength := length_le_length_printItems spacing (indent + 1) items
      simp only [print, List.cons_append, List.append_assoc, List.nil_append]
      refine (takes_advance _ _).bind ((takes_get _).bind ?_)
      refine (takes_items_first hs h (indent + 1) indent rest ?_).bind ?_
      · simp only [List.length_append, List.length_cons]
        omega
      · rw [List.reverse_reverse]
        exact takes_pure _ _

theorem stops_printMembers (hs : spacing.IsBlank) (members : List (String × Value))
    (indent outer : Nat) (rest : List Char) :
    Stops (printMembers spacing indent members ++ (spacing.line outer ++ '\x7d' :: rest)) := by
  cases members with
  | nil => exact stops_line hs outer (.inr (.inr rfl)) rest
  | cons m members => exact stops_cons (.inl rfl) _

-- The members lead from state to state one after another, however far each is indented.
inductive Steps (member : σ → Reader σ) (spacing : Spacing) :
    σ → List (String × Value) → σ → Prop
  | done (s : σ) : Steps member spacing s [] s
  | next {s mid s' : σ} {name : String} {v : Value} {members : List (String × Value)}
      (here : ∀ indent rest, Stops rest → Takes (member s)
        (printString name ++ (':' :: (spacing.colon ++ v.print spacing indent ++ rest))) mid rest)
      (further : Steps member spacing mid members s') :
      Steps member spacing s ((name, v) :: members) s'

theorem takes_members (hs : spacing.IsBlank) {member : σ → Reader σ} {s s' : σ}
    {members : List (String × Value)} (h : Steps member spacing s members s')
    (indent outer : Nat) (rest : List Char) {fuel : Nat} (hf : members.length < fuel) :
    Takes (Reader.members member fuel false s)
      (printMembers spacing indent members ++ (spacing.line outer ++ '\x7d' :: rest)) s' rest := by
  induction h generalizing fuel with
  | done s =>
      obtain ⟨fuel, rfl⟩ := Nat.exists_eq_succ_of_ne_zero (Nat.ne_of_gt hf)
      refine (takes_moreMembers_end false (hs.line outer) rest).bind ?_
      exact (takes_close _ (by decide) rest).bind (takes_pure _ _)
  | @next s mid s' name v members here further ih =>
      obtain ⟨fuel, rfl⟩ := Nat.exists_eq_succ_of_ne_zero (Nat.ne_of_gt (Nat.zero_lt_of_lt hf))
      have hstops := stops_printMembers hs members indent outer rest
      simp only [printMembers, List.cons_append, List.append_assoc]
      refine (takes_moreMembers_next (hs.line indent) _).bind ?_
      have hmember := here indent _ hstops
      rw [List.append_assoc] at hmember
      exact Takes.bind hmember (ih (Nat.lt_of_succ_lt_succ hf))

theorem length_le_length_printMembers (spacing : Spacing) (indent : Nat)
    (members : List (String × Value)) :
    members.length ≤ (printMembers spacing indent members).length := by
  induction members with
  | nil => exact Nat.le_refl _
  | cons m members ih =>
      obtain ⟨name, v⟩ := m
      simp only [printMembers, List.cons_append, List.length_cons, List.length_append]
      omega

theorem takes_object (hs : spacing.IsBlank) {member : σ → Reader σ} {s s' : σ}
    {members : List (String × Value)} (h : Steps member spacing s members s') (indent : Nat)
    (rest : List Char) :
    ∃ body, (object members).print spacing indent ++ rest = '\x7b' :: body ∧
      Takes (Reader.members member (body.length + 1) true s) body s' rest := by
  cases h with
  | done s =>
      refine ⟨'\x7d' :: rest, rfl, ?_⟩
      refine Takes.bind (takes_moreMembers_end true blank_nil rest) ?_
      exact (takes_close _ (by decide) rest).bind (takes_pure _ _)
  | @next s mid s' name v members here further =>
      have hstops := stops_printMembers hs members (indent + 1) indent rest
      have hlength := length_le_length_printMembers spacing (indent + 1) members
      have hmember := here (indent + 1) _ hstops
      rw [List.append_assoc] at hmember
      simp only [print, List.cons_append, List.append_assoc, List.nil_append]
      refine ⟨_, rfl, (takes_moreMembers_first (hs.line (indent + 1)) _).bind ?_⟩
      refine Takes.bind hmember (takes_members hs further (indent + 1) indent rest ?_)
      simp only [List.length_append, List.length_cons]
      omega

theorem insert_eq_append {name : String} {before : List (String × Value)}
    (h : ∀ m ∈ before, Text.before m.1 name) (v : Value) :
    Members.insert name v before = before ++ [(name, v)] := by
  induction before with
  | nil => rfl
  | cons m before ih =>
      have hm := h m List.mem_cons_self
      have hne : name ≠ m.1 := by
        rintro rfl
        exact Text.before_irrefl _ hm
      have hnot : ¬ Text.before name m.1 := fun hlt =>
        Text.before_irrefl _ (Text.before_trans hm hlt)
      rw [Members.insert, if_neg hne, if_neg hnot, ih fun m hi => h m (List.mem_cons_of_mem _ hi)]
      rfl

def Reader.inserting (reader : Reader Value) (found : List (String × Value)) :
    Reader (List (String × Value)) := do
  let name ← string
  colon
  return Members.insert name (← reader) found

theorem takes_inserting (hs : spacing.IsBlank) {reader : Reader Value} {v : Value}
    (h : Reads reader spacing v v) (name : String) (found : List (String × Value)) (indent : Nat)
    {rest : List Char} (hr : Stops rest) :
    Takes (inserting reader found)
      (printString name ++ (':' :: (spacing.colon ++ v.print spacing indent ++ rest)))
      (Members.insert name v found) rest :=
  (takes_string name _).bind ((takes_colon _).bind
    ((h indent spacing.colon rest hs.colon hr).bind (takes_pure _ _)))

-- Names in strict order go behind those already found, so the members come out as they went in.
theorem steps_inserting (hs : spacing.IsBlank) {reader : Reader Value}
    (before : List (String × Value)) {members : List (String × Value)}
    (ordered : (before ++ members).Pairwise fun a b => Text.before a.1 b.1)
    (h : ∀ m ∈ members, Reads reader spacing m.2 m.2) :
    Steps (inserting reader) spacing before members (before ++ members) := by
  induction members generalizing before with
  | nil =>
      rw [List.append_nil]
      exact .done _
  | cons m members ih =>
      obtain ⟨name, v⟩ := m
      have hbefore : ∀ b ∈ before, Text.before b.1 name := fun b hb =>
        (List.pairwise_append.1 ordered).2.2 b hb _ List.mem_cons_self
      rw [List.append_cons] at ordered ⊢
      refine .next (fun indent rest hr => ?_)
        (ih _ ordered fun m hm => h m (List.mem_cons_of_mem _ hm))
      rw [← insert_eq_append hbefore v]
      exact takes_inserting hs (h _ List.mem_cons_self) name before indent hr

section

variable {onArray onObject : Reader Value}

theorem reads_null : Reads (valueWith onArray onObject) spacing null null := by
  intro indent blanks rest hb _
  rw [List.append_assoc]
  exact (takes_peek hb (by decide) _).bind (takes_spelled _ _ rest _)

theorem reads_boolean (b : Bool) :
    Reads (valueWith onArray onObject) spacing (boolean b) (boolean b) := by
  intro indent blanks rest hb _
  rw [List.append_assoc]
  cases b <;> exact (takes_peek hb (by decide) _).bind (takes_spelled _ _ rest _)

theorem reads_string (s : String) :
    Reads (valueWith onArray onObject) spacing (string s) (string s) := by
  intro indent blanks rest hb _
  rw [List.append_assoc]
  exact (takes_peek hb (by decide) _).bind ((takes_string s rest).bind (takes_pure _ _))

theorem reads_integer (i : Int) (lower : -9223372036854775808 ≤ i)
    (upper : i ≤ 18446744073709551615) :
    Reads (valueWith onArray onObject) spacing (number (.integer i lower upper))
      (number (.integer i lower upper)) := by
  intro indent blanks rest hb hr
  obtain ⟨c, tail, hp, hc⟩ := head_integer i lower upper
  have hnumber := takes_integer i lower upper hr
  rw [List.append_assoc, print]
  rw [hp, List.cons_append] at hnumber ⊢
  refine (takes_peek hb (isBlank_of_isDigit hc) _).bind ?_
  have hif : (decide (c = '-') || Decimal.isDigit c) = true := by simpa using hc
  -- The first six letters that a value can start with are neither a sign nor a digit.
  split
  · exact absurd rfl (ne_of_isDigit hc (by decide) (by decide))
  · exact absurd rfl (ne_of_isDigit hc (by decide) (by decide))
  · exact absurd rfl (ne_of_isDigit hc (by decide) (by decide))
  · exact absurd rfl (ne_of_isDigit hc (by decide) (by decide))
  · exact absurd rfl (ne_of_isDigit hc (by decide) (by decide))
  · exact absurd rfl (ne_of_isDigit hc (by decide) (by decide))
  · rw [if_pos hif]
    exact hnumber.bind (takes_pure _ _)

theorem print_array (spacing : Spacing) (indent : Nat) (items : List Value) (rest : List Char) :
    ∃ cs, (array items).print spacing indent ++ rest = '[' :: cs := by
  cases items <;> exact ⟨_, rfl⟩

theorem reads_array (hs : spacing.IsBlank) {reader : Reader Value} {items : List Value}
    (h : ∀ item ∈ items, FloatFree item ∧ Reads reader spacing item item) :
    Reads (valueWith (do return .array (← listOf reader)) onObject) spacing (array items)
      (array items) := by
  intro indent blanks rest hb _
  have hlist := takes_listOf hs h indent rest
  obtain ⟨cs, hcs⟩ := print_array spacing indent items rest
  rw [List.append_assoc, hcs]
  rw [hcs] at hlist
  exact (takes_peek hb (by decide) cs).bind (hlist.bind (takes_pure _ _))

end

theorem reads_of_valueWith {v a : Value}
    (h : ∀ onArray onObject, Reads (valueWith onArray onObject) spacing v a) (depth : Nat) :
    Reads (value depth) spacing v a := by
  cases depth with
  | zero => exact h _ _
  | succ depth => exact h _ _

theorem reads_value (hs : spacing.IsBlank) {depth : Nat} {v : Value} (hw : Within depth v)
    (hf : FloatFree v) : Reads (value depth) spacing v v := by
  induction hw with
  | null depth => exact reads_of_valueWith (fun _ _ => reads_null) depth
  | boolean depth b => exact reads_of_valueWith (fun _ _ => reads_boolean b) depth
  | number depth n =>
      cases hf with
      | integer i lower upper =>
          exact reads_of_valueWith (fun _ _ => reads_integer i lower upper) depth
  | string depth s => exact reads_of_valueWith (fun _ _ => reads_string s) depth
  | @array depth items each ih =>
      cases hf with
      | array free => exact reads_array hs fun item hi => ⟨free item hi, ih item hi (free item hi)⟩
  | @object depth members ordered each ih =>
      cases hf with
      | object free =>
          intro indent blanks rest hb _
          have hsteps := steps_inserting hs [] ordered fun m hm => ih m hm (free m hm)
          obtain ⟨body, hbody, hmembers⟩ := takes_object hs hsteps indent rest
          rw [List.append_assoc, hbody]
          exact (takes_peek hb (by decide) body).bind ((takes_advance _ _).bind
            ((takes_get _).bind (hmembers.bind (takes_pure _ _))))

namespace Reads

variable {reader : Reader α} {v : Value} {a : α}

theorem run_append (h : Reads reader spacing v a) {blanks : List Char} (hb : Blank blanks) :
    Reader.run reader (String.ofList (v.print spacing 0 ++ blanks)) = .ok a := by
  have hstops : Stops blanks := by
    have hnil : Stops [] := fun c hc => absurd hc (Option.not_mem_none c)
    have hblanks := stops_blank hb hnil
    rwa [List.append_nil] at hblanks
  have htakes := h 0 [] blanks blank_nil hstops
  refine run_eq_ok_iff.2 ⟨blanks, ?_, hb⟩
  rwa [String.toList_ofList]

theorem run (h : Reads reader spacing v a) :
    Reader.run reader (String.ofList (v.print spacing 0)) = .ok a := by
  have hrun := h.run_append blank_nil
  rwa [List.append_nil] at hrun

theorem run_line (h : Reads reader spacing v a) :
    Reader.run reader (String.ofList (v.print spacing 0) ++ "\n") = .ok a := by
  have hblank : Blank ['\n'] := by
    intro c hc
    rw [List.mem_singleton.1 hc]
    rfl
  have hrun := h.run_append hblank
  rwa [String.ofList_append] at hrun

end Reads

end EnclosingScope.Json
