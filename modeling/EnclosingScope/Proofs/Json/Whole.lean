import EnclosingScope.Proofs.Json.Accepted

namespace EnclosingScope.Json.Reader

variable {α σ : Type}

theorem decides_word (c : Char) (letters : List Char) (a : α) :
    Decides (do advance; word letters; pure a) (c :: letters) (some a) :=
  decides_some fun rest _ => takes_spelled c letters rest a

theorem decides_letters (c : Char) (letters : List Char) :
    Decides (do advance; word letters) (c :: letters) (some ()) :=
  decides_some fun rest _ => (takes_advance c _).bind (takes_word letters rest)

-- How `more` tells that the bracket closes and, where something starts, that it goes on.
structure Separates (more : Bool → Reader Bool) (closing : Char) (Starts : List Char → Prop) :
    Prop where
  closes : closing = ']' ∨ closing = '\x7d'
  skips : ∀ first, Skips (more first)
  finish : ∀ first rest, Takes (more first) (closing :: rest) false (closing :: rest)
  begin : ∀ core rest, Starts core → Takes (more true) (core ++ rest) true (core ++ rest)
  next : ∀ blanks core rest, Blank blanks → Starts core →
    Takes (more false) (',' :: (blanks ++ (core ++ rest))) true (core ++ rest)

theorem separates_items : Separates moreItems ']' (Opens ']') where
  closes := .inl rfl
  skips _ := skips_peek.bind _
  finish first rest := takes_moreItems_end first blank_nil rest
  begin _ rest ho := takes_moreItems_first blank_nil ho rest
  next _ _ rest hb ho := takes_moreItems_next hb ho rest

theorem separates_members : Separates moreMembers '\x7d' Quotes where
  closes := .inr rfl
  skips _ := skips_peek.bind _
  finish first rest := takes_moreMembers_end first blank_nil rest
  begin core rest hq := by
    obtain ⟨tail, rfl⟩ := List.head?_eq_some_iff.1 hq
    exact takes_moreMembers_first blank_nil _
  next blanks core rest hb hq := by
    obtain ⟨tail, rfl⟩ := List.head?_eq_some_iff.1 hq
    exact takes_moreMembers_next hb _

variable {more : Bool → Reader Bool} {closing : Char} {Starts : List Char → Prop}
  {item : σ → Reader σ} {ps : List Part} {pad : List Char} {fuel : Nat}

theorem Separates.takes_more (hs : Separates more closing Starts) (first : Bool) {p : Part}
    (hp : p.Spaced) (hstarts : Starts p.core) (rest : List Char) :
    Takes (more first) ((if first then [] else [',']) ++ (p.before ++ (p.core ++ rest))) true
      (p.core ++ rest) := by
  cases first with
  | true =>
      rw [if_pos rfl, List.nil_append, Takes, hs.skips true _ _ hp.before]
      exact hs.begin _ rest hstarts
  | false => exact hs.next _ _ rest hp.before hstarts

theorem Separates.skips_loop (hs : Separates more closing Starts) (first : Bool) (s : σ) :
    Skips (loop more closing item fuel first s) := by
  cases fuel with
  | zero => exact skips_throw _
  | succ fuel => exact (hs.skips first).bind _

theorem stops_behind (hc : closing = ']' ∨ closing = '\x7d') {p : Part} (hp : p.Spaced)
    (ps : List Part) (hpad : Blank pad) (rest : List Char) :
    Stops (p.behind ++ (sequence false ps ++ (pad ++ [closing])) ++ rest) := by
  rw [List.append_assoc]
  refine stops_blank hp.behind ?_
  cases ps with
  | nil =>
      rw [sequence, List.nil_append, List.append_assoc]
      exact stops_blank hpad (stops_cons (.inr hc) _)
  | cons p ps => exact stops_cons (.inl rfl) _

theorem Separates.decides_loop (hs : Separates more closing Starts) (hpad : Blank pad)
    (hspaced : ∀ p ∈ ps, p.Spaced) (hstarts : ∀ p ∈ ps, Starts p.core)
    (hitem : ∀ p ∈ ps, ∀ s, Certain (item s) p.core) (hf : ps.length < fuel) (first : Bool)
    (s : σ) :
    Decides (loop more closing item fuel first s) (sequence first ps ++ (pad ++ [closing]))
      (ps.foldlM (fun s p => outcome (item s) p.core) s) := by
  induction ps generalizing fuel first s with
  | nil =>
      obtain ⟨fuel, rfl⟩ := Nat.exists_eq_add_one.2 hf
      have hsolid : isBlank closing = false := by rcases hs.closes with rfl | rfl <;> decide
      refine decides_some fun rest _ => ?_
      have hmore : Takes (more first) (pad ++ closing :: rest) false (closing :: rest) := by
        rw [Takes, hs.skips first _ _ hpad]
        exact hs.finish first rest
      rw [sequence, List.nil_append, List.append_assoc]
      exact hmore.bind ((takes_close _ hsolid rest).bind (takes_pure _ _))
  | cons p ps ih =>
      obtain ⟨fuel, rfl⟩ := Nat.exists_eq_add_one.2 (Nat.zero_lt_of_lt hf)
      obtain ⟨hp, hspaced⟩ := List.forall_mem_cons.1 hspaced
      obtain ⟨hstart, hstarts⟩ := List.forall_mem_cons.1 hstarts
      obtain ⟨hcertain, hitem⟩ := List.forall_mem_cons.1 hitem
      have hrest := fun s => (hs.skips_loop false s).decides hp.behind
        (ih hspaced hstarts hitem (Nat.lt_of_succ_lt_succ hf) false s)
      have hloop := (hcertain s).decides.bind
        (fun rest _ => stops_behind hs.closes hp ps hpad rest) fun s _ => hrest s
      intro rest hr s' mid
      rw [List.foldlM_cons]
      refine Iff.trans ?_ (hloop rest hr s' mid)
      have hmore := hs.takes_more first hp hstart
        (p.behind ++ (sequence false ps ++ (pad ++ [closing])) ++ rest)
      simp only [sequence, Part.text, List.append_assoc] at hmore ⊢
      exact hmore.bind_iff

theorem length_le_length_sequence (first : Bool) (ps : List Part) :
    ps.length ≤ (sequence first ps).length + 1 := by
  have hfalse : ∀ ps : List Part, ps.length ≤ (sequence false ps).length := by
    intro ps
    induction ps with
    | nil => exact Nat.le_refl _
    | cons p ps ih =>
        simp only [sequence, Bool.false_eq_true, if_false, List.length_append,
          List.length_cons]
        omega
  cases ps with
  | nil => exact Nat.zero_le _
  | cons p ps =>
      have hps := hfalse ps
      simp only [sequence, List.length_cons, List.length_append]
      omega

-- Every bracket is read with more fuel than there are things in it.
theorem decides_opened {k : Nat → Reader α} {o : Option α} (opening : Char)
    (h : ∀ fuel, ps.length < fuel → Decides (k fuel) (sequence true ps ++ (pad ++ [closing])) o) :
    Decides (do advance; k ((← get).length + 1)) (bracketed opening ps pad closing) o := by
  intro rest hr a mid
  have hlength := length_le_length_sequence true ps
  have hopened : Takes (do advance; k ((← get).length + 1))
      (opening :: (sequence true ps ++ (pad ++ [closing]) ++ rest)) a mid ↔
      Takes (do k ((← get).length + 1)) (sequence true ps ++ (pad ++ [closing]) ++ rest) a mid :=
    (takes_advance _ _).bind_iff
  refine hopened.trans ((takes_get _).bind_iff.trans (h _ ?_ rest hr a mid))
  simp only [List.length_append, List.length_cons, List.length_nil]
  omega

theorem stops_colon (rest : List Char) : Stops (':' :: rest) := by
  intro c hc
  cases hc
  decide

theorem decides_colon {reader : Reader α} {o : Option α} {gap w : List Char} (hg : Blank gap)
    (h : Decides reader w o) : Decides (do colon; reader) (gap ++ ':' :: w) o := by
  intro rest hr a mid
  have hcolon : Takes colon (gap ++ ':' :: (w ++ rest)) () (w ++ rest) :=
    (takes_peek hg (by decide) _).bind (takes_advance _ _)
  rw [← h rest hr a mid]
  simp only [List.append_assoc, List.cons_append] at hcolon ⊢
  exact hcolon.bind_iff

variable {es : List Entry}

theorem quotes_part (e : Entry) : Quotes e.part.core :=
  rfl

theorem Entry.spaced_part {e : Entry} (h : e.Spaced) : e.part.Spaced :=
  ⟨h.before, h.behind⟩

-- A member is read by its name first and then by what that name asks for.
theorem decides_entry {β : Type} {name : Reader β} {next : β → Reader α} {f : β → Option α}
    {o : Option β} {e : Entry} (h : e.Spaced) (hname : Decides name (quoted e.body) o)
    (hnext : ∀ b ∈ o, Decides (next b) (e.gap ++ ':' :: (e.lead ++ e.value)) (f b)) :
    Decides (name >>= next) e.part.core (o.bind f) := by
  refine hname.bind (fun rest _ => ?_) hnext
  rw [List.append_assoc]
  exact stops_blank h.gap (stops_colon _)

theorem Uniform.certain_colon {reader : Reader α} (h : Uniform reader) {gap lead v : List Char}
    (hg : Blank gap) (hl : Blank lead) (hv : WellFormed v) :
    Certain (do colon; reader) (gap ++ ':' :: (lead ++ v)) :=
  (decides_colon hg (h.skips.decides hl (h.certain v hv).decides)).certain

theorem certain_entry {β : Type} {name : Reader β} {next : β → Reader α} {e : Entry}
    (h : e.Spaced) (hname : Certain name (quoted e.body))
    (hnext : ∀ b, Certain (next b) (e.gap ++ ':' :: (e.lead ++ e.value))) :
    Certain (name >>= next) e.part.core :=
  (decides_entry h hname.decides fun b _ => (hnext b).decides).certain

theorem decides_items {item : σ → Reader σ} (hpad : Blank pad) (hspaced : ∀ p ∈ ps, p.Spaced)
    (hps : ∀ p ∈ ps, WellFormed p.core) (hitem : ∀ p ∈ ps, ∀ s, Certain (item s) p.core)
    (s : σ) (hf : ps.length < fuel) :
    Decides (items item fuel true s) (sequence true ps ++ (pad ++ [']']))
      (ps.foldlM (fun s p => outcome (item s) p.core) s) := by
  rw [items_eq_loop]
  exact separates_items.decides_loop hpad hspaced (fun p hp => (hps p hp).opens) hitem hf true s

theorem decides_members {member : σ → Reader σ} (hpad : Blank pad)
    (hspaced : ∀ e ∈ es, e.Spaced) (hmember : ∀ e ∈ es, ∀ s, Certain (member s) e.part.core)
    (s : σ) (hf : es.length < fuel) :
    Decides (members member fuel true s)
      (sequence true (es.map Entry.part) ++ (pad ++ ['\x7d']))
      (es.foldlM (fun s e => outcome (member s) e.part.core) s) := by
  have hloop : Decides (loop moreMembers '\x7d' member fuel true s)
      (sequence true (es.map Entry.part) ++ (pad ++ ['\x7d']))
      ((es.map Entry.part).foldlM (fun s p => outcome (member s) p.core) s) :=
    separates_members.decides_loop hpad
      (List.forall_mem_map.2 fun e he => Entry.spaced_part (hspaced e he))
      (List.forall_mem_map.2 fun e _ => quotes_part e) (List.forall_mem_map.2 hmember)
      (by rwa [List.length_map]) true s
  rw [members_eq_loop]
  rwa [List.foldlM_map] at hloop

theorem foldlM_outcome_unit {γ : Type} {f : Unit → γ → Option Unit} {xs : List γ}
    (h : ∀ x ∈ xs, f () x = some ()) : xs.foldlM f () = some () := by
  induction xs with
  | nil => rfl
  | cons x xs ih =>
      obtain ⟨hx, hxs⟩ := List.forall_mem_cons.1 h
      rw [List.foldlM_cons, hx]
      exact ih hxs

theorem length_core_le {p : Part} (hp : p ∈ ps) (first : Bool) :
    p.core.length ≤ (sequence first ps).length := by
  induction ps generalizing first with
  | nil => cases hp
  | cons q ps ih =>
      simp only [sequence, Part.text, List.length_append]
      rcases List.mem_cons.1 hp with rfl | hp
      · omega
      · have hlength := ih hp false
        omega

theorem length_core_lt {p : Part} (hp : p ∈ ps) (opening : Char) :
    p.core.length < (bracketed opening ps pad closing).length := by
  have hlength := length_core_le hp true
  simp only [bracketed, List.length_cons, List.length_append]
  omega

theorem length_value_lt {e : Entry} (he : e ∈ es) (opening : Char) :
    e.value.length < (bracketed opening (es.map Entry.part) pad closing).length := by
  have hcore : e.value.length ≤ e.part.core.length := by
    simp only [Entry.part, List.length_append, List.length_cons]
    omega
  exact Nat.lt_of_le_of_lt hcore (length_core_lt (List.mem_map_of_mem he) opening)

theorem skips_pass (depth : Nat) : Skips (pass depth) := by
  cases depth with
  | zero => exact skips_throw _
  | succ depth => exact skips_peek.bind _

-- The first six letters that `pass` tells apart are neither a sign nor a digit.
theorem decides_pass_number {c : Char} {tail : List Char} {depth : Nat} {o : Option Unit}
    (hc : c = '-' ∨ Decimal.isDigit c = true)
    (h : Decides (discard (literal .malformed)) (c :: tail) o) :
    Decides (pass (depth + 1)) (c :: tail) o := by
  have hif : (decide (c = '-') || Decimal.isDigit c) = true := by simpa using hc
  refine decides_peek (isBlank_of_isDigit hc) ?_
  split
  iterate 6 exact absurd rfl (ne_of_isDigit hc (by decide) (by decide))
  rwa [if_pos hif]

theorem decides_pass {v : List Char} (h : WellFormed v) {depth : Nat} (hd : v.length ≤ depth) :
    Decides (pass (depth + 1)) v (some ()) := by
  induction h generalizing depth with
  | null => exact decides_peek (by decide) (decides_letters _ _)
  | yes => exact decides_peek (by decide) (decides_letters _ _)
  | no => exact decides_peek (by decide) (decides_letters _ _)
  | @number v h =>
      obtain ⟨c, tail, rfl, hc⟩ := h.head
      obtain ⟨l, hl⟩ := decides_literal h .malformed
      exact decides_pass_number hc (decides_some fun rest hr => takes_discard (hl.takes hr))
  | string h => exact decides_peek (by decide) (decides_passString h)
  | @array ps pad spaced each hpad ih =>
      have hpass : ∀ p ∈ ps, Decides (pass depth) p.core (some ()) := by
        intro p hp
        have hlength : p.core.length < (bracketed '[' ps pad ']').length := length_core_lt hp _
        have hne : depth ≠ 0 := by omega
        obtain ⟨depth, rfl⟩ := Nat.exists_eq_succ_of_ne_zero hne
        exact ih p hp (by omega)
      have hitems : ∀ fuel, ps.length < fuel → Decides (items (fun _ => pass depth) fuel true ())
          (sequence true ps ++ (pad ++ [']'])) (some ()) := by
        intro fuel hf
        have hloop := decides_items hpad spaced each (fun p hp _ => (hpass p hp).certain) () hf
        rwa [foldlM_outcome_unit fun p hp => (hpass p hp).outcome_eq] at hloop
      exact decides_peek (by decide) (decides_opened '[' hitems)
  | @object es pad spaced named each hpad ih =>
      have hpass : ∀ e ∈ es, Decides (do passString; colon; pass depth) e.part.core (some ()) := by
        intro e he
        have hlength : e.value.length < (bracketed '\x7b' (es.map Entry.part) pad '\x7d').length :=
          length_value_lt he _
        have hne : depth ≠ 0 := by omega
        obtain ⟨depth, rfl⟩ := Nat.exists_eq_succ_of_ne_zero hne
        have hle : e.value.length ≤ depth := by omega
        have hvalue := decides_colon (spaced e he).gap
          ((skips_pass _).decides (spaced e he).lead (ih e he hle))
        exact decides_entry (spaced e he) (decides_passString (named e he)) fun _ _ => hvalue
      have hmembers : ∀ fuel, es.length < fuel →
          Decides (members (fun _ => do passString; colon; pass depth) fuel true ())
            (sequence true (es.map Entry.part) ++ (pad ++ ['\x7d'])) (some ()) := by
        intro fuel hf
        have hloop := decides_members hpad spaced (fun e he _ => (hpass e he).certain) () hf
        rwa [foldlM_outcome_unit fun e he => (hpass e he).outcome_eq] at hloop
      rw [← List.length_map Entry.part] at hmembers
      exact decides_peek (by decide) (decides_opened '\x7b' hmembers)

theorem certain_number {v : List Char} (h : Numeral v) : Certain number v := by
  obtain ⟨l, hl⟩ := decides_literal h .early
  refine hl.certain.bind_nil fun l => ?_
  split
  · exact (decides_pure _).certain
  · exact (decides_throw _).certain

theorem certain_listOf {reader : Reader α} (h : Uniform reader) (hpad : Blank pad)
    (hspaced : ∀ p ∈ ps, p.Spaced) (hps : ∀ p ∈ ps, WellFormed p.core) :
    Certain (listOf reader) (bracketed '[' ps pad ']') := by
  have honto : ∀ p ∈ ps, ∀ back : List α, Certain (onto reader back) p.core := fun p hp back =>
    (h.map (· :: back)).certain p.core (hps p hp)
  have hitems : ∀ fuel, ps.length < fuel →
      Decides (do return (← items (onto reader) fuel true []).reverse)
        (sequence true ps ++ (pad ++ [']'])) _ := fun fuel hf =>
    (decides_items hpad hspaced hps honto [] hf).map List.reverse
  exact (decides_opened '[' hitems).certain

section

variable {onArray onObject : Reader Value}

theorem decides_valueWith_number {c : Char} {tail : List Char} {o : Option Number}
    (hc : c = '-' ∨ Decimal.isDigit c = true) (h : Decides number (c :: tail) o) :
    Decides (valueWith onArray onObject) (c :: tail) (o.map Value.number) := by
  have hif : (decide (c = '-') || Decimal.isDigit c) = true := by simpa using hc
  refine decides_peek (isBlank_of_isDigit hc) ?_
  split
  iterate 6 exact absurd rfl (ne_of_isDigit hc (by decide) (by decide))
  rw [if_pos hif]
  exact h.map Value.number

theorem certain_valueWith {v : List Char} (h : WellFormed v)
    (harray : ∀ ps pad, (∀ p ∈ ps, p.Spaced) → (∀ p ∈ ps, WellFormed p.core) → Blank pad →
      Certain onArray (bracketed '[' ps pad ']'))
    (hobject : ∀ (es : List Entry) pad, (∀ e ∈ es, e.Spaced) → (∀ e ∈ es, Body e.body) →
      (∀ e ∈ es, WellFormed e.value) → Blank pad →
      Certain onObject (bracketed '\x7b' (es.map Entry.part) pad '\x7d')) :
    Certain (valueWith onArray onObject) v := by
  cases h with
  | null => exact (decides_peek (by decide) (decides_word _ _ _)).certain
  | yes => exact (decides_peek (by decide) (decides_word _ _ _)).certain
  | no => exact (decides_peek (by decide) (decides_word _ _ _)).certain
  | number h =>
      obtain ⟨c, tail, rfl, hc⟩ := h.head
      exact (decides_valueWith_number hc (certain_number h).decides).certain
  | string h => exact Certain.peek ((certain_string h).decides.map Value.string).certain (by decide)
  | array spaced each hpad => exact Certain.peek (harray _ _ spaced each hpad) (by decide)
  | object spaced named each hpad =>
      exact Certain.peek (hobject _ _ spaced named each hpad) (by decide)

end

theorem certain_inserting {reader : Reader Value} (h : Uniform reader) {e : Entry}
    (hspaced : e.Spaced) (hnamed : Body e.body) (hvalue : WellFormed e.value)
    (found : List (String × Value)) : Certain (inserting reader found) e.part.core := by
  have hinsert := fun name => h.map fun v => Members.insert name v found
  exact certain_entry hspaced (certain_string hnamed) fun name =>
    (hinsert name).certain_colon hspaced.gap hspaced.lead hvalue

theorem uniform_value (depth : Nat) : Uniform (value depth) := by
  induction depth with
  | zero =>
      refine ⟨skips_peek.bind _, fun v h => certain_valueWith h ?_ ?_, sound_value _⟩
      · exact fun _ _ _ _ _ => (decides_throw _).certain
      · exact fun _ _ _ _ _ _ => (decides_throw _).certain
  | succ depth ih =>
      refine ⟨skips_peek.bind _, fun v h => certain_valueWith h ?_ ?_, sound_value _⟩
      · intro ps pad spaced each hpad
        exact ((certain_listOf ih hpad spaced each).decides.map Value.array).certain
      · intro es pad spaced named each hpad
        have hentry : ∀ e ∈ es, ∀ found, Certain (inserting (value depth) found) e.part.core :=
          fun e he => certain_inserting ih (spaced e he) (named e he) (each e he)
        have hmembers : ∀ fuel, es.length < fuel →
            Decides (do return Value.object (← members (inserting (value depth)) fuel true []))
              (sequence true (es.map Entry.part) ++ (pad ++ ['\x7d'])) _ := fun fuel hf =>
          (decides_members hpad spaced hentry [] hf).map Value.object
        rw [← List.length_map Entry.part] at hmembers
        exact (decides_opened '\x7b' hmembers).certain

end EnclosingScope.Json.Reader
