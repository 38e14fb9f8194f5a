import EnclosingScope.Proofs.Json.Whole

namespace EnclosingScope.Json

open Reader

namespace Reader

variable {α : Type}

theorem uniform_count : Uniform count where
  skips := skips_peek.bind _
  sound := sound_count
  certain v hv := by
    obtain ⟨c, tail, rfl, hled⟩ := hv.led
    refine Certain.peek ?_ hled.solid
    split
    · next hc =>
        have hnumeral := hled.number (by simpa using hc)
        refine (certain_number hnumeral).bind_nil fun n => ?_
        split
        · split
          · exact (decides_pure _).certain
          · exact (decides_throw _).certain
        · exact (decides_throw _).certain
    · exact (decides_otherThan _).certain

theorem uniform_text : Uniform text where
  skips := skips_peek.bind _
  sound := sound_text
  certain v hv := by
    obtain ⟨c, tail, rfl, hled⟩ := hv.led
    refine Certain.peek ?_ hled.solid
    split
    · next hc =>
        obtain ⟨body, hbody, hv⟩ := hled.string hc
        rw [hv]
        exact certain_string hbody
    · exact (decides_otherThan _).certain

theorem uniform_values (depth : Nat) : Uniform (values depth) where
  skips := by cases depth <;> exact skips_peek.bind _
  sound := sound_values depth
  certain v hv := by
    obtain ⟨c, tail, rfl, hled⟩ := hv.led
    cases depth with
    | zero =>
        refine Certain.peek ?_ hled.solid
        split
        · exact (decides_throw _).certain
        · exact (decides_otherThan _).certain
    | succ depth =>
        refine Certain.peek ?_ hled.solid
        split
        · next hc =>
            obtain ⟨ps, pad, hspaced, hps, hpad, hv⟩ := hled.array hc
            rw [hv]
            exact certain_listOf (uniform_value depth) hpad hspaced hps
        · exact (decides_otherThan _).certain

variable {reader : Reader α}

theorem decides_optional_null : Decides (optional reader) nothing (some none) :=
  decides_peek (by decide) (decides_word _ _ _)

theorem decides_optional (h : Uniform reader) {v : List Char} (hv : WellFormed v)
    (hne : v ≠ nothing) : Decides (optional reader) v ((outcome reader v).map some) := by
  obtain ⟨c, tail, rfl, hled⟩ := hv.led
  refine decides_peek hled.solid ?_
  rw [if_neg fun hc => hne (hled.null hc)]
  exact (h.certain _ hv).decides.map some

theorem uniform_optional (h : Uniform reader) : Uniform (optional reader) where
  skips := skips_peek.bind _
  sound := sound_optional h.sound
  certain v hv := by
    by_cases hnull : v = nothing
    · rw [hnull]
      exact decides_optional_null.certain
    · exact (decides_optional h hv hnull).certain

end Reader

namespace Shape

variable {α : Type} {shape : Shape α} {depth : Nat} {cs mid : List Char}

def FieldsUniform (shape : Shape α) : Prop :=
  ∀ field ∈ shape.fields, ∀ depth, Uniform (field.read depth)

def fill (depth : Nat) : List (Field α) → List (List Char) → α → Option α
  | [], [], a => some a
  | field :: fields, v :: vs, a =>
      (outcome (field.read depth) v).bind fun put => fill depth fields vs (put a)
  | _, _, _ => none

theorem skips_fromItems (fields : List (Field α)) (count : Nat) (a : α) :
    Skips (shape.fromItems depth fields count a) := by
  cases fields with
  | nil => exact (skips_peek.bind _).bind _
  | cons field fields => exact (skips_peek.bind _).bind _

theorem not_takes_close (first : Bool) {p : Part} (hp : p.Spaced) (hw : WellFormed p.core)
    (rest mid : List Char) : ¬ Takes (close ']')
      ((if first then [] else [',']) ++ (p.before ++ (p.core ++ rest))) () mid := by
  intro h
  obtain ⟨c, tail, hcore, hled⟩ := hw.led
  cases first with
  | true =>
      rw [hcore] at h
      have hclose := (takes_peek hp.before hled.solid _).bind_iff.1 h
      rw [if_neg hled.unclosed] at hclose
      exact not_takes_throw hclose
  | false =>
      have hclose := (takes_peek_here (by decide) _).bind_iff.1 h
      exact not_takes_throw hclose

theorem decides_fromItems {fields : List (Field α)} {ps : List Part} {pad : List Char}
    (hf : ∀ field ∈ fields, Uniform (field.read depth)) (hspaced : ∀ p ∈ ps, p.Spaced)
    (hps : ∀ p ∈ ps, WellFormed p.core) (hpad : Blank pad) (count : Nat) (a : α) :
    Decides (shape.fromItems depth fields count a)
      (sequence (count == 0) ps ++ (pad ++ [']'])) (fill depth fields (ps.map Part.core) a) := by
  induction fields generalizing ps count a with
  | nil =>
      cases ps with
      | nil =>
          refine decides_some fun rest _ => ?_
          rw [sequence, List.nil_append, List.append_assoc]
          exact ((takes_peek hpad (by decide) _).bind (takes_advance _ _)).bind (takes_pure _ _)
      | cons p ps =>
          refine decides_none fun rest a' mid h => ?_
          obtain ⟨_, _, hclose, -⟩ := takes_bind_iff.1 h
          simp only [sequence, Part.text, List.append_assoc] at hclose
          have hp : p ∈ p :: ps := List.mem_cons_self
          exact not_takes_close _ (hspaced p hp) (hps p hp) _ _ hclose
  | cons field fields ih =>
      obtain ⟨hfield, hfields⟩ := List.forall_mem_cons.1 hf
      cases ps with
      | nil =>
          refine decides_none fun rest a' mid h => ?_
          rw [sequence, List.nil_append, List.append_assoc] at h
          have hmore := (takes_moreItems_end (count == 0) hpad rest).bind_iff.1 h
          exact not_takes_throw hmore
      | cons p ps =>
          obtain ⟨hp, hspaced⟩ := List.forall_mem_cons.1 hspaced
          obtain ⟨hcore, hps⟩ := List.forall_mem_cons.1 hps
          have hrest := fun put : α → α => (skips_fromItems fields (count + 1) (put a)).decides
            hp.behind (ih hfields hspaced hps (count + 1) (put a))
          have hitem := (hfield.certain _ hcore).decides.bind
            (fun rest _ => stops_behind (.inl rfl) hp ps hpad rest) fun put _ => hrest put
          intro rest hr a' mid
          refine Iff.trans ?_ (hitem rest hr a' mid)
          have hmore := separates_items.takes_more (count == 0) hp hcore.opens
            (p.behind ++ (sequence false ps ++ (pad ++ [']'])) ++ rest)
          simp only [sequence, Part.text, List.append_assoc] at hmore ⊢
          exact hmore.bind_iff

def named (shape : Shape α) (depth : Nat) (s : List String × α) (name : String) :
    Reader (List String × α) :=
  match shape.fields.find? (·.name = name) with
  | none => do
      colon
      pass ((← get).length + 1)
      pure s
  | some field =>
      if s.1.contains name then unfit (.duplicate name)
      else do
        colon
        let put ← field.read depth
        pure (name :: s.1, put s.2)

def enter (shape : Shape α) (depth : Nat) (s : List String × α) (m : String × List Char) :
    Option (List String × α) :=
  match shape.fields.find? (·.name = m.1) with
  | none => some s
  | some field =>
      if s.1.contains m.1 then none
      else (outcome (field.read depth) m.2).map fun put => (m.1 :: s.1, put s.2)

theorem decides_passed {lead v : List Char} (hl : Blank lead) (hv : WellFormed v)
    (s : List String × α) :
    Decides (do pass ((← get).length + 1); pure s) (lead ++ v) (some s) := by
  refine decides_some fun rest hr => (takes_get _).bind ?_
  have hlength : v.length ≤ (lead ++ v ++ rest).length := by
    simp only [List.length_append]
    omega
  have hpass := (skips_pass _).decides hl (decides_pass hv hlength)
  exact (hpass.takes hr).bind (takes_pure _ _)

theorem decides_named (depth : Nat) (hf : shape.FieldsUniform) {e : Entry} (he : e.Spaced)
    (hv : WellFormed e.value) (s : List String × α) (name : String) :
    Decides (shape.named depth s name) (e.gap ++ ':' :: (e.lead ++ e.value))
      (shape.enter depth s (name, e.value)) := by
  cases hfind : shape.fields.find? (·.name = name) with
  | none =>
      simp only [named, enter, hfind]
      exact decides_colon he.gap (decides_passed he.lead hv s)
  | some field =>
      simp only [named, enter, hfind]
      split
      · exact decides_throw _
      · have hfield := hf field (List.mem_of_find?_eq_some hfind) depth
        have hput := hfield.map fun put => (name :: s.1, put s.2)
        have hmap := (hfield.certain _ hv).decides.map fun put => (name :: s.1, put s.2)
        exact decides_colon he.gap (hput.skips.decides he.lead hmap)

theorem certain_member (hf : shape.FieldsUniform) {e : Entry} (he : e.Spaced) (hb : Body e.body)
    (hv : WellFormed e.value) (s : List String × α) :
    Certain (shape.member depth s) e.part.core :=
  certain_entry he (certain_string hb) fun name => (decides_named depth hf he hv s name).certain

theorem outcome_member (hf : shape.FieldsUniform) (m : Member) (s : List String × α) :
    outcome (shape.member depth s) m.part.core = shape.enter depth s (m.name, m.value) := by
  have hname := decides_string_of_spells m.spells
  rw [String.ofList_toList] at hname
  have hnext := fun name => decides_named depth hf m.spaced m.fine s name
  exact (decides_entry m.spaced hname fun name (_ : name ∈ some m.name) => hnext name).outcome_eq

def finish (shape : Shape α) (s : List String × α) : Option α :=
  if (shape.absent? s.1).isNone then some s.2 else none

def closing (shape : Shape α) (s : List String × α) : Reader α :=
  match shape.absent? s.1 with
  | some field => unfit (.missing field.name)
  | none => pure s.2

def membersWith (shape : Shape α) (depth fuel : Nat) : Reader α :=
  members (shape.member depth) fuel true ([], shape.blank) >>= shape.closing

theorem decides_closing (s : List String × α) : Decides (shape.closing s) [] (shape.finish s) := by
  unfold closing finish
  cases shape.absent? s.1 with
  | none => exact decides_pure s.2
  | some field => exact decides_throw _

theorem decides_fromMembers (depth : Nat) (hf : shape.FieldsUniform) {es : List Entry}
    {pad : List Char} (hspaced : ∀ e ∈ es, e.Spaced) (hnamed : ∀ e ∈ es, Body e.body)
    (hes : ∀ e ∈ es, WellFormed e.value) (hpad : Blank pad) :
    Decides (do advance; shape.fromMembers depth) (bracketed '\x7b' (es.map Entry.part) pad '\x7d')
      ((es.foldlM (fun s e => outcome (shape.member depth s) e.part.core)
        ([], shape.blank)).bind shape.finish) := by
  have hmember : ∀ e ∈ es, ∀ s, Certain (shape.member depth s) e.part.core := fun e he =>
    certain_member hf (hspaced e he) (hnamed e he) (hes e he)
  have hmembers : ∀ fuel, (es.map Entry.part).length < fuel →
      Decides (shape.membersWith depth fuel)
        (sequence true (es.map Entry.part) ++ (pad ++ ['\x7d']))
        ((es.foldlM (fun s e => outcome (shape.member depth s) e.part.core)
          ([], shape.blank)).bind shape.finish) := by
    intro fuel hfuel
    rw [List.length_map] at hfuel
    exact (decides_members hpad hspaced hmember _ hfuel).bind_nil fun s _ => decides_closing s
  exact decides_opened '\x7b' hmembers

theorem decides_row (depth : Nat) (hf : shape.FieldsUniform) {ps : List Part} {pad : List Char}
    (hspaced : ∀ p ∈ ps, p.Spaced) (hps : ∀ p ∈ ps, WellFormed p.core) (hpad : Blank pad) :
    Decides (do advance; shape.fromItems depth shape.fields 0 shape.blank)
      (bracketed '[' ps pad ']') (fill depth shape.fields (ps.map Part.core) shape.blank) := by
  have hfields : ∀ field ∈ shape.fields, Uniform (field.read depth) := fun field hfield =>
    hf field hfield depth
  have hitems : Decides (shape.fromItems depth shape.fields 0 shape.blank) _ _ :=
    decides_fromItems hfields hspaced hps hpad 0 shape.blank
  intro rest hr a mid
  exact (takes_advance _ _).bind_iff.trans (hitems rest hr a mid)

theorem of_takes_fromItems {fields : List (Field α)}
    (hf : ∀ field ∈ fields, Sound (field.read depth)) {count : Nat} {a b : α}
    (h : Takes (shape.fromItems depth fields count a) cs b mid) :
    PartsAhead ']' WellFormed (count == 0) cs mid := by
  induction fields generalizing count a cs with
  | nil =>
      obtain ⟨_, _, hclose, hpure⟩ := takes_bind_iff.1 h
      obtain ⟨-, rfl⟩ := takes_pure_iff.1 hpure
      obtain ⟨c, _, hpeek, hcheck⟩ := takes_bind_iff.1 hclose
      obtain ⟨pad, tail, hpad, -, rfl, rfl⟩ := of_takes_peek hpeek
      split at hcheck
      · next hc =>
          obtain ⟨-, rfl⟩ := (takes_advance c tail).unique hcheck
          rw [hc]
          exact partsAhead_end hpad _
      · exact absurd hcheck not_takes_throw
  | cons field fields ih =>
      obtain ⟨hfield, hfields⟩ := List.forall_mem_cons.1 hf
      obtain ⟨more, _, hmore, hrest⟩ := takes_bind_iff.1 h
      cases more with
      | true =>
          obtain ⟨put, _, hread, hnext⟩ := takes_bind_iff.1 hrest
          obtain ⟨lead, v, hlead, hv, rfl⟩ := hfield _ _ _ hread
          exact .cons hlead hv (ih hfields hnext) (finds_of_takes_moreItems hmore)
      | false => exact absurd hrest not_takes_throw

theorem sound_passed (s : List String × α) :
    Sound (do pass ((← get).length + 1); pure s) := by
  intro cs s' mid h
  have hget := (takes_get cs).bind_iff.1 h
  obtain ⟨_, _, hpass, hpure⟩ := takes_bind_iff.1 hget
  obtain ⟨-, rfl⟩ := takes_pure_iff.1 hpure
  exact sound_pass _ _ _ _ hpass

theorem of_takes_named (hf : shape.FieldsUniform) {s s' : List String × α} {name : String}
    (h : Takes (shape.named depth s name) cs s' mid) : ValueAhead cs mid := by
  unfold named at h
  split at h
  · exact of_takes_colon (sound_passed s) h
  · next field hfind =>
      split at h
      · exact absurd h not_takes_throw
      · have hfield := hf field (List.mem_of_find?_eq_some hfind) depth
        exact of_takes_colon (hfield.sound.map fun put => (name :: s.1, put s.2)) h

theorem sound_read (hf : shape.FieldsUniform) (depth : Nat) : Sound (shape.read depth) := by
  cases depth with
  | zero =>
      refine sound_peek fun c tail a mid hc h => ?_
      split at h
      · exact absurd h not_takes_throw
      · exact absurd h not_takes_otherThan
  | succ depth =>
      refine sound_peek fun c tail a mid hc h => ?_
      split at h
      · have hbehind := (takes_advance _ _).bind_iff.1 h
        have hsound := fun field hfield => (hf field hfield depth).sound
        have hitems := of_takes_fromItems hsound hbehind
        exact hitems.array.wellFormed
      · have hbehind := (takes_advance _ _).bind_iff.1 h
        have hget := (takes_get _).bind_iff.1 hbehind
        obtain ⟨⟨seen, b⟩, _, hmembers, hfinish⟩ := takes_bind_iff.1 hget
        dsimp only at hfinish
        split at hfinish
        · exact absurd hfinish not_takes_throw
        · obtain ⟨-, rfl⟩ := takes_pure_iff.1 hfinish
          refine (of_takes_members (fun s cs s' mid hquotes hmember => ?_) hmembers).wellFormed
          exact of_takes_entry (fun _ _ _ => of_takes_string) (fun _ _ _ _ => of_takes_named hf)
            hquotes hmember
      · exact absurd h not_takes_otherThan

theorem uniform_read (hf : shape.FieldsUniform) (depth : Nat) : Uniform (shape.read depth) where
  skips := by cases depth <;> exact skips_peek.bind _
  sound := sound_read hf depth
  certain v hv := by
    obtain ⟨c, tail, rfl, hled⟩ := hv.led
    cases depth with
    | zero =>
        refine Certain.peek ?_ hled.solid
        split
        · exact (decides_throw _).certain
        · exact (decides_otherThan _).certain
    | succ depth =>
        refine Certain.peek ?_ hled.solid
        split
        · obtain ⟨ps, pad, hspaced, hps, hpad, hv⟩ := hled.array rfl
          rw [hv]
          exact (decides_row depth hf hspaced hps hpad).certain
        · obtain ⟨es, pad, hspaced, hnamed, hes, hpad, hv⟩ := hled.object rfl
          rw [hv]
          exact (decides_fromMembers depth hf hspaced hnamed hes hpad).certain
        · exact (decides_otherThan _).certain

end Shape

-- All that an object tells a reader of records.
def Member.pair (m : Member) : String × List Char :=
  (m.name, m.value)

def ObjectText.given (o : ObjectText) : List (String × List Char) :=
  o.members.map Member.pair

def ArrayText.given (a : ArrayText) : List (List Char) :=
  a.items.map (·.core)

def RecordText (v : List Char) : Prop :=
  (∃ o : ObjectText, v = o.text) ∨ ∃ a : ArrayText, v = a.text

theorem RecordText.wellFormed {v : List Char} (h : RecordText v) : WellFormed v := by
  rcases h with ⟨o, rfl⟩ | ⟨a, rfl⟩
  · exact o.wellFormed
  · exact a.wellFormed

theorem RecordText.ne_nothing {v : List Char} (h : RecordText v) : v ≠ nothing := by
  rintro rfl
  rcases h with ⟨o, ho⟩ | ⟨a, ha⟩
  · cases ho
  · cases ha

namespace Shape

variable {α : Type} {shape : Shape α} {depth : Nat}

theorem decides_object (hf : shape.FieldsUniform) (o : ObjectText) :
    Decides (shape.read (depth + 1)) o.text
      ((o.given.foldlM (shape.enter depth) ([], shape.blank)).bind shape.finish) := by
  have hmembers := decides_fromMembers depth hf
    (List.forall_mem_map.2 fun m (_ : m ∈ o.members) => m.spaced)
    (List.forall_mem_map.2 fun m _ => m.spells.body) (List.forall_mem_map.2 fun m _ => m.fine)
    o.blank
  rw [List.foldlM_map] at hmembers
  simp only [outcome_member hf] at hmembers
  rw [ObjectText.given, List.foldlM_map]
  exact decides_peek (by decide) hmembers

theorem decides_array (hf : shape.FieldsUniform) (a : ArrayText) :
    Decides (shape.read (depth + 1)) a.text (fill depth shape.fields a.given shape.blank) := by
  have hrow := decides_row depth hf (List.forall_mem_map.2 fun i (_ : i ∈ a.items) => i.spaced)
    (List.forall_mem_map.2 fun i _ => i.fine) a.blank
  rw [List.map_map] at hrow
  exact decides_peek (by decide) hrow

theorem deep_of_outcome {v : List Char} (h : RecordText v) {a : α}
    (houtcome : outcome (shape.read depth) v = some a) : ∃ d, depth = d + 1 := by
  cases depth with
  | succ d => exact ⟨d, rfl⟩
  | zero =>
      have hnone : Decides (shape.read 0) v none := by
        rcases h with ⟨o, rfl⟩ | ⟨a, rfl⟩ <;> exact decides_peek (by decide) (decides_throw _)
      rw [hnone.outcome_eq] at houtcome
      cases houtcome

theorem fill_append_cons {fields : List (Field α)} {field : Field α} {front back : List (List Char)}
    {v : List Char} {a b : α} (hfield : fields[front.length]? = some field)
    (h : fill depth fields (front ++ v :: back) a = some b) :
    ∃ p, outcome (field.read depth) v = some p ∧ ∀ w, outcome (field.read depth) w = some p →
      fill depth fields (front ++ w :: back) a = some b := by
  induction front generalizing fields a with
  | nil =>
      cases fields with
      | nil => cases hfield
      | cons first fields =>
          cases hfield
          obtain ⟨p, hp, hrest⟩ := Option.bind_eq_some_iff.1 h
          exact ⟨p, hp, fun w hw => Option.bind_eq_some_iff.2 ⟨p, hw, hrest⟩⟩
  | cons u front ih =>
      cases fields with
      | nil => cases hfield
      | cons first fields =>
          obtain ⟨q, hq, hrest⟩ := Option.bind_eq_some_iff.1 h
          obtain ⟨p, hp, hreplace⟩ := ih hfield hrest
          exact ⟨p, hp, fun w hw => Option.bind_eq_some_iff.2 ⟨q, hq, hreplace w hw⟩⟩

end Shape

end EnclosingScope.Json
