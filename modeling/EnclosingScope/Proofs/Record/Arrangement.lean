import EnclosingScope.Proofs.Record
import EnclosingScope.Proofs.Record.Slots
import Mathlib.Logic.Relation

namespace EnclosingScope

open Json Json.Reader

-- What stands in an array for a member of the object, or for one that the object does without.
def Stands (o : ObjectText) (slot : Slot) (item : Item) : Prop :=
  (∃ m ∈ o.members, m.name = slot.name ∧ item.core = m.value) ∨
    (∀ m ∈ o.members, m.name ≠ slot.name) ∧ item.core = nothing

inductive Rearranged : RecordKind → List Char → List Char → Prop
  | reorder {k : RecordKind} {o o' : ObjectText} (h : o.members.Perm o'.members) :
      Rearranged k o.text o'.text
  | add {k : RecordKind} {o o' : ObjectText} {front back : List Member} {m : Member}
      (ho : o.members = front ++ back) (ho' : o'.members = front ++ m :: back)
      (hm : ∀ slot ∈ k.slots, m.name ≠ slot.name) : Rearranged k o.text o'.text
  | drop {k : RecordKind} {o o' : ObjectText} {front back : List Member} {m : Member} {slot : Slot}
      (ho : o.members = front ++ m :: back) (ho' : o'.members = front ++ back)
      (hslot : slot ∈ k.slots) (hoptional : slot.optional = true) (hname : m.name = slot.name)
      (hnull : m.value = nothing) : Rearranged k o.text o'.text
  | array {k : RecordKind} {o : ObjectText} {a : ArrayText}
      (h : List.Forall₂ (Stands o) k.slots a.items) : Rearranged k o.text a.text
  | member {k k' : RecordKind} {o o' : ObjectText} {front back : List Member} {m m' : Member}
      {slot : Slot} (ho : o.members = front ++ m :: back) (ho' : o'.members = front ++ m' :: back)
      (hslot : slot ∈ k.slots) (hname : m.name = slot.name) (hname' : m'.name = slot.name)
      (hholds : slot.holds = some k') (h : Rearranged k' m.value m'.value) :
      Rearranged k o.text o'.text
  | item {k k' : RecordKind} {a a' : ArrayText} {front back : List Item} {i i' : Item} {slot : Slot}
      (ha : a.items = front ++ i :: back) (ha' : a'.items = front ++ i' :: back)
      (hslot : k.slots[front.length]? = some slot) (hholds : slot.holds = some k')
      (h : Rearranged k' i.core i'.core) : Rearranged k a.text a'.text

inductive Spoilt : RecordKind → List Char → Prop
  | twice {k : RecordKind} {o : ObjectText} {slot : Slot} (hslot : slot ∈ k.slots)
      (h : 1 < o.members.countP (·.name = slot.name)) : Spoilt k o.text
  | missing {k : RecordKind} {o : ObjectText} {slot : Slot} (hslot : slot ∈ k.slots)
      (hoptional : slot.optional = false) (h : ∀ m ∈ o.members, m.name ≠ slot.name) :
      Spoilt k o.text
  | member {k k' : RecordKind} {o : ObjectText} {m : Member} {slot : Slot} (hm : m ∈ o.members)
      (hslot : slot ∈ k.slots) (hname : m.name = slot.name) (hholds : slot.holds = some k')
      (h : Spoilt k' m.value) : Spoilt k o.text
  | item {k k' : RecordKind} {a : ArrayText} {front back : List Item} {i : Item} {slot : Slot}
      (ha : a.items = front ++ i :: back) (hslot : k.slots[front.length]? = some slot)
      (hholds : slot.holds = some k') (h : Spoilt k' i.core) : Spoilt k a.text

-- A record in the text of another is looked for where the other has one, unless there is a null.
inductive Written : RecordKind → List Char → Prop
  | object {k : RecordKind} {o : ObjectText}
      (h : ∀ m ∈ o.members, ∀ slot ∈ k.slots, m.name = slot.name → ∀ k' ∈ slot.holds,
        m.value ≠ nothing → Written k' m.value) : Written k o.text
  | array {k : RecordKind} {a : ArrayText}
      (h : ∀ front item back slot, a.items = front ++ item :: back →
        k.slots[front.length]? = some slot → ∀ k' ∈ slot.holds,
        item.core ≠ nothing → Written k' item.core) : Written k a.text

structure Wraps (text : String) (v : List Char) : Prop where
  wellFormed : WellFormed v
  between : ∃ lead trail, Blank lead ∧ Blank trail ∧ text.toList = lead ++ (v ++ trail)

namespace Rearranged

variable {k : RecordKind} {v v' : List Char}

theorem recordText (h : Rearranged k v v') : RecordText v ∧ RecordText v' := by
  cases h with
  | array => exact ⟨.inl ⟨_, rfl⟩, .inr ⟨_, rfl⟩⟩
  | item => exact ⟨.inr ⟨_, rfl⟩, .inr ⟨_, rfl⟩⟩
  | _ => exact ⟨.inl ⟨_, rfl⟩, .inl ⟨_, rfl⟩⟩

end Rearranged

section

variable {k k' : RecordKind} {o o' : ObjectText} {front back : List Member} {m m' : Member}
  {slot : Slot}
  {depth : Nat} {r : k.Record}

theorem given_perm (ho : o.members = front ++ m :: back) :
    o.given.Perm (m.pair :: (front ++ back).map Member.pair) := by
  rw [ObjectText.given, ho]
  exact List.perm_middle.map Member.pair

theorem gives_of_outcome (h : outcome (k.shape.read depth) o.text = some r) :
    ∃ d, depth = d + 1 ∧ k.shape.Gives d o.given r := by
  obtain ⟨d, rfl⟩ := Shape.deep_of_outcome (.inl ⟨o, rfl⟩) h
  exact ⟨d, rfl, (Shape.outcome_object k.independent.uniform o).1 h⟩

theorem outcome_of_gives (h : k.shape.Gives depth o.given r) :
    outcome (k.shape.read (depth + 1)) o.text = some r :=
  (Shape.outcome_object k.independent.uniform o).2 h

theorem outcome_reorder (h : o.members.Perm o'.members)
    (hr : outcome (k.shape.read depth) o.text = some r) :
    outcome (k.shape.read depth) o'.text = some r := by
  obtain ⟨d, rfl, hgives⟩ := gives_of_outcome hr
  exact outcome_of_gives (hgives.perm k.independent (h.map _))

theorem outcome_add (ho : o.members = front ++ back) (ho' : o'.members = front ++ m :: back)
    (hm : ∀ slot ∈ k.slots, m.name ≠ slot.name)
    (hr : outcome (k.shape.read depth) o.text = some r) :
    outcome (k.shape.read depth) o'.text = some r := by
  obtain ⟨d, rfl, hgives⟩ := gives_of_outcome hr
  have hunknown : m.pair.1 ∉ k.shape.names := by
    rw [k.names_shape]
    intro hmem
    obtain ⟨slot, hslot, hname⟩ := List.mem_map.1 hmem
    exact hm slot hslot hname.symm
  rw [ObjectText.given, ho] at hgives
  have hadded := (Shape.gives_cons_of_unknown hunknown).2 hgives
  exact outcome_of_gives (hadded.perm k.independent (given_perm ho').symm)

theorem outcome_drop (ho : o.members = front ++ m :: back) (ho' : o'.members = front ++ back)
    (hslot : slot ∈ k.slots) (hoptional : slot.optional = true) (hname : m.name = slot.name)
    (hnull : m.value = nothing) (hr : outcome (k.shape.read depth) o.text = some r) :
    outcome (k.shape.read depth) o'.text = some r := by
  obtain ⟨d, rfl, hgives⟩ := gives_of_outcome hr
  obtain ⟨field, hfield, hfits⟩ := RecordKind.field_of_slot hslot
  have hrequired : field.required = false := by
    rw [hfits.required, hoptional]
    rfl
  have hpair : m.pair = (field.name, nothing) := by rw [Member.pair, hname, hnull, hfits.name]
  have hfront := hgives.perm k.independent (given_perm ho)
  rw [hpair] at hfront
  have hdropped := hfront.of_cons_nothing k.independent hfield hrequired
  rw [← ho'] at hdropped
  exact outcome_of_gives hdropped

theorem outcome_row {a : ArrayText} (h : List.Forall₂ (Stands o) k.slots a.items)
    (hr : outcome (k.shape.read depth) o.text = some r) :
    outcome (k.shape.read depth) a.text = some r := by
  obtain ⟨d, rfl, hgives⟩ := gives_of_outcome hr
  obtain ⟨hlength, hstands⟩ := List.forall₂_iff_zip.1 h
  have hfields : a.given.length = k.shape.fields.length := by
    rw [ArrayText.given, List.length_map, k.length_fields, hlength]
  have hnames : (k.shape.names.zip a.given).map Prod.fst = k.shape.names := by
    refine List.map_fst_zip (Nat.le_of_eq ?_)
    rw [hfields, Shape.names, List.length_map]
  have hpairs : ∀ p ∈ k.shape.names.zip a.given,
      p ∈ o.given ∨ p.1 ∉ o.given.map Prod.fst ∧ p.2 = nothing := by
    intro p hp
    rw [k.names_shape, ArrayText.given, List.zip_map] at hp
    obtain ⟨⟨slot, item⟩, hzip, rfl⟩ := List.mem_map.1 hp
    rcases hstands hzip with ⟨m, hm, hname, hcore⟩ | ⟨habsent, hcore⟩
    · refine .inl (List.mem_map.2 ⟨m, hm, ?_⟩)
      rw [Member.pair, hname, ← hcore]
      rfl
    · refine .inr ⟨fun hmem => ?_, hcore⟩
      obtain ⟨pair, hpair, hname⟩ := List.mem_map.1 hmem
      obtain ⟨m, hm, rfl⟩ := List.mem_map.1 hpair
      exact habsent m hm hname
  have hcompleted := hgives.completed k.independent hnames hpairs
  rw [(Shape.decides_array k.independent.uniform a).outcome_eq]
  exact Shape.fill_of_gives k.independent hfields hcompleted

theorem outcome_member (ho : o.members = front ++ m :: back)
    (ho' : o'.members = front ++ m' :: back) (hslot : slot ∈ k.slots) (hname : m.name = slot.name)
    (hname' : m'.name = slot.name) (hholds : slot.holds = some k') (hm : RecordText m.value)
    (hm' : RecordText m'.value)
    (h : ∀ {depth r}, outcome (k'.shape.read depth) m.value = some r →
      outcome (k'.shape.read depth) m'.value = some r)
    (hr : outcome (k.shape.read depth) o.text = some r) :
    outcome (k.shape.read depth) o'.text = some r := by
  obtain ⟨d, rfl, hgives⟩ := gives_of_outcome hr
  obtain ⟨field, hfield, hfits⟩ := RecordKind.field_of_slot hslot
  have hpair : m.pair = (field.name, m.value) := by rw [Member.pair, hname, hfits.name]
  have hpair' : m'.pair = (field.name, m'.value) := by rw [Member.pair, hname', hfits.name]
  have hfront := hgives.perm k.independent (given_perm ho)
  rw [hpair] at hfront
  obtain ⟨p, hp⟩ := Option.isSome_iff_exists.1 (hfront.each _ List.mem_cons_self)
  have hsame : k.shape.put? d (field.name, m.value) = k.shape.put? d (field.name, m'.value) := by
    rw [hp, Shape.put?_name k.independent hfield]
    rw [Shape.put?_name k.independent hfield] at hp
    exact (hfits.carry hholds hm hm' h hp).symm
  have hreplaced := hfront.replace hsame
  rw [← hpair'] at hreplaced
  exact outcome_of_gives (hreplaced.perm k.independent (given_perm ho').symm)

theorem fill_of_outcome {a : ArrayText} (h : outcome (k.shape.read depth) a.text = some r) :
    ∃ d, depth = d + 1 ∧ Shape.fill d k.shape.fields a.given k.shape.blank = some r := by
  obtain ⟨d, rfl⟩ := Shape.deep_of_outcome (.inr ⟨a, rfl⟩) h
  rw [(Shape.decides_array k.independent.uniform a).outcome_eq] at h
  exact ⟨d, rfl, h⟩

theorem given_items {a : ArrayText} {front back : List Item} {i : Item}
    (ha : a.items = front ++ i :: back) :
    a.given = front.map (·.core) ++ i.core :: back.map (·.core) := by
  rw [ArrayText.given, ha, List.map_append, List.map_cons]

theorem outcome_item {a a' : ArrayText} {front back : List Item} {i i' : Item}
    (ha : a.items = front ++ i :: back) (ha' : a'.items = front ++ i' :: back)
    (hslot : k.slots[front.length]? = some slot) (hholds : slot.holds = some k')
    (hi : RecordText i.core) (hi' : RecordText i'.core)
    (h : ∀ {depth r}, outcome (k'.shape.read depth) i.core = some r →
      outcome (k'.shape.read depth) i'.core = some r)
    (hr : outcome (k.shape.read depth) a.text = some r) :
    outcome (k.shape.read depth) a'.text = some r := by
  obtain ⟨d, rfl, hfill⟩ := fill_of_outcome hr
  obtain ⟨field, hfield, hfits⟩ := RecordKind.field_at hslot
  rw [← List.length_map (·.core)] at hfield
  rw [given_items ha] at hfill
  obtain ⟨p, hp, hreplace⟩ := Shape.fill_append_cons hfield hfill
  have hfilled := hreplace _ (hfits.carry hholds hi hi' h hp)
  rw [← given_items ha'] at hfilled
  rwa [(Shape.decides_array k.independent.uniform a').outcome_eq]

end

theorem Rearranged.outcome_eq {k : RecordKind} {v v' : List Char} (h : Rearranged k v v')
    {depth : Nat} {r : k.Record} (hr : outcome (k.shape.read depth) v = some r) :
    outcome (k.shape.read depth) v' = some r := by
  induction h generalizing depth with
  | reorder h => exact outcome_reorder h hr
  | add ho ho' hm => exact outcome_add ho ho' hm hr
  | drop ho ho' hslot hoptional hname hnull =>
      exact outcome_drop ho ho' hslot hoptional hname hnull hr
  | array h => exact outcome_row h hr
  | member ho ho' hslot hname hname' hholds h ih =>
      exact outcome_member ho ho' hslot hname hname' hholds h.recordText.1 h.recordText.2 ih hr
  | item ha ha' hslot hholds h ih =>
      exact outcome_item ha ha' hslot hholds h.recordText.1 h.recordText.2 ih hr

namespace Spoilt

variable {k k' : RecordKind} {o : ObjectText} {slot : Slot} {depth : Nat} {r : k.Record}

theorem recordText {v : List Char} (h : Spoilt k v) : RecordText v := by
  cases h with
  | item => exact .inr ⟨_, rfl⟩
  | _ => exact .inl ⟨_, rfl⟩

theorem count_le_one (h : k.shape.Gives depth o.given r) (hslot : slot ∈ k.slots) :
    o.members.countP (·.name = slot.name) ≤ 1 := by
  have hname : slot.name ∈ k.shape.names := by
    rw [k.names_shape]
    exact List.mem_map_of_mem hslot
  have hcount := List.nodup_iff_count_le_one.1 h.once slot.name
  rw [List.count, List.countP_map, Shape.known, List.countP_filter, ObjectText.given,
    List.countP_map] at hcount
  refine Nat.le_trans (List.countP_mono_left fun m _ hm => ?_) hcount
  have hm : m.name = slot.name := by simpa using hm
  simp [Member.pair, hm, hname]

theorem outcome_eq {v : List Char} (h : Spoilt k v) (depth : Nat) :
    outcome (k.shape.read depth) v = none := by
  refine Option.eq_none_iff_forall_ne_some.2 ?_
  induction h generalizing depth with
  | twice hslot h =>
      intro r hr
      obtain ⟨d, rfl, hgives⟩ := gives_of_outcome hr
      have hcount := count_le_one hgives hslot
      omega
  | @missing k o slot hslot hoptional h =>
      intro r hr
      obtain ⟨d, rfl, hgives⟩ := gives_of_outcome hr
      obtain ⟨field, hfield, hfits⟩ := RecordKind.field_of_slot hslot
      have hrequired : field.required = true := by
        rw [hfits.required, hoptional]
        rfl
      obtain ⟨pair, hpair, hname⟩ := List.mem_map.1 (hgives.whole field hfield hrequired)
      obtain ⟨m, hm, rfl⟩ := List.mem_map.1 hpair
      exact h m hm (hname.trans hfits.name)
  | @member k k' o m slot hm hslot hname hholds h ih =>
      intro r hr
      obtain ⟨d, rfl, hgives⟩ := gives_of_outcome hr
      obtain ⟨field, hfield, hfits⟩ := RecordKind.field_of_slot hslot
      have hnone := hfits.refuse hholds h.recordText (Option.eq_none_iff_forall_ne_some.2 (ih d))
      have heach := hgives.each _ (List.mem_map_of_mem hm)
      rw [Member.pair, hname, ← hfits.name, Shape.put?_name k.independent hfield, hnone] at heach
      cases heach
  | @item k k' a front back i slot ha hslot hholds h ih =>
      intro r hr
      obtain ⟨d, rfl, hfill⟩ := fill_of_outcome hr
      obtain ⟨field, hfield, hfits⟩ := RecordKind.field_at hslot
      have hnone := hfits.refuse hholds h.recordText (Option.eq_none_iff_forall_ne_some.2 (ih d))
      rw [← List.length_map (·.core)] at hfield
      rw [given_items ha] at hfill
      obtain ⟨p, hp, -⟩ := Shape.fill_append_cons hfield hfill
      rw [hnone] at hp
      cases hp

end Spoilt

theorem written_of_outcome {k : RecordKind} {v : List Char} (hv : WellFormed v) {depth : Nat}
    {r : k.Record} (h : outcome (k.shape.read depth) v = some r) : Written k v := by
  induction depth generalizing k v with
  | zero =>
      obtain ⟨d, hd⟩ := Shape.deep_of_outcome
        (Shape.recordText_of_outcome k.independent.uniform hv h) h
      cases hd
  | succ depth ih =>
      have hcarried : ∀ {slot : Slot} {field : Json.Field k.Record} {k' : RecordKind}
          {w : List Char},
          slot.Fits field → slot.holds = some k' → WellFormed w → w ≠ nothing →
          (outcome (field.read depth) w).isSome = true → Written k' w := by
        intro slot field k' w hfits hholds hw hne hsome
        obtain ⟨f, hcarries⟩ := hfits.carries k' hholds depth
        rw [hcarries w hw hne, Option.isSome_map] at hsome
        obtain ⟨r', hr'⟩ := Option.isSome_iff_exists.1 hsome
        exact ih hw hr'
      rcases Shape.recordText_of_outcome k.independent.uniform hv h with ⟨o, rfl⟩ | ⟨a, rfl⟩
      · obtain ⟨d, hd, hgives⟩ := gives_of_outcome h
        obtain rfl := Nat.succ.inj hd
        refine .object fun m hm slot hslot hname k' hholds hne => ?_
        obtain ⟨field, hfield, hfits⟩ := RecordKind.field_of_slot hslot
        have heach := hgives.each _ (List.mem_map_of_mem hm)
        rw [Member.pair, hname, ← hfits.name, Shape.put?_name k.independent hfield] at heach
        exact hcarried hfits hholds m.fine hne heach
      · obtain ⟨d, hd, hfill⟩ := fill_of_outcome h
        obtain rfl := Nat.succ.inj hd
        refine .array fun front item back slot ha hslot k' hholds hne => ?_
        obtain ⟨field, hfield, hfits⟩ := RecordKind.field_at hslot
        rw [← List.length_map (·.core)] at hfield
        rw [given_items ha] at hfill
        obtain ⟨p, hp, -⟩ := Shape.fill_append_cons hfield hfill
        exact hcarried hfits hholds item.fine hne (Option.isSome_iff_exists.2 ⟨p, hp⟩)

theorem wraps_of_parse {text : String} {e : Enclosure} (h : Enclosure.parse text = .ok e) :
    ∃ v, Wraps text v := by
  obtain ⟨trail, htakes, htrail⟩ := run_eq_ok_iff.1 h
  have hsound := (RecordKind.enclosure.uniform_read Shape.nesting).sound
  obtain ⟨lead, v, hlead, hv, htext⟩ := hsound _ _ _ htakes
  exact ⟨v, hv, lead, trail, hlead, htrail, htext⟩

theorem Wraps.parse_eq_ok_iff {text : String} {v : List Char} (h : Wraps text v) {e : Enclosure} :
    Enclosure.parse text = .ok e ↔
      outcome (RecordKind.enclosure.shape.read Shape.nesting) v = some e := by
  obtain ⟨hv, lead, trail, hlead, htrail, htext⟩ := h
  have hread := RecordKind.enclosure.uniform_read Shape.nesting
  have hdecides := hread.skips.decides hlead (hread.certain v hv).decides
  have hstops : Stops trail := List.append_nil trail ▸ stops_blank htrail stops_nil
  refine run_eq_ok_iff.trans ?_
  rw [htext, ← List.append_assoc]
  constructor
  · rintro ⟨rest, htakes, -⟩
    exact ((hdecides trail hstops e rest).1 htakes).1
  · intro houtcome
    exact ⟨trail, (hdecides trail hstops e trail).2 ⟨houtcome, rfl⟩, htrail⟩

theorem enclosure_read_however_arranged :
    (∀ text e, Enclosure.parse text = .ok e → ∃ v, Wraps text v ∧ Written .enclosure v) ∧
    (∀ text text' v v' e, Wraps text v → Wraps text' v' →
      Relation.ReflTransGen (Rearranged .enclosure) v v' → Enclosure.parse text = .ok e →
        Enclosure.parse text' = .ok e) ∧
    ∀ text v, Wraps text v → Spoilt .enclosure v →
      ∃ failure, Enclosure.parse text = .error failure := by
  refine ⟨fun text e hparse => ?_, fun text text' v v' e hv hv' hchanges hparse => ?_,
    fun text v hv hspoilt => ?_⟩
  · obtain ⟨v, hv⟩ := wraps_of_parse hparse
    exact ⟨v, hv, written_of_outcome hv.wellFormed (hv.parse_eq_ok_iff.1 hparse)⟩
  · rw [hv.parse_eq_ok_iff] at hparse
    rw [hv'.parse_eq_ok_iff]
    clear hv'
    induction hchanges with
    | refl => exact hparse
    | tail _ hchange ih => exact hchange.outcome_eq ih
  · cases hparse : Enclosure.parse text with
    | error failure => exact ⟨failure, rfl⟩
    | ok e =>
        have hnone := hspoilt.outcome_eq Shape.nesting
        rw [hv.parse_eq_ok_iff.1 hparse] at hnone
        cases hnone

instance : DecidablePred Unescaped :=
  fun _ => inferInstanceAs (Decidable (_ ∧ _ ∧ _))

def Bare (cs : List Char) : Prop :=
  ∀ c ∈ cs, Unescaped c

instance : DecidablePred Bare :=
  List.decidableBAll Unescaped

def bareMember (name : String) (value : List Char) (hn : Bare name.toList) (hv : WellFormed value) :
    Member where
  before := []
  body := name.toList
  gap := []
  lead := []
  value := value
  behind := []
  name := name
  spaced := ⟨blank_nil, blank_nil, blank_nil, blank_nil⟩
  spells := spells_self hn
  fine := hv

def bareItem (value : List Char) (hv : WellFormed value) : Item where
  before := []
  core := value
  behind := []
  spaced := ⟨blank_nil, blank_nil⟩
  fine := hv

theorem wellFormed_bare {cs : List Char} (h : Bare cs) : WellFormed (quoted cs) :=
  .string (spells_self h).body

theorem wellFormed_digit {c : Char} (h : Decimal.isDigit c = true) : WellFormed [c] := by
  have hd : Digits [c] := ⟨List.cons_ne_nil _ _, List.forall_mem_singleton.2 h⟩
  have hzero : [c].head? = some '0' → [c] = ['0'] := by
    intro hc
    cases hc
    rfl
  have hnumeral : Numeral (signed false ([c] ++ ([] ++ []))) := .mk hd hzero .none .none
  exact .number hnumeral

namespace Sample

def line (c : Char) (h : Decimal.isDigit c = true) : Member :=
  bareMember "line" [c] (by decide) (wellFormed_digit h)

def column (c : Char) (h : Decimal.isDigit c = true) : Member :=
  bareMember "column" [c] (by decide) (wellFormed_digit h)

def start : ObjectText :=
  ⟨[line '1' rfl, column '0' rfl], [], blank_nil⟩

def stop : ObjectText :=
  ⟨[line '2' rfl, column '4' rfl], [], blank_nil⟩

def location : ObjectText :=
  ⟨[bareMember "start" start.text (by decide) start.wellFormed,
    bareMember "end" stop.text (by decide) stop.wellFormed], [], blank_nil⟩

def row : ArrayText :=
  ⟨[bareItem start.text start.wellFormed, bareItem stop.text stop.wellFormed], [], blank_nil⟩

def kind : Member :=
  bareMember "type" (quoted ['i', 'f']) (by decide) (wellFormed_bare (by decide))

def loc : Member :=
  bareMember "loc" location.text (by decide) location.wellFormed

def offset : Member :=
  bareMember "end" nothing (by decide) .null

def node : ObjectText :=
  ⟨[kind, loc, offset], [], blank_nil⟩

def shortNode : ObjectText :=
  ⟨[kind, loc], [], blank_nil⟩

def rowNode : ObjectText :=
  ⟨[kind, bareMember "loc" row.text (by decide) row.wellFormed], [], blank_nil⟩

def context (o : ObjectText) : Member :=
  bareMember "enclosingContext" o.text (by decide) o.wellFormed

-- Half of a pair, where nobody wants the characters.
def note : Member :=
  bareMember "note" (quoted ['\\', 'u', 'd', '8', '0', '0']) (by decide)
    (.string (.unit (.mk rfl rfl rfl rfl) .nil))

def top (members : List Member) : ObjectText :=
  ⟨members, [], blank_nil⟩

def plain : ObjectText := top [context node]

def noted : ObjectText := top [context node, note]

def turned : ObjectText := top [note, context node]

def shortened : ObjectText := top [note, context shortNode]

def rowed : ObjectText := top [note, context rowNode]

theorem plain_noted : Rearranged .enclosure plain.text noted.text := by
  have hplain : plain.members = [context node] ++ [] := rfl
  have hnoted : noted.members = [context node] ++ note :: [] := rfl
  exact .add hplain hnoted (List.forall_mem_singleton.2 (by decide))

theorem noted_turned : Rearranged .enclosure noted.text turned.text :=
  .reorder (.swap _ _ _)

theorem turned_shortened : Rearranged .enclosure turned.text shortened.text := by
  have hnode : node.members = [kind, loc] ++ offset :: [] := rfl
  have hshort : shortNode.members = [kind, loc] ++ [] := rfl
  have hslot : ⟨"end", true, none⟩ ∈ RecordKind.node.slots := by simp [RecordKind.slots]
  have hdrop : Rearranged .node node.text shortNode.text := .drop hnode hshort hslot rfl rfl rfl
  have hturned : turned.members = [note] ++ context node :: [] := rfl
  have hshortened : shortened.members = [note] ++ context shortNode :: [] := rfl
  exact .member hturned hshortened List.mem_cons_self rfl rfl rfl hdrop

theorem shortened_rowed : Rearranged .enclosure shortened.text rowed.text := by
  have harray : Rearranged .location location.text row.text := by
    refine .array (.cons (.inl ⟨_, List.mem_cons_self, rfl, rfl⟩) (.cons (.inl ?_) .nil))
    exact ⟨_, List.mem_cons_of_mem _ List.mem_cons_self, rfl, rfl⟩
  have hshort : shortNode.members = [kind] ++ loc :: [] := rfl
  have hrow : rowNode.members =
      [kind] ++ bareMember "loc" row.text (by decide) row.wellFormed :: [] := rfl
  have hslot : ⟨"loc", false, some .location⟩ ∈ RecordKind.node.slots := by
    simp [RecordKind.slots]
  have hnode : Rearranged .node shortNode.text rowNode.text :=
    .member hshort hrow hslot rfl rfl rfl harray
  have hshortened : shortened.members = [note] ++ context shortNode :: [] := rfl
  have hrowed : rowed.members = [note] ++ context rowNode :: [] := rfl
  exact .member hshortened hrowed List.mem_cons_self rfl rfl rfl hnode

def twice : ObjectText :=
  ⟨[line '1' rfl, column '0' rfl, line '1' rfl], [], blank_nil⟩

def badLocation : ObjectText :=
  ⟨[bareMember "start" twice.text (by decide) twice.wellFormed,
    bareMember "end" stop.text (by decide) stop.wellFormed], [], blank_nil⟩

def badNode : ObjectText :=
  ⟨[kind, bareMember "loc" badLocation.text (by decide) badLocation.wellFormed], [], blank_nil⟩

def bad : ObjectText := top [context badNode]

theorem spoilt_bad : Spoilt .enclosure bad.text := by
  have htwice : Spoilt .position twice.text := .twice List.mem_cons_self (by decide)
  have hlocation : Spoilt .location badLocation.text :=
    .member List.mem_cons_self List.mem_cons_self rfl rfl htwice
  have hslot : ⟨"loc", false, some .location⟩ ∈ RecordKind.node.slots := by
    simp [RecordKind.slots]
  have hnode : Spoilt .node badNode.text :=
    .member (List.mem_cons_of_mem _ List.mem_cons_self) hslot rfl rfl hlocation
  exact .member List.mem_cons_self List.mem_cons_self rfl rfl hnode

def plainText : String :=
  "\x7b\"enclosingContext\":\x7b\"type\":\"if\"," ++
  "\"loc\":\x7b\"start\":\x7b\"line\":1,\"column\":0\x7d," ++
  "\"end\":\x7b\"line\":2,\"column\":4\x7d\x7d,\"end\":null\x7d\x7d\n"

def rowedText : String :=
  " \x7b\"note\":\"\\ud800\",\"enclosingContext\":\x7b\"type\":\"if\"," ++
  "\"loc\":[\x7b\"line\":1,\"column\":0\x7d,\x7b\"line\":2,\"column\":4\x7d]\x7d\x7d"

def badText : String :=
  "\x7b\"enclosingContext\":\x7b\"type\":\"if\"," ++
  "\"loc\":\x7b\"start\":\x7b\"line\":1,\"column\":0,\"line\":1\x7d," ++
  "\"end\":\x7b\"line\":2,\"column\":4\x7d\x7d\x7d\x7d"

theorem wraps_plain : Wraps plainText plain.text where
  wellFormed := plain.wellFormed
  between := ⟨[], ['\n'], blank_nil, List.forall_mem_singleton.2 rfl, by decide +kernel⟩

theorem wraps_rowed : Wraps rowedText rowed.text where
  wellFormed := rowed.wellFormed
  between := ⟨[' '], [], List.forall_mem_singleton.2 rfl, blank_nil, by decide +kernel⟩

theorem wraps_bad : Wraps badText bad.text where
  wellFormed := bad.wellFormed
  between := ⟨[], [], blank_nil, blank_nil, by decide +kernel⟩

def enclosure : Enclosure where
  node := some { kind := "if", location := ⟨⟨1, 0⟩, ⟨2, 4⟩⟩ }

theorem parse_plainText : Enclosure.parse plainText = .ok enclosure :=
  eq_ok_of_toOption (by decide +kernel)

end Sample

theorem sample_read_however_arranged :
    (∃ v, Wraps Sample.plainText v ∧ Written .enclosure v) ∧
      Enclosure.parse Sample.rowedText = .ok Sample.enclosure ∧
      ∃ failure, Enclosure.parse Sample.badText = .error failure := by
  obtain ⟨hwritten, harranged, hspoilt⟩ := enclosure_read_however_arranged
  have hchanges : Relation.ReflTransGen (Rearranged .enclosure) Sample.plain.text
      Sample.rowed.text :=
    (((Relation.ReflTransGen.single Sample.plain_noted).tail Sample.noted_turned).tail
      Sample.turned_shortened).tail Sample.shortened_rowed
  refine ⟨hwritten _ _ Sample.parse_plainText, ?_, hspoilt _ _ Sample.wraps_bad Sample.spoilt_bad⟩
  exact harranged _ _ _ _ _ Sample.wraps_plain Sample.wraps_rowed hchanges Sample.parse_plainText

end EnclosingScope
