import EnclosingScope.Proofs.Json.Fields
import Mathlib.Data.List.Nodup
import Mathlib.Data.List.Pairwise

namespace EnclosingScope.Json

open Reader

namespace Shape

variable {α : Type} {shape : Shape α} {depth : Nat} {m : String × List Char}
  {ms ms' : List (String × List Char)} {a : α}

def names (shape : Shape α) : List String :=
  shape.fields.map Field.name

def known (shape : Shape α) (ms : List (String × List Char)) : List (String × List Char) :=
  ms.filter (·.1 ∈ shape.names)

def put? (shape : Shape α) (depth : Nat) (m : String × List Char) : Option (α → α) :=
  match shape.fields.find? (·.name = m.1) with
  | none => some id
  | some field => outcome (field.read depth) m.2

def put (shape : Shape α) (depth : Nat) (m : String × List Char) : α → α :=
  (shape.put? depth m).getD id

def made (shape : Shape α) (depth : Nat) (ms : List (String × List Char)) (a : α) : α :=
  ms.foldl (fun a m => shape.put depth m a) a

theorem made_cons : shape.made depth (m :: ms) a = shape.made depth ms (shape.put depth m a) :=
  rfl

-- What the members are, whatever their order: no field twice, none missing, every value fit.
structure Gives (shape : Shape α) (depth : Nat) (ms : List (String × List Char)) (a : α) :
    Prop where
  once : ((shape.known ms).map Prod.fst).Nodup
  whole : ∀ field ∈ shape.fields, field.required = true → field.name ∈ ms.map Prod.fst
  each : ∀ m ∈ ms, (shape.put? depth m).isSome = true
  made : shape.made depth ms shape.blank = a

theorem find?_eq_none_iff {name : String} :
    shape.fields.find? (·.name = name) = none ↔ name ∉ shape.names := by
  rw [List.find?_eq_none, names, List.mem_map]
  simp

theorem name_of_find? {name : String} {field : Field α}
    (h : shape.fields.find? (·.name = name) = some field) :
    field ∈ shape.fields ∧ field.name = name :=
  ⟨List.mem_of_find?_eq_some h, by simpa using List.find?_some h⟩

theorem put?_of_unknown (h : m.1 ∉ shape.names) : shape.put? depth m = some id := by
  rw [put?, find?_eq_none_iff.2 h]

theorem put_of_unknown (h : m.1 ∉ shape.names) : shape.put depth m = id := by
  rw [put, put?_of_unknown h]
  rfl

theorem known_cons_of_unknown (h : m.1 ∉ shape.names) :
    shape.known (m :: ms) = shape.known ms :=
  List.filter_cons_of_neg (by simpa using h)

theorem known_cons (h : m.1 ∈ shape.names) :
    shape.known (m :: ms) = m :: shape.known ms :=
  List.filter_cons_of_pos (by simpa using h)

theorem enter_of_unknown (h : m.1 ∉ shape.names) (s : List String × α) :
    shape.enter depth s m = some s := by
  rw [enter, find?_eq_none_iff.2 h]

theorem enter_eq_some_iff (h : m.1 ∈ shape.names) {seen : List String} {s : List String × α} :
    shape.enter depth (seen, a) m = some s ↔
      m.1 ∉ seen ∧ (shape.put? depth m).isSome = true ∧ s = (m.1 :: seen, shape.put depth m a) := by
  cases hfind : shape.fields.find? (·.name = m.1) with
  | none => exact absurd h (find?_eq_none_iff.1 hfind)
  | some field =>
      simp only [enter, put, put?, hfind]
      by_cases hseen : m.1 ∈ seen
      · simp [hseen]
      · cases outcome (field.read depth) m.2 with
        | none => simp
        | some put => simp [hseen, eq_comm]

theorem foldlM_enter {seen : List String} {s : List String × α} :
    ms.foldlM (shape.enter depth) (seen, a) = some s ↔
      ((shape.known ms).map Prod.fst).Nodup ∧ (∀ m ∈ shape.known ms, m.1 ∉ seen) ∧
      (∀ m ∈ ms, (shape.put? depth m).isSome = true) ∧
      s = (((shape.known ms).map Prod.fst).reverse ++ seen, shape.made depth ms a) := by
  induction ms generalizing seen a with
  | nil =>
      constructor
      · intro h
        cases h
        exact ⟨.nil, List.forall_mem_nil _, List.forall_mem_nil _, rfl⟩
      · rintro ⟨-, -, -, rfl⟩
        rfl
  | cons m ms ih =>
      rw [List.foldlM_cons]
      by_cases hm : m.1 ∈ shape.names
      · rw [known_cons hm, List.map_cons, List.nodup_cons, List.reverse_cons, List.append_assoc]
        constructor
        · intro h
          obtain ⟨s', hs', hrest⟩ := Option.bind_eq_some_iff.1 h
          obtain ⟨hseen, hput, rfl⟩ := (enter_eq_some_iff hm).1 hs'
          obtain ⟨honce, hnew, heach, rfl⟩ := ih.1 hrest
          have hfresh : m.1 ∉ (shape.known ms).map Prod.fst := by
            intro hmem
            obtain ⟨k, hk, hname⟩ := List.mem_map.1 hmem
            exact hnew k hk (hname ▸ List.mem_cons_self)
          refine ⟨⟨hfresh, honce⟩, List.forall_mem_cons.2 ⟨hseen, fun k hk => ?_⟩,
            List.forall_mem_cons.2 ⟨hput, heach⟩, rfl⟩
          exact fun hmem => hnew k hk (List.mem_cons_of_mem _ hmem)
        · rintro ⟨⟨hfresh, honce⟩, hnew, heach, rfl⟩
          obtain ⟨hseen, hnew⟩ := List.forall_mem_cons.1 hnew
          obtain ⟨hput, heach⟩ := List.forall_mem_cons.1 heach
          refine Option.bind_eq_some_iff.2 ⟨_, (enter_eq_some_iff hm).2 ⟨hseen, hput, rfl⟩,
            ih.2 ⟨honce, fun k hk hmem => ?_, heach, rfl⟩⟩
          rcases List.mem_cons.1 hmem with hname | hmem
          · exact hfresh (hname ▸ List.mem_map_of_mem hk)
          · exact hnew k hk hmem
      · have hput : (shape.put? depth m).isSome = true := by
          rw [put?_of_unknown hm]
          rfl
        have hmade : shape.made depth (m :: ms) a = shape.made depth ms a := by
          rw [made_cons, put_of_unknown hm]
          rfl
        rw [known_cons_of_unknown hm, enter_of_unknown hm, hmade, List.forall_mem_cons]
        refine ih.trans ?_
        simp only [hput, true_and]

theorem mem_map_known {name : String} (h : name ∈ shape.names) :
    name ∈ (shape.known ms).map Prod.fst ↔ name ∈ ms.map Prod.fst := by
  simp only [known, List.mem_map, List.mem_filter, decide_eq_true_eq]
  constructor
  · rintro ⟨m, ⟨hm, -⟩, hname⟩
    exact ⟨m, hm, hname⟩
  · rintro ⟨m, hm, rfl⟩
    exact ⟨m, ⟨hm, h⟩, rfl⟩

theorem absent?_isNone_iff {seen : List String} :
    (shape.absent? seen).isNone = true ↔
      ∀ field ∈ shape.fields, field.required = true → field.name ∈ seen := by
  rw [Option.isNone_iff_eq_none, absent?, List.find?_eq_none]
  simp

theorem gives_iff :
    (ms.foldlM (shape.enter depth) ([], shape.blank)).bind shape.finish = some a ↔
      shape.Gives depth ms a := by
  have hmem : ∀ field ∈ shape.fields,
      (field.name ∈ ((shape.known ms).map Prod.fst).reverse ++ [] ↔
        field.name ∈ ms.map Prod.fst) := by
    intro field hfield
    rw [List.append_nil, List.mem_reverse]
    exact mem_map_known (List.mem_map_of_mem hfield)
  rw [Option.bind_eq_some_iff]
  constructor
  · rintro ⟨s, hs, hfinish⟩
    obtain ⟨honce, -, heach, rfl⟩ := foldlM_enter.1 hs
    rw [finish] at hfinish
    split at hfinish
    · next hwhole =>
        refine ⟨honce, fun field hfield hrequired => ?_, heach, Option.some.inj hfinish⟩
        exact (hmem field hfield).1 (absent?_isNone_iff.1 hwhole field hfield hrequired)
    · cases hfinish
  · rintro ⟨honce, hwhole, heach, rfl⟩
    refine ⟨_, foldlM_enter.2 ⟨honce, fun m _ => List.not_mem_nil, heach, rfl⟩, ?_⟩
    have hnone := absent?_isNone_iff.2 fun field hfield hrequired =>
      (hmem field hfield).2 (hwhole field hfield hrequired)
    rw [finish, if_pos hnone]

theorem outcome_object (hf : shape.FieldsUniform) (o : ObjectText) :
    outcome (shape.read (depth + 1)) o.text = some a ↔ shape.Gives depth o.given a := by
  rw [(decides_object hf o).outcome_eq, gives_iff]

end Shape

variable {α : Type}

def Field.Commutes (f g : Field α) : Prop :=
  ∀ depth v w p q, outcome (f.read depth) v = some p → outcome (g.read depth) w = some q →
    ∀ a, p (q a) = q (p a)

instance : Std.Symm (Field.Commutes : Field α → Field α → Prop) where
  symm _ _ h depth v w p q hp hq a := (h depth w v q p hq hp a).symm

def Field.Idle (f : Field α) (a : α) : Prop :=
  ∀ depth, ∃ p, outcome (f.read depth) nothing = some p ∧ p a = a

structure Shape.Independent (shape : Shape α) : Prop where
  uniform : shape.FieldsUniform
  nodup : shape.names.Nodup
  commute : shape.fields.Pairwise Field.Commutes
  idle : ∀ f ∈ shape.fields, f.required = false → f.Idle shape.blank

namespace Shape

variable {shape : Shape α} {depth : Nat} {m : String × List Char}
  {ms ms' : List (String × List Char)} {a : α}

theorem put_cases (shape : Shape α) (depth : Nat) (m : String × List Char) :
    shape.put depth m = id ∨ ∃ f ∈ shape.fields, f.name = m.1 ∧
      outcome (f.read depth) m.2 = some (shape.put depth m) := by
  cases hfind : shape.fields.find? (·.name = m.1) with
  | none => exact .inl (put_of_unknown (find?_eq_none_iff.1 hfind))
  | some f =>
      obtain ⟨hf, hname⟩ := name_of_find? hfind
      cases hread : outcome (f.read depth) m.2 with
      | none =>
          refine .inl ?_
          simp only [put, put?, hfind, hread, Option.getD_none]
      | some p =>
          refine .inr ⟨f, hf, hname, ?_⟩
          simp only [put, put?, hfind, hread, Option.getD_some]

theorem put_commute (hi : shape.Independent) {x y : String × List Char} (hne : x.1 ≠ y.1) (a : α) :
    shape.put depth x (shape.put depth y a) = shape.put depth y (shape.put depth x a) := by
  rcases put_cases shape depth x with hx | ⟨f, hf, hfx, hx⟩
  · rw [hx]
    rfl
  rcases put_cases shape depth y with hy | ⟨g, hg, hgy, hy⟩
  · rw [hy]
    rfl
  · have hfg : f ≠ g := by
      rintro rfl
      exact hne (hfx.symm.trans hgy)
    exact hi.commute.forall hf hg hfg depth _ _ _ _ hx hy a

theorem eq_of_once (h : ((shape.known ms).map Prod.fst).Nodup) {x y : String × List Char}
    (hx : x ∈ shape.known ms) (hy : y ∈ shape.known ms) (hname : x.1 = y.1) : x = y :=
  List.inj_on_of_nodup_map h hx hy hname

theorem made_perm (hi : shape.Independent) (h : ((shape.known ms).map Prod.fst).Nodup)
    (hp : ms.Perm ms') (a : α) : shape.made depth ms a = shape.made depth ms' a := by
  refine hp.foldl_eq' (fun x hx y hy a => ?_) a
  by_cases hname : x.1 = y.1
  · by_cases hknown : x.1 ∈ shape.names
    · have hx' : x ∈ shape.known ms := List.mem_filter.2 ⟨hx, by simpa using hknown⟩
      have hy' : y ∈ shape.known ms := List.mem_filter.2 ⟨hy, by simpa [hname] using hknown⟩
      rw [eq_of_once h hx' hy' hname]
    · rw [put_of_unknown hknown, put_of_unknown (hname ▸ hknown)]
  · exact (put_commute hi hname a).symm

theorem Gives.perm (hi : shape.Independent) (h : shape.Gives depth ms a) (hp : ms.Perm ms') :
    shape.Gives depth ms' a where
  once := ((hp.filter _).map _).nodup_iff.1 h.once
  whole field hfield hrequired := (hp.map _).mem_iff.1 (h.whole field hfield hrequired)
  each m hm := h.each m (hp.mem_iff.2 hm)
  made := (made_perm hi h.once hp _).symm.trans h.made

theorem gives_cons_of_unknown (hm : m.1 ∉ shape.names) :
    shape.Gives depth (m :: ms) a ↔ shape.Gives depth ms a := by
  have hmade : shape.made depth (m :: ms) shape.blank = shape.made depth ms shape.blank := by
    rw [made_cons, put_of_unknown hm]
    rfl
  have hname : ∀ field ∈ shape.fields, field.name ≠ m.1 := fun field hfield hname =>
    hm (hname ▸ List.mem_map_of_mem hfield)
  constructor
  · rintro ⟨honce, hwhole, heach, hgives⟩
    rw [known_cons_of_unknown hm] at honce
    refine ⟨honce, fun field hfield hrequired => ?_, (List.forall_mem_cons.1 heach).2,
      hmade.symm.trans hgives⟩
    exact List.mem_of_ne_of_mem (hname field hfield) (hwhole field hfield hrequired)
  · rintro ⟨honce, hwhole, heach, hgives⟩
    refine ⟨by rwa [known_cons_of_unknown hm], fun field hfield hrequired => ?_,
      List.forall_mem_cons.2 ⟨by rw [put?_of_unknown hm]; rfl, heach⟩, hmade.trans hgives⟩
    exact List.mem_cons_of_mem _ (hwhole field hfield hrequired)

theorem find?_name (hi : shape.Independent) {field : Field α} (hfield : field ∈ shape.fields) :
    shape.fields.find? (·.name = field.name) = some field := by
  cases hfind : shape.fields.find? (·.name = field.name) with
  | none => exact absurd (List.mem_map_of_mem hfield) (find?_eq_none_iff.1 hfind)
  | some other =>
      obtain ⟨hother, hname⟩ := name_of_find? hfind
      exact congrArg some (List.inj_on_of_nodup_map hi.nodup hother hfield hname)

theorem put?_name (hi : shape.Independent) {field : Field α} (hfield : field ∈ shape.fields)
    (v : List Char) : shape.put? depth (field.name, v) = outcome (field.read depth) v := by
  simp only [put?, find?_name hi hfield]

theorem put_nothing (hi : shape.Independent) {field : Field α} (hfield : field ∈ shape.fields)
    (hrequired : field.required = false) (depth : Nat) :
    (shape.put? depth (field.name, nothing)).isSome = true ∧
      shape.put depth (field.name, nothing) shape.blank = shape.blank := by
  obtain ⟨p, hp, hblank⟩ := hi.idle field hfield hrequired depth
  rw [put, put?_name hi hfield, hp]
  exact ⟨rfl, hblank⟩

theorem Gives.of_cons_nothing (hi : shape.Independent) {field : Field α}
    (hfield : field ∈ shape.fields) (hrequired : field.required = false)
    (h : shape.Gives depth ((field.name, nothing) :: ms) a) : shape.Gives depth ms a where
  once := by
    have honce := h.once
    rw [known_cons (List.mem_map_of_mem hfield)] at honce
    exact (List.nodup_cons.1 honce).2
  whole other hother hneeded := by
    refine List.mem_of_ne_of_mem (fun hname => ?_) (h.whole other hother hneeded)
    rw [List.inj_on_of_nodup_map hi.nodup hother hfield hname, hrequired] at hneeded
    cases hneeded
  each m hm := h.each m (List.mem_cons_of_mem _ hm)
  made := by
    have hmade := h.made
    rwa [made_cons, (put_nothing hi hfield hrequired depth).2] at hmade

-- A value may be replaced by any other that comes to the same.
theorem Gives.replace {name : String} {v w : List Char}
    (hv : shape.put? depth (name, v) = shape.put? depth (name, w))
    (h : shape.Gives depth ((name, v) :: ms) a) : shape.Gives depth ((name, w) :: ms) a where
  once := by
    have honce := h.once
    by_cases hname : name ∈ shape.names
    · rw [known_cons hname] at honce ⊢
      exact honce
    · rw [known_cons_of_unknown hname] at honce ⊢
      exact honce
  whole := h.whole
  each := List.forall_mem_cons.2
    ⟨hv ▸ h.each _ List.mem_cons_self, fun m hm => h.each m (List.mem_cons_of_mem _ hm)⟩
  made := by
    have hmade := h.made
    rwa [made_cons, put, hv] at hmade

theorem made_known (ms : List (String × List Char)) (a : α) :
    shape.made depth (shape.known ms) a = shape.made depth ms a := by
  induction ms generalizing a with
  | nil => rfl
  | cons m ms ih =>
      by_cases hm : m.1 ∈ shape.names
      · rw [known_cons hm, made_cons, made_cons, ih]
      · rw [known_cons_of_unknown hm, made_cons, put_of_unknown hm, ih]
        rfl

theorem made_of_idle (h : ∀ m ∈ ms, shape.put depth m a = a) : shape.made depth ms a = a := by
  induction ms with
  | nil => rfl
  | cons m ms ih =>
      obtain ⟨hm, hms⟩ := List.forall_mem_cons.1 h
      rw [made_cons, hm, ih hms]

theorem fill_eq_some (hi : shape.Independent) {fields : List (Field α)} {vs : List (List Char)}
    (hfields : ∀ f ∈ fields, f ∈ shape.fields) (hlength : vs.length = fields.length)
    (heach : ∀ m ∈ (fields.map Field.name).zip vs, (shape.put? depth m).isSome = true) (b : α) :
    fill depth fields vs b = some (shape.made depth ((fields.map Field.name).zip vs) b) := by
  induction fields generalizing vs b with
  | nil =>
      cases vs with
      | nil => rfl
      | cons v vs => cases hlength
  | cons field fields ih =>
      cases vs with
      | nil => cases hlength
      | cons v vs =>
          obtain ⟨hfield, hfields⟩ := List.forall_mem_cons.1 hfields
          obtain ⟨hv, hvs⟩ := List.forall_mem_cons.1 heach
          obtain ⟨p, hp⟩ := Option.isSome_iff_exists.1 hv
          have hput : shape.put depth (field.name, v) = p := by rw [put, hp, Option.getD_some]
          rw [put?_name hi hfield] at hp
          rw [fill, hp, Option.bind_some, ih hfields (Nat.succ.inj hlength) hvs, List.map_cons,
            List.zip_cons_cons, made_cons, hput]

section

variable {ps : List (String × List Char)}

theorem perm_known (h : shape.Gives depth ms a) (hnames : ps.map Prod.fst = shape.names)
    (hnodup : ps.Nodup) (hps : ∀ p ∈ ps, p ∈ ms ∨ p.1 ∉ ms.map Prod.fst ∧ p.2 = nothing) :
    (ps.filter (·.1 ∈ ms.map Prod.fst)).Perm (shape.known ms) := by
  refine (List.perm_ext_iff_of_nodup (hnodup.filter _) (.of_map _ h.once)).2 fun p => ?_
  rw [known, List.mem_filter, List.mem_filter, decide_eq_true_eq, decide_eq_true_eq]
  constructor
  · rintro ⟨hp, hpresent⟩
    have hmem : p ∈ ms := (hps p hp).resolve_right fun habsent => habsent.1 hpresent
    exact ⟨hmem, hnames ▸ List.mem_map_of_mem hp⟩
  · rintro ⟨hp, hname⟩
    have hpresent : p.1 ∈ ms.map Prod.fst := List.mem_map_of_mem hp
    obtain ⟨q, hq, hqp⟩ : ∃ q ∈ ps, q.1 = p.1 := List.mem_map.1 (hnames ▸ hname)
    rcases hps q hq with hmem | ⟨habsent, -⟩
    · have hqk : q ∈ shape.known ms := List.mem_filter.2 ⟨hmem, by simpa [hqp] using hname⟩
      have hpk : p ∈ shape.known ms := List.mem_filter.2 ⟨hp, by simpa using hname⟩
      rw [← eq_of_once h.once hqk hpk hqp]
      exact ⟨hq, hqp ▸ hpresent⟩
    · exact absurd (hqp ▸ hpresent) habsent

theorem idle_of_absent (hi : shape.Independent) (h : shape.Gives depth ms a)
    (hnames : ps.map Prod.fst = shape.names)
    (hps : ∀ p ∈ ps, p ∈ ms ∨ p.1 ∉ ms.map Prod.fst ∧ p.2 = nothing) {p : String × List Char}
    (hp : p ∈ ps) (habsent : p.1 ∉ ms.map Prod.fst) :
    (shape.put? depth p).isSome = true ∧ shape.put depth p shape.blank = shape.blank := by
  have hnothing : p = (p.1, nothing) := by
    rcases hps p hp with hmem | ⟨-, hnull⟩
    · exact absurd (List.mem_map_of_mem hmem) habsent
    · exact Prod.ext rfl hnull
  have hname : p.1 ∈ shape.names := hnames ▸ List.mem_map_of_mem hp
  obtain ⟨field, hfield, hname⟩ := List.mem_map.1 hname
  have hrequired : field.required = false := by
    cases hneeded : field.required with
    | false => rfl
    | true => exact absurd (hname ▸ h.whole field hfield hneeded) habsent
  rw [hnothing, ← hname]
  exact put_nothing hi hfield hrequired depth

-- An object with just the members in `ps`, which are those in `ms` and nulls for the others.
theorem Gives.completed (hi : shape.Independent) (h : shape.Gives depth ms a)
    (hnames : ps.map Prod.fst = shape.names)
    (hps : ∀ p ∈ ps, p ∈ ms ∨ p.1 ∉ ms.map Prod.fst ∧ p.2 = nothing) :
    shape.Gives depth ps a := by
  have hnodup : (ps.map Prod.fst).Nodup := hnames ▸ hi.nodup
  have honce : ((shape.known ps).map Prod.fst).Nodup := (List.filter_sublist.map _).nodup hnodup
  have hidle : ∀ p ∈ ps, p.1 ∉ ms.map Prod.fst → _ := fun p => idle_of_absent hi h hnames hps
  refine ⟨honce, fun field hfield _ => ?_, fun p hp => ?_, ?_⟩
  · rw [hnames]
    exact List.mem_map_of_mem hfield
  · by_cases hpresent : p.1 ∈ ms.map Prod.fst
    · exact h.each p ((hps p hp).resolve_right fun habsent => habsent.1 hpresent)
    · exact (hidle p hp hpresent).1
  · let absent := ps.filter fun p => !decide (p.1 ∈ ms.map Prod.fst)
    have hperm : ps.Perm (absent ++ shape.known ms) :=
      (List.filter_append_perm _ ps).symm.trans
        (((perm_known h hnames (.of_map _ hnodup) hps).append_right _).trans List.perm_append_comm)
    have hblank : shape.made depth absent shape.blank = shape.blank := by
      refine made_of_idle fun p hp => ?_
      obtain ⟨hp, habsent⟩ := List.mem_filter.1 hp
      exact (hidle p hp (by simpa using habsent)).2
    calc shape.made depth ps shape.blank
        = shape.made depth (absent ++ shape.known ms) shape.blank := made_perm hi honce hperm _
      _ = shape.made depth (shape.known ms) (shape.made depth absent shape.blank) :=
          List.foldl_append
      _ = shape.made depth ms shape.blank := by rw [hblank, made_known]
      _ = a := h.made

end

theorem fill_of_gives (hi : shape.Independent) {vs : List (List Char)}
    (hlength : vs.length = shape.fields.length)
    (h : shape.Gives depth (shape.names.zip vs) a) :
    fill depth shape.fields vs shape.blank = some a := by
  rw [fill_eq_some hi (fun _ hf => hf) hlength h.each]
  exact congrArg some h.made

end Shape

end EnclosingScope.Json
