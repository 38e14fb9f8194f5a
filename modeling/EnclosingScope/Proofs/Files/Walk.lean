import EnclosingScope.Files.Tree
import Mathlib.Data.List.Nodup

namespace EnclosingScope.Files

def IsName (name : Path) : Prop :=
  name.bytes ≠ [] ∧ name.bytes ≠ [dot] ∧ name.bytes ≠ [dot, dot] ∧ slash ∉ name.bytes

instance (name : Path) : Decidable (IsName name) :=
  inferInstanceAs (Decidable (_ ∧ _ ∧ _ ∧ _))

namespace Entry

inductive WellFormed : Entry → Prop
  | file (bytes : ByteArray) : WellFormed (file bytes)
  | link (target : Path) : WellFormed (link target)
  | special (content : Except AccessError ByteArray) : WellFormed (special content)
  | directory {entries : List (Path × Entry)} (distinct : (entries.map (·.1)).Nodup)
      (named : ∀ e ∈ entries, IsName e.1) (below : ∀ e ∈ entries, WellFormed e.2) :
      WellFormed (directory entries)

inductive Leads : Entry → List Path → Entry → Prop
  | here (entry : Entry) : Leads entry [] entry
  | inside {entries : List (Path × Entry)} {name : Path} {entry target : Entry}
      {names : List Path} (mem : (name, entry) ∈ entries) (leads : Leads entry names target) :
      Leads (directory entries) (name :: names) target

theorem belowInduction {motive : Entry → Prop} (file : ∀ bytes, motive (file bytes))
    (link : ∀ target, motive (link target)) (special : ∀ content, motive (special content))
    (directory : ∀ entries, (∀ e ∈ entries, motive e.2) → motive (directory entries)) :
    ∀ entry, motive entry
  | .file bytes => file bytes
  | .link target => link target
  | .special content => special content
  | .directory entries =>
      directory entries fun e _ => belowInduction file link special directory e.2
termination_by entry => sizeOf entry
decreasing_by
  have hlist := List.sizeOf_lt_of_mem ‹_ ∈ entries›
  obtain ⟨name, entry⟩ := e
  simp only [Prod.mk.sizeOf_spec, Entry.directory.sizeOf_spec] at hlist ⊢
  omega

mutual

def regular : Entry → List (List Path)
  | file _ => [[]]
  | link _ => []
  | special _ => []
  | directory entries => regularIn entries

def regularIn : List (Path × Entry) → List (List Path)
  | [] => []
  | (name, entry) :: rest => (regular entry).map (name :: ·) ++ regularIn rest

end

variable {entry top target : Entry} {names : List Path} {name : Path}
  {entries : List (Path × Entry)} {found : List (List Path)}

theorem regularIn_eq_flatMap (entries : List (Path × Entry)) :
    regularIn entries = entries.flatMap fun e => (regular e.2).map (e.1 :: ·) := by
  induction entries with
  | nil => rfl
  | cons e rest ih => rw [regularIn, ih, List.flatMap_cons]

theorem walkIn_eq_regularIn
    (h : ∀ e ∈ entries, ∀ {path found}, walk path e.2 = .ok found → found = regular e.2)
    {path : Path} (hw : walkIn path entries = .ok found) : found = regularIn entries := by
  induction entries generalizing found with
  | nil =>
      cases hw
      rfl
  | cons e rest ih =>
      obtain ⟨name, entry⟩ := e
      obtain ⟨hentry, hrest⟩ := List.forall_mem_cons.1 h
      rw [walkIn] at hw
      split at hw
      · cases hw
      · next here hhere =>
          split at hw
          · cases hw
          · next later hlater =>
              cases hw
              rw [regularIn, ← hentry hhere, ← ih hrest hlater]

theorem walk_eq_regular {path : Path} (h : walk path entry = .ok found) :
    found = regular entry := by
  induction entry using belowInduction generalizing path found with
  | file bytes =>
      cases h
      rfl
  | link target =>
      cases h
      rfl
  | special content =>
      cases h
      rfl
  | directory entries ih =>
      rw [walk] at h
      split at h
      · cases h
      · exact walkIn_eq_regularIn (fun e he _ _ hw => ih e he hw) h

theorem mem_regular : names ∈ regular entry ↔ ∃ bytes, Leads entry names (file bytes) := by
  induction entry using belowInduction generalizing names with
  | file bytes =>
      rw [regular, List.mem_singleton]
      constructor
      · rintro rfl
        exact ⟨bytes, .here _⟩
      · rintro ⟨other, h⟩
        cases h
        rfl
  | link target =>
      rw [regular]
      constructor
      · intro h
        cases h
      · rintro ⟨bytes, h⟩
        cases h
  | special content =>
      rw [regular]
      constructor
      · intro h
        cases h
      · rintro ⟨bytes, h⟩
        cases h
  | directory entries ih =>
      rw [regular, regularIn_eq_flatMap, List.mem_flatMap]
      constructor
      · rintro ⟨⟨name, entry⟩, he, hn⟩
        obtain ⟨rest, hr, rfl⟩ := List.mem_map.1 hn
        obtain ⟨bytes, hl⟩ := (ih _ he).1 hr
        exact ⟨bytes, .inside he hl⟩
      · rintro ⟨bytes, h⟩
        cases h with
        | inside mem leads =>
            exact ⟨_, mem, List.mem_map.2 ⟨_, (ih _ mem).2 ⟨bytes, leads⟩, rfl⟩⟩

theorem mem_regularIn :
    names ∈ regularIn entries ↔ ∃ bytes, Leads (directory entries) names (file bytes) := by
  rw [← mem_regular, regular]

namespace WellFormed

theorem nodup_regular (h : WellFormed entry) : (regular entry).Nodup := by
  induction h with
  | file bytes => exact List.nodup_singleton _
  | link target => exact List.nodup_nil
  | special content => exact List.nodup_nil
  | @directory entries distinct named below ih =>
      rw [regular, regularIn_eq_flatMap, List.nodup_flatMap]
      refine ⟨fun e he => (ih e he).map fun _ _ heq => (List.cons.inj heq).2, ?_⟩
      refine (List.pairwise_map.1 distinct).imp fun {a b} hne names ha hb => ?_
      obtain ⟨_, _, rfl⟩ := List.mem_map.1 ha
      obtain ⟨_, _, heq⟩ := List.mem_map.1 hb
      exact hne (List.cons.inj heq).1.symm

theorem of_leads (h : WellFormed entry) (hl : Leads entry names target) : WellFormed target := by
  induction hl with
  | here => exact h
  | inside mem _ ih =>
      cases h with
      | directory _ _ below => exact ih (below _ mem)

theorem isName_of_leads (h : WellFormed entry) (hl : Leads entry names target) :
    ∀ name ∈ names, IsName name := by
  induction hl with
  | here =>
      intro name hn
      cases hn
  | inside mem _ ih =>
      cases h with
      | directory _ named below =>
          intro other ho
          rcases List.mem_cons.1 ho with rfl | ho
          · exact named _ mem
          · exact ih (below _ mem) other ho

end WellFormed

theorem mem_of_find? (h : find? name entries = some entry) : (name, entry) ∈ entries := by
  induction entries with
  | nil => cases h
  | cons e rest ih =>
      obtain ⟨other, first⟩ := e
      rw [find?] at h
      split at h
      · next heq =>
          cases h
          rw [heq]
          exact List.mem_cons_self
      · exact List.mem_cons_of_mem _ (ih h)

theorem find?_eq_some (hd : (entries.map (·.1)).Nodup) (h : (name, entry) ∈ entries) :
    find? name entries = some entry := by
  induction entries with
  | nil => cases h
  | cons e rest ih =>
      obtain ⟨other, first⟩ := e
      obtain ⟨hnew, hrest⟩ := List.nodup_cons.1 hd
      rcases List.mem_cons.1 h with heq | h
      · cases heq
        exact if_pos rfl
      · have hne : other ≠ name := by
          rintro rfl
          exact hnew (List.mem_map.2 ⟨_, h, rfl⟩)
        rw [find?, if_neg hne]
        exact ih hrest h

theorem leads_of_get? (h : top.get? names = some entry) : Leads top names entry := by
  induction names generalizing top with
  | nil =>
      cases h
      exact .here _
  | cons name names ih =>
      cases top with
      | file bytes => cases h
      | link target => cases h
      | special content => cases h
      | directory entries =>
          simp only [get?] at h
          split at h
          · next found hf => exact .inside (mem_of_find? hf) (ih h)
          · cases h

theorem Leads.get?_append {above : List Path} (hw : entry.WellFormed)
    (h : Leads entry names target) (ha : top.get? above = some entry) :
    top.get? (above ++ names) = some target := by
  induction above generalizing top with
  | nil =>
      cases ha
      induction h with
      | here => rfl
      | inside mem _ ih =>
          cases hw with
          | directory distinct _ below =>
              rw [List.nil_append] at ih ⊢
              simp only [get?, find?_eq_some distinct mem]
              exact ih (below _ mem)
  | cons name above ih =>
      cases top with
      | file bytes => cases ha
      | link target => cases ha
      | special content => cases ha
      | directory entries =>
          simp only [List.cons_append, get?] at ha ⊢
          split at ha
          · next found hf => exact ih ha
          · cases ha

end Entry

open Entry

variable {top : Entry} {home : List Path}

theorem leads_of_lookup {path : Path} {entry : Entry} (h : lookup top home path = .ok entry) :
    ∃ names, Leads top names entry := by
  unfold lookup at h
  split at h
  · cases h
  split at h
  · cases h
  split at h
  · cases h
  split at h
  · cases h
  split at h
  · next here _ found hf =>
      cases h
      exact ⟨_, leads_of_get? hf⟩
  · cases h

structure Access.Walks (files : Access) (top : Entry) (home : List Path) : Prop where
  directory : ∀ {path entries}, lookup top home path = .ok (.directory entries) →
    (∃ e, files.below path = some (.error e)) ∨
    ∃ found, files.below path = some (.ok found) ∧ found.Nodup ∧
      ∀ names, names ∈ found ↔ ∃ bytes, Leads (.directory entries) names (.file bytes)
  other : ∀ {path}, (∀ entries, lookup top home path ≠ .ok (.directory entries)) →
    files.below path = none

theorem Access.ofTree_walks (h : top.WellFormed) (home : List Path) :
    (Access.ofTree top home).Walks top home where
  directory := by
    intro path entries hl
    obtain ⟨_, hleads⟩ := leads_of_lookup hl
    have hbelow : (ofTree top home).below path = some (walkIn path entries) := by simp [ofTree, hl]
    rw [hbelow]
    cases hw : walkIn path entries with
    | error e => exact .inl ⟨e, rfl⟩
    | ok found =>
        have hfound := walkIn_eq_regularIn (fun e _ _ _ => walk_eq_regular) hw
        have hn := (h.of_leads hleads).nodup_regular
        rw [regular, ← hfound] at hn
        refine .inr ⟨found, rfl, hn, fun names => ?_⟩
        rw [hfound]
        exact mem_regularIn
  other := by
    intro path hno
    simp only [ofTree]

end EnclosingScope.Files
