import EnclosingScope.Proofs.Files.Walk
import Mathlib.Data.List.Basic

namespace EnclosingScope.Files

open Entry

namespace Path

theorem parts_go_append_slash (back bs cs : List UInt8) :
    parts.go back (bs ++ slash :: cs) = parts.go back bs ++ parts.go [] cs := by
  induction bs generalizing back with
  | nil =>
      simp only [List.nil_append, parts.go, if_pos]
      split <;> rfl
  | cons b bs ih =>
      by_cases hb : b = slash
      · simp only [List.cons_append, parts.go, if_pos hb]
        split
        · exact ih []
        · rw [ih, List.cons_append]
      · simp only [List.cons_append, parts.go, if_neg hb]
        exact ih (b :: back)

theorem parts_go_of_no_slash {back bs : List UInt8} (h : slash ∉ bs)
    (hne : back.reverse ++ bs ≠ []) :
    parts.go back bs = [⟨back.reverse ++ bs⟩] := by
  induction bs generalizing back with
  | nil =>
      rw [List.append_nil] at hne ⊢
      have hb : back.isEmpty = false := by simpa using hne
      rw [parts.go, hb]
      rfl
  | cons b bs ih =>
      rw [List.mem_cons, not_or] at h
      rw [parts.go, if_neg (Ne.symm h.1), ih h.2 (by simp)]
      simp

end Path

theorem IsName.parts {name : Path} (h : IsName name) : Path.parts.go [] name.bytes = [name] := by
  rw [Path.parts_go_of_no_slash h.2.2.2 (by simpa using h.1)]
  simp

theorem parts_below {names : List Path} (h : ∀ name ∈ names, IsName name) :
    Path.parts.go [] ([slash].intercalate (names.map Path.bytes)) = names := by
  induction names with
  | nil => rfl
  | cons name rest ih =>
      have hname := (h name List.mem_cons_self).parts
      cases rest with
      | nil => simpa using hname
      | cons other rest =>
          have hrest := ih fun name hn => h name (List.mem_cons_of_mem _ hn)
          rw [List.map_cons, List.map_cons, List.intercalate_cons_cons, List.append_assoc,
            List.singleton_append, Path.parts_go_append_slash, hname, ← List.map_cons, hrest]
          rfl

def below (names : List Path) : List UInt8 :=
  [slash].intercalate (names.map Path.bytes)

theorem getLast?_below {names : List Path} (hne : names ≠ []) (h : ∀ name ∈ names, IsName name) :
    (slash :: below names).getLast? ≠ some slash := by
  unfold below
  induction names with
  | nil => exact absurd rfl hne
  | cons name rest ih =>
      cases rest with
      | nil =>
          have hname := h name List.mem_cons_self
          intro hlast
          rw [List.map_singleton, List.intercalate_singleton,
            List.getLast?_cons_of_ne_nil hname.1] at hlast
          exact hname.2.2.2 (List.mem_of_getLast? hlast)
      | cons other rest =>
          have hrest := ih (by simp) fun name hn => h name (List.mem_cons_of_mem _ hn)
          rw [List.map_cons, List.map_cons, List.intercalate_cons_cons, List.append_assoc,
            List.singleton_append, ← List.cons_append,
            List.getLast?_append_of_ne_nil _ (by simp), ← List.map_cons]
          exact hrest

theorem mem_below {names : List Path} {b : UInt8} (h : b ∈ below names) :
    b = slash ∨ ∃ name ∈ names, b ∈ name.bytes := by
  unfold below at h
  induction names with
  | nil => cases h
  | cons name rest ih =>
      cases rest with
      | nil => exact .inr ⟨name, List.mem_cons_self, by simpa using h⟩
      | cons other rest =>
          rw [List.map_cons, List.map_cons, List.intercalate_cons_cons, List.append_assoc,
            ← List.map_cons, List.mem_append, List.singleton_append, List.mem_cons] at h
          rcases h with h | h | h
          · exact .inr ⟨name, List.mem_cons_self, h⟩
          · exact .inl h
          · refine (ih h).imp_right fun ⟨later, hl, hb⟩ => ?_
            exact ⟨later, List.mem_cons_of_mem _ hl, hb⟩

namespace Path

theorem bytes_join (path : Path) (names : List Path) :
    (path.join names).bytes = path.bytes ++
      ((if path.bytes.getLast? = some slash then [] else [slash]) ++ below names) := by
  unfold join endsInSlash
  by_cases hlast : path.bytes.getLast? = some slash
  · simp only [hlast, decide_true, if_true]
    rfl
  · simp only [hlast, decide_false, Bool.false_eq_true, if_false]
    rfl

theorem join_above (path : Path) (names : List Path) :
    ∃ above, (path.join names).bytes = above ++ slash :: below names ∧
      parts.go [] above = path.parts := by
  rw [bytes_join]
  split
  · next hlast =>
      obtain ⟨above, habove⟩ := List.getLast?_eq_some_iff.1 hlast
      refine ⟨above, by simp [habove], ?_⟩
      rw [parts, habove, parts_go_append_slash]
      simp [parts.go]
  · exact ⟨path.bytes, rfl, rfl⟩

variable {path : Path} {names : List Path}

theorem parts_join (h : ∀ name ∈ names, IsName name) :
    (path.join names).parts = path.parts ++ names := by
  obtain ⟨above, hbytes, habove⟩ := path.join_above names
  rw [parts, hbytes, parts_go_append_slash, habove, below, parts_below h]

theorem endsInSlash_join (hne : names ≠ []) (h : ∀ name ∈ names, IsName name) :
    (path.join names).endsInSlash = false := by
  obtain ⟨above, hbytes, -⟩ := path.join_above names
  rw [endsInSlash, hbytes, List.getLast?_append_of_ne_nil _ (by simp)]
  exact decide_eq_false (getLast?_below hne h)

end Path

theorem splitPath_join {path : Path} {names : List Path} (hne : names ≠ [])
    (h : ∀ name ∈ names, IsName name) : splitPath (path.join names) = path.parts ++ names := by
  rw [splitPath, Path.endsInSlash_join hne h, Path.parts_join h]
  rfl

variable {top : Entry} {home : List Path} {links : Nat} {here todo there : List Path}

theorem resolve_nil (top : Entry) (links : Nat) (here : List Path) :
    resolve top links here [] = .ok here := by
  cases links <;> rfl

-- Either some names lead to a place, and what comes behind them goes on from there, or they fail
-- whatever comes behind them.
def Splits (top : Entry) (resolve' : List Path → Except AccessError (List Path))
    (todo : List Path) : Prop :=
  (∃ there left, ∀ more, resolve' (todo ++ more) = resolve top left there more) ∨
    ∃ e, ∀ more, resolve' (todo ++ more) = .error e

theorem splits_resolveWith (links : Nat)
    {through : List Path → List Path → Except AccessError (List Path)}
    (hthrough : ∀ here todo, Splits top (through here) todo)
    (hlinks : resolve top links = resolveWith top through) (here todo : List Path) :
    Splits top (resolveWith top through here) todo := by
  induction todo generalizing here with
  | nil => exact .inl ⟨here, links, fun more => by rw [hlinks, List.nil_append]⟩
  | cons name rest ih =>
      simp only [Splits, List.cons_append, resolveWith]
      cases ht : turn top here name with
      | error e => exact .inr ⟨e, fun _ => rfl⟩
      | ok next =>
          cases next with
          | place here => exact ih here
          | link here target =>
              simp only [← List.append_assoc]
              exact hthrough here _

theorem splits_resolve (top : Entry) (links : Nat) (here todo : List Path) :
    Splits top (resolve top links here) todo := by
  induction links generalizing here todo with
  | zero =>
      have hstop : ∀ here todo : List Path, Splits top (fun _ => .error .linkLoop) todo :=
        fun _ _ => .inr ⟨.linkLoop, fun _ => rfl⟩
      exact splits_resolveWith 0 hstop rfl here todo
  | succ links ih => exact splits_resolveWith (links + 1) ih rfl here todo

theorem exists_of_resolve_append {more : List Path}
    (h : resolve top links here (todo ++ more) = .ok there) :
    ∃ mid left, resolve top left mid more = .ok there ∧
      ∀ more, resolve top links here (todo ++ more) = resolve top left mid more := by
  rcases splits_resolve top links here todo with ⟨mid, left, hmid⟩ | ⟨e, he⟩
  · exact ⟨mid, left, (hmid more).symm.trans h, hmid⟩
  · cases (he more).symm.trans h

theorem resolve_place {name : Path} (h : turn top here name = .ok (.place there))
    (links : Nat) (more : List Path) :
    resolve top links here (name :: more) = resolve top links there more := by
  cases links <;> simp only [resolve, resolveWith, h]

theorem turn_dot (top : Entry) (here : List Path) :
    turn top here ⟨[dot]⟩ = .ok (.place here) ∨ turn top here ⟨[dot]⟩ = .error .notDirectory := by
  unfold turn
  split
  · exact .inl (if_pos rfl)
  · exact .inr rfl

theorem eq_of_resolve_dot (h : resolve top links here [⟨[dot]⟩] = .ok there) : there = here := by
  rcases turn_dot top here with ht | ht
  · rw [resolve_place ht, resolve_nil] at h
    cases h
    rfl
  · cases links <;> simp only [resolve, resolveWith, ht] at h <;> cases h

theorem turn_inside {entries : List (Path × Entry)} {name : Path} {entry : Entry}
    (hd : top.get? here.reverse = some (.directory entries))
    (hf : find? name entries = some entry) (hn : IsName name) (hs : name.bytes.length ≤ nameLimit)
    (hl : ∀ target, entry ≠ .link target) :
    turn top here name = .ok (.place (name :: here)) := by
  simp only [turn, hd, if_neg hn.2.1, if_neg hn.2.2.1, if_neg (Nat.not_lt.2 hs), hf]

theorem Entry.Leads.ne_link {entry : Entry} {names : List Path} {bytes : ByteArray}
    (h : Leads entry names (.file bytes)) (target : Path) : entry ≠ .link target := by
  rintro rfl
  cases h

theorem resolve_of_leads {entry : Entry} {names : List Path} {bytes : ByteArray}
    (hw : entry.WellFormed) (h : Leads entry names (.file bytes))
    (hs : ∀ name ∈ names, name.bytes.length ≤ nameLimit)
    (hd : top.get? here.reverse = some entry) (links : Nat) :
    ∃ there, resolve top links here names = .ok there ∧
      top.get? there.reverse = some (.file bytes) := by
  generalize htarget : Entry.file bytes = target at h
  induction h generalizing here with
  | here entry => exact ⟨here, resolve_nil top links here, htarget ▸ hd⟩
  | @inside entries name entry target names mem leads ih =>
      subst htarget
      cases hw with
      | directory distinct named below =>
          obtain ⟨hname, hnames⟩ := List.forall_mem_cons.1 hs
          have hfind := find?_eq_some distinct mem
          have hturn := turn_inside hd hfind (named _ mem) hname leads.ne_link
          have hone : Leads (directory entries) [name] entry := .inside mem (.here entry)
          have hhere : top.get? (name :: here).reverse = some entry := by
            rw [List.reverse_cons]
            exact hone.get?_append (.directory distinct named below) hd
          obtain ⟨there, hresolve, hthere⟩ := ih (below _ mem) hnames hhere rfl
          exact ⟨there, (resolve_place hturn links names).trans hresolve, hthere⟩

def startOf (home : List Path) (path : Path) : List Path :=
  if path.isAbsolute then [] else home.reverse

theorem lookup_eq_ok_iff {path : Path} {entry : Entry} :
    lookup top home path = .ok entry ↔
      (0 ∉ path.bytes ∧ path.bytes ≠ [] ∧ path.bytes.length < pathLimit) ∧
        ∃ here, resolve top linkLimit (startOf home path) (splitPath path) = .ok here ∧
          top.get? here.reverse = some entry := by
  simp only [lookup, startOf]
  by_cases hnull : 0 ∈ path.bytes
  · simp [hnull]
  by_cases hempty : path.bytes = []
  · simp [hempty]
  by_cases hlong : pathLimit ≤ path.bytes.length
  · simp [hnull, hempty, hlong, Nat.not_lt.2 hlong]
  rw [if_neg (by simpa using hnull), if_neg (by simpa using hempty), if_neg hlong]
  simp only [hnull, hempty, Nat.not_le.1 hlong, not_false_iff, ne_eq, true_and]
  cases resolve top linkLimit (if path.isAbsolute then [] else home.reverse) (splitPath path) with
  | error e => simp
  | ok here => cases hget : top.get? here.reverse <;> simp [hget]

theorem resolve_parts {path : Path} {here : List Path}
    (h : resolve top linkLimit (startOf home path) (splitPath path) = .ok here) :
    ∃ left, ∀ more, resolve top linkLimit (startOf home path) (path.parts ++ more) =
      resolve top left here more := by
  unfold splitPath at h
  split at h
  · obtain ⟨mid, left, hdot, hmore⟩ := exists_of_resolve_append h
    obtain rfl := eq_of_resolve_dot hdot
    exact ⟨left, hmore⟩
  · rw [← List.append_nil path.parts] at h
    obtain ⟨mid, left, hnil, hmore⟩ := exists_of_resolve_append h
    rw [resolve_nil] at hnil
    cases hnil
    exact ⟨left, hmore⟩

theorem lookup_join (h : top.WellFormed) {path : Path} {entries : List (Path × Entry)}
    (hl : lookup top home path = .ok (.directory entries)) {names : List Path} {bytes : ByteArray}
    (hleads : Leads (.directory entries) names (.file bytes))
    (hs : ∀ name ∈ names, name.bytes.length ≤ nameLimit ∧ 0 ∉ name.bytes)
    (hlong : (path.join names).bytes.length < pathLimit) :
    lookup top home (path.join names) = .ok (.file bytes) := by
  obtain ⟨_, hdirectory⟩ := leads_of_lookup hl
  have hw := h.of_leads hdirectory
  have hne : names ≠ [] := by
    rintro rfl
    cases hleads
  obtain ⟨⟨hnull, hempty, -⟩, here, hhere, hget⟩ := lookup_eq_ok_iff.1 hl
  obtain ⟨left, hmore⟩ := resolve_parts hhere
  obtain ⟨there, hthere, hfile⟩ :=
    resolve_of_leads hw hleads (fun name hn => (hs name hn).1) hget left
  have hstart : startOf home (path.join names) = startOf home path := by
    rw [startOf, startOf, Path.isAbsolute, Path.isAbsolute, Path.bytes_join,
      List.head?_append_of_ne_nil _ hempty]
  refine lookup_eq_ok_iff.2 ⟨⟨?_, ?_, hlong⟩, there, ?_, hfile⟩
  · rw [Path.bytes_join, List.mem_append, List.mem_append, not_or, not_or]
    refine ⟨hnull, ?_, fun hb => ?_⟩
    · split <;> simp [slash]
    · rcases mem_below hb with hslash | ⟨name, hn, hname⟩
      · cases hslash
      · exact (hs name hn).2 hname
  · rw [Path.bytes_join]
    exact List.append_ne_nil_of_left_ne_nil hempty _
  · rw [splitPath_join hne (hw.isName_of_leads hleads), hstart, hmore, hthere]

end EnclosingScope.Files
