import EnclosingScope.Files.Discovery
import EnclosingScope.Proofs.Files.Lookup
import EnclosingScope.Proofs.Text.Bytes
import Mathlib.Data.List.Sort

namespace EnclosingScope.Files

open Entry

theorem pathBefore_irrefl (a : List Path) : ¬ pathBefore a a :=
  List.lt_irrefl _

theorem pathBefore_trans {a b c : List Path} (h : pathBefore a b) (h' : pathBefore b c) :
    pathBefore a c :=
  List.lt_trans h h'

instance : Std.Irrefl pathBefore := ⟨pathBefore_irrefl⟩

instance : Std.Antisymm pathBefore :=
  ⟨fun a _ h h' => absurd (pathBefore_trans h h') (pathBefore_irrefl a)⟩

theorem Path.bytes_injective : Function.Injective Path.bytes := by
  rintro ⟨a⟩ ⟨b⟩ h
  cases h
  rfl

theorem not_pathBefore_iff {a b : List Path} :
    ¬ pathBefore b a ↔ a.map Path.bytes ≤ b.map Path.bytes :=
  List.not_lt

theorem pathBefore_of_not_pathBefore {a b : List Path} (hne : a ≠ b) (h : ¬ pathBefore b a) :
    pathBefore a b := by
  rcases List.le_iff_lt_or_eq.1 (not_pathBefore_iff.1 h) with hlt | heq
  · exact hlt
  · exact absurd (List.map_injective_iff.2 Path.bytes_injective heq) hne

theorem pathBefore_append (above : List Path) {a b : List Path} (h : pathBefore a b) :
    pathBefore (above ++ a) (above ++ b) := by
  rw [pathBefore, List.map_append, List.map_append]
  exact List.append_left_lt h

theorem mem_sortPaths {found : List (List Path)} {names : List Path} :
    names ∈ sortPaths found ↔ names ∈ found :=
  List.mem_mergeSort

theorem pairwise_sortPaths {found : List (List Path)} (h : found.Nodup) :
    (sortPaths found).Pairwise pathBefore := by
  have hsorted : (sortPaths found).Pairwise fun a b => !decide (pathBefore b a) := by
    refine List.pairwise_mergeSort (fun a b c hab hbc => ?_) (fun a b => ?_) found
    · simp only [Bool.not_eq_true', decide_eq_false_iff_not, not_pathBefore_iff] at hab hbc ⊢
      exact List.le_trans hab hbc
    · simp only [Bool.or_eq_true, Bool.not_eq_true', decide_eq_false_iff_not, not_pathBefore_iff]
      exact List.le_total _ _
  have hdistinct : (sortPaths found).Nodup := (List.mergeSort_perm _ _).nodup_iff.2 h
  refine hsorted.imp₂ (fun a b hle hne => ?_) hdistinct
  exact pathBefore_of_not_pathBefore hne (by simpa using hle)

theorem isPythonName_iff {name : Path} :
    isPythonName name = true ↔ ∃ stem, stem ≠ [] ∧ name = ⟨stem ++ Text.bytes ".py"⟩ := by
  rw [isPythonName, Bool.and_eq_true, List.isSuffixOf_iff_suffix, decide_eq_true_eq]
  constructor
  · rintro ⟨⟨stem, hstem⟩, hlength⟩
    refine ⟨stem, ?_, Path.bytes_injective hstem.symm⟩
    rintro rfl
    rw [← hstem, List.nil_append] at hlength
    exact absurd hlength (Nat.lt_irrefl _)
  · rintro ⟨stem, hne, rfl⟩
    refine ⟨List.suffix_append _ _, ?_⟩
    rw [List.length_append]
    exact Nat.lt_add_of_pos_left (List.length_pos_of_ne_nil hne)

theorem isPython_iff {names : List Path} :
    isPython names = true ↔
      ∃ above stem, stem ≠ [] ∧ names = above ++ [⟨stem ++ Text.bytes ".py"⟩] := by
  unfold isPython
  cases hl : names.getLast? with
  | none =>
      rw [List.getLast?_eq_none_iff] at hl
      simp [hl]
  | some name =>
      obtain ⟨above, rfl⟩ := List.getLast?_eq_some_iff.1 hl
      simp only [isPythonName_iff]
      constructor
      · rintro ⟨stem, hne, rfl⟩
        exact ⟨above, stem, hne, rfl⟩
      · rintro ⟨_, stem, hne, heq⟩
        exact ⟨stem, hne, (List.append_inj' heq rfl).2 |> List.singleton_inj.1⟩

structure Listed (top : Entry) (home : List Path) (path : Path) (entries : List (Path × Entry))
    (names : List Path) (whole : Path) : Prop where
  bytes : whole.bytes = path.bytes ++
    ((if path.bytes.getLast? = some slash then [] else [slash]) ++
      [slash].intercalate (names.map Path.bytes))
  parts : splitPath whole = path.parts ++ names
  leads : (∀ name ∈ names, name.bytes.length ≤ nameLimit ∧ 0 ∉ name.bytes) →
    whole.bytes.length < pathLimit → ∃ bytes, Leads (.directory entries) names (.file bytes) ∧
      lookup top home whole = .ok (.file bytes)

inductive Expansion (top : Entry) (home : List Path) (path : Path) : List Path → Prop
  | itself (other : ∀ entries, lookup top home path ≠ .ok (.directory entries)) :
      Expansion top home path [path]
  | below {entries : List (Path × Entry)} {found : List (List Path)} {whole : List Path}
      (directory : lookup top home path = .ok (.directory entries))
      (mem : ∀ names, names ∈ found ↔
        (∃ bytes, Leads (.directory entries) names (.file bytes)) ∧
          ∃ above stem, stem ≠ [] ∧ names = above ++ [⟨stem ++ Text.bytes ".py"⟩])
      (sorted : found.Pairwise pathBefore)
      (listed : List.Forall₂ (Listed top home path entries) found whole)
      (sortedPaths : whole.Pairwise fun a b => pathBefore (splitPath a) (splitPath b)) :
      Expansion top home path whole

variable {top : Entry} {home : List Path} {files other : Access} {path : Path}
  {entries : List (Path × Entry)} {found : List (List Path)}

theorem Listed.eq_join {names : List Path} {whole : Path}
    (h : Listed top home path entries names whole) : whole = path.join names :=
  Path.bytes_injective (h.bytes.trans (path.bytes_join names).symm)

theorem eq_map_join {whole : List Path}
    (h : List.Forall₂ (Listed top home path entries) found whole) :
    whole = found.map path.join := by
  induction h with
  | nil => rfl
  | cons listed _ ih => rw [listed.eq_join, ih, List.map_cons]

theorem Expansion.unique {part part' : List Path} (h : Expansion top home path part)
    (h' : Expansion top home path part') : part = part' := by
  cases h with
  | itself hno =>
      cases h' with
      | itself => rfl
      | below hd => exact absurd hd (hno _)
  | below hd mem sorted listed =>
      cases h' with
      | itself hno => exact absurd hd (hno _)
      | below hd' mem' sorted' listed' =>
          cases hd.symm.trans hd'
          have hfound := sorted.eq_of_mem_iff sorted' fun names =>
            (mem names).trans (mem' names).symm
          rw [eq_map_join listed, eq_map_join listed', hfound]

theorem listed_join (h : top.WellFormed)
    (hl : lookup top home path = .ok (.directory entries)) {names : List Path} {bytes : ByteArray}
    (hleads : Leads (.directory entries) names (.file bytes)) :
    Listed top home path entries names (path.join names) where
  bytes := path.bytes_join names
  parts := by
    obtain ⟨_, hdirectory⟩ := leads_of_lookup hl
    refine splitPath_join ?_ ((h.of_leads hdirectory).isName_of_leads hleads)
    rintro rfl
    cases hleads
  leads hnames hlong := ⟨bytes, hleads, lookup_join h hl hleads hnames hlong⟩

theorem pairwise_of_listed {whole : List Path}
    (h : List.Forall₂ (Listed top home path entries) found whole)
    (sorted : found.Pairwise pathBefore) :
    whole.Pairwise fun a b => pathBefore (splitPath a) (splitPath b) := by
  have hsplit : found.map (path.parts ++ ·) = whole.map splitPath := by
    clear sorted
    induction h with
    | nil => rfl
    | cons listed _ ih => rw [List.map_cons, List.map_cons, listed.parts, ih]
  refine List.pairwise_map.1 (hsplit ▸ List.pairwise_map.2 ?_)
  exact sorted.imp fun hab => pathBefore_append _ hab

theorem expand_expansion (h : top.WellFormed) (hw : files.Walks top home)
    (hok : ∀ e, files.below path ≠ some (.error e)) :
    ∃ part, expand files path = .ok part ∧ Expansion top home path part := by
  by_cases hd : ∃ entries, lookup top home path = .ok (.directory entries)
  · obtain ⟨entries, hl⟩ := hd
    obtain ⟨found, hb, hdistinct, hmem⟩ :=
      (hw.directory hl).resolve_left fun ⟨e, he⟩ => hok e he
    have hsorted := pairwise_sortPaths (hdistinct.filter isPython)
    have hfound : ∀ names, names ∈ sortPaths (found.filter isPython) ↔
        (∃ bytes, Leads (.directory entries) names (.file bytes)) ∧
          ∃ above stem, stem ≠ [] ∧ names = above ++ [⟨stem ++ Text.bytes ".py"⟩] := by
      intro names
      rw [mem_sortPaths, List.mem_filter, hmem, isPython_iff]
    have hlisted : List.Forall₂ (Listed top home path entries) (sortPaths (found.filter isPython))
        ((sortPaths (found.filter isPython)).map path.join) := by
      rw [List.forall₂_map_right_iff, List.forall₂_same]
      intro names hn
      obtain ⟨⟨bytes, hleads⟩, -⟩ := (hfound names).1 hn
      exact listed_join h hl hleads
    refine ⟨_, ?_, .below hl hfound hsorted hlisted (pairwise_of_listed hlisted hsorted)⟩
    rw [expand, hb]
  · have hno := not_exists.1 hd
    refine ⟨[path], ?_, .itself hno⟩
    rw [expand, hw.other hno]

theorem expand_eq_error_iff {e : WalkError} :
    expand files path = .error e ↔ files.below path = some (.error e) := by
  unfold expand
  split <;> simp_all

theorem discover_cons_of_ok {part : List Path} (h : expand files path = .ok part)
    (paths : List Path) :
    discover files (path :: paths) = (discover files paths).map (part ++ ·) := by
  rw [discover, discover, List.mapM_cons, h]
  cases paths.mapM (expand files) <;> rfl

theorem discover_cons_of_error {e : WalkError} (h : expand files path = .error e)
    (paths : List Path) : discover files (path :: paths) = .error e := by
  rw [discover, List.mapM_cons, h]
  rfl

def WalksThrough (files : Access) (paths : List Path) : Prop :=
  ∀ path ∈ paths, ∀ e, files.below path ≠ some (.error e)

def FailsFirst (files : Access) (paths : List Path) (e : WalkError) : Prop :=
  ∃ before path after, paths = before ++ path :: after ∧ WalksThrough files before ∧
    files.below path = some (.error e)

theorem expand_of_walks (h : ∀ e, files.below path ≠ some (.error e)) :
    ∃ part, expand files path = .ok part := by
  cases hx : expand files path with
  | ok part => exact ⟨part, rfl⟩
  | error e => exact absurd (expand_eq_error_iff.1 hx) (h e)

theorem discover_of_failsFirst {paths : List Path} {e : WalkError}
    (h : FailsFirst files paths e) : discover files paths = .error e := by
  obtain ⟨before, path, after, rfl, hbefore, hpath⟩ := h
  induction before with
  | nil => exact discover_cons_of_error (expand_eq_error_iff.2 hpath) after
  | cons first before ih =>
      obtain ⟨hfirst, hrest⟩ := List.forall_mem_cons.1 hbefore
      obtain ⟨part, hpart⟩ := expand_of_walks hfirst
      rw [List.cons_append, discover_cons_of_ok hpart, ih hrest]
      rfl

theorem discover_of_walksThrough {paths : List Path} (h : WalksThrough files paths) :
    ∃ parts, List.Forall₂ (fun path part => expand files path = .ok part) paths parts ∧
      discover files paths = .ok parts.flatten := by
  induction paths with
  | nil => exact ⟨[], .nil, rfl⟩
  | cons path paths ih =>
      obtain ⟨hpath, hpaths⟩ := List.forall_mem_cons.1 h
      obtain ⟨part, hpart⟩ := expand_of_walks hpath
      obtain ⟨parts, hparts, hfound⟩ := ih hpaths
      refine ⟨part :: parts, .cons hpart hparts, ?_⟩
      rw [discover_cons_of_ok hpart, hfound]
      rfl

theorem walksThrough_or_failsFirst (files : Access) (paths : List Path) :
    WalksThrough files paths ∨ ∃ e, FailsFirst files paths e := by
  induction paths with
  | nil => exact .inl (List.forall_mem_nil _)
  | cons path paths ih =>
      by_cases hpath : ∃ e, files.below path = some (.error e)
      · obtain ⟨e, he⟩ := hpath
        exact .inr ⟨e, [], path, paths, rfl, List.forall_mem_nil _, he⟩
      · rcases ih with hpaths | ⟨e, before, other, after, rfl, hbefore, hother⟩
        · exact .inl (List.forall_mem_cons.2 ⟨not_exists.1 hpath, hpaths⟩)
        · exact .inr ⟨e, path :: before, other, after, rfl,
            List.forall_mem_cons.2 ⟨not_exists.1 hpath, hbefore⟩, hother⟩

theorem discover_eq_error_iff {paths : List Path} {e : WalkError} :
    discover files paths = .error e ↔ FailsFirst files paths e := by
  refine ⟨fun h => ?_, discover_of_failsFirst⟩
  rcases walksThrough_or_failsFirst files paths with hw | ⟨e', he'⟩
  · obtain ⟨parts, -, hfound⟩ := discover_of_walksThrough hw
    cases h.symm.trans hfound
  · cases h.symm.trans (discover_of_failsFirst he')
    exact he'

theorem walksThrough_of_discover {paths found : List Path}
    (h : discover files paths = .ok found) : WalksThrough files paths := by
  refine (walksThrough_or_failsFirst files paths).resolve_right fun ⟨e, he⟩ => ?_
  cases h.symm.trans (discover_of_failsFirst he)

theorem discover_expansion (h : top.WellFormed) (hw : files.Walks top home) {paths : List Path}
    (hok : WalksThrough files paths) :
    ∃ parts, List.Forall₂ (Expansion top home) paths parts ∧
      discover files paths = .ok parts.flatten := by
  obtain ⟨parts, hparts, hfound⟩ := discover_of_walksThrough hok
  refine ⟨parts, ?_, hfound⟩
  refine ((List.forall₂_and_left _ _).2 ⟨hok, hparts⟩).imp fun {path part} ⟨hpath, hpart⟩ => ?_
  obtain ⟨part', hpart', hexpansion⟩ := expand_expansion h hw hpath
  cases hpart.symm.trans hpart'
  exact hexpansion

theorem parts_unique {paths : List Path} {parts parts' : List (List Path)}
    (h : List.Forall₂ (Expansion top home) paths parts)
    (h' : List.Forall₂ (Expansion top home) paths parts') : parts = parts' := by
  induction h generalizing parts' with
  | nil =>
      cases h'
      rfl
  | cons here _ ih =>
      cases h' with
      | cons here' later' => rw [here.unique here', ih later']

theorem discover_lists_python_files (h : top.WellFormed) (home : List Path) :
    (Access.ofTree top home).Walks top home ∧
    (∀ files : Access, files.Walks top home → ∀ paths : List Path,
      (∀ path ∈ paths, ∀ e, files.below path ≠ some (.error e)) →
      ∃ parts, List.Forall₂ (Expansion top home) paths parts ∧
        discover files paths = .ok parts.flatten) ∧
    (∀ (files : Access) (paths : List Path) (e : WalkError),
      discover files paths = .error e ↔ FailsFirst files paths e) ∧
    ∀ files other : Access, files.Walks top home → other.Walks top home →
      ∀ paths found found' : List Path, discover files paths = .ok found →
        discover other paths = .ok found' → found = found' := by
  refine ⟨Access.ofTree_walks h home, fun files hw paths hok => discover_expansion h hw hok,
    fun files paths e => discover_eq_error_iff, ?_⟩
  intro files other hw hw' paths found found' hfound hfound'
  obtain ⟨parts, hparts, heq⟩ := discover_expansion h hw (walksThrough_of_discover hfound)
  obtain ⟨parts', hparts', heq'⟩ := discover_expansion h hw' (walksThrough_of_discover hfound')
  cases hfound.symm.trans heq
  cases hfound'.symm.trans heq'
  rw [parts_unique hparts hparts']

def Access.reversed (files : Access) : Access :=
  { files with below := fun path => (files.below path).map (·.map List.reverse) }

theorem Access.reversed_below_eq_error {e : WalkError}
    (h : files.below path ≠ some (.error e)) : files.reversed.below path ≠ some (.error e) := by
  simp only [Access.reversed]
  cases hb : files.below path with
  | none => simp
  | some walked => cases walked <;> simp_all [Except.map]

theorem Access.Walks.reversed (h : files.Walks top home) : files.reversed.Walks top home where
  directory := by
    intro path entries hl
    rcases h.directory hl with ⟨e, he⟩ | ⟨found, hb, hdistinct, hmem⟩
    · exact .inl ⟨e, by simp [Access.reversed, he, Except.map]⟩
    · refine .inr ⟨found.reverse, by simp [Access.reversed, hb, Except.map],
        List.nodup_reverse.2 hdistinct, fun names => ?_⟩
      rw [List.mem_reverse, hmem]
  other hno := by simp [Access.reversed, h.other hno]

-- The name of the third file to be found is no text: its first byte begins a character of three.
def latinName : Path := ⟨0xE9 :: Text.bytes ".py"⟩

def sampleDirectory : List (Path × Entry) :=
  [("a-b.py", .file .empty), ("x.PY", .file .empty), (".py", .file .empty),
   ("a", .directory [("b.py", .file .empty)]), ("again.py", .link "a-b.py"),
   (latinName, .file .empty), ("pipe.py", .special (.ok .empty)),
   ("sub.py", .directory [(".hidden.py", .file .empty)])]

def sampleTop : Entry :=
  .directory [("place", .directory sampleDirectory), ("shortcut", .link "place"),
    ("broken", .link "nowhere")]

theorem sampleTop_wellFormed : sampleTop.WellFormed := by
  have hfile : WellFormed (.file .empty) := .file _
  have hone : ∀ name, IsName name → WellFormed (.directory [(name, .file .empty)]) := by
    intro name hn
    refine .directory (List.nodup_singleton _) ?_ ?_ <;> simpa
  have hb : IsName "b.py" := by decide +kernel
  have hhidden : IsName ".hidden.py" := by decide +kernel
  have hplace : WellFormed (.directory sampleDirectory) := by
    refine .directory (by decide +kernel) (by decide +kernel) ?_
    simp [sampleDirectory, hfile, hone, hb, hhidden, WellFormed.link, WellFormed.special]
  refine .directory (by decide +kernel) (by decide +kernel) ?_
  simp [hplace, WellFormed.link]

theorem sortPaths_sampleDirectory :
    sortPaths ((regularIn sampleDirectory).filter isPython) =
      ([["a", "b.py"], ["a-b.py"], ["sub.py", ".hidden.py"], [latinName]] : List (List Path)) := by
  refine (pairwise_sortPaths (by decide +kernel)).eq_of_mem_iff (by decide +kernel) fun names => ?_
  rw [mem_sortPaths]
  exact List.Perm.mem_iff (by decide +kernel)

theorem below_place (path : Path) (hp : path = "place" ∨ path = "shortcut/") :
    (Access.ofTree sampleTop []).below path = some (.ok (regularIn sampleDirectory)) := by
  rcases hp with rfl | rfl <;> decide +kernel

theorem below_broken : (Access.ofTree sampleTop []).below "broken" = none := by
  decide +kernel

theorem sampleTop_discovered :
    let files := (Access.ofTree sampleTop []).reversed
    sampleTop.WellFormed ∧ files.Walks sampleTop [] ∧
      discover files ["shortcut/", "broken", "place"] = .ok
        ["shortcut/a/b.py", "shortcut/a-b.py", "shortcut/sub.py/.hidden.py",
          ⟨Text.bytes "shortcut/" ++ latinName.bytes⟩, "broken", "place/a/b.py", "place/a-b.py",
          "place/sub.py/.hidden.py", ⟨Text.bytes "place/" ++ latinName.bytes⟩] := by
  intro files
  obtain ⟨hw, hexpand, -, hsame⟩ := discover_lists_python_files sampleTop_wellFormed []
  have hthrough : ∀ path ∈ (["shortcut/", "broken", "place"] : List Path), ∀ e,
      (Access.ofTree sampleTop []).below path ≠ some (.error e) := by
    simp [below_place, below_broken]
  have hwalked : discover (Access.ofTree sampleTop []) ["shortcut/", "broken", "place"] = .ok
      ["shortcut/a/b.py", "shortcut/a-b.py", "shortcut/sub.py/.hidden.py",
        ⟨Text.bytes "shortcut/" ++ latinName.bytes⟩, "broken", "place/a/b.py", "place/a-b.py",
        "place/sub.py/.hidden.py", ⟨Text.bytes "place/" ++ latinName.bytes⟩] := by
    simp only [discover, List.mapM_cons, List.mapM_nil, expand, below_place _ (.inl rfl),
      below_place _ (.inr rfl), below_broken, sortPaths_sampleDirectory]
    decide +kernel
  obtain ⟨parts, -, hparts⟩ := hexpand files hw.reversed _ fun path hp e =>
    Access.reversed_below_eq_error (hthrough path hp e)
  refine ⟨sampleTop_wellFormed, hw.reversed, ?_⟩
  rw [hparts, hsame files _ hw.reversed hw _ _ _ hparts hwalked]

end EnclosingScope.Files
