import EnclosingScope.Proofs.Config.Kinds
import Mathlib.Logic.Basic

namespace EnclosingScope

instance (name : String) : Decidable (IsKindName name) := decidable_of_iff _ isValidKind_iff

def badNames (names : List String) : List String :=
  names.filter fun name => ¬ IsKindName name

theorem badNames_eq_nil_iff {names : List String} :
    badNames names = [] ↔ ∀ name ∈ names, IsKindName name := by
  simp [badNames]

namespace Config

variable {c : Config}

def misnamed (c : Config) : List Issue :=
  (badNames c.extraKinds).map (.invalidKind .extra) ++
    (badNames c.excludeKinds).map (.invalidKind .exclude)

def WellNamed (c : Config) : Prop :=
  ∀ kind ∈ c.extraKinds ++ c.excludeKinds, IsKindName kind

def Exhausted (c : Config) : Prop :=
  (∀ kind ∈ KindSet.scopeKinds, kind ∈ c.excludeKinds) ∧
    ∀ kind ∈ c.extraKinds, kind ∈ c.excludeKinds

theorem invalidKinds_eq (list : KindList) (names : List String) :
    invalidKinds list names = (badNames names).map (.invalidKind list) := by
  have hfilter : (names.filter fun name => !isValidKind name) = badNames names := by
    refine List.filter_congr fun name _ => ?_
    simp [← isValidKind_iff]
  rw [invalidKinds, hfilter]

theorem misnamed_eq_nil_iff : c.misnamed = [] ↔ c.WellNamed := by
  rw [misnamed, List.append_eq_nil_iff, List.map_eq_nil_iff, List.map_eq_nil_iff,
    badNames_eq_nil_iff, badNames_eq_nil_iff, WellNamed, List.forall_mem_append]

theorem emptyAllowList_not_mem_misnamed : .emptyAllowList ∉ c.misnamed := by
  intro h
  simp [misnamed] at h

theorem exists_mem_kinds_iff : (∃ kind, kind ∈ c.kinds) ↔ ¬ c.Exhausted := by
  rw [Exhausted, ← List.forall_mem_append]
  simp [mem_kinds]

theorem isEmpty_kinds_iff : c.kinds.isEmpty = true ↔ c.Exhausted := by
  have h := exists_mem_kinds_iff (c := c)
  rwa [← KindSet.isEmpty_eq_false_iff, ← Bool.not_eq_true, not_iff_not] at h

theorem issues_of_wellNamed (h : c.WellNamed) :
    c.issues = if c.kinds.isEmpty then [.emptyAllowList] else [] := by
  rw [issues, invalidKinds_eq, invalidKinds_eq, ← misnamed, misnamed_eq_nil_iff.2 h]
  rfl

theorem issues_of_not_wellNamed (h : ¬ c.WellNamed) : c.issues = c.misnamed := by
  have hne : c.misnamed.isEmpty = false := by
    rw [List.isEmpty_eq_false_iff]
    exact fun heq => h (misnamed_eq_nil_iff.1 heq)
  rw [issues, invalidKinds_eq, invalidKinds_eq, ← misnamed]
  simp [hne]

theorem issues_eq_emptyAllowList_iff :
    c.issues = [.emptyAllowList] ↔ c.WellNamed ∧ c.Exhausted := by
  by_cases hnamed : c.WellNamed
  · rw [issues_of_wellNamed hnamed, ← isEmpty_kinds_iff]
    cases c.kinds.isEmpty <;> simp [hnamed]
  · rw [issues_of_not_wellNamed hnamed]
    have hne : c.misnamed ≠ [.emptyAllowList] := by
      intro heq
      exact emptyAllowList_not_mem_misnamed (heq ▸ List.mem_singleton_self _)
    simp [hne, hnamed]

theorem invalidKind_not_mem_issues (h : .emptyAllowList ∈ c.issues) (list : KindList)
    (kind : String) : .invalidKind list kind ∉ c.issues := by
  by_cases hnamed : c.WellNamed
  · rw [issues_of_wellNamed hnamed]
    cases c.kinds.isEmpty <;> simp
  · rw [issues_of_not_wellNamed hnamed] at h
    exact absurd h emptyAllowList_not_mem_misnamed

theorem issues_tell_every_bad_name (c : Config) :
    (c.issues = [] ↔ (∀ kind ∈ c.extraKinds, IsKindName kind) ∧
      (∀ kind ∈ c.excludeKinds, IsKindName kind) ∧
      ∃ kind, (kind ∈ KindSet.scopeKinds ∨ kind ∈ c.extraKinds) ∧ kind ∉ c.excludeKinds) ∧
    (¬ c.WellNamed →
      c.issues = (c.extraKinds.filter fun kind => ¬ IsKindName kind).map (.invalidKind .extra) ++
        (c.excludeKinds.filter fun kind => ¬ IsKindName kind).map (.invalidKind .exclude) ∧
      c.issues ≠ []) ∧
    (c.WellNamed → c.issues ≠ [] → c.issues = [.emptyAllowList]) ∧
    (c.issues = [.emptyAllowList] ↔ c.WellNamed ∧
      (∀ kind ∈ KindSet.scopeKinds, kind ∈ c.excludeKinds) ∧
      ∀ kind ∈ c.extraKinds, kind ∈ c.excludeKinds) ∧
    (.emptyAllowList ∈ c.issues → ∀ list kind, .invalidKind list kind ∉ c.issues) := by
  refine ⟨?_, fun h => ⟨issues_of_not_wellNamed h, ?_⟩, fun h hne => ?_,
    issues_eq_emptyAllowList_iff, invalidKind_not_mem_issues⟩
  · simp only [← mem_kinds]
    rw [issues_eq_nil_iff]
    exact ⟨fun h => ⟨h.extraKinds, h.excludeKinds, h.kinds⟩, fun h => ⟨h.1, h.2.1, h.2.2⟩⟩
  · rw [issues_of_not_wellNamed h]
    exact fun heq => h (misnamed_eq_nil_iff.1 heq)
  · rw [issues_of_wellNamed h] at hne ⊢
    cases hempty : c.kinds.isEmpty with
    | true => rfl
    | false => exact absurd (by rw [hempty]; rfl) hne

-- No kind is left here either, which is not said besides the bad names.
def spoiledConfig : Config where
  extraKinds := ["Case", "match_statement", "", "Case"]
  excludeKinds := "match_statement" :: "no-kind" :: KindSet.scopeKinds

def emptiedConfig : Config where
  extraKinds := ["match_statement"]
  excludeKinds := "match_statement" :: KindSet.scopeKinds

def rescuedConfig : Config where
  extraKinds := ["match_statement"]
  excludeKinds := KindSet.scopeKinds

theorem spoiledConfig_issues :
    ¬ spoiledConfig.WellNamed ∧
      spoiledConfig.issues =
        [.invalidKind .extra "Case", .invalidKind .extra "", .invalidKind .extra "Case",
         .invalidKind .exclude "no-kind"] ∧
      emptiedConfig.WellNamed ∧ emptiedConfig.issues = [.emptyAllowList] ∧
      rescuedConfig.issues = [] := by
  have hspoiled : ¬ spoiledConfig.WellNamed := by
    unfold WellNamed
    decide +kernel
  have hemptied : emptiedConfig.WellNamed := by
    unfold WellNamed
    decide +kernel
  have hrescued : rescuedConfig.WellNamed := by
    unfold WellNamed
    decide +kernel
  rw [WellNamed, List.forall_mem_append] at hrescued
  refine ⟨hspoiled, ?_, hemptied, ?_, ?_⟩
  · rw [((issues_tell_every_bad_name spoiledConfig).2.1 hspoiled).1]
    decide +kernel
  · exact (issues_tell_every_bad_name emptiedConfig).2.2.2.1.2
      ⟨hemptied, by decide, by decide⟩
  · exact (issues_tell_every_bad_name rescuedConfig).1.2
      ⟨hrescued.1, hrescued.2, "match_statement", by decide⟩

end Config

end EnclosingScope
