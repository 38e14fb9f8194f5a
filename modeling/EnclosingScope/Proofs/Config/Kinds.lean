import EnclosingScope.Config
import EnclosingScope.Proofs.KindSet

namespace EnclosingScope

open Text

def IsKindByte (byte : UInt8) : Prop :=
  ('a'.toUInt8 ≤ byte ∧ byte ≤ 'z'.toUInt8) ∨ byte = '_'.toUInt8

structure IsKindName (name : String) : Prop where
  nonempty : name ≠ ""
  small : ∀ byte ∈ bytes name, IsKindByte byte

def isKindChar (c : Char) : Bool :=
  ('a' ≤ c && c ≤ 'z') || c = '_'

theorem isKindByte_iff {byte : UInt8} :
    IsKindByte byte ↔ (97 ≤ byte.toNat ∧ byte.toNat ≤ 122) ∨ byte.toNat = 95 := by
  rw [IsKindByte, UInt8.le_iff_toNat_le, UInt8.le_iff_toNat_le, ← UInt8.toNat_inj]
  rfl

theorem isKindChar_iff {c : Char} :
    isKindChar c = true ↔ (97 ≤ c.toNat ∧ c.toNat ≤ 122) ∨ c.toNat = 95 := by
  have h : c = '_' ↔ c.toNat = 95 := by
    rw [← Char.val_inj, ← UInt32.toNat_inj]
    rfl
  simp only [isKindChar, Bool.or_eq_true, Bool.and_eq_true, decide_eq_true_eq, Char.le_def,
    UInt32.le_iff_toNat_le, h]
  rfl

theorem kindBytes_iff (c : Char) :
    (∀ byte ∈ String.utf8EncodeChar c, IsKindByte byte) ↔ isKindChar c = true := by
  simp only [isKindByte_iff, isKindChar_iff, String.utf8EncodeChar, Char.toNat_val]
  -- A character of several bytes has none below 128 among them.
  split
  · simp
    omega
  · split
    · simp
      omega
    · split
      · simp
        omega
      · simp
        omega

theorem isValidKind_iff_chars {name : String} :
    isValidKind name = true ↔ name ≠ "" ∧ name.toList.all isKindChar = true := by
  simp [isValidKind, isKindChar]

theorem isValidKind_iff {name : String} : isValidKind name = true ↔ IsKindName name := by
  have hsmall : name.toList.all isKindChar = true ↔ ∀ byte ∈ bytes name, IsKindByte byte := by
    rw [bytes_eq_flatMap, List.forall_mem_flatMap, List.all_eq_true]
    exact forall₂_congr fun c _ => (kindBytes_iff c).symm
  rw [isValidKind_iff_chars, hsmall]
  exact ⟨fun h => ⟨h.1, h.2⟩, fun h => ⟨h.nonempty, h.small⟩⟩

theorem isKindName_of_mem_scopeKinds {kind : String} (h : kind ∈ KindSet.scopeKinds) :
    IsKindName kind := by
  have hall : ∀ kind ∈ KindSet.scopeKinds, isValidKind kind = true := by decide +kernel
  exact isValidKind_iff.1 (hall kind h)

namespace Config

variable {c : Config} {kind : String}

theorem kinds_eq (c : Config) :
    c.kinds = (KindSet.scopes.insertAll c.extraKinds).eraseAll c.excludeKinds := rfl

theorem mem_kinds :
    kind ∈ c.kinds ↔
      (kind ∈ KindSet.scopeKinds ∨ kind ∈ c.extraKinds) ∧ kind ∉ c.excludeKinds := by
  have hsorted := KindSet.sorted_scopes.insertAll c.extraKinds
  rw [kinds_eq, hsorted.mem_eraseAll, KindSet.mem_insertAll, KindSet.mem_scopes]

theorem invalidKinds_eq_nil_iff {list : KindList} {kinds : List String} :
    invalidKinds list kinds = [] ↔ ∀ kind ∈ kinds, IsKindName kind := by
  rw [invalidKinds, List.map_eq_nil_iff, List.filter_eq_nil_iff]
  simp only [Bool.not_eq_true', Bool.not_eq_false, isValidKind_iff]

structure Sound (c : Config) : Prop where
  extraKinds : ∀ kind ∈ c.extraKinds, IsKindName kind
  excludeKinds : ∀ kind ∈ c.excludeKinds, IsKindName kind
  kinds : ∃ kind, kind ∈ c.kinds

theorem sound_default : Sound {} where
  extraKinds := List.forall_mem_nil _
  excludeKinds := List.forall_mem_nil _
  kinds := ⟨"if_statement", mem_kinds.2 ⟨.inl (by decide), List.not_mem_nil⟩⟩

theorem issues_eq_nil_iff : c.issues = [] ↔ c.Sound := by
  have hinvalid : invalidKinds .extra c.extraKinds ++ invalidKinds .exclude c.excludeKinds = [] ↔
      (∀ kind ∈ c.extraKinds, IsKindName kind) ∧ ∀ kind ∈ c.excludeKinds, IsKindName kind := by
    rw [List.append_eq_nil_iff, invalidKinds_eq_nil_iff, invalidKinds_eq_nil_iff]
  simp only [issues]
  split
  · next hempty =>
      have hkinds : ¬ ∃ kind, kind ∈ c.kinds := by
        rw [← KindSet.isEmpty_eq_false_iff, Bool.not_eq_false]
        exact (Bool.and_eq_true_iff.1 hempty).2
      exact ⟨fun h => absurd h (by simp), fun h => absurd h.kinds hkinds⟩
  · next hsome =>
      rw [hinvalid]
      constructor
      · intro h
        refine ⟨h.1, h.2, KindSet.isEmpty_eq_false_iff.1 ?_⟩
        rw [hinvalid.2 h] at hsome
        simpa using hsome
      · intro h
        exact ⟨h.extraKinds, h.excludeKinds⟩

theorem Sound.isKindName (h : c.Sound) (hk : kind ∈ c.kinds) : IsKindName kind := by
  rcases (mem_kinds.1 hk).1 with hk | hk
  · exact isKindName_of_mem_scopeKinds hk
  · exact h.extraKinds kind hk

theorem sound_of_ofText {refuse : Toml.Refusal} {text : String} (h : ofText refuse text = .ok c) :
    c.Sound := by
  rw [ofText] at h
  split at h
  · cases h
  · split at h
    · cases h
    · next config _ =>
        split at h
        · next hissues =>
            cases h
            exact issues_eq_nil_iff.1 hissues
        · cases h

end Config

end EnclosingScope
