import EnclosingScope.Proofs.Config.Kinds
import EnclosingScope.Proofs.Search.Largest

namespace EnclosingScope

open EnclosingScope.Tree SyntaxNode

def SameMembers (names others : List String) : Prop :=
  ∀ name, name ∈ names ↔ name ∈ others

instance (names others : List String) : Decidable (SameMembers names others) :=
  decidable_of_iff (names ⊆ others ∧ others ⊆ names)
    ⟨fun h _ => ⟨fun hn => h.1 hn, fun ho => h.2 ho⟩,
      fun h => ⟨fun name => (h name).1, fun name => (h name).2⟩⟩

namespace Config

variable {c other : Config} {kind : String}

theorem sorted_kinds (c : Config) : c.kinds.Sorted := by
  rw [kinds_eq]
  exact (KindSet.sorted_scopes.insertAll c.extraKinds).eraseAll c.excludeKinds

theorem contains_kinds_iff :
    c.kinds.contains kind = true ↔
      (kind ∈ KindSet.scopeKinds ∨ kind ∈ c.extraKinds) ∧ kind ∉ c.excludeKinds := by
  rw [KindSet.contains_iff, mem_kinds]

theorem not_mem_kinds (h : kind ∈ c.excludeKinds) : kind ∉ c.kinds :=
  fun hk => (mem_kinds.1 hk).2 h

theorem kinds_eq_of_sameMembers (hextra : SameMembers c.extraKinds other.extraKinds)
    (hexclude : SameMembers c.excludeKinds other.excludeKinds) : c.kinds = other.kinds := by
  refine c.sorted_kinds.ext other.sorted_kinds fun kind => ?_
  rw [mem_kinds, mem_kinds, hextra kind, hexclude kind]

theorem lists_count_by_members (c : Config) :
    (∀ kind, c.kinds.contains kind = true ↔
      (kind ∈ KindSet.scopeKinds ∨ kind ∈ c.extraKinds) ∧ kind ∉ c.excludeKinds) ∧
    (∀ kind ∈ c.extraKinds, kind ∈ c.excludeKinds →
      c.kinds.contains kind = false ∧
      ∀ {ν : Type} [SyntaxNode ν] (root node : ν) (r : LineRange),
        Search.enclosing r c.kinds root = some node → SyntaxNode.kind node ≠ kind) ∧
    ∀ other : Config, SameMembers c.extraKinds other.extraKinds →
      SameMembers c.excludeKinds other.excludeKinds →
        c.kinds = other.kinds ∧
        ∀ {ν : Type} [SyntaxNode ν] (root : ν) (r : LineRange),
          Search.enclosing r c.kinds root = Search.enclosing r other.kinds root := by
  refine ⟨fun kind => contains_kinds_iff, fun kind _ hexclude => ⟨?_, ?_⟩,
    fun other hextra hexclude => ?_⟩
  · rw [← Bool.not_eq_true, KindSet.contains_iff]
    exact not_mem_kinds hexclude
  · rintro ν _ root node r hn rfl
    exact not_mem_kinds hexclude (Search.enclosing_qualifies hn).allowed
  · have hkinds := kinds_eq_of_sameMembers hextra hexclude
    exact ⟨hkinds, fun root r => by rw [hkinds]⟩

def tidyConfig : Config where
  extraKinds := ["match_statement", "while_statement", "decorated_definition"]
  excludeKinds := ["if_statement", "while_statement"]

def untidyConfig : Config where
  extraKinds := ["while_statement", "decorated_definition", "match_statement", "while_statement"]
  excludeKinds := ["while_statement", "if_statement", "if_statement"]

theorem untidyConfig_allows_alike :
    SameMembers tidyConfig.extraKinds untidyConfig.extraKinds ∧
      SameMembers tidyConfig.excludeKinds untidyConfig.excludeKinds ∧
      tidyConfig ≠ untidyConfig ∧ tidyConfig.kinds = untidyConfig.kinds ∧
      untidyConfig.kinds.contains "match_statement" = true ∧
      untidyConfig.kinds.contains "while_statement" = false := by
  have hextra : SameMembers tidyConfig.extraKinds untidyConfig.extraKinds := by decide
  have hexclude : SameMembers tidyConfig.excludeKinds untidyConfig.excludeKinds := by decide
  obtain ⟨hiff, hbeaten, -⟩ := lists_count_by_members untidyConfig
  refine ⟨hextra, hexclude, by decide, ?_, ?_, ?_⟩
  · exact ((lists_count_by_members tidyConfig).2.2 untidyConfig hextra hexclude).1
  · exact (hiff "match_statement").2 (by decide)
  · exact (hbeaten "while_statement" (by decide) (by decide)).1

end Config

end EnclosingScope
