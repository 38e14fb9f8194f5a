import EnclosingScope.Finder
import EnclosingScope.Proofs.Config.Kinds
import EnclosingScope.Proofs.Search.Largest

namespace EnclosingScope

open EnclosingScope.Tree SyntaxNode Python

def IsPunctuation (kind : String) : Prop :=
  ∃ c ∈ kind.toList, c.isAlphanum = false ∧ c ≠ '_'

theorem isAlphanum_of_isKindChar {c : Char} (h : isKindChar c = true) :
    c.isAlphanum = true ∨ c = '_' := by
  rw [isKindChar, Bool.or_eq_true, decide_eq_true_eq] at h
  rcases h with h | h
  · left
    have hlower : c.isLower = true := h
    change (c.isUpper || c.isLower || c.isDigit) = true
    rw [hlower, Bool.or_true, Bool.true_or]
  · exact .inr h

namespace IsKindName

variable {name : String}

theorem not_punctuation (h : IsKindName name) : ¬ IsPunctuation name := by
  rintro ⟨c, hc, hletter, hunderscore⟩
  have hall := (isValidKind_iff_chars.1 (isValidKind_iff.2 h)).2
  rcases isAlphanum_of_isKindChar (List.all_eq_true.1 hall c hc) with hk | hk
  · rw [hk] at hletter
    cases hletter
  · exact hunderscore hk

theorem ne_errorKind (h : IsKindName name) : name ≠ errorKind := by
  rintro rfl
  have hinvalid : isValidKind errorKind = false := by decide +kernel
  rw [← isValidKind_iff, hinvalid] at h
  cases h

end IsKindName

namespace Config

variable {c : Config} {kind : String}

structure Admits (c : Config) (kind : String) : Prop where
  listed : kind ∈ KindSet.scopeKinds ∨ kind ∈ c.extraKinds
  kept : kind ∉ c.excludeKinds
  isKindName : IsKindName kind

theorem Sound.admits (h : c.Sound) (hk : kind ∈ c.kinds) : c.Admits kind where
  listed := (mem_kinds.1 hk).1
  kept := (mem_kinds.1 hk).2
  isKindName := h.isKindName hk

theorem Sound.admits_of_enclosing {ν : Type} [SyntaxNode ν] (h : c.Sound) {root node : ν}
    {r : LineRange} (hn : Search.enclosing r c.kinds root = some node) :
    c.Admits (SyntaxNode.kind node) :=
  h.admits (Search.enclosing_qualifies hn).allowed

end Config

theorem Finder.attempt_eq_some {finder : Finder} {source : String} {r : LineRange}
    {record : NodeRecord} (h : (finder.attempt source r).result = .ok (some record)) :
    ∃ tree node, finder.parser source = .ok tree ∧
      Search.enclosing r finder.kinds tree = some node ∧ record = NodeRecord.ofNode node := by
  rw [attempt, search] at h
  cases hp : finder.parser source with
  | error e =>
      rw [hp] at h
      cases h
  | ok tree =>
      rw [hp] at h
      obtain ⟨node, hn, hr⟩ := Option.map_eq_some_iff.1 (Except.ok.inj h)
      exact ⟨tree, node, rfl, hn, hr.symm⟩

theorem loaded_config_admits_reported {refuse : Toml.Refusal} {text : String} {c : Config}
    (h : Config.ofText refuse text = .ok c) {engine : Engine} {parser : Parser}
    (he : engine.create = .ok parser) :
    Finder.create engine c.kinds = .ok ⟨parser, c.kinds⟩ ∧
    c.kinds.toList ≠ [] ∧
    (∀ kind ∈ c.kinds.toList, IsKindName kind) ∧
    (∀ {ν : Type} [SyntaxNode ν] (root : ν) (r : LineRange) (node : ν),
      Search.enclosing r c.kinds root = some node → c.Admits (kind node)) ∧
    (∀ {ν : Type} [SyntaxNode ν] (root : ν) (r : LineRange) (node : ν),
      kind node = errorKind ∨ IsPunctuation (kind node) ∨ kind node ∈ c.excludeKinds →
        Search.enclosing r c.kinds root ≠ some node) ∧
    ∀ (source : String) (r : LineRange) (record : NodeRecord),
      ((Finder.mk parser c.kinds).attempt source r).result = .ok (some record) →
        c.Admits record.kind := by
  have hsound := Config.sound_of_ofText h
  refine ⟨by rw [Finder.create, he]; rfl, ?_, ?_, ?_, ?_, ?_⟩
  · obtain ⟨kind, hk⟩ := hsound.kinds
    exact List.ne_nil_of_mem hk
  · exact fun kind hk => hsound.isKindName hk
  · exact fun root r node hn => hsound.admits_of_enclosing hn
  · intro ν _ root r node hout hn
    have hadmits := hsound.admits_of_enclosing hn
    rcases hout with hk | hk | hk
    · exact hadmits.isKindName.ne_errorKind hk
    · exact hadmits.isKindName.not_punctuation hk
    · exact hadmits.kept hk
  · intro source r record hr
    obtain ⟨tree, node, _, hn, rfl⟩ := Finder.attempt_eq_some hr
    exact hsound.admits_of_enclosing hn

def matchText : String :=
  "extra_kinds = [\"match_statement\"]\nexclude_kinds = [\"if_statement\"]\n"

def matchConfig : Config :=
  ⟨["match_statement"], ["if_statement"]⟩

theorem ofText_matchText : Config.ofText .silent matchText = .ok matchConfig := by
  have h : (Config.ofText .silent matchText).toOption = some matchConfig := by decide +kernel
  cases hc : Config.ofText .silent matchText with
  | error e =>
      rw [hc] at h
      cases h
  | ok c =>
      rw [hc] at h
      exact congrArg Except.ok (Option.some.inj h)

def matchLoop : SyntaxTree :=
  .node "for_statement" ⟨2, 0⟩ ⟨4, 0⟩ false []

def matchBlock : SyntaxTree :=
  .node "match_statement" ⟨1, 0⟩ ⟨5, 0⟩ false [matchLoop]

def excludedBlock : SyntaxTree :=
  .node "if_statement" ⟨1, 0⟩ ⟨7, 0⟩ false [matchBlock]

def openBracket : SyntaxTree :=
  .node "(" ⟨0, 0⟩ ⟨8, 0⟩ false []

def brokenSource : SyntaxTree :=
  .node errorKind ⟨0, 0⟩ ⟨9, 0⟩ true [openBracket, excludedBlock]

theorem brokenSource_preorder :
    preorder brokenSource =
      [brokenSource, openBracket, excludedBlock] ++ matchBlock :: [matchLoop] := by
  simp [brokenSource, openBracket, excludedBlock, matchBlock, matchLoop, preorder_eq]

theorem enclosing_brokenSource :
    Search.enclosing ⟨4, 5, by decide, by decide⟩ matchConfig.kinds brokenSource =
      some matchBlock := by
  have hkinds : ∀ other ∈ [brokenSource, openBracket, excludedBlock],
      ¬ kind other ∈ matchConfig.kinds := by
    simp only [Config.mem_kinds]
    decide +kernel
  have hspan : ∀ other ∈ [matchLoop], Search.span other ≤ Search.span matchBlock := by decide
  have hmatch : kind matchBlock ∈ matchConfig.kinds :=
    Config.mem_kinds.2 ⟨.inr (by decide), by decide⟩
  refine Search.enclosing_eq_iff.2
    ⟨_, _, brokenSource_preorder, ⟨hmatch, by decide, by decide⟩, ?_, ?_⟩
  · exact fun other ho hq => absurd hq.allowed (hkinds other ho)
  · exact fun other ho _ => hspan other ho

theorem brokenSource_reports_match :
    let r : LineRange := ⟨4, 5, by decide, by decide⟩
    Config.ofText .silent matchText = .ok matchConfig ∧ engine.create = .ok parse ∧
      Search.enclosing r matchConfig.kinds brokenSource = some matchBlock ∧
      matchConfig.Admits "match_statement" ∧
      ∀ larger ∈ [brokenSource, openBracket, excludedBlock],
        Search.span matchBlock < Search.span larger ∧
          Search.enclosing r matchConfig.kinds brokenSource ≠ some larger := by
  intro r
  have he : engine.create = .ok parse := rfl
  obtain ⟨-, -, -, hadmits, hnever, -⟩ := loaded_config_admits_reported ofText_matchText he
  refine ⟨ofText_matchText, he, enclosing_brokenSource, ?_, fun larger hl => ⟨?_, ?_⟩⟩
  · exact hadmits brokenSource r matchBlock enclosing_brokenSource
  · have hall : ∀ larger ∈ [brokenSource, openBracket, excludedBlock],
        Search.span matchBlock < Search.span larger := by decide
    exact hall larger hl
  · refine hnever brokenSource r larger ?_
    simp only [List.mem_cons, List.not_mem_nil, or_false] at hl
    rcases hl with rfl | rfl | rfl
    · exact .inl rfl
    · exact .inr (.inl ⟨'(', by decide, by decide, by decide⟩)
    · exact .inr (.inr (by decide))

end EnclosingScope
