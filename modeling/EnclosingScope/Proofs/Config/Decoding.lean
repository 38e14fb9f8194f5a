import EnclosingScope.Config
import EnclosingScope.Proofs.Toml.Keys
import EnclosingScope.Proofs.Toml.Report
import Mathlib

namespace EnclosingScope

theorem forall_or_first {α : Type} (p : α → Prop) (as : List α) :
    (∀ a ∈ as, p a) ∨
      ∃ before a after, as = before ++ a :: after ∧ (∀ b ∈ before, p b) ∧ ¬ p a := by
  induction as with
  | nil => exact .inl (List.forall_mem_nil p)
  | cons a as ih =>
      by_cases ha : p a
      · rcases ih with hall | ⟨before, b, after, rfl, hbefore, hb⟩
        · exact .inl (List.forall_mem_cons.2 ⟨ha, hall⟩)
        · exact .inr ⟨a :: before, b, after, rfl, List.forall_mem_cons.2 ⟨ha, hbefore⟩, hb⟩
      · exact .inr ⟨[], a, as, rfl, List.forall_mem_nil p, ha⟩

namespace KindList

variable {list other : KindList} {name : String}

theorem name_inj : list.name = other.name ↔ list = other := by
  cases list <;> cases other <;> simp [KindList.name]

theorem ofName?_name (list : KindList) : ofName? list.name = some list := by
  cases list <;> rfl

theorem ofName?_eq_none (h : ∀ list : KindList, name ≠ list.name) : ofName? name = none := by
  rw [ofName?, if_neg (h .extra), if_neg (h .exclude)]

end KindList

namespace Config

open Toml

def names (c : Config) : KindList → List String
  | .extra => c.extraKinds
  | .exclude => c.excludeKinds

def IsString (item : Item) : Prop :=
  ∃ name, item = .string name

def IsArray (item : Item) : Prop :=
  ∃ grows items, item = .array grows items

structure Fits (member : Key × Span × Item) : Prop where
  known : ∃ list : KindList, member.1.name = list.name
  spelled : ∃ grows items, member.2.2 = .array grows items ∧ ∀ item ∈ items, IsString item.2

structure Gives (list : KindList) (names : List String) (member : Key × Span × Item) : Prop where
  key : member.1.name = list.name
  value : ∃ grows items, member.2.2 = .array grows items ∧
    items.map (·.2) = names.map Item.string

inductive Offends : Key × Span × Item → SchemaError → Prop
  | unknown {key : Key} {value : Span × Item} (unknown : ∀ list : KindList, key.name ≠ list.name) :
      Offends (key, value) ⟨key.span, .unknown key.name ["extra_kinds", "exclude_kinds"]⟩
  | noArray {key : Key} {span : Span} {item : Item} {list : KindList}
      (known : key.name = list.name) (shape : ¬ IsArray item) :
      Offends (key, span, item) ⟨span, .kind (found item) "a sequence"⟩
  | noString {key : Key} {span place : Span} {item : Item} {list : KindList} {grows : Bool}
      {before after : List (Span × Item)} (known : key.name = list.name)
      (strings : ∀ item ∈ before, IsString item.2) (shape : ¬ IsString item) :
      Offends (key, span, .array grows (before ++ (place, item) :: after))
        ⟨place, .kind (found item) "a string"⟩

def FirstOffence (members : Members) (e : SchemaError) : Prop :=
  ∃ before member after, members = before ++ member :: after ∧
    (∀ earlier ∈ before, Fits earlier) ∧ Offends member e

variable {c : Config} {list other : KindList} {member : Key × Span × Item} {members : Members}
  {e : SchemaError}

theorem names_setKinds (c : Config) (kinds : List String) (list other : KindList) :
    (c.setKinds kinds list).names other = if other = list then kinds else c.names other := by
  cases list <;> cases other <;> rfl

theorem ext_names {c d : Config} (h : ∀ list, c.names list = d.names list) : c = d := by
  cases c
  cases d
  exact congrArg₂ Config.mk (h .extra) (h .exclude)

theorem exists_names_of_strings {items : List (Span × Item)}
    (h : ∀ item ∈ items, IsString item.2) :
    ∃ names : List String, items.map (·.2) = names.map Item.string := by
  induction items with
  | nil => exact ⟨[], rfl⟩
  | cons item items ih =>
      obtain ⟨⟨name, hname⟩, hrest⟩ := List.forall_mem_cons.1 h
      obtain ⟨names, hnames⟩ := ih hrest
      exact ⟨name :: names, by simp [hname, hnames]⟩

theorem fits_iff_gives : Fits member ↔ ∃ list names, Gives list names member := by
  constructor
  · rintro ⟨⟨list, hkey⟩, grows, items, hvalue, hstrings⟩
    obtain ⟨names, hnames⟩ := exists_names_of_strings hstrings
    exact ⟨list, names, hkey, grows, items, hvalue, hnames⟩
  · rintro ⟨list, names, hkey, grows, items, hvalue, hnames⟩
    refine ⟨⟨list, hkey⟩, grows, items, hvalue, fun item hi => ?_⟩
    have hmem : item.2 ∈ names.map Item.string := hnames ▸ List.mem_map_of_mem hi
    obtain ⟨name, -, hname⟩ := List.mem_map.1 hmem
    exact ⟨name, hname.symm⟩

theorem Gives.unique {names names' : List String} (h : Gives list names member)
    (h' : Gives other names' member) : list = other ∧ names = names' := by
  obtain ⟨hkey, grows, items, hvalue, hnames⟩ := h
  obtain ⟨hkey', grows', items', hvalue', hnames'⟩ := h'
  refine ⟨KindList.name_inj.1 (hkey.symm.trans hkey'), ?_⟩
  rw [hvalue] at hvalue'
  cases hvalue'
  have hinj : Function.Injective Item.string := fun a b heq => by
    cases heq
    rfl
  exact List.map_injective_iff.2 hinj (hnames.symm.trans hnames')

theorem fits_or_offends (member : Key × Span × Item) : Fits member ∨ ∃ e, Offends member e := by
  obtain ⟨key, span, item⟩ := member
  by_cases hknown : ∃ list : KindList, key.name = list.name
  · obtain ⟨list, hkey⟩ := hknown
    by_cases harray : IsArray item
    · obtain ⟨grows, items, rfl⟩ := harray
      rcases forall_or_first (fun item : Span × Item => IsString item.2) items with
        hall | ⟨before, ⟨place, bad⟩, after, rfl, hbefore, hbad⟩
      · exact .inl ⟨⟨list, hkey⟩, grows, items, rfl, hall⟩
      · exact .inr ⟨_, .noString hkey hbefore hbad⟩
    · exact .inr ⟨_, .noArray hkey harray⟩
  · exact .inr ⟨_, .unknown fun list hkey => hknown ⟨list, hkey⟩⟩

theorem decodeName_of_not_isString {place : Span} {item : Item} (h : ¬ IsString item) :
    decodeName (place, item) = .error ⟨place, .kind (found item) "a string"⟩ := by
  cases item with
  | string name => exact absurd ⟨name, rfl⟩ h
  | integer | float | boolean | moment | array | table => rfl

theorem decodeNames_of_not_isArray {span : Span} {item : Item} (h : ¬ IsArray item) :
    decodeNames (span, item) = .error ⟨span, .kind (found item) "a sequence"⟩ := by
  cases item with
  | array grows items => exact absurd ⟨grows, items, rfl⟩ h
  | string | integer | float | boolean | moment | table => rfl

theorem mapM_decodeName {items : List (Span × Item)} {names : List String}
    (h : items.map (·.2) = names.map Item.string) : items.mapM decodeName = .ok names := by
  induction items generalizing names with
  | nil =>
      rw [List.map_nil, eq_comm, List.map_eq_nil_iff] at h
      rw [h]
      rfl
  | cons item items ih =>
      cases names with
      | nil => cases h
      | cons name names =>
          obtain ⟨place, value⟩ := item
          obtain ⟨rfl, hrest⟩ := List.cons_eq_cons.1 h
          rw [List.mapM_cons, ih hrest]
          rfl

theorem mapM_decodeName_of_first {before after : List (Span × Item)} {place : Span} {item : Item}
    (hbefore : ∀ item ∈ before, IsString item.2) (hitem : ¬ IsString item) :
    (before ++ (place, item) :: after).mapM decodeName =
      .error ⟨place, .kind (found item) "a string"⟩ := by
  obtain ⟨names, hnames⟩ := exists_names_of_strings hbefore
  rw [List.mapM_append, mapM_decodeName hnames, List.mapM_cons, decodeName_of_not_isString hitem]
  rfl

theorem decodeMember_of_gives {names : List String} (h : Gives list names member) (c : Config) :
    decodeMember c member = .ok (c.setKinds names list) := by
  obtain ⟨key, span, item⟩ := member
  obtain ⟨hkey, grows, items, rfl, hnames⟩ := h
  simp only at hkey
  simp only [decodeMember, hkey, KindList.ofName?_name, decodeNames, mapM_decodeName hnames]
  rfl

theorem decodeMember_of_offends (h : Offends member e) (c : Config) :
    decodeMember c member = .error e := by
  cases h with
  | unknown unknown =>
      simp only [decodeMember, KindList.ofName?_eq_none unknown]
      rfl
  | noArray known shape =>
      simp only [decodeMember, known, KindList.ofName?_name, decodeNames_of_not_isArray shape]
      rfl
  | noString known strings shape =>
      simp only [decodeMember, known, KindList.ofName?_name, decodeNames,
        mapM_decodeName_of_first strings shape]
      rfl

structure Extends (c : Config) (members : Members) (d : Config) : Prop where
  listed : ∀ member ∈ members, ∀ list names, Gives list names member → d.names list = names
  absent : ∀ list : KindList, list.name ∉ members.names → d.names list = c.names list

theorem Extends.cons {d : Config} {names : List String} (hgives : Gives list names member)
    (hnew : member.1.name ∉ members.names) (h : Extends (c.setKinds names list) members d) :
    Extends c (member :: members) d where
  listed := by
    refine List.forall_mem_cons.2 ⟨fun other names' hgives' => ?_, h.listed⟩
    obtain ⟨rfl, rfl⟩ := hgives.unique hgives'
    rw [h.absent list (hgives.key ▸ hnew), names_setKinds, if_pos rfl]
  absent := by
    intro other hother
    rw [Members.names, List.map_cons, List.mem_cons, not_or] at hother
    have hne : other ≠ list := by
      rintro rfl
      exact hother.1 hgives.key.symm
    rw [h.absent other hother.2, names_setKinds, if_neg hne]

theorem foldlM_of_fits (h : ∀ member ∈ members, Fits member) (c : Config) :
    ∃ d, members.foldlM decodeMember c = .ok d ∧ (members.Distinct → Extends c members d) := by
  induction members generalizing c with
  | nil => exact ⟨c, rfl, fun _ => ⟨fun _ hm => absurd hm List.not_mem_nil, fun _ _ => rfl⟩⟩
  | cons member members ih =>
      obtain ⟨hmember, hmembers⟩ := List.forall_mem_cons.1 h
      obtain ⟨list, names, hgives⟩ := fits_iff_gives.1 hmember
      obtain ⟨d, hd, hextends⟩ := ih hmembers (c.setKinds names list)
      refine ⟨d, ?_, fun hdistinct => ?_⟩
      · rw [List.foldlM_cons, decodeMember_of_gives hgives]
        exact hd
      · obtain ⟨hnew, hrest⟩ := List.nodup_cons.1 hdistinct
        exact .cons hgives hnew (hextends hrest)

theorem ofMembers_of_firstOffence (h : FirstOffence members e) : ofMembers members = .error e := by
  obtain ⟨before, member, after, rfl, hbefore, hoffends⟩ := h
  obtain ⟨d, hd, -⟩ := foldlM_of_fits hbefore {}
  rw [ofMembers, List.foldlM_append, hd]
  change (member :: after).foldlM decodeMember d = .error e
  rw [List.foldlM_cons, decodeMember_of_offends hoffends]
  rfl

theorem fits_or_firstOffence (members : Members) :
    (∀ member ∈ members, Fits member) ∨ ∃ e, FirstOffence members e := by
  rcases forall_or_first Fits members with hall | ⟨before, member, after, rfl, hbefore, hmember⟩
  · exact .inl hall
  · obtain ⟨e, he⟩ := (fits_or_offends member).resolve_left hmember
    exact .inr ⟨e, before, member, after, rfl, hbefore, he⟩

structure Reads (members : Members) (c : Config) : Prop where
  fits : ∀ member ∈ members, Fits member
  listed : ∀ member ∈ members, ∀ list names, Gives list names member → c.names list = names
  absent : ∀ list : KindList, list.name ∉ members.names → c.names list = []

theorem Extends.reads {d : Config} (h : Extends {} members d)
    (hfits : ∀ member ∈ members, Fits member) : Reads members d where
  fits := hfits
  listed := h.listed
  absent list hl := by
    rw [h.absent list hl]
    cases list <;> rfl

theorem Reads.unique {d : Config} (h : Reads members c) (h' : Reads members d) : c = d := by
  refine ext_names fun list => ?_
  by_cases hmem : list.name ∈ members.names
  · obtain ⟨member, hm, hkey⟩ := List.mem_map.1 hmem
    obtain ⟨other, names, hgives⟩ := fits_iff_gives.1 (h.fits member hm)
    obtain rfl := KindList.name_inj.1 (hgives.key.symm.trans hkey)
    rw [h.listed member hm other names hgives, h'.listed member hm other names hgives]
  · rw [h.absent list hmem, h'.absent list hmem]

theorem Reads.of_perm {others : Members} (h : Reads members c) (hp : others.Perm members) :
    Reads others c where
  fits member hm := h.fits member (hp.mem_iff.1 hm)
  listed member hm := h.listed member (hp.mem_iff.1 hm)
  absent list hl := h.absent list fun hmem => hl ((hp.map _).mem_iff.2 hmem)

theorem ofMembers_of_fits (hd : members.Distinct) (h : ∀ member ∈ members, Fits member) :
    ∃ c, ofMembers members = .ok c ∧ Reads members c := by
  obtain ⟨c, hc, hextends⟩ := foldlM_of_fits h {}
  exact ⟨c, hc, (hextends hd).reads h⟩

theorem ofMembers_eq_error_iff : ofMembers members = .error e ↔ FirstOffence members e := by
  refine ⟨fun he => ?_, ofMembers_of_firstOffence⟩
  rcases fits_or_firstOffence members with hfits | ⟨e', hfirst⟩
  · obtain ⟨c, hc, -⟩ := foldlM_of_fits hfits {}
    cases he.symm.trans hc
  · cases he.symm.trans (ofMembers_of_firstOffence hfirst)
    exact hfirst

theorem ofMembers_eq_ok_iff (hd : members.Distinct) :
    ofMembers members = .ok c ↔ Reads members c := by
  constructor
  · intro hc
    rcases fits_or_firstOffence members with hfits | ⟨e, hfirst⟩
    · obtain ⟨d, hd, hreads⟩ := ofMembers_of_fits hd hfits
      cases hc.symm.trans hd
      exact hreads
    · cases hc.symm.trans (ofMembers_of_firstOffence hfirst)
  · intro h
    obtain ⟨d, hd, hreads⟩ := ofMembers_of_fits hd h.fits
    rw [hd, h.unique hreads]

theorem first_offence_or_lists :
    (∀ text members, Toml.parse text = some members → members.Distinct) ∧
    ∀ members : Members, members.Distinct →
      (∀ c, ofMembers members = .ok c ↔ Reads members c) ∧
      ((∃ c, ofMembers members = .ok c) ↔ ∀ member ∈ members, Fits member) ∧
      (∀ others c, others.Perm members → ofMembers members = .ok c → ofMembers others = .ok c) ∧
      (∀ e, ofMembers members = .error e ↔ FirstOffence members e) ∧
      ∀ (refuse : Refusal) (text : String), Toml.parse text = some members →
        (∀ c, ofMembers members = .ok c →
          ofText refuse text = if c.issues = [] then .ok c else .error (.invalid c.issues)) ∧
        ((∃ member ∈ members, ¬ Fits member) → ∃ e, FirstOffence members e ∧
          ofText refuse text = .error (.schema ⟨e, text⟩) ∧
          Reports text e.span e.mismatch.message (ConfigFault.schema ⟨e, text⟩).message ∧
          ∀ issues, ofText refuse text ≠ .error (.invalid issues)) := by
  refine ⟨fun _ _ => distinct_of_parse, fun members hd => ⟨fun c => ofMembers_eq_ok_iff hd,
    ⟨fun ⟨c, hc⟩ => ((ofMembers_eq_ok_iff hd).1 hc).fits, fun h => ?_⟩,
    fun others c hp hc => ?_, fun e => ofMembers_eq_error_iff,
    fun refuse text ht => ⟨fun c hc => ?_, ?_⟩⟩⟩
  · obtain ⟨c, hc, -⟩ := ofMembers_of_fits hd h
    exact ⟨c, hc⟩
  · have hothers : others.Distinct := (hp.map _).nodup_iff.2 hd
    exact (ofMembers_eq_ok_iff hothers).2 (((ofMembers_eq_ok_iff hd).1 hc).of_perm hp)
  · simp only [ofText, ht, hc]
    cases c.issues <;> rfl
  · rintro ⟨member, hm, hunfit⟩
    obtain ⟨e, hfirst⟩ := (fits_or_firstOffence members).resolve_left fun h => hunfit (h member hm)
    have htext : ofText refuse text = .error (.schema ⟨e, text⟩) := by
      simp only [ofText, ht, ofMembers_of_firstOffence hfirst]
    refine ⟨e, hfirst, htext, e.span.reports text _, fun issues hissues => ?_⟩
    rw [htext] at hissues
    cases hissues

-- An item that is no string, behind a bad name and before an unknown list.
def mixedDocument : String :=
  "exclude_kinds = [\"if_statement\"]\nextra_kinds = [\"Bad\", 7]\nother = 1\n"

def excludeMember : Key × Span × Item :=
  (⟨"exclude_kinds", ⟨0, 13⟩⟩, ⟨16, 32⟩, .array false [(⟨17, 31⟩, .string "if_statement")])

def numberMember : Key × Span × Item :=
  (⟨"extra_kinds", ⟨33, 44⟩⟩, ⟨47, 57⟩,
    .array false ([(⟨48, 53⟩, .string "Bad")] ++ (⟨55, 56⟩, .integer 7) :: []))

def unknownMember : Key × Span × Item :=
  (⟨"other", ⟨58, 63⟩⟩, ⟨66, 67⟩, .integer 1)

theorem parse_mixedDocument :
    Toml.parse mixedDocument = some [excludeMember, numberMember, unknownMember] := by
  cbv

theorem fits_excludeMember : Fits excludeMember where
  known := ⟨.exclude, rfl⟩
  spelled := ⟨_, _, rfl, by simp [IsString]⟩

theorem offends_numberMember :
    Offends numberMember ⟨⟨55, 56⟩, .kind (.integer 7) "a string"⟩ :=
  .noString (show _ = KindList.extra.name from rfl) (by simp [IsString]) (by simp [IsString])

theorem not_fits_unknownMember : ¬ Fits unknownMember := by
  rintro ⟨⟨list, hkey⟩, -⟩
  cases list <;> simp [unknownMember, KindList.name] at hkey

theorem firstOffence_mixedDocument :
    FirstOffence [excludeMember, numberMember, unknownMember]
      ⟨⟨55, 56⟩, .kind (.integer 7) "a string"⟩ :=
  ⟨[excludeMember], numberMember, [unknownMember], rfl, by simp [fits_excludeMember],
    offends_numberMember⟩

theorem message_mixedDocument :
    (ConfigFault.schema ⟨⟨⟨55, 56⟩, .kind (.integer 7) "a string"⟩, mixedDocument⟩).message =
      "TOML parse error at line 2, column 23\n  |\n2 | extra_kinds = [\"Bad\", 7]\n" ++
        "  |                       ^\ninvalid type: integer `7`, expected a string\n" := by
  decide +kernel

theorem mixedDocument_tells_first_offence :
    Toml.parse mixedDocument = some [excludeMember, numberMember, unknownMember] ∧
      Members.Distinct [excludeMember, numberMember, unknownMember] ∧
      isValidKind "Bad" = false ∧
      ∃ fault : ConfigFault, ofText .silent mixedDocument = .error fault ∧
        fault = .schema ⟨⟨⟨55, 56⟩, .kind (.integer 7) "a string"⟩, mixedDocument⟩ ∧
        fault.message =
          "TOML parse error at line 2, column 23\n  |\n2 | extra_kinds = [\"Bad\", 7]\n" ++
            "  |                       ^\ninvalid type: integer `7`, expected a string\n" := by
  obtain ⟨hdistinct, hall⟩ := first_offence_or_lists
  have hd := hdistinct _ _ parse_mixedDocument
  obtain ⟨-, -, -, herror, htext⟩ := hall _ hd
  obtain ⟨e, he, hresult, -⟩ := (htext .silent _ parse_mixedDocument).2
    ⟨unknownMember, by simp, not_fits_unknownMember⟩
  cases ((herror e).2 he).symm.trans ((herror _).2 firstOffence_mixedDocument)
  exact ⟨parse_mixedDocument, hd, by decide +kernel, _, hresult, rfl, message_mixedDocument⟩

end Config

end EnclosingScope
