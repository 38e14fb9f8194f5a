import EnclosingScope.Proofs.Json.Value

namespace EnclosingScope.Json

open Reader

inductive Codes : List Char → Nat → Prop
  | mk {a b c d : Char} {i j k l : Nat} (ha : Decimal.hexValue? a = some i)
      (hb : Decimal.hexValue? b = some j) (hc : Decimal.hexValue? c = some k)
      (hd : Decimal.hexValue? d = some l) :
      Codes [a, b, c, d] (((16 * i + j) * 16 + k) * 16 + l)

def marks : List (Char × Char) :=
  [('"', '"'), ('\\', '\\'), ('/', '/'), ('b', '\x08'), ('f', '\x0c'), ('n', '\n'), ('r', '\r'),
    ('t', '\t')]

def Unescaped (c : Char) : Prop :=
  ' ' ≤ c ∧ c ≠ '"' ∧ c ≠ '\\'

inductive Body : List Char → Prop
  | nil : Body []
  | plain {c : Char} {cs : List Char} (hc : Unescaped c) (further : Body cs) : Body (c :: cs)
  | mark {m c : Char} {cs : List Char} (hm : (m, c) ∈ marks) (further : Body cs) :
      Body ('\\' :: m :: cs)
  | unit {ds cs : List Char} {u : Nat} (hd : Codes ds u) (further : Body cs) :
      Body ('\\' :: 'u' :: (ds ++ cs))

-- One half of a pair is a unit like any other between the quotes, but spells no character.
inductive Spells : List Char → List Char → Prop
  | nil : Spells [] []
  | plain {c : Char} {cs s : List Char} (hc : Unescaped c) (further : Spells cs s) :
      Spells (c :: cs) (c :: s)
  | mark {m c : Char} {cs s : List Char} (hm : (m, c) ∈ marks) (further : Spells cs s) :
      Spells ('\\' :: m :: cs) (c :: s)
  | unit {ds cs s : List Char} {u : Nat} (hd : Codes ds u) (hu : u < 0xD800 ∨ 0xDFFF < u)
      (further : Spells cs s) : Spells ('\\' :: 'u' :: (ds ++ cs)) (Char.ofNat u :: s)
  | pair {ds es cs s : List Char} {u v : Nat} (hd : Codes ds u) (he : Codes es v)
      (hu : 0xD800 ≤ u ∧ u ≤ 0xDBFF) (hv : 0xDC00 ≤ v ∧ v ≤ 0xDFFF) (further : Spells cs s) :
      Spells ('\\' :: 'u' :: (ds ++ '\\' :: 'u' :: (es ++ cs)))
        (Char.ofNat ((u - 0xD800) * 0x400 + (v - 0xDC00) + 0x10000) :: s)

theorem Spells.body {cs s : List Char} (h : Spells cs s) : Body cs := by
  induction h with
  | nil => exact .nil
  | plain hc further ih => exact .plain hc ih
  | mark hm further ih => exact .mark hm ih
  | unit hd hu further ih => exact .unit hd ih
  | pair hd he hu hv further ih => exact .unit hd (.unit he ih)

theorem spells_self {cs : List Char} (h : ∀ c ∈ cs, Unescaped c) : Spells cs cs := by
  induction cs with
  | nil => exact .nil
  | cons c cs ih =>
      obtain ⟨hc, hcs⟩ := List.forall_mem_cons.1 h
      exact .plain hc (ih hcs)

def Digits (ds : List Char) : Prop :=
  ds ≠ [] ∧ ∀ c ∈ ds, Decimal.isDigit c = true

inductive Fraction : List Char → Prop
  | none : Fraction []
  | some {ds : List Char} (hd : Digits ds) : Fraction ('.' :: ds)

inductive Exponent : List Char → Prop
  | none : Exponent []
  | some {e : Char} {sign ds : List Char} (he : e = 'e' ∨ e = 'E')
      (hs : sign = [] ∨ sign = ['+'] ∨ sign = ['-']) (hd : Digits ds) :
      Exponent (e :: (sign ++ ds))

inductive Numeral : List Char → Prop
  | mk {negative : Bool} {whole fraction exponent : List Char} (hw : Digits whole)
      (hz : whole.head? = some '0' → whole = ['0']) (hf : Fraction fraction)
      (he : Exponent exponent) : Numeral (signed negative (whole ++ (fraction ++ exponent)))

structure Part where
  before : List Char
  core : List Char
  behind : List Char

structure Part.Spaced (p : Part) : Prop where
  before : Blank p.before
  behind : Blank p.behind

def Part.text (p : Part) : List Char :=
  p.before ++ (p.core ++ p.behind)

def sequence : Bool → List Part → List Char
  | _, [] => []
  | first, p :: ps => (if first then [] else [',']) ++ (p.text ++ sequence false ps)

def bracketed (opening : Char) (ps : List Part) (pad : List Char) (closing : Char) : List Char :=
  opening :: (sequence true ps ++ (pad ++ [closing]))

def quoted (body : List Char) : List Char :=
  '"' :: (body ++ ['"'])

structure Entry where
  before : List Char
  body : List Char
  gap : List Char
  lead : List Char
  value : List Char
  behind : List Char

structure Entry.Spaced (e : Entry) : Prop where
  before : Blank e.before
  gap : Blank e.gap
  lead : Blank e.lead
  behind : Blank e.behind

def Entry.part (e : Entry) : Part where
  before := e.before
  core := quoted e.body ++ (e.gap ++ ':' :: (e.lead ++ e.value))
  behind := e.behind

def nothing : List Char := ['n', 'u', 'l', 'l']

inductive WellFormed : List Char → Prop
  | null : WellFormed nothing
  | yes : WellFormed ['t', 'r', 'u', 'e']
  | no : WellFormed ['f', 'a', 'l', 's', 'e']
  | number {cs : List Char} (h : Numeral cs) : WellFormed cs
  | string {body : List Char} (h : Body body) : WellFormed (quoted body)
  | array {ps : List Part} {pad : List Char} (spaced : ∀ p ∈ ps, p.Spaced)
      (each : ∀ p ∈ ps, WellFormed p.core) (hpad : Blank pad) :
      WellFormed (bracketed '[' ps pad ']')
  | object {es : List Entry} {pad : List Char} (spaced : ∀ e ∈ es, e.Spaced)
      (named : ∀ e ∈ es, Body e.body) (each : ∀ e ∈ es, WellFormed e.value) (hpad : Blank pad) :
      WellFormed (bracketed '\x7b' (es.map Entry.part) pad '\x7d')

theorem Numeral.head {cs : List Char} (h : Numeral cs) :
    ∃ c tail, cs = c :: tail ∧ (c = '-' ∨ Decimal.isDigit c = true) := by
  obtain ⟨⟨hne, hd⟩, -, -, -⟩ := h
  rename_i negative whole fraction exponent
  cases negative with
  | true => exact ⟨_, _, rfl, .inl rfl⟩
  | false =>
      cases whole with
      | nil => exact absurd rfl hne
      | cons c whole => exact ⟨c, _, rfl, .inr (hd c List.mem_cons_self)⟩

-- What the first character of a value tells about the whole of it.
structure Led (c : Char) (v : List Char) : Prop where
  solid : isBlank c = false
  unclosed : c ≠ ']'
  null : c = 'n' → v = nothing
  number : c = '-' ∨ Decimal.isDigit c = true → Numeral v
  string : c = '"' → ∃ body, Body body ∧ v = quoted body
  array : c = '[' → ∃ ps pad, (∀ p ∈ ps, p.Spaced) ∧ (∀ p ∈ ps, WellFormed p.core) ∧ Blank pad ∧
    v = bracketed '[' ps pad ']'
  object : c = '\x7b' → ∃ (es : List Entry) (pad : _), (∀ e ∈ es, e.Spaced) ∧
    (∀ e ∈ es, Body e.body) ∧ (∀ e ∈ es, WellFormed e.value) ∧ Blank pad ∧
    v = bracketed '\x7b' (es.map Entry.part) pad '\x7d'

theorem WellFormed.led {v : List Char} (h : WellFormed v) : ∃ c tail, v = c :: tail ∧ Led c v := by
  cases h with
  | null => exact ⟨'n', _, rfl, rfl, by decide, fun _ => rfl, nofun, nofun, nofun, nofun⟩
  | yes => exact ⟨'t', _, rfl, rfl, by decide, nofun, nofun, nofun, nofun, nofun⟩
  | no => exact ⟨'f', _, rfl, rfl, by decide, nofun, nofun, nofun, nofun, nofun⟩
  | number h =>
      obtain ⟨c, tail, hv, hc⟩ := h.head
      have hother : ∀ d, d ≠ '-' → Decimal.isDigit d = false → ∀ {p : Prop}, c = d → p :=
        fun d hd hn p heq => absurd heq (ne_of_isDigit hc hd hn)
      exact ⟨c, tail, hv, isBlank_of_isDigit hc, ne_of_isDigit hc (by decide) (by decide),
        hother 'n' (by decide) (by decide), fun _ => h, hother '"' (by decide) (by decide),
        hother '[' (by decide) (by decide), hother '\x7b' (by decide) (by decide)⟩
  | string h =>
      exact ⟨'"', _, rfl, rfl, by decide, nofun, nofun, fun _ => ⟨_, h, rfl⟩, nofun, nofun⟩
  | array spaced each hpad =>
      exact ⟨'[', _, rfl, rfl, by decide, nofun, nofun, nofun,
        fun _ => ⟨_, _, spaced, each, hpad, rfl⟩, nofun⟩
  | object spaced named each hpad =>
      exact ⟨'\x7b', _, rfl, rfl, by decide, nofun, nofun, nofun, nofun,
        fun _ => ⟨_, _, spaced, named, each, hpad, rfl⟩⟩

theorem WellFormed.opens {v : List Char} (h : WellFormed v) : Opens ']' v := by
  obtain ⟨c, tail, hv, hled⟩ := h.led
  exact ⟨c, tail, hv, hled.solid, hled.unclosed⟩

structure Item extends Part where
  spaced : toPart.Spaced
  fine : WellFormed core

structure Member extends Entry where
  name : String
  spaced : toEntry.Spaced
  spells : Spells body name.toList
  fine : WellFormed value

structure ArrayText where
  items : List Item
  pad : List Char
  blank : Blank pad

structure ObjectText where
  members : List Member
  pad : List Char
  blank : Blank pad

def ArrayText.text (a : ArrayText) : List Char :=
  bracketed '[' (a.items.map Item.toPart) a.pad ']'

def ObjectText.text (o : ObjectText) : List Char :=
  bracketed '\x7b' ((o.members.map Member.toEntry).map Entry.part) o.pad '\x7d'

theorem ArrayText.wellFormed (a : ArrayText) : WellFormed a.text :=
  .array (List.forall_mem_map.2 fun i _ => i.spaced) (List.forall_mem_map.2 fun i _ => i.fine)
    a.blank

theorem ObjectText.wellFormed (o : ObjectText) : WellFormed o.text :=
  .object (List.forall_mem_map.2 fun m _ => m.spaced)
    (List.forall_mem_map.2 fun m _ => m.spells.body) (List.forall_mem_map.2 fun m _ => m.fine)
    o.blank

end EnclosingScope.Json
