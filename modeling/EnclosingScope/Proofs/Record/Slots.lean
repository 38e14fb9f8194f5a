import EnclosingScope.Proofs.Json.Gathering
import EnclosingScope.Proofs.Json.Recorded
import EnclosingScope.Record
import Mathlib.Data.List.Forall2

namespace EnclosingScope

open Json Json.Reader

inductive RecordKind
  | enclosure
  | node
  | location
  | position

structure Slot where
  name : String
  optional : Bool
  holds : Option RecordKind

namespace RecordKind

def slots : RecordKind → List Slot
  | enclosure => [⟨"enclosingContext", true, some node⟩]
  | node =>
      [⟨"type", false, none⟩, ⟨"loc", false, some location⟩, ⟨"leadingComments", true, none⟩,
        ⟨"innerComments", true, none⟩, ⟨"trailingComments", true, none⟩, ⟨"start", true, none⟩,
        ⟨"end", true, none⟩]
  | location => [⟨"start", false, some position⟩, ⟨"end", false, some position⟩]
  | position => [⟨"line", false, none⟩, ⟨"column", false, none⟩]

def Record : RecordKind → Type
  | enclosure => Enclosure
  | node => NodeRecord
  | location => Location
  | position => Position

def shape : (k : RecordKind) → Shape k.Record
  | enclosure => Enclosure.shape
  | node => NodeRecord.shape
  | location => Location.shape
  | position => Position.shape

end RecordKind

-- A record in a field is read by its own shape, whatever is made of it then.
structure Slot.Fits {α : Type} (slot : Slot) (field : Json.Field α) : Prop where
  name : field.name = slot.name
  required : field.required = !slot.optional
  carries : ∀ k ∈ slot.holds, ∀ depth, ∃ f, ∀ v, WellFormed v → v ≠ nothing →
    outcome (field.read depth) v = (outcome (k.shape.read depth) v).map f

section

variable {α β : Type} {name : String} {put : β → α → α}

theorem uniform_of {reader : Nat → Reader β} {required : Bool}
    (h : ∀ depth, Uniform (reader depth)) (depth : Nat) :
    Uniform ((Field.of name required reader put).read depth) :=
  (h depth).map put

theorem put_of_outcome {reader : Nat → Reader β} {required : Bool} {depth : Nat} {v : List Char}
    {p : α → α} (h : outcome ((Field.of name required reader put).read depth) v = some p) :
    ∃ b, p = put b := by
  obtain ⟨b, _, -, hpure⟩ := takes_bind_iff.1 (outcome_eq_some_iff.1 h)
  exact ⟨b, (takes_pure_iff.1 hpure).1⟩

theorem commutes_of {γ : Type} {other : String} {required required' : Bool}
    {reader : Nat → Reader β} {reader' : Nat → Reader γ} {put' : γ → α → α}
    (h : ∀ b c a, put b (put' c a) = put' c (put b a)) :
    (Field.of name required reader put).Commutes (Field.of other required' reader' put') := by
  intro depth v w p q hp hq a
  obtain ⟨b, rfl⟩ := put_of_outcome hp
  obtain ⟨c, rfl⟩ := put_of_outcome hq
  exact h b c a

theorem idle_of {β : Type} {put : Option β → α → α} {reader : Nat → Reader β} {a : α}
    (h : put none a = a) :
    (Field.of name false (fun depth => optional (reader depth)) put).Idle a :=
  fun _ => ⟨put none, (decides_optional_null.map put).outcome_eq, h⟩

theorem outcome_of {reader : Nat → Reader β} {required : Bool} {depth : Nat} {v : List Char}
    (h : Certain (reader depth) v) :
    outcome ((Field.of name required reader put).read depth) v =
      (outcome (reader depth) v).map put :=
  (h.decides.map put).outcome_eq

end

namespace Position

theorem independent : Position.shape.Independent where
  uniform := List.forall_mem_cons.2 ⟨uniform_of fun _ => uniform_count,
    List.forall_mem_singleton.2 (uniform_of fun _ => uniform_count)⟩
  nodup := by decide
  commute := List.pairwise_pair.2 (commutes_of fun _ _ _ => rfl)
  idle := List.forall_mem_cons.2 ⟨nofun, List.forall_mem_singleton.2 nofun⟩

end Position

namespace Location

theorem independent : Location.shape.Independent where
  uniform := List.forall_mem_cons.2 ⟨uniform_of (Shape.uniform_read Position.independent.uniform),
    List.forall_mem_singleton.2 (uniform_of (Shape.uniform_read Position.independent.uniform))⟩
  nodup := by decide
  commute := List.pairwise_pair.2 (commutes_of fun _ _ _ => rfl)
  idle := List.forall_mem_cons.2 ⟨nofun, List.forall_mem_singleton.2 nofun⟩

end Location

namespace NodeRecord

theorem uniform_comments (depth : Nat) : Uniform (optional (values depth)) :=
  uniform_optional (uniform_values depth)

theorem uniform_offset : Uniform (optional count) :=
  uniform_optional uniform_count

theorem independent : NodeRecord.shape.Independent where
  uniform := List.forall_mem_cons.2 ⟨uniform_of fun _ => uniform_text,
    List.forall_mem_cons.2 ⟨uniform_of (Shape.uniform_read Location.independent.uniform),
    List.forall_mem_cons.2 ⟨uniform_of uniform_comments,
    List.forall_mem_cons.2 ⟨uniform_of uniform_comments,
    List.forall_mem_cons.2 ⟨uniform_of uniform_comments,
    List.forall_mem_cons.2 ⟨uniform_of fun _ => uniform_offset,
    List.forall_mem_singleton.2 (uniform_of fun _ => uniform_offset)⟩⟩⟩⟩⟩⟩
  nodup := by decide
  commute := by
    refine .cons ?kind (.cons ?location (.cons ?leading (.cons ?inner (.cons ?trailing
      (.cons ?start (List.pairwise_singleton _ _))))))
    -- Each field writes a part of the record that no later one writes.
    case kind | location | leading | inner | trailing | start => simp [commutes_of]
  idle := List.forall_mem_cons.2 ⟨nofun,
    List.forall_mem_cons.2 ⟨nofun,
    List.forall_mem_cons.2 ⟨fun _ => idle_of rfl,
    List.forall_mem_cons.2 ⟨fun _ => idle_of rfl,
    List.forall_mem_cons.2 ⟨fun _ => idle_of rfl,
    List.forall_mem_cons.2 ⟨fun _ => idle_of rfl,
    List.forall_mem_singleton.2 fun _ => idle_of rfl⟩⟩⟩⟩⟩⟩

end NodeRecord

namespace Enclosure

theorem uniform_node (depth : Nat) : Uniform (optional (NodeRecord.shape.read depth)) :=
  uniform_optional (Shape.uniform_read NodeRecord.independent.uniform depth)

theorem independent : Enclosure.shape.Independent where
  uniform := List.forall_mem_singleton.2 (uniform_of uniform_node)
  nodup := List.nodup_singleton _
  commute := List.pairwise_singleton _ _
  idle := List.forall_mem_singleton.2 fun _ => idle_of rfl

end Enclosure

namespace RecordKind

theorem independent (k : RecordKind) : k.shape.Independent := by
  cases k with
  | enclosure => exact Enclosure.independent
  | node => exact NodeRecord.independent
  | location => exact Location.independent
  | position => exact Position.independent

theorem uniform_read (k : RecordKind) (depth : Nat) : Uniform (k.shape.read depth) :=
  Shape.uniform_read k.independent.uniform depth

end RecordKind

theorem carries_record {α : Type} {k : RecordKind} {name : String} {put : k.Record → α → α} :
    ∀ k' ∈ some k, ∀ depth, ∃ f, ∀ v, WellFormed v → v ≠ nothing →
      outcome ((Field.of name true k.shape.read put).read depth) v =
        (outcome (k'.shape.read depth) v).map f := by
  rintro _ ⟨⟩ depth
  exact ⟨put, fun v hv _ => outcome_of ((k.uniform_read depth).certain v hv)⟩

theorem carries_optional {α : Type} {k : RecordKind} {name : String}
    {put : Option k.Record → α → α} :
    ∀ k' ∈ some k, ∀ depth, ∃ f, ∀ v, WellFormed v → v ≠ nothing →
      outcome ((Field.of name false (fun d => optional (k.shape.read d)) put).read depth) v =
        (outcome (k'.shape.read depth) v).map f := by
  rintro _ ⟨⟩ depth
  refine ⟨fun r => put (some r), fun v hv hne => ?_⟩
  have hoptional := decides_optional (k.uniform_read depth) hv hne
  rw [outcome_of hoptional.certain, hoptional.outcome_eq, Option.map_map]
  rfl

namespace RecordKind

theorem fits (k : RecordKind) : List.Forall₂ Slot.Fits k.slots k.shape.fields := by
  cases k with
  | enclosure => exact .cons ⟨rfl, rfl, carries_optional (k := node)⟩ .nil
  | node =>
      exact .cons ⟨rfl, rfl, nofun⟩ (.cons ⟨rfl, rfl, carries_record (k := location)⟩
        (.cons ⟨rfl, rfl, nofun⟩ (.cons ⟨rfl, rfl, nofun⟩ (.cons ⟨rfl, rfl, nofun⟩
          (.cons ⟨rfl, rfl, nofun⟩ (.cons ⟨rfl, rfl, nofun⟩ .nil))))))
  | location =>
      exact .cons ⟨rfl, rfl, carries_record (k := position)⟩
        (.cons ⟨rfl, rfl, carries_record (k := position)⟩ .nil)
  | position => exact .cons ⟨rfl, rfl, nofun⟩ (.cons ⟨rfl, rfl, nofun⟩ .nil)

theorem length_fields (k : RecordKind) : k.shape.fields.length = k.slots.length :=
  k.fits.length_eq.symm

theorem names_shape (k : RecordKind) : k.shape.names = k.slots.map Slot.name := by
  have hsame : ∀ {slots : List Slot} {fields : List (Json.Field k.Record)},
      List.Forall₂ Slot.Fits slots fields → fields.map Field.name = slots.map Slot.name := by
    intro slots fields h
    induction h with
    | nil => rfl
    | cons hfits further ih => rw [List.map_cons, List.map_cons, hfits.name, ih]
  exact hsame k.fits

theorem field_at {k : RecordKind} {n : Nat} {slot : Slot} (h : k.slots[n]? = some slot) :
    ∃ field, k.shape.fields[n]? = some field ∧ slot.Fits field := by
  obtain ⟨hn, hslot⟩ := List.getElem?_eq_some_iff.1 h
  have hn' : n < k.shape.fields.length := by rwa [k.length_fields]
  refine ⟨_, List.getElem?_eq_getElem hn', ?_⟩
  have hfits := (List.forall₂_iff_get.1 k.fits).2 n hn hn'
  rw [← hslot]
  exact hfits

theorem field_of_slot {k : RecordKind} {slot : Slot} (h : slot ∈ k.slots) :
    ∃ field ∈ k.shape.fields, slot.Fits field := by
  obtain ⟨n, hn⟩ := List.mem_iff_getElem?.1 h
  obtain ⟨field, hfield, hfits⟩ := field_at hn
  exact ⟨field, List.mem_of_getElem? hfield, hfits⟩

end RecordKind

namespace Slot.Fits

variable {α : Type} {slot : Slot} {field : Json.Field α} {k : RecordKind} {v w : List Char}
  {depth : Nat}

theorem carry (hf : slot.Fits field) (hholds : slot.holds = some k) (hv : RecordText v)
    (hw : RecordText w)
    (h : ∀ {depth r}, outcome (k.shape.read depth) v = some r →
      outcome (k.shape.read depth) w = some r)
    {p : α → α} (hp : outcome (field.read depth) v = some p) :
    outcome (field.read depth) w = some p := by
  obtain ⟨f, hcarries⟩ := hf.carries k hholds depth
  rw [hcarries v hv.wellFormed hv.ne_nothing] at hp
  obtain ⟨r, hr, rfl⟩ := Option.map_eq_some_iff.1 hp
  rw [hcarries w hw.wellFormed hw.ne_nothing, h hr, Option.map_some]

theorem refuse (hf : slot.Fits field) (hholds : slot.holds = some k) (hv : RecordText v)
    (h : outcome (k.shape.read depth) v = none) : outcome (field.read depth) v = none := by
  obtain ⟨f, hcarries⟩ := hf.carries k hholds depth
  rw [hcarries v hv.wellFormed hv.ne_nothing, h, Option.map_none]

end Slot.Fits

end EnclosingScope
