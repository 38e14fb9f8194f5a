import EnclosingScope.Json.Shape
import EnclosingScope.Proofs.Json.Grammar

namespace EnclosingScope.Json.Reader

variable {α β : Type} {reader : Reader α} {next : α → Reader β} {a : α} {b : β}
  {cs rest mid : List Char}

theorem Takes.unique {a' : α} {rest' : List Char} (h : Takes reader cs a rest)
    (h' : Takes reader cs a' rest') : a = a' ∧ rest = rest' := by
  have hsame : (a, rest) = (a', rest') := Except.ok.inj (h.symm.trans h')
  exact Prod.mk.inj hsame

theorem Takes.bind_iff (h : Takes reader cs a mid) :
    Takes (reader >>= next) cs b rest ↔ Takes (next a) mid b rest := by
  constructor
  · intro htakes
    obtain ⟨a', mid', hreader, hnext⟩ := takes_bind_iff.1 htakes
    obtain ⟨rfl, rfl⟩ := h.unique hreader
    exact hnext
  · exact h.bind

-- What stands behind may be anything that stops a number.
def Decides (reader : Reader α) (w : List Char) (o : Option α) : Prop :=
  ∀ rest, Stops rest → ∀ a mid, Takes reader (w ++ rest) a mid ↔ o = some a ∧ rest = mid

variable {w w' : List Char} {o : Option α}

theorem decides_some (h : ∀ rest, Stops rest → Takes reader (w ++ rest) a rest) :
    Decides reader w (some a) := by
  intro rest hr a' mid
  rw [Option.some_inj]
  constructor
  · exact (h rest hr).unique
  · rintro ⟨rfl, rfl⟩
    exact h rest hr

theorem decides_none (h : ∀ rest a mid, ¬ Takes reader (w ++ rest) a mid) :
    Decides reader w none := by
  intro rest _ a mid
  constructor
  · exact fun htakes => absurd htakes (h rest a mid)
  · rintro ⟨ha, -⟩
    cases ha

theorem Decides.takes (h : Decides reader w (some a)) (hr : Stops rest) :
    Takes reader (w ++ rest) a rest :=
  (h rest hr a rest).2 ⟨rfl, rfl⟩

theorem Decides.bind {f : α → Option β} (h : Decides reader w o)
    (hs : ∀ rest, Stops rest → Stops (w' ++ rest)) (hn : ∀ a ∈ o, Decides (next a) w' (f a)) :
    Decides (reader >>= next) (w ++ w') (o.bind f) := by
  intro rest hr b mid
  rw [takes_bind_iff, List.append_assoc, Option.bind_eq_some_iff]
  constructor
  · rintro ⟨a, mid', hreader, hnext⟩
    obtain ⟨ha, rfl⟩ := (h _ (hs rest hr) a mid').1 hreader
    obtain ⟨hb, hmid⟩ := (hn a ha rest hr b mid).1 hnext
    exact ⟨⟨a, ha, hb⟩, hmid⟩
  · rintro ⟨⟨a, ha, hb⟩, hmid⟩
    exact ⟨a, _, (h _ (hs rest hr) a _).2 ⟨ha, rfl⟩, (hn a ha rest hr b mid).2 ⟨hb, hmid⟩⟩

theorem Decides.bind_nil {f : α → Option β} (h : Decides reader w o)
    (hn : ∀ a ∈ o, Decides (next a) [] (f a)) : Decides (reader >>= next) w (o.bind f) := by
  have hbind : Decides (reader >>= next) (w ++ []) (o.bind f) := h.bind (fun _ hr => hr) hn
  rwa [List.append_nil] at hbind

theorem decides_pure (a : α) : Decides (pure a) [] (some a) :=
  decides_some fun rest _ => takes_pure a rest

theorem Decides.map (h : Decides reader w o) (f : α → β) :
    Decides (do return f (← reader)) w (o.map f) := by
  rw [Option.map_eq_bind]
  exact h.bind_nil fun a _ => decides_pure (f a)

theorem decides_throw (e : Failure) : Decides (throw e : Reader α) w none :=
  decides_none fun _ _ _ => not_takes_throw

theorem decides_otherThan (wanted : String) : Decides (otherThan wanted : Reader α) w none := by
  refine decides_none fun rest a mid htakes => ?_
  obtain ⟨_, _, -, hunfit⟩ := takes_bind_iff.1 htakes
  exact not_takes_throw hunfit

theorem decides_peek {next : Char → Reader α} {c : Char} {tail : List Char}
    (hc : isBlank c = false) (h : Decides (next c) (c :: tail) o) :
    Decides (peek >>= next) (c :: tail) o := by
  intro rest hr a mid
  rw [← h rest hr a mid]
  exact (takes_peek_here hc _).bind_iff

def Skips (reader : Reader α) : Prop :=
  ∀ blanks cs, Blank blanks → reader (blanks ++ cs) = reader cs

theorem Skips.bind (h : Skips reader) (next : α → Reader β) : Skips (reader >>= next) := by
  intro blanks cs hb
  have hbind : ∀ cs, (reader >>= next) cs = (reader cs >>= fun p => next p.1 p.2) := fun _ => rfl
  rw [hbind, hbind, h blanks cs hb]

theorem skips_skipBlanks : Skips skipBlanks := by
  intro blanks cs hb
  have hreads : ∀ cs, skipBlanks cs = .ok ((), cs.dropWhile isBlank) := fun _ => rfl
  rw [hreads, hreads, List.dropWhile_append_of_pos hb]

theorem skips_peek : Skips peek :=
  skips_skipBlanks.bind _

theorem skips_throw (e : Failure) : Skips (throw e : Reader α) :=
  fun _ _ _ => rfl

theorem Skips.decides (h : Skips reader) {blanks : List Char} (hb : Blank blanks)
    (hd : Decides reader w o) : Decides reader (blanks ++ w) o := by
  intro rest hr a mid
  rw [Takes, List.append_assoc, h blanks _ hb]
  exact hd rest hr a mid

def outcome (reader : Reader α) (w : List Char) : Option α :=
  match reader w with
  | .ok (a, []) => some a
  | _ => none

theorem stops_nil : Stops [] :=
  fun c hc => absurd hc (Option.not_mem_none c)

theorem outcome_eq_some_iff : outcome reader w = some a ↔ Takes reader w a [] := by
  rw [outcome, Takes]
  split
  · next a' h => rw [h, Option.some_inj, Except.ok.injEq, Prod.mk.injEq, and_iff_left rfl]
  · next h =>
      exact ⟨fun hsome => (Option.some_ne_none _ hsome.symm).elim, fun hok => (h a hok).elim⟩

theorem Decides.outcome_eq (h : Decides reader w o) : outcome reader w = o := by
  refine Option.ext fun a => ?_
  have hnil := h [] stops_nil a []
  rw [List.append_nil, and_iff_left rfl] at hnil
  exact outcome_eq_some_iff.trans hnil

def Certain (reader : Reader α) (w : List Char) : Prop :=
  ∃ o, Decides reader w o

theorem Decides.certain (h : Decides reader w o) : Certain reader w :=
  ⟨o, h⟩

theorem Certain.decides (h : Certain reader w) : Decides reader w (outcome reader w) := by
  obtain ⟨o, ho⟩ := h
  rwa [ho.outcome_eq]

theorem Certain.bind_nil (h : Certain reader w) (hn : ∀ a, Certain (next a) []) :
    Certain (reader >>= next) w :=
  (h.decides.bind_nil fun a _ => (hn a).decides).certain

theorem Certain.peek {next : Char → Reader α} {c : Char} {tail : List Char}
    (h : Certain (next c) (c :: tail)) (hc : isBlank c = false) :
    Certain (peek >>= next) (c :: tail) :=
  (decides_peek hc h.decides).certain

-- Whatever the reader takes is a value behind blanks.
def Sound (reader : Reader α) : Prop :=
  ∀ cs a mid, Takes reader cs a mid → ∃ lead v, Blank lead ∧ WellFormed v ∧ cs = lead ++ (v ++ mid)

theorem Sound.map (h : Sound reader) (f : α → β) : Sound (do return f (← reader)) := by
  intro cs b mid htakes
  obtain ⟨a, _, hread, hpure⟩ := takes_bind_iff.1 htakes
  obtain ⟨-, rfl⟩ := takes_pure_iff.1 hpure
  exact h cs a _ hread

-- Readers of values: blanks are passed over, every value is taken as a whole or not at all, and
-- nothing else is taken.
structure Uniform (reader : Reader α) : Prop where
  skips : Skips reader
  certain : ∀ v, WellFormed v → Certain reader v
  sound : Sound reader

theorem Uniform.map (h : Uniform reader) (f : α → β) : Uniform (do return f (← reader)) where
  skips := h.skips.bind _
  certain v hv := ((h.certain v hv).decides.map f).certain
  sound := h.sound.map f

end EnclosingScope.Json.Reader
