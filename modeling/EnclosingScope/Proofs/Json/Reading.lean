import EnclosingScope.Json.Reader

namespace EnclosingScope.Json.Reader

variable {α β : Type}

def Takes (reader : Reader α) (cs : List Char) (a : α) (rest : List Char) : Prop :=
  reader cs = .ok (a, rest)

variable {cs rest : List Char} {a : α} {b : β}

theorem takes_bind_iff {reader : Reader α} {next : α → Reader β} :
    Takes (reader >>= next) cs b rest ↔
      ∃ a mid, Takes reader cs a mid ∧ Takes (next a) mid b rest := by
  have hbind : (reader >>= next) cs = (reader cs >>= fun p => next p.1 p.2) := rfl
  rw [Takes, hbind]
  cases hr : reader cs with
  | error e => simp [Takes, hr, bind, Except.bind]
  | ok p =>
      obtain ⟨a, mid⟩ := p
      constructor
      · intro h
        exact ⟨a, mid, hr, h⟩
      · rintro ⟨a', mid', ha, h⟩
        cases hr.symm.trans ha
        exact h

theorem Takes.bind {reader : Reader α} {next : α → Reader β} {mid : List Char}
    (h : Takes reader cs a mid) (h' : Takes (next a) mid b rest) :
    Takes (reader >>= next) cs b rest :=
  takes_bind_iff.2 ⟨a, mid, h, h'⟩

theorem Takes.bind_if {p : Prop} [Decidable p] {reader : Reader Unit} {next : Unit → Reader β}
    {mid : List Char} (h : Takes (if p then reader else pure ()) cs () mid)
    (h' : Takes (next ()) mid b rest) :
    Takes (if p then reader >>= next else next ()) cs b rest := by
  split at h
  · next hp =>
      rw [if_pos hp]
      exact h.bind h'
  · next hp =>
      cases h
      rwa [if_neg hp]

theorem takes_pure_iff {a' : α} : Takes (pure a) cs a' rest ↔ a' = a ∧ rest = cs := by
  have hpure : (pure a : Reader α) cs = .ok (a, cs) := rfl
  rw [Takes, hpure]
  simp [eq_comm]

theorem takes_pure (a : α) (cs : List Char) : Takes (pure a) cs a cs := rfl

theorem takes_get (cs : List Char) : Takes get cs cs cs := rfl

theorem takes_set (new cs : List Char) : Takes (set new) cs () new := rfl

theorem not_takes_throw {e : Failure} : ¬ Takes (throw e : Reader α) cs a rest := by
  intro h
  cases h

theorem takes_advance (c : Char) (rest : List Char) : Takes advance (c :: rest) () rest := rfl

def Blank (blanks : List Char) : Prop :=
  ∀ c ∈ blanks, isBlank c = true

theorem takes_skipBlanks {blanks : List Char} (hb : Blank blanks) {c : Char}
    (hc : isBlank c = false) (rest : List Char) :
    Takes skipBlanks (blanks ++ c :: rest) () (c :: rest) := by
  have hskip : (blanks ++ c :: rest).dropWhile isBlank = c :: rest := by
    rw [List.dropWhile_append_of_pos hb, List.dropWhile_cons_of_neg (by simp [hc])]
  have hreads : skipBlanks (blanks ++ c :: rest) =
      .ok ((), (blanks ++ c :: rest).dropWhile isBlank) := rfl
  rw [Takes, hreads, hskip]

theorem takes_peek {blanks : List Char} (hb : Blank blanks) {c : Char} (hc : isBlank c = false)
    (rest : List Char) : Takes peek (blanks ++ c :: rest) c (c :: rest) :=
  (takes_skipBlanks hb hc rest).bind ((takes_get _).bind (takes_pure _ _))

theorem takes_word (letters rest : List Char) : Takes (word letters) (letters ++ rest) () rest := by
  induction letters with
  | nil => exact takes_pure _ _
  | cons c letters ih =>
      refine (takes_get _).bind ?_
      simp only [List.cons_append, if_true]
      exact (takes_set _ _).bind ih

theorem takes_spelled (c : Char) (letters rest : List Char) (a : α) :
    Takes (do advance; word letters; pure a) (c :: (letters ++ rest)) a rest :=
  (takes_advance _ _).bind ((takes_word letters rest).bind (takes_pure _ _))

theorem run_eq_ok_iff {reader : Reader α} {text : String} :
    run reader text = .ok a ↔ ∃ rest, Takes reader text.toList a rest ∧ Blank rest := by
  have hrun : run reader text = (reader text.toList >>= fun p =>
      if p.2.all isBlank then pure p.1 else throw .malformed) := rfl
  rw [hrun]
  constructor
  · intro h
    cases hr : reader text.toList with
    | error e =>
        rw [hr] at h
        cases h
    | ok p =>
        rw [hr] at h
        change (if p.2.all isBlank then pure p.1 else throw Failure.malformed) = Except.ok a at h
        split at h
        · next hall =>
            cases h
            exact ⟨p.2, hr, List.all_eq_true.1 hall⟩
        · cases h
  · rintro ⟨rest, htakes, hblank⟩
    rw [show reader text.toList = .ok (a, rest) from htakes]
    exact if_pos (List.all_eq_true.2 hblank)

end EnclosingScope.Json.Reader
