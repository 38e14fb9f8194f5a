import EnclosingScope.Proofs.Json.Lexeme

namespace EnclosingScope.Json.Reader

variable {α σ : Type} {cs mid : List Char} {c : Char} {fuel : Nat}

theorem of_takes_peek (h : Takes peek cs c mid) :
    ∃ lead tail, Blank lead ∧ isBlank c = false ∧ cs = lead ++ c :: tail ∧ mid = c :: tail := by
  have hskip : Takes skipBlanks cs () (cs.dropWhile isBlank) := rfl
  have hget := (takes_get _).bind_iff.1 (hskip.bind_iff.1 h)
  have hsplit : cs.takeWhile isBlank ++ cs.dropWhile isBlank = cs := List.takeWhile_append_dropWhile
  cases hrest : cs.dropWhile isBlank with
  | nil =>
      rw [hrest] at hget
      exact absurd hget not_takes_throw
  | cons d tail =>
      rw [hrest] at hget hsplit
      obtain ⟨rfl, rfl⟩ := takes_pure_iff.1 hget
      refine ⟨_, tail, fun b hb => ?_, ?_, hsplit.symm, rfl⟩
      · exact List.all_eq_true.1 List.all_takeWhile b hb
      · have hhead := List.head?_dropWhile_not isBlank cs
        rwa [hrest] at hhead

theorem of_takes_word {letters : List Char} (h : Takes (word letters) cs () mid) :
    cs = letters ++ mid := by
  induction letters generalizing cs with
  | nil => exact (takes_pure_iff.1 h).2.symm
  | cons c letters ih =>
      have hget := (takes_get _).bind_iff.1 h
      cases cs with
      | nil => exact absurd hget not_takes_throw
      | cons d cs =>
          dsimp only at hget
          split at hget
          · next heq =>
              rw [heq, ih ((takes_set _ _).bind_iff.1 hget), List.cons_append]
          · exact absurd hget not_takes_throw

theorem of_takes_unit {u : Nat} (h : Takes unit cs u mid) :
    ∃ ds, Codes ds u ∧ cs = ds ++ mid := by
  have hget := (takes_get _).bind_iff.1 h
  split at hget
  · next a b c d rest =>
      split at hget
      · next i j k l ha hb hc hd =>
          have hpure := (takes_set _ _).bind_iff.1 hget
          obtain ⟨rfl, rfl⟩ := takes_pure_iff.1 hpure
          exact ⟨[a, b, c, d], .mk ha hb hc hd, rfl⟩
      · exact absurd hget not_takes_throw
  · split at hget
    · exact absurd hget not_takes_throw
    · exact absurd hget not_takes_throw

-- What a number in a string takes may be put in front of what stands further in the string.
def Numbers (onNumber : Reader Char) : Prop :=
  ∀ cs c mid, Takes onNumber cs c mid →
    ∃ ds, cs = ds ++ mid ∧ ∀ body, Body body → Body ('\\' :: 'u' :: (ds ++ body))

theorem numbers_numbered : Numbers numbered := by
  intro cs c mid h
  obtain ⟨u, cs', hunit, -⟩ := takes_bind_iff.1 h
  obtain ⟨ds, hd, rfl⟩ := of_takes_unit hunit
  rcases numbered_cases hd h with hu | ⟨hu, tail, v, rfl, hunit, hv⟩
  · obtain ⟨-, rfl⟩ := (takes_numbered_unit hd hu _).unique h
    exact ⟨ds, rfl, fun body hb => .unit hd hb⟩
  · obtain ⟨es, he, rfl⟩ := of_takes_unit hunit
    refine ⟨ds ++ '\\' :: 'u' :: es, by simp, fun body hb => ?_⟩
    have hpair := Body.unit hd (.unit he hb)
    rwa [List.append_assoc, List.cons_append, List.cons_append]

theorem of_takes_discard {reader : Reader α} (h : Takes (discard reader) cs () mid) :
    ∃ a, Takes reader cs a mid := by
  have hdiscard : (discard reader) cs = (reader cs >>= fun p => pure ((), p.2)) := rfl
  rw [Takes, hdiscard] at h
  cases hread : reader cs with
  | error e =>
      rw [hread] at h
      cases h
  | ok p =>
      rw [hread] at h
      cases h
      exact ⟨p.1, hread⟩

theorem numbers_any : Numbers (do discard unit; pure ' ') := by
  intro cs c mid h
  obtain ⟨_, cs', hdiscard, hpure⟩ := takes_bind_iff.1 h
  obtain ⟨-, rfl⟩ := takes_pure_iff.1 hpure
  obtain ⟨u, hunit⟩ := of_takes_discard hdiscard
  obtain ⟨ds, hd, rfl⟩ := of_takes_unit hunit
  exact ⟨ds, rfl, fun body hb => .unit hd hb⟩

theorem of_takes_escaped {onNumber : Reader Char} (hn : Numbers onNumber)
    (h : Takes (escaped onNumber) cs c mid) :
    ∃ ds, cs = ds ++ mid ∧ ∀ body, Body body → Body ('\\' :: (ds ++ body)) := by
  have hget := (takes_get _).bind_iff.1 h
  cases cs with
  | nil => exact absurd hget not_takes_throw
  | cons d cs =>
      have hmark : ∀ e, (d, e) ∈ marks → Takes (pure e : Reader Char) cs c mid →
          ∃ ds, d :: cs = ds ++ mid ∧ ∀ body, Body body → Body ('\\' :: (ds ++ body)) := by
        intro e he hpure
        obtain ⟨-, rfl⟩ := takes_pure_iff.1 hpure
        exact ⟨[d], rfl, fun body hb => .mark he hb⟩
      have hset := (takes_set _ _).bind_iff.1 hget
      split at hset
      · exact hmark _ (by decide) hset
      · exact hmark _ (by decide) hset
      · exact hmark _ (by decide) hset
      · exact hmark _ (by decide) hset
      · exact hmark _ (by decide) hset
      · exact hmark _ (by decide) hset
      · exact hmark _ (by decide) hset
      · exact hmark _ (by decide) hset
      · obtain ⟨ds, rfl, hbody⟩ := hn _ _ _ hset
        exact ⟨'u' :: ds, rfl, hbody⟩
      · exact absurd hset not_takes_throw

theorem of_takes_characters {onNumber : Reader Char} (hn : Numbers onNumber) {back : List Char}
    {t : String} (h : Takes (characters onNumber fuel back) cs t mid) :
    ∃ body, Body body ∧ cs = body ++ '"' :: mid := by
  induction fuel generalizing cs back with
  | zero => exact absurd h not_takes_throw
  | succ fuel ih =>
      cases cs with
      | nil => exact absurd ((takes_get _).bind_iff.1 h) not_takes_throw
      | cons c cs =>
          by_cases hslash : c = '\\'
          · subst hslash
            obtain ⟨d, cs', hescaped, hrest⟩ := takes_characters_escape.1 h
            obtain ⟨ds, rfl, hbody⟩ := of_takes_escaped hn hescaped
            obtain ⟨body, hb, rfl⟩ := ih hrest
            exact ⟨_, hbody body hb, by simp⟩
          by_cases hquote : c = '"'
          · subst hquote
            obtain ⟨-, rfl⟩ := (takes_characters_end onNumber fuel back cs).unique h
            exact ⟨[], .nil, rfl⟩
          by_cases hle : ' ' ≤ c
          · have hplain : Unescaped c := ⟨hle, hquote, hslash⟩
            obtain ⟨body, hb, rfl⟩ := ih ((takes_characters_plain hplain).1 h)
            exact ⟨c :: body, .plain hplain hb, rfl⟩
          · have hset := (takes_set cs _).bind_iff.1 ((takes_get _).bind_iff.1 h)
            rw [if_neg hquote, if_neg hslash, if_pos (Char.not_le.1 hle)] at hset
            exact absurd hset not_takes_throw

theorem of_takes_string {t : String} (h : Takes string ('"' :: cs) t mid) :
    ∃ body, Body body ∧ '"' :: cs = quoted body ++ mid := by
  have hbehind := (takes_advance _ _).bind_iff.1 h
  have hcharacters := (takes_get _).bind_iff.1 hbehind
  obtain ⟨body, hb, rfl⟩ := of_takes_characters numbers_numbered hcharacters
  exact ⟨body, hb, by simp [quoted]⟩

theorem of_takes_passString (h : Takes passString ('"' :: cs) () mid) :
    ∃ body, Body body ∧ '"' :: cs = quoted body ++ mid := by
  have hbehind := (takes_advance _ _).bind_iff.1 h
  have hdiscard := (takes_get _).bind_iff.1 hbehind
  obtain ⟨t, hcharacters⟩ := of_takes_discard hdiscard
  obtain ⟨body, hb, rfl⟩ := of_takes_characters numbers_any hcharacters
  exact ⟨body, hb, by simp [quoted]⟩

theorem of_takes_someDigits {atEnd : Failure} {ds : List Char}
    (h : Takes (someDigits atEnd) cs ds mid) : Digits ds ∧ cs = ds ++ mid := by
  have hrun : Takes digitRun cs (cs.takeWhile Decimal.isDigit) (cs.dropWhile Decimal.isDigit) :=
    rfl
  have hdigits := hrun.bind_iff.1 h
  have hsplit : cs.takeWhile Decimal.isDigit ++ cs.dropWhile Decimal.isDigit = cs :=
    List.takeWhile_append_dropWhile
  split at hdigits
  · obtain ⟨_, _, -, hthrow⟩ := takes_bind_iff.1 hdigits
    exact absurd hthrow not_takes_throw
  · next hne =>
      obtain ⟨rfl, rfl⟩ := takes_pure_iff.1 hdigits
      exact ⟨⟨hne, List.all_eq_true.1 List.all_takeWhile⟩, hsplit.symm⟩

theorem sign_split (cs : List Char) : ∃ s, (s = [] ∨ s = ['+'] ∨ s = ['-']) ∧
    cs = s ++ (Reader.sign cs).2 := by
  unfold Reader.sign
  split
  · exact ⟨['-'], .inr (.inr rfl), rfl⟩
  · exact ⟨['+'], .inr (.inl rfl), rfl⟩
  · exact ⟨[], .inl rfl, rfl⟩

theorem of_takes_exponent {atEnd : Failure} {o : Option (Bool × List Char)}
    (h : Takes (exponentPart atEnd) cs o mid) : ∃ e, Exponent e ∧ cs = e ++ mid := by
  have hget := (takes_get _).bind_iff.1 h
  have hsome : ∀ e rest, e = 'e' ∨ e = 'E' → Takes (do
      set (Reader.sign rest).2
      pure (some ((Reader.sign rest).1, ← someDigits atEnd))) (e :: rest) o mid →
        ∃ x, Exponent x ∧ e :: rest = x ++ mid := by
    intro e rest he h
    obtain ⟨s, hs, hrest⟩ := sign_split rest
    obtain ⟨ds, cs', hdigits, hpure⟩ := takes_bind_iff.1 ((takes_set _ _).bind_iff.1 h)
    obtain ⟨-, rfl⟩ := takes_pure_iff.1 hpure
    obtain ⟨hd, hsplit⟩ := of_takes_someDigits hdigits
    refine ⟨_, .some he hs hd, ?_⟩
    rw [hrest, hsplit, List.cons_append, List.append_assoc]
  split at hget
  · exact hsome _ _ (.inl rfl) hget
  · exact hsome _ _ (.inr rfl) hget
  · obtain ⟨-, rfl⟩ := takes_pure_iff.1 hget
    exact ⟨[], .none, rfl⟩

theorem of_takes_literalTail {atEnd : Failure} {negative : Bool} {whole : List Char} {l : Literal}
    (h : Takes (literalTail atEnd negative whole) cs l mid) :
    ∃ f e, Fraction f ∧ Exponent e ∧ cs = f ++ (e ++ mid) := by
  have hget := (takes_get _).bind_iff.1 h
  split at hget
  · next rest =>
      have hset := (takes_set _ _).bind_iff.1 hget
      obtain ⟨ds, _, hdigits, hrest⟩ := takes_bind_iff.1 hset
      obtain ⟨o, _, hexponent, hpure⟩ := takes_bind_iff.1 hrest
      obtain ⟨-, rfl⟩ := takes_pure_iff.1 hpure
      obtain ⟨hd, rfl⟩ := of_takes_someDigits hdigits
      obtain ⟨e, he, rfl⟩ := of_takes_exponent hexponent
      exact ⟨_, e, .some hd, he, rfl⟩
  · obtain ⟨o, _, hexponent, hpure⟩ := takes_bind_iff.1 hget
    obtain ⟨-, rfl⟩ := takes_pure_iff.1 hpure
    obtain ⟨e, he, rfl⟩ := of_takes_exponent hexponent
    exact ⟨[], e, .none, he, rfl⟩

theorem of_takes_whole {atEnd : Failure} {negative : Bool} {l : Literal}
    (h : Takes (do
      let whole ← someDigits atEnd
      if whole.head? == some '0' && whole.length ≠ 1 then throw .malformed
      literalTail atEnd negative whole) cs l mid) :
    ∃ v, Numeral (signed negative v) ∧ cs = v ++ mid := by
  obtain ⟨whole, _, hdigits, hrest⟩ := takes_bind_iff.1 h
  obtain ⟨hd, rfl⟩ := of_takes_someDigits hdigits
  split at hrest
  · obtain ⟨_, _, hthrow, -⟩ := takes_bind_iff.1 hrest
    exact absurd hthrow not_takes_throw
  · next hzero =>
      obtain ⟨f, e, hf, he, rfl⟩ := of_takes_literalTail hrest
      refine ⟨whole ++ (f ++ e), .mk hd (fun hhead => ?_) hf he, by simp⟩
      simp only [hhead, beq_self_eq_true, Bool.true_and, decide_eq_true_eq] at hzero
      obtain ⟨c, rfl⟩ := List.length_eq_one_iff.1 (Decidable.not_not.1 hzero)
      cases hhead
      rfl

theorem of_takes_literal {atEnd : Failure} {l : Literal} (h : Takes (literal atEnd) cs l mid) :
    ∃ v, Numeral v ∧ cs = v ++ mid := by
  have hget := (takes_get _).bind_iff.1 h
  cases cs with
  | nil =>
      obtain ⟨v, hv, hsplit⟩ := of_takes_whole hget
      exact ⟨_, hv, hsplit⟩
  | cons c cs =>
      by_cases hminus : c = '-'
      · subst hminus
        have hadvance := (takes_advance _ _).bind_iff.1 hget
        obtain ⟨v, hv, rfl⟩ := of_takes_whole hadvance
        exact ⟨_, hv, rfl⟩
      · have hneg : ((c :: cs).head? == some '-') = false := by simpa using hminus
        simp only [hneg] at hget
        obtain ⟨v, hv, hsplit⟩ := of_takes_whole hget
        exact ⟨_, hv, hsplit⟩

def loop (more : Bool → Reader Bool) (closing : Char) (item : σ → Reader σ) :
    Nat → Bool → σ → Reader σ
  | 0, _, _ => throw .malformed
  | fuel + 1, first, s => do
      if ← more first then
        let s ← item s
        loop more closing item fuel false s
      else
        close closing
        pure s

theorem items_eq_loop (item : σ → Reader σ) (fuel : Nat) (first : Bool) (s : σ) :
    items item fuel first s = loop moreItems ']' item fuel first s := by
  induction fuel generalizing first s with
  | zero => rfl
  | succ fuel ih => simp only [items, loop, ih]

theorem members_eq_loop (member : σ → Reader σ) (fuel : Nat) (first : Bool) (s : σ) :
    members member fuel first s = loop moreMembers '\x7d' member fuel first s := by
  induction fuel generalizing first s with
  | zero => rfl
  | succ fuel ih => simp only [members, loop, ih]

-- What is in front of the rest once it is known whether something more comes before `closing`.
inductive Finds (closing : Char) : Bool → List Char → Bool → List Char → Prop
  | ends {first : Bool} {pad : List Char} (hpad : Blank pad) (tail : List Char) :
      Finds closing first (pad ++ closing :: tail) false (closing :: tail)
  | begins {before : List Char} (hbefore : Blank before) (core : List Char) :
      Finds closing true (before ++ core) true core
  | goes {behind before : List Char} (hbehind : Blank behind) (hbefore : Blank before)
      (core : List Char) : Finds closing false (behind ++ ',' :: (before ++ core)) true core

variable {first more : Bool}

theorem finds_of_takes_moreItems (h : Takes (moreItems first) cs more mid) :
    Finds ']' first cs more mid := by
  obtain ⟨c, _, hpeek, hrest⟩ := takes_bind_iff.1 h
  obtain ⟨lead, tail, hlead, -, rfl, rfl⟩ := of_takes_peek hpeek
  split at hrest
  · next hclosing =>
      obtain ⟨rfl, rfl⟩ := takes_pure_iff.1 hrest
      rw [hclosing]
      exact .ends hlead tail
  split at hrest
  · next hfirst =>
      obtain ⟨rfl, rfl⟩ := takes_pure_iff.1 hrest
      rw [hfirst]
      exact .begins hlead _
  split at hrest
  · next hfirst hcomma =>
      obtain ⟨d, _, hpeek, hnext⟩ := takes_bind_iff.1 ((takes_advance _ _).bind_iff.1 hrest)
      obtain ⟨before, tail, hbefore, -, rfl, rfl⟩ := of_takes_peek hpeek
      split at hnext
      · exact absurd hnext not_takes_throw
      · obtain ⟨rfl, rfl⟩ := takes_pure_iff.1 hnext
        rw [hcomma, Bool.eq_false_iff.2 hfirst]
        exact .goes hlead hbefore _
  · exact absurd hrest not_takes_throw

def Quotes (core : List Char) : Prop :=
  core.head? = some '"'

theorem finds_of_takes_moreMembers (h : Takes (moreMembers first) cs more mid) :
    Finds '\x7d' first cs more mid ∧ (more = true → Quotes mid) := by
  obtain ⟨c, _, hpeek, hrest⟩ := takes_bind_iff.1 h
  obtain ⟨lead, tail, hlead, -, rfl, rfl⟩ := of_takes_peek hpeek
  split at hrest
  · next hclosing =>
      obtain ⟨rfl, rfl⟩ := takes_pure_iff.1 hrest
      rw [hclosing]
      exact ⟨.ends hlead tail, nofun⟩
  split at hrest
  · next hfirst =>
      split at hrest
      · next hquote =>
          obtain ⟨rfl, rfl⟩ := takes_pure_iff.1 hrest
          rw [hfirst, hquote]
          exact ⟨.begins hlead _, fun _ => rfl⟩
      · exact absurd hrest not_takes_throw
  split at hrest
  · next hfirst hcomma =>
      obtain ⟨d, _, hpeek, hnext⟩ := takes_bind_iff.1 ((takes_advance _ _).bind_iff.1 hrest)
      obtain ⟨before, tail, hbefore, -, rfl, rfl⟩ := of_takes_peek hpeek
      split at hnext
      · next hquote =>
          obtain ⟨rfl, rfl⟩ := takes_pure_iff.1 hnext
          rw [hcomma, hquote, Bool.eq_false_iff.2 hfirst]
          exact ⟨.goes hlead hbefore _, fun _ => rfl⟩
      · exact absurd hnext not_takes_throw
  · exact absurd hrest not_takes_throw

theorem blank_append {as bs : List Char} (ha : Blank as) (hb : Blank bs) : Blank (as ++ bs) :=
  List.forall_mem_append.2 ⟨ha, hb⟩

-- The parts up to the closing bracket. The blanks behind one are left for whoever asks for more.
def PartsAhead (closing : Char) (Good : List Char → Prop) (first : Bool) (cs mid : List Char) :
    Prop :=
  ∃ behind ps pad, Blank behind ∧ (first = true → behind = []) ∧ (∀ p ∈ ps, p.Spaced) ∧
    (∀ p ∈ ps, Good p.core) ∧ Blank pad ∧
    cs = behind ++ (sequence first ps ++ (pad ++ closing :: mid))

section

variable {closing : Char} {Good : List Char → Prop}

theorem partsAhead_end {pad : List Char} (hpad : Blank pad) (mid : List Char) :
    PartsAhead closing Good first (pad ++ closing :: mid) mid :=
  ⟨[], [], pad, blank_nil, fun _ => rfl, List.forall_mem_nil _, List.forall_mem_nil _, hpad, rfl⟩

theorem PartsAhead.cons {lead core rest : List Char} (hlead : Blank lead) (hcore : Good core)
    (hrest : PartsAhead closing Good false rest mid)
    (h : Finds closing first cs true (lead ++ (core ++ rest))) :
    PartsAhead closing Good first cs mid := by
  obtain ⟨behind, ps, pad, hbehind, -, hspaced, hps, hpad, rfl⟩ := hrest
  have hpart : ∀ before, Blank before →
      ∀ p ∈ ⟨before ++ lead, core, behind⟩ :: ps, p.Spaced := fun before hbefore =>
    List.forall_mem_cons.2 ⟨⟨blank_append hbefore hlead, hbehind⟩, hspaced⟩
  generalize htext : lead ++ (core ++ (behind ++ _)) = text at h
  cases h with
  | @begins before hbefore =>
      refine ⟨[], _, pad, blank_nil, fun _ => rfl, hpart before hbefore,
        List.forall_mem_cons.2 ⟨hcore, hps⟩, hpad, ?_⟩
      rw [← htext]
      simp [sequence, Part.text]
  | @goes behind' before hbehind' hbefore =>
      refine ⟨behind', _, pad, hbehind', nofun, hpart before hbefore,
        List.forall_mem_cons.2 ⟨hcore, hps⟩, hpad, ?_⟩
      rw [← htext]
      simp [sequence, Part.text]

theorem of_takes_loop {more : Bool → Reader Bool} {item : σ → Reader σ}
    {Starts : List Char → Prop} {s s' : σ} (hc : isBlank closing = false)
    (hmore : ∀ first cs b mid, Takes (more first) cs b mid →
      Finds closing first cs b mid ∧ (b = true → Starts mid))
    (hitem : ∀ s cs s' mid, Starts cs → Takes (item s) cs s' mid →
      ∃ lead core, Blank lead ∧ Good core ∧ cs = lead ++ (core ++ mid))
    (h : Takes (loop more closing item fuel first s) cs s' mid) :
    PartsAhead closing Good first cs mid := by
  induction fuel generalizing first s cs with
  | zero => exact absurd h not_takes_throw
  | succ fuel ih =>
      obtain ⟨b, _, hb, hrest⟩ := takes_bind_iff.1 h
      obtain ⟨hfinds, hstarts⟩ := hmore _ _ _ _ hb
      cases b with
      | true =>
          obtain ⟨s₁, _, hhere, hloop⟩ := takes_bind_iff.1 hrest
          obtain ⟨lead, core, hlead, hcore, rfl⟩ := hitem _ _ _ _ (hstarts rfl) hhere
          exact .cons hlead hcore (ih hloop) hfinds
      | false =>
          obtain ⟨_, _, hclose, hpure⟩ := takes_bind_iff.1 hrest
          obtain ⟨-, rfl⟩ := takes_pure_iff.1 hpure
          cases hfinds with
          | ends hpad tail =>
              obtain ⟨-, rfl⟩ := (takes_close closing hc tail).unique hclose
              exact partsAhead_end hpad _

end

def ArrayAhead (cs mid : List Char) : Prop :=
  ∃ ps pad, (∀ p ∈ ps, p.Spaced) ∧ (∀ p ∈ ps, WellFormed p.core) ∧ Blank pad ∧
    '[' :: cs = bracketed '[' ps pad ']' ++ mid

def ObjectAhead (cs mid : List Char) : Prop :=
  ∃ (es : List Entry) (pad : List Char), (∀ e ∈ es, e.Spaced) ∧ (∀ e ∈ es, Body e.body) ∧
    (∀ e ∈ es, WellFormed e.value) ∧ Blank pad ∧
    '\x7b' :: cs = bracketed '\x7b' (es.map Entry.part) pad '\x7d' ++ mid

theorem PartsAhead.array (h : PartsAhead ']' WellFormed true cs mid) : ArrayAhead cs mid := by
  obtain ⟨behind, ps, pad, -, hnil, hspaced, hps, hpad, rfl⟩ := h
  refine ⟨ps, pad, hspaced, hps, hpad, ?_⟩
  rw [hnil rfl]
  simp [bracketed]

theorem of_takes_items {item : σ → Reader σ} {s s' : σ} (hitem : ∀ s, Sound (item s))
    (h : Takes (items item fuel true s) cs s' mid) : ArrayAhead cs mid := by
  rw [items_eq_loop] at h
  have hmore : ∀ first cs b mid, Takes (moreItems first) cs b mid →
      Finds ']' first cs b mid ∧ (b = true → True) := fun _ _ _ _ hmore =>
    ⟨finds_of_takes_moreItems hmore, fun _ => trivial⟩
  exact (of_takes_loop (by decide) hmore (fun s cs s' mid _ => hitem s cs s' mid) h).array

def EntryCore (core : List Char) : Prop :=
  ∃ body gap lead value, Body body ∧ Blank gap ∧ Blank lead ∧ WellFormed value ∧
    core = quoted body ++ (gap ++ ':' :: (lead ++ value))

theorem entries_of_parts {ps : List Part} (hspaced : ∀ p ∈ ps, p.Spaced)
    (hps : ∀ p ∈ ps, EntryCore p.core) :
    ∃ es : List Entry, es.map Entry.part = ps ∧ (∀ e ∈ es, e.Spaced) ∧ (∀ e ∈ es, Body e.body) ∧
      ∀ e ∈ es, WellFormed e.value := by
  induction ps with
  | nil => exact ⟨[], rfl, List.forall_mem_nil _, List.forall_mem_nil _, List.forall_mem_nil _⟩
  | cons p ps ih =>
      obtain ⟨hp, hspaced⟩ := List.forall_mem_cons.1 hspaced
      obtain ⟨⟨body, gap, lead, value, hbody, hgap, hlead, hvalue, hcore⟩, hps⟩ :=
        List.forall_mem_cons.1 hps
      obtain ⟨es, rfl, hes, hnamed, hvalues⟩ := ih hspaced hps
      refine ⟨⟨p.before, body, gap, lead, value, p.behind⟩ :: es, ?_,
        List.forall_mem_cons.2 ⟨⟨hp.before, hgap, hlead, hp.behind⟩, hes⟩,
        List.forall_mem_cons.2 ⟨hbody, hnamed⟩, List.forall_mem_cons.2 ⟨hvalue, hvalues⟩⟩
      rw [List.map_cons, Entry.part, ← hcore]

theorem PartsAhead.object (h : PartsAhead '\x7d' EntryCore true cs mid) : ObjectAhead cs mid := by
  obtain ⟨behind, ps, pad, -, hnil, hspaced, hps, hpad, rfl⟩ := h
  obtain ⟨es, rfl, hes, hnamed, hvalues⟩ := entries_of_parts hspaced hps
  refine ⟨es, pad, hes, hnamed, hvalues, hpad, ?_⟩
  rw [hnil rfl]
  simp [bracketed]

theorem of_takes_members {member : σ → Reader σ} {s s' : σ}
    (hmember : ∀ s cs s' mid, Quotes cs → Takes (member s) cs s' mid →
      ∃ core, EntryCore core ∧ cs = core ++ mid)
    (h : Takes (members member fuel true s) cs s' mid) : ObjectAhead cs mid := by
  rw [members_eq_loop] at h
  refine (of_takes_loop (by decide) (fun _ _ _ _ => finds_of_takes_moreMembers)
    (fun s cs s' mid hquotes hread => ?_) h).object
  obtain ⟨core, hcore, hsplit⟩ := hmember s cs s' mid hquotes hread
  exact ⟨[], core, blank_nil, hcore, hsplit⟩

-- A colon and a value, as they stand behind a name.
def ValueAhead (cs mid : List Char) : Prop :=
  ∃ gap lead value, Blank gap ∧ Blank lead ∧ WellFormed value ∧
    cs = gap ++ ':' :: (lead ++ (value ++ mid))

theorem of_takes_colon {reader : Reader α} {a : α} (hr : Sound reader)
    (h : Takes (do colon; reader) cs a mid) : ValueAhead cs mid := by
  obtain ⟨_, _, hcolon, hread⟩ := takes_bind_iff.1 h
  obtain ⟨c, _, hpeek, hcheck⟩ := takes_bind_iff.1 hcolon
  obtain ⟨gap, tail, hgap, -, rfl, rfl⟩ := of_takes_peek hpeek
  split at hcheck
  · next hc =>
      obtain ⟨-, rfl⟩ := (takes_advance c tail).unique hcheck
      obtain ⟨lead, value, hlead, hvalue, rfl⟩ := hr _ _ _ hread
      exact ⟨gap, lead, value, hgap, hlead, hvalue, by rw [hc]⟩
  · exact absurd hcheck not_takes_throw

theorem of_takes_entry {β : Type} {name : Reader β} {next : β → Reader α} {a : α}
    (hname : ∀ cs b mid, Takes name ('"' :: cs) b mid →
      ∃ body, Body body ∧ '"' :: cs = quoted body ++ mid)
    (hnext : ∀ b cs a mid, Takes (next b) cs a mid → ValueAhead cs mid) (hq : Quotes cs)
    (h : Takes (name >>= next) cs a mid) : ∃ core, EntryCore core ∧ cs = core ++ mid := by
  obtain ⟨tail, rfl⟩ := List.head?_eq_some_iff.1 hq
  obtain ⟨b, _, hread, hrest⟩ := takes_bind_iff.1 h
  obtain ⟨body, hbody, hsplit⟩ := hname _ _ _ hread
  obtain ⟨gap, lead, value, hgap, hlead, hvalue, rfl⟩ := hnext _ _ _ _ hrest
  exact ⟨_, ⟨body, gap, lead, value, hbody, hgap, hlead, hvalue, rfl⟩, by simp [hsplit]⟩

theorem sound_peek {next : Char → Reader α}
    (h : ∀ c tail a mid, isBlank c = false → Takes (next c) (c :: tail) a mid →
      ∃ v, WellFormed v ∧ c :: tail = v ++ mid) : Sound (peek >>= next) := by
  intro cs a mid htakes
  obtain ⟨c, _, hpeek, hnext⟩ := takes_bind_iff.1 htakes
  obtain ⟨lead, tail, hlead, hc, rfl, rfl⟩ := of_takes_peek hpeek
  obtain ⟨v, hv, hsplit⟩ := h c tail a mid hc hnext
  exact ⟨lead, v, hlead, hv, by rw [hsplit]⟩

theorem not_takes_otherThan {wanted : String} {a : α} :
    ¬ Takes (otherThan wanted : Reader α) cs a mid := by
  intro h
  obtain ⟨_, _, -, hunfit⟩ := takes_bind_iff.1 h
  exact not_takes_throw hunfit

theorem of_takes_spelled {letters : List Char} {a b : α}
    (h : Takes (do advance; word letters; pure a) (c :: cs) b mid) :
    c :: cs = (c :: letters) ++ mid := by
  obtain ⟨_, _, hword, hpure⟩ := takes_bind_iff.1 ((takes_advance _ _).bind_iff.1 h)
  obtain ⟨-, rfl⟩ := takes_pure_iff.1 hpure
  rw [of_takes_word hword, List.cons_append]

theorem of_takes_letters {letters : List Char}
    (h : Takes (do advance; word letters) (c :: cs) () mid) : c :: cs = (c :: letters) ++ mid := by
  rw [of_takes_word ((takes_advance _ _).bind_iff.1 h), List.cons_append]

theorem ArrayAhead.wellFormed (h : ArrayAhead cs mid) :
    ∃ v, WellFormed v ∧ '[' :: cs = v ++ mid := by
  obtain ⟨ps, pad, hspaced, hps, hpad, hsplit⟩ := h
  exact ⟨_, .array hspaced hps hpad, hsplit⟩

theorem ObjectAhead.wellFormed (h : ObjectAhead cs mid) :
    ∃ v, WellFormed v ∧ '\x7b' :: cs = v ++ mid := by
  obtain ⟨es, pad, hspaced, hnamed, hes, hpad, hsplit⟩ := h
  exact ⟨_, .object hspaced hnamed hes hpad, hsplit⟩

theorem sound_pass (depth : Nat) : Sound (pass depth) := by
  induction depth with
  | zero => exact fun _ _ _ h => absurd h not_takes_throw
  | succ depth ih =>
      refine sound_peek fun c tail _ mid hc h => ?_
      split at h
      · exact ⟨_, .null, of_takes_letters h⟩
      · exact ⟨_, .yes, of_takes_letters h⟩
      · exact ⟨_, .no, of_takes_letters h⟩
      · obtain ⟨body, hbody, hsplit⟩ := of_takes_passString h
        exact ⟨_, .string hbody, hsplit⟩
      · have hbehind := (takes_advance _ _).bind_iff.1 h
        have hitems := (takes_get _).bind_iff.1 hbehind
        exact (of_takes_items (fun _ => ih) hitems).wellFormed
      · have hbehind := (takes_advance _ _).bind_iff.1 h
        have hmembers := (takes_get _).bind_iff.1 hbehind
        refine (of_takes_members (fun _ _ _ _ hquotes hmember => ?_) hmembers).wellFormed
        exact of_takes_entry (fun _ _ _ => of_takes_passString)
          (fun _ _ _ _ => of_takes_colon ih) hquotes hmember
      · split at h
        · obtain ⟨l, hliteral⟩ := of_takes_discard h
          obtain ⟨v, hv, hsplit⟩ := of_takes_literal hliteral
          exact ⟨v, .number hv, hsplit⟩
        · exact absurd h not_takes_throw

theorem sound_number : ∀ cs n mid, Takes number cs n mid → ∃ v, Numeral v ∧ cs = v ++ mid := by
  intro cs n mid h
  obtain ⟨l, _, hliteral, hrest⟩ := takes_bind_iff.1 h
  split at hrest
  · obtain ⟨-, rfl⟩ := takes_pure_iff.1 hrest
    exact of_takes_literal hliteral
  · exact absurd hrest not_takes_throw

theorem of_takes_listOf {reader : Reader α} (hr : Sound reader) {as : List α}
    (h : Takes (listOf reader) ('[' :: cs) as mid) : ArrayAhead cs mid := by
  have hbehind := (takes_advance _ _).bind_iff.1 h
  have hget := (takes_get _).bind_iff.1 hbehind
  obtain ⟨back, _, hitems, hpure⟩ := takes_bind_iff.1 hget
  obtain ⟨-, rfl⟩ := takes_pure_iff.1 hpure
  exact of_takes_items (fun back => hr.map (· :: back)) hitems

theorem sound_valueWith {onArray onObject : Reader Value}
    (harray : ∀ cs v mid, Takes onArray ('[' :: cs) v mid → ArrayAhead cs mid)
    (hobject : ∀ cs v mid, Takes onObject ('\x7b' :: cs) v mid → ObjectAhead cs mid) :
    Sound (valueWith onArray onObject) := by
  refine sound_peek fun c tail a mid hc h => ?_
  split at h
  · exact ⟨_, .null, of_takes_spelled h⟩
  · exact ⟨_, .yes, of_takes_spelled h⟩
  · exact ⟨_, .no, of_takes_spelled h⟩
  · obtain ⟨t, _, hstring, hpure⟩ := takes_bind_iff.1 h
    obtain ⟨-, rfl⟩ := takes_pure_iff.1 hpure
    obtain ⟨body, hbody, hsplit⟩ := of_takes_string hstring
    exact ⟨_, .string hbody, hsplit⟩
  · exact (harray _ _ _ h).wellFormed
  · exact (hobject _ _ _ h).wellFormed
  · split at h
    · obtain ⟨n, _, hnumber, hpure⟩ := takes_bind_iff.1 h
      obtain ⟨-, rfl⟩ := takes_pure_iff.1 hpure
      obtain ⟨v, hv, hsplit⟩ := sound_number _ _ _ hnumber
      exact ⟨v, .number hv, hsplit⟩
    · exact absurd h not_takes_throw

theorem of_takes_inserting {reader : Reader Value} (hr : Sound reader)
    {found found' : List (String × Value)} (hq : Quotes cs)
    (h : Takes (inserting reader found) cs found' mid) :
    ∃ core, EntryCore core ∧ cs = core ++ mid :=
  of_takes_entry (fun _ _ _ => of_takes_string)
    (fun name _ _ _ => of_takes_colon (hr.map fun v => Members.insert name v found)) hq h

theorem sound_value (depth : Nat) : Sound (value depth) := by
  induction depth with
  | zero =>
      exact sound_valueWith (fun _ _ _ h => absurd h not_takes_throw)
        (fun _ _ _ h => absurd h not_takes_throw)
  | succ depth ih =>
      refine sound_valueWith (fun cs v mid h => ?_) (fun cs v mid h => ?_)
      · obtain ⟨items, _, hlist, hpure⟩ := takes_bind_iff.1 h
        obtain ⟨-, rfl⟩ := takes_pure_iff.1 hpure
        exact of_takes_listOf ih hlist
      · have hbehind := (takes_advance _ _).bind_iff.1 h
        have hget := (takes_get _).bind_iff.1 hbehind
        obtain ⟨found, _, hmembers, hpure⟩ := takes_bind_iff.1 hget
        obtain ⟨-, rfl⟩ := takes_pure_iff.1 hpure
        exact of_takes_members (fun _ _ _ _ => of_takes_inserting ih) hmembers

theorem sound_count : Sound count := by
  refine sound_peek fun c tail a mid hc h => ?_
  split at h
  · obtain ⟨n, _, hnumber, hrest⟩ := takes_bind_iff.1 h
    obtain ⟨v, hv, hsplit⟩ := sound_number _ _ _ hnumber
    split at hrest
    · split at hrest
      · obtain ⟨-, rfl⟩ := takes_pure_iff.1 hrest
        exact ⟨v, .number hv, hsplit⟩
      · exact absurd hrest not_takes_throw
    · exact absurd hrest not_takes_throw
  · exact absurd h not_takes_otherThan

theorem sound_text : Sound text := by
  refine sound_peek fun c tail a mid hc h => ?_
  split at h
  · next hquote =>
      subst hquote
      obtain ⟨body, hbody, hsplit⟩ := of_takes_string h
      exact ⟨_, .string hbody, hsplit⟩
  · exact absurd h not_takes_otherThan

theorem sound_values (depth : Nat) : Sound (values depth) := by
  cases depth with
  | zero =>
      refine sound_peek fun c tail a mid hc h => ?_
      split at h
      · exact absurd h not_takes_throw
      · exact absurd h not_takes_otherThan
  | succ depth =>
      refine sound_peek fun c tail a mid hc h => ?_
      split at h
      · next hopens =>
          subst hopens
          exact (of_takes_listOf (sound_value depth) h).wellFormed
      · exact absurd h not_takes_otherThan

theorem sound_optional {reader : Reader α} (hr : Sound reader) : Sound (optional reader) := by
  refine sound_peek fun c tail a mid hc h => ?_
  split at h
  · next hn =>
      subst hn
      exact ⟨_, .null, of_takes_spelled h⟩
  · obtain ⟨lead, v, hlead, hv, hsplit⟩ := hr.map some _ _ _ h
    cases lead with
    | nil => exact ⟨v, hv, hsplit⟩
    | cons b lead =>
        have hb : isBlank b = true := hlead b List.mem_cons_self
        rw [(List.cons.inj hsplit).1, hb] at hc
        cases hc

end EnclosingScope.Json.Reader
