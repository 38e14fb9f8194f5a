import EnclosingScope.Proofs.Json.Shape
import EnclosingScope.Proofs.Json.Yield
import EnclosingScope.Record

namespace EnclosingScope

open Json Json.Value Json.Reader

variable {spacing : Spacing} {depth : Nat}

theorem Position.reads_toJson (hs : spacing.IsBlank) (p : Position) :
    Reads (Position.shape.read (depth + 1)) spacing p.toJson p :=
  Shape.reads_object hs (by decide)
    (.cons (Field.reads_of (reads_count p.line) _ _ _)
      (.cons (Field.reads_of (reads_count p.column) _ _ _) (.nil _)))

theorem Location.reads_toJson (hs : spacing.IsBlank) (l : Location) :
    Reads (Location.shape.read (depth + 2)) spacing l.toJson l :=
  Shape.reads_object hs (by decide)
    (.cons (Field.reads_of (Position.reads_toJson hs l.start) _ _ _)
      (.cons (Field.reads_of (Position.reads_toJson hs l.stop) _ _ _) (.nil _)))

theorem Verdict.reads_toJson (hs : spacing.IsBlank) (v : Verdict) :
    Reads (Verdict.shape.read (depth + 1)) spacing v.toJson v :=
  Shape.reads_object hs (by decide)
    (.cons (Field.reads_of (reads_truth v.valid) _ _ _)
      (.cons (Field.reads_of (reads_text v.error) _ _ _) (.nil _)))

theorem reads_offset (o : Option UInt64) :
    Reads (optional count) spacing (.ofOption .ofUInt64 o) o :=
  reads_ofOption (fun n _ => opens_integer (by decide) (by decide) n.toNat _ _)
    fun n _ => reads_count n

theorem reads_comments (hs : spacing.IsBlank) {o : Option (List Value)}
    (h : ∀ c ∈ o.getD [], Within depth c ∧ FloatFree c) :
    Reads (optional (values (depth + 1))) spacing (.ofOption .array o) o := by
  refine reads_ofOption (fun items indent => opens_array (by decide) spacing indent items) ?_
  rintro items rfl
  exact reads_values hs h

namespace NodeRecord

def comments (r : NodeRecord) : List Value :=
  r.leadingComments.getD [] ++ r.innerComments.getD [] ++ r.trailingComments.getD []

theorem forall_mem_comments {r : NodeRecord} {P : Value → Prop} :
    (∀ c ∈ r.comments, P c) ↔ (∀ c ∈ r.leadingComments.getD [], P c) ∧
      (∀ c ∈ r.innerComments.getD [], P c) ∧ ∀ c ∈ r.trailingComments.getD [], P c := by
  rw [comments, List.forall_mem_append, List.forall_mem_append, and_assoc]

theorem reads_toJson (hs : spacing.IsBlank) {r : NodeRecord}
    (h : ∀ c ∈ r.comments, Within (depth + 1) c ∧ FloatFree c) :
    Reads (NodeRecord.shape.read (depth + 3)) spacing r.toJson r := by
  obtain ⟨hleading, hinner, htrailing⟩ := forall_mem_comments.1 h
  exact Shape.reads_object hs (by decide)
    (.cons (Field.reads_of (reads_text r.kind) _ _ _)
      (.cons (Field.reads_of (Location.reads_toJson hs r.location) _ _ _)
        (.cons (Field.reads_of (reads_comments hs hleading) _ _ _)
          (.cons (Field.reads_of (reads_comments hs hinner) _ _ _)
            (.cons (Field.reads_of (reads_comments hs htrailing) _ _ _)
              (.cons (Field.reads_of (reads_offset r.start) _ _ _)
                (.cons (Field.reads_of (reads_offset r.stop) _ _ _) (.nil _))))))))

theorem forall_getD_nil {α : Type} {P : α → Prop} {o : Option (List α)}
    (h : ∀ items ∈ o, ∀ item ∈ items, P item) : ∀ item ∈ o.getD [], P item := by
  cases o with
  | none => exact List.forall_mem_nil _
  | some items => exact h items rfl

theorem yields_comments :
    Yields (NodeRecord.shape.read (depth + 2)) fun r => ∀ c ∈ r.comments, Within depth c := by
  simp only [forall_mem_comments]
  have hlist := yields_optional (yields_values depth)
  refine Shape.yields_read (fun field hfield => ?_) ?_
  · simp only [shape, List.mem_cons, List.not_mem_nil, or_false] at hfield
    rcases hfield with rfl | rfl | rfl | rfl | rfl | rfl | rfl
    · exact Field.keeps_of (yields_any _) _ _ fun _ _ _ h => h
    · exact Field.keeps_of (yields_any _) _ _ fun _ _ _ h => h
    · exact Field.keeps_of hlist _ _ fun _ hb _ h => ⟨forall_getD_nil hb, h.2⟩
    · exact Field.keeps_of hlist _ _ fun _ hb _ h => ⟨h.1, forall_getD_nil hb, h.2.2⟩
    · exact Field.keeps_of hlist _ _ fun _ hb _ h => ⟨h.1, h.2.1, forall_getD_nil hb⟩
    · exact Field.keeps_of (yields_any _) _ _ fun _ _ _ h => h
    · exact Field.keeps_of (yields_any _) _ _ fun _ _ _ h => h
  · exact ⟨List.forall_mem_nil _, List.forall_mem_nil _, List.forall_mem_nil _⟩

end NodeRecord

namespace Enclosure

def comments (e : Enclosure) : List Value :=
  e.node.toList.flatMap NodeRecord.comments

theorem reads_toJson (hs : spacing.IsBlank) {e : Enclosure}
    (h : ∀ c ∈ e.comments, Within (depth + 1) c ∧ FloatFree c) :
    Reads (Enclosure.shape.read (depth + 4)) spacing e.toJson e := by
  have hnode : Reads (optional (NodeRecord.shape.read (depth + 3))) spacing
      (.ofOption NodeRecord.toJson e.node) e.node := by
    refine reads_ofOption (fun r indent => opens_object (by decide) spacing indent _) ?_
    intro r hr
    refine NodeRecord.reads_toJson hs fun c hc => h c ?_
    exact List.mem_flatMap.2 ⟨r, Option.mem_toList.2 hr, hc⟩
  exact Shape.reads_object hs (by decide) (.cons (Field.reads_of hnode _ _ _) (.nil _))

theorem yields_comments :
    Yields (Enclosure.shape.read (depth + 3)) fun e => ∀ c ∈ e.comments, Within depth c := by
  refine Shape.yields_read (fun field hfield => ?_) (List.forall_mem_nil _)
  obtain rfl := List.mem_singleton.1 hfield
  refine Field.keeps_of (yields_optional NodeRecord.yields_comments) _ _ fun node hnode e _ => ?_
  intro c hc
  obtain ⟨r, hr, hcr⟩ := List.mem_flatMap.1 hc
  exact hnode r (Option.mem_toList.1 hr) c hcr

-- The brackets around a comment leave this many for those in it.
def commentDepth : Nat := Shape.nesting - 3

theorem within_of_parse {text : String} {e : Enclosure} (h : parse text = .ok e) :
    ∀ c ∈ e.comments, Within commentDepth c := by
  obtain ⟨rest, htakes, -⟩ := run_eq_ok_iff.1 h
  exact yields_comments _ _ _ htakes

theorem parse_print (hs : spacing.IsBlank) {e : Enclosure}
    (h : ∀ c ∈ e.comments, Within commentDepth c ∧ FloatFree c) :
    parse (String.ofList (e.toJson.print spacing 0)) = .ok e :=
  (reads_toJson hs h).run

end Enclosure

-- Comments are any values that keep within the depth and hold no float. The floats that a text
-- holds where nothing is kept do no harm.
theorem records_read_back :
    (∀ e : Enclosure, (∀ c ∈ e.comments, Within Enclosure.commentDepth c ∧ FloatFree c) →
      Enclosure.parse e.toJson.compact = .ok e ∧ Enclosure.parse e.toJson.pretty = .ok e) ∧
    (∀ v : Verdict,
      Verdict.parse v.toJson.compact = .ok v ∧ Verdict.parse v.toJson.pretty = .ok v) ∧
    ∀ (text : String) (e : Enclosure), Enclosure.parse text = .ok e →
      (∀ c ∈ e.comments, FloatFree c) → ∀ write ∈ [Value.compact, Value.pretty],
        Enclosure.parse (write e.toJson) = .ok e ∧
        (Enclosure.parse (write e.toJson)).map (fun again => write again.toJson) =
          .ok (write e.toJson) := by
  refine ⟨fun e h => ⟨?_, ?_⟩, fun v => ⟨?_, ?_⟩, ?_⟩
  · exact Enclosure.parse_print Spacing.isBlank_compact h
  · exact Enclosure.parse_print Spacing.isBlank_pretty h
  · exact (Verdict.reads_toJson Spacing.isBlank_compact v).run
  · exact (Verdict.reads_toJson Spacing.isBlank_pretty v).run
  · intro text e hparse hfree write hwrite
    have h : ∀ c ∈ e.comments, Within Enclosure.commentDepth c ∧ FloatFree c := fun c hc =>
      ⟨Enclosure.within_of_parse hparse c hc, hfree c hc⟩
    have hagain : Enclosure.parse (write e.toJson) = .ok e := by
      simp only [List.mem_cons, List.not_mem_nil, or_false] at hwrite
      rcases hwrite with rfl | rfl
      · exact Enclosure.parse_print Spacing.isBlank_compact h
      · exact Enclosure.parse_print Spacing.isBlank_pretty h
    refine ⟨hagain, ?_⟩
    rw [hagain]
    rfl

def nestedComment : Value :=
  .object
    [("a", .array [.null, .number (.integer (-9223372036854775808) (by decide) (by decide))]),
     ("b", .string "tab\t quote\" \x01 é")]

def commentedEnclosure : Enclosure where
  node := some
    { kind := "with_statement"
      location := ⟨⟨1, 0⟩, ⟨18446744073709551615, 7⟩⟩
      leadingComments := some [nestedComment, .boolean false]
      trailingComments := some []
      stop := some 0 }

-- Places are arrays here, members are out of order, some are left out and one is unknown.
def looseText : String :=
  "\x7b\"enclosingContext\": \x7b\"loc\": [[1, 0], [18446744073709551615, 7]], \"extra\": 1.5,\n" ++
  " \"end\": 0, \"trailingComments\": [], \"start\": null, \"leadingComments\": [\x7b\"b\":" ++
  " \"tab\\t quote\\\" \\u0001 \\u00e9\", \"a\": [null, -9223372036854775808]\x7d, false]," ++
  " \"type\": \"with_statement\"\x7d\x7d"

theorem eq_ok_of_toOption {ε α : Type} {x : Except ε α} {a : α} (h : x.toOption = some a) :
    x = .ok a := by
  cases x with
  | error e => cases h
  | ok b => exact congrArg Except.ok (Option.some.inj h)

theorem parse_looseText : Enclosure.parse looseText = .ok commentedEnclosure :=
  eq_ok_of_toOption (by decide +kernel)

theorem nestedComment_within : Within Enclosure.commentDepth nestedComment := by
  have harray : Within 123 (.array [.null, .number (.integer (-9223372036854775808) (by decide)
      (by decide))]) :=
    .array (List.forall_mem_cons.2 ⟨.null _, List.forall_mem_singleton.2 (.number _ _)⟩)
  change Within (123 + 1) nestedComment
  refine .object (by decide +kernel) ?_
  exact List.forall_mem_cons.2 ⟨harray, List.forall_mem_singleton.2 (.string _ _)⟩

theorem nestedComment_floatFree : FloatFree nestedComment :=
  .object (List.forall_mem_cons.2
    ⟨.array (List.forall_mem_cons.2
      ⟨.null, List.forall_mem_singleton.2 (.integer _ _ _)⟩),
    List.forall_mem_singleton.2 (.string _)⟩)

theorem commentedEnclosure_comments :
    ∀ c ∈ commentedEnclosure.comments, Within Enclosure.commentDepth c ∧ FloatFree c :=
  List.forall_mem_cons.2 ⟨⟨nestedComment_within, nestedComment_floatFree⟩,
    List.forall_mem_singleton.2 ⟨.boolean _ _, .boolean _⟩⟩

theorem looseText_reads_back :
    (∀ c ∈ commentedEnclosure.comments, Within Enclosure.commentDepth c ∧ FloatFree c) ∧
      Enclosure.parse commentedEnclosure.toJson.compact = .ok commentedEnclosure ∧
      Enclosure.parse looseText = .ok commentedEnclosure ∧
      (Enclosure.parse commentedEnclosure.toJson.pretty).map (·.toJson.pretty) =
        .ok commentedEnclosure.toJson.pretty := by
  obtain ⟨hwritten, -, hread⟩ := records_read_back
  refine ⟨commentedEnclosure_comments, (hwritten _ commentedEnclosure_comments).1, parse_looseText,
    ?_⟩
  have hfree := fun c hc => (commentedEnclosure_comments c hc).2
  have hpretty : Value.pretty ∈ [Value.compact, Value.pretty] :=
    List.mem_cons_of_mem _ List.mem_cons_self
  exact (hread looseText commentedEnclosure parse_looseText hfree Value.pretty hpretty).2

end EnclosingScope
