import EnclosingScope.Proofs.Command.Check
import EnclosingScope.Proofs.Json.Printer

namespace EnclosingScope.Command.Check

open Files Python Json Json.Value Json.Reader

def lineJson (file : String) (verdict : Verdict) : Value :=
  .object [("error", .string verdict.error), ("file", .string file),
    ("valid", .boolean verdict.valid)]

def line (file : String) (verdict : Verdict) : String :=
  (lineJson file verdict).compact

def readLine (line : String) : Option (String × Verdict) :=
  match Reader.run (Reader.value Shape.nesting) line with
  | .ok (.object [("error", .string error), ("file", .string file), ("valid", .boolean valid)]) =>
      some (file, ⟨valid, error⟩)
  | _ => none

def readLines (text : String) : List (Option (String × Verdict)) :=
  (text.toList.splitOn '\n').dropLast.map fun line => readLine (String.ofList line)

theorem floatFree_lineJson (file : String) (verdict : Verdict) :
    FloatFree (lineJson file verdict) :=
  .object (List.forall_mem_cons.2 ⟨.string _, List.forall_mem_cons.2 ⟨.string _,
    List.forall_mem_singleton.2 (.boolean _)⟩⟩)

theorem within_lineJson (file : String) (verdict : Verdict) (depth : Nat) :
    Within (depth + 1) (lineJson file verdict) := by
  have hnames : ["error", "file", "valid"].Pairwise Text.before := by decide +kernel
  exact .object (List.pairwise_map.1 hnames) (List.forall_mem_cons.2 ⟨.string _ _,
    List.forall_mem_cons.2 ⟨.string _ _, List.forall_mem_singleton.2 (.boolean _ _)⟩⟩)

theorem run_line (file : String) (verdict : Verdict) :
    Reader.run (Reader.value Shape.nesting) (line file verdict) = .ok (lineJson file verdict) :=
  (reads_value Spacing.isBlank_compact (within_lineJson file verdict _)
    (floatFree_lineJson file verdict)).run

theorem readLine_line (file : String) (verdict : Verdict) :
    readLine (line file verdict) = some (file, verdict) := by
  rw [readLine, run_line]
  rfl

theorem line_ne_empty (file : String) (verdict : Verdict) : line file verdict ≠ "" := by
  intro h
  have hlist := congrArg String.toList h
  rw [line, Value.compact, String.toList_ofList] at hlist
  cases hlist

theorem line_feed_not_mem_line (file : String) (verdict : Verdict) :
    '\n' ∉ (line file verdict).toList := by
  rw [line, Value.compact, String.toList_ofList]
  exact (plain_print (floatFree_lineJson file verdict) 0).line_feed_not_mem

theorem splitOn_lines {lines : List String} (h : ∀ l ∈ lines, '\n' ∉ l.toList) :
    (String.join (lines.map (· ++ "\n"))).toList.splitOn '\n' =
      lines.map String.toList ++ [[]] := by
  induction lines with
  | nil => rfl
  | cons l lines ih =>
      have hl := h l List.mem_cons_self
      have hrest := ih fun other ho => h other (List.mem_cons_of_mem _ ho)
      rw [String.toList_join] at hrest ⊢
      rw [List.map_cons, List.flatMap_cons, String.toList_append, List.append_assoc, List.map_cons,
        List.cons_append, ← hrest]
      exact List.splitOn_append_cons_self_of_not_mem hl _

theorem stdout_of_lines {found : List Path} {verdict : Path → Verdict} {outcome : Outcome}
    (h : entriesOn .out outcome.pieces = found.map fun file => lineEntry file (verdict file)) :
    outcome.stdout.toList.splitOn '\n' =
      (found.map fun file => (line file.shown (verdict file)).toList) ++ [[]] := by
  have hlines : ∀ l ∈ found.map fun file => line file.shown (verdict file), '\n' ∉ l.toList := by
    intro l hl
    obtain ⟨file, -, rfl⟩ := List.mem_map.1 hl
    exact line_feed_not_mem_line file.shown _
  have hsplit := splitOn_lines hlines
  rw [List.map_map, List.map_map] at hsplit
  rw [Outcome.stdout, textOn_eq_join, h]
  exact hsplit

theorem readLines_of_lines {text : String} {found : List Path} {verdict : Path → Verdict}
    (h : text.toList.splitOn '\n' =
      (found.map fun file => (line file.shown (verdict file)).toList) ++ [[]]) :
    readLines text = found.map fun file => some (file.shown, verdict file) := by
  rw [readLines, h, List.dropLast_concat]
  simp only [List.map_map, Function.comp_def, String.ofList_toList, readLine_line]

theorem lines_tell_every_verdict {engine : Engine} {parser : Parser}
    (h : engine.create = .ok parser) (files : Access) (filter : LogFilter) (paint : Paint) :
    ∃ verdict : Path → Verdict, (∀ file, Judged files parser file (verdict file)) ∧
      ∀ paths found, discover files paths = .ok found →
        let stdout := (run engine files filter paint paths true).stdout
        stdout.toList.splitOn '\n' =
            (found.map fun file => (line file.shown (verdict file)).toList) ++ [[]] ∧
          (∀ file ∈ found, line file.shown (verdict file) ≠ "" ∧
            Reader.run (Reader.value Shape.nesting) (line file.shown (verdict file)) =
              .ok (.object [("error", .string (verdict file).error), ("file", .string file.shown),
                ("valid", .boolean (verdict file).valid)])) ∧
          readLines stdout = (found.map fun file => some (file.shown, verdict file)) ∧
          ∀ names : List String, found = names.map Path.ofText →
            readLines stdout = names.map fun name : String => some (name, verdict name) := by
  refine ⟨fun file => (finding files ⟨parser, .scopes⟩ file).verdict,
    fun file => finding_judged files ⟨parser, .scopes⟩ file, fun paths found hfound => ?_⟩
  intro stdout
  have hlines : entriesOn .out (run engine files filter paint paths true).pieces =
      found.map fun file => lineEntry file (finding files ⟨parser, .scopes⟩ file).verdict := by
    rw [run_eq_report h hfound]
    exact entries_json_out found
  have hsplit := stdout_of_lines hlines
  have hread := readLines_of_lines hsplit
  refine ⟨hsplit, fun file _ => ⟨line_ne_empty _ _, run_line _ _⟩, hread, ?_⟩
  rintro names rfl
  refine hread.trans ?_
  rw [List.map_map]
  exact List.map_congr_left fun name _ => by simp

def oddName : String := "two\nlines \"é\\\x01.py"

theorem readText_odd : mixedFiles.readText oddName = .error .notText := by
  decide +kernel

theorem oddName_read_back :
    let engine : Engine := ⟨.ok mixedParser⟩
    let outcome := run engine mixedFiles {} ⟨false⟩ [oddName, "good.py"] true
    engine.create = .ok mixedParser ∧
      (outcome.stdout.toList.splitOn '\n').length = 3 ∧
      readLines outcome.stdout =
        [some (oddName, ⟨false, "failed to read file: stream did not contain valid UTF-8"⟩),
         some ("good.py", ⟨true, ""⟩)] := by
  intro engine outcome
  have hc : engine.create = .ok mixedParser := rfl
  obtain ⟨verdict, hj, hall⟩ := lines_tell_every_verdict hc mixedFiles {} ⟨false⟩
  have hfound : discover mixedFiles [oddName, "good.py"] = .ok [oddName, "good.py"] := rfl
  obtain ⟨hsplit, -, -, hread⟩ := hall _ _ hfound
  have hgood : verdict "good.py" = ⟨true, ""⟩ := (hj _).accepted.2 not_fault_good
  have hodd : verdict oddName =
      ⟨false, "failed to read file: stream did not contain valid UTF-8"⟩ :=
    ((hj _).rejected _).2 (.unreadable readText_odd)
  refine ⟨hc, ?_, ?_⟩
  · rw [hsplit]
    rfl
  · rw [hread [oddName, "good.py"] rfl, List.map_cons, List.map_cons, hgood, hodd]
    rfl

end EnclosingScope.Command.Check
