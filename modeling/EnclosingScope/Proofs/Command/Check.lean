import EnclosingScope.Command.Check
import EnclosingScope.Proofs.Text.Bytes
import EnclosingScope.Proofs.Tree.Marker
import Mathlib.Algebra.Group.Nat.Defs
import Mathlib.Data.List.Basic

namespace EnclosingScope

@[simp]
theorem Files.Path.shown_ofText (text : String) : (Path.ofText text).shown = text :=
  Text.lossy_bytes text

namespace Command

open Files Python EnclosingScope.Tree SyntaxNode

def entriesOn (stream : Stream) (pieces : List Piece) : List String :=
  (pieces.filter (·.stream = stream)).map (·.text)

theorem textOn_eq_join (stream : Stream) (pieces : List Piece) :
    textOn stream pieces = String.join (entriesOn stream pieces) := rfl

theorem entriesOn_append (stream : Stream) (ps qs : List Piece) :
    entriesOn stream (ps ++ qs) = entriesOn stream ps ++ entriesOn stream qs := by
  rw [entriesOn, List.filter_append, List.map_append]
  rfl

theorem entriesOn_flatMap {α : Type} (stream : Stream) (f : α → List Piece) (as : List α) :
    entriesOn stream (as.flatMap f) = as.flatMap fun a => entriesOn stream (f a) := by
  rw [entriesOn, List.filter_flatMap, List.map_flatMap]
  rfl

theorem entriesOn_map (stream other : Stream) (texts : List String) :
    entriesOn stream (texts.map (Piece.mk other)) = if other = stream then texts else [] := by
  by_cases h : other = stream
  · simp [entriesOn, List.filter_map, Function.comp_def, h]
  · simp [entriesOn, List.filter_map, Function.comp_def, h]

theorem LogFilter.pieces_eq_map (filter : LogFilter) (entries : List Log.Entry) :
    filter.pieces entries = ((entries.filter filter.shows).map line).map (Piece.mk .err) :=
  List.map_map.symm

theorem flatMap_singleton_if {α β : Type} (p : α → Bool) (f : α → β) (as : List α) :
    as.flatMap (fun a => if p a then [f a] else []) = (as.filter p).map f := by
  induction as with
  | nil => rfl
  | cons a as ih => cases h : p a <;> simp [h, ih]

namespace Check

inductive Fault (files : Access) (parser : Parser) (file : Path) : String → Prop
  | unreadable {e : AccessError} (read : files.readText file = .error e) :
      Fault files parser file ("failed to read file: " ++ e.message)
  | unparsed {text : String} {e : ParseError} (read : files.readText file = .ok text)
      (parsed : parser text = .error e) : Fault files parser file e.message
  | marked {text : String} {tree node : SyntaxTree} (read : files.readText file = .ok text)
      (parsed : parser text = .ok tree) (mem : node ∈ preorder tree)
      (marks : marksError node = true) :
      Fault files parser file "Syntax error in Python code"

structure Judged (files : Access) (parser : Parser) (file : Path) (verdict : Verdict) :
    Prop where
  rejected : ∀ error, verdict = ⟨false, error⟩ ↔ Fault files parser file error
  accepted : verdict = ⟨true, ""⟩ ↔ ∀ error, ¬ Fault files parser file error

variable {files : Access} {parser : Parser} {file : Path} {error : String}

namespace Fault

theorem iff_of_unreadable {e : AccessError} (hr : files.readText file = .error e) :
    Fault files parser file error ↔ error = "failed to read file: " ++ e.message := by
  constructor
  · intro h
    cases h with
    | unreadable read =>
        cases hr.symm.trans read
        rfl
    | unparsed read => cases hr.symm.trans read
    | marked read => cases hr.symm.trans read
  · rintro rfl
    exact .unreadable hr

theorem iff_of_unparsed {text : String} {e : ParseError} (hr : files.readText file = .ok text)
    (hp : parser text = .error e) : Fault files parser file error ↔ error = e.message := by
  constructor
  · intro h
    cases h with
    | unreadable read => cases hr.symm.trans read
    | unparsed read parsed =>
        cases hr.symm.trans read
        cases hp.symm.trans parsed
        rfl
    | marked read parsed =>
        cases hr.symm.trans read
        cases hp.symm.trans parsed
  · rintro rfl
    exact .unparsed hr hp

theorem iff_of_parsed {text : String} {tree : SyntaxTree} (hr : files.readText file = .ok text)
    (hp : parser text = .ok tree) :
    Fault files parser file error ↔
      error = "Syntax error in Python code" ∧ hasErrors tree = true := by
  rw [hasErrors_eq_any, List.any_eq_true]
  constructor
  · intro h
    cases h with
    | unreadable read => cases hr.symm.trans read
    | unparsed read parsed =>
        cases hr.symm.trans read
        cases hp.symm.trans parsed
    | marked read parsed mem marks =>
        cases hr.symm.trans read
        cases hp.symm.trans parsed
        exact ⟨rfl, _, mem, marks⟩
  · rintro ⟨rfl, node, hn, hm⟩
    exact .marked hr hp hn hm

end Fault

namespace Judged

theorem of_one_fault (h : ∀ other, Fault files parser file other ↔ other = error) :
    Judged files parser file (.rejected error) where
  rejected other := by
    rw [h other]
    constructor
    · intro heq
      cases heq
      rfl
    · rintro rfl
      rfl
  accepted := by
    constructor
    · intro heq
      cases heq
    · intro hno
      exact absurd ((h error).2 rfl) (hno error)

theorem of_no_fault (h : ∀ error, ¬ Fault files parser file error) :
    Judged files parser file .accepted where
  rejected error := by
    constructor
    · intro heq
      cases heq
    · intro hf
      exact absurd hf (h error)
  accepted := iff_of_true rfl h

variable {verdict : Verdict}

theorem valid_eq_true_iff (h : Judged files parser file verdict) :
    verdict.valid = true ↔ ∀ error, ¬ Fault files parser file error := by
  constructor
  · intro hv error hf
    rw [(h.rejected error).2 hf] at hv
    cases hv
  · intro hno
    rw [h.accepted.2 hno]

end Judged

theorem finding_judged (files : Access) (finder : Finder) (file : Path) :
    Judged files finder.parser file (finding files finder file).verdict := by
  cases hr : files.readText file with
  | error e =>
      simp only [finding, hr]
      exact .of_one_fault fun other => Fault.iff_of_unreadable hr
  | ok text =>
      simp only [finding, hr, Finder.verdict, Verdict.ofSource]
      cases hp : finder.parser text with
      | error e => exact .of_one_fault fun other => Fault.iff_of_unparsed hr hp
      | ok tree =>
          simp only [Verdict.ofTree]
          cases hm : hasErrors tree with
          | true =>
              refine .of_one_fault fun other => (Fault.iff_of_parsed hr hp).trans ?_
              rw [hm]
              exact and_iff_left rfl
          | false =>
              refine .of_no_fault fun other ho => ?_
              have hmarked := ((Fault.iff_of_parsed hr hp).1 ho).2
              rw [hm] at hmarked
              cases hmarked

def checkEntry (paint : Paint) (file : Path) : String :=
  paint.green "✓" ++ " " ++ file.shown ++ "\n"

def cross (paint : Paint) : String :=
  paint.red "✗" ++ " "

def crossEntry (paint : Paint) (file : Path) (error : String) : String :=
  cross paint ++ file.shown ++ ": " ++ error ++ "\n"

def isCross (paint : Paint) (text : String) : Bool :=
  (cross paint).toList.isPrefixOf text.toList

def summaryEntry (paint : Paint) (valid invalid : Nat) : String :=
  "\n" ++ paint.bold "Summary:" ++ "\n"
    ++ "  " ++ paint.green (Decimal.text valid) ++ " valid\n"
    ++ "  " ++ paint.red (Decimal.text invalid) ++ " invalid\n"

def lineEntry (file : Path) (verdict : Verdict) : String :=
  (Json.Value.object [("error", .string verdict.error), ("file", .string file.shown),
    ("valid", .boolean verdict.valid)]).compact ++ "\n"

theorem finding_file (files : Access) (finder : Finder) (file : Path) :
    (finding files finder file).file = file := by
  unfold finding
  split <;> rfl

theorem isCross_crossEntry (paint : Paint) (file : Path) (error : String) :
    isCross paint (crossEntry paint file error) = true := by
  simp [isCross, crossEntry, List.append_assoc]

theorem isCross_eq_false {paint : Paint} {text : String} {c : Char}
    (ht : text.toList.head? = some c) (hc : c = ' ' ∨ c = '[') : isCross paint text = false := by
  obtain ⟨rest, hr⟩ := List.head?_eq_some_iff.1 ht
  obtain ⟨on⟩ := paint
  rw [isCross, hr]
  cases on <;> rcases hc with rfl | rfl <;> rfl

theorem isCross_line (paint : Paint) (entry : Log.Entry) :
    isCross paint (LogFilter.line entry) = false := by
  refine isCross_eq_false (c := '[') ?_ (.inr rfl)
  simp only [LogFilter.line, String.toList_append]
  rfl

theorem isCross_errorLine (paint : Paint) (text : String) (span : ErrorSpan) :
    isCross paint (errorLine text span) = false := by
  refine isCross_eq_false (c := ' ') ?_ (.inl rfl)
  simp only [errorLine, String.toList_append]
  rfl

variable {finder : Finder} {filter : LogFilter} {paint : Paint}

theorem human_of_valid {f : Finding} (h : f.verdict.valid = true) :
    human finder paint f = [checkEntry paint f.file].map (Piece.mk .out) :=
  if_pos h

theorem isCross_of_mem_errorLines {text line : String} (h : line ∈ errorLines finder text) :
    isCross paint line = false := by
  unfold errorLines at h
  split at h
  · obtain ⟨span, -, rfl⟩ := List.mem_map.1 h
    exact isCross_errorLine paint text span
  · cases h

theorem human_of_invalid (finder : Finder) (paint : Paint) {f : Finding}
    (h : f.verdict.valid = false) :
    ∃ below : List String, (∀ line ∈ below, isCross paint line = false) ∧
      human finder paint f =
        (crossEntry paint f.file f.verdict.error :: below).map (Piece.mk .err) := by
  unfold human
  rw [h]
  cases f.text with
  | none => exact ⟨[], List.forall_mem_nil _, rfl⟩
  | some text =>
      exact ⟨errorLines finder text, fun line hl => isCross_of_mem_errorLines hl, rfl⟩

theorem human_out (f : Finding) :
    entriesOn .out (human finder paint f) =
      if f.verdict.valid then [checkEntry paint f.file] else [] := by
  cases hv : f.verdict.valid with
  | true =>
      rw [human_of_valid hv, entriesOn_map]
      rfl
  | false =>
      obtain ⟨below, -, hh⟩ := human_of_invalid finder paint hv
      rw [hh, entriesOn_map]
      rfl

theorem human_crosses (f : Finding) :
    (entriesOn .err (human finder paint f)).filter (isCross paint) =
      if !f.verdict.valid then [crossEntry paint f.file f.verdict.error] else [] := by
  cases hv : f.verdict.valid with
  | true =>
      rw [human_of_valid hv, entriesOn_map]
      rfl
  | false =>
      obtain ⟨below, hb, hh⟩ := human_of_invalid finder paint hv
      have hnone : below.filter (isCross paint) = [] :=
        List.filter_eq_nil_iff.2 fun line hl => by simp [hb line hl]
      rw [hh, entriesOn_map, if_pos rfl, List.filter_cons_of_pos (isCross_crossEntry ..), hnone]
      rfl

theorem logs_out (filter : LogFilter) (entries : List Log.Entry) :
    entriesOn .out (filter.pieces entries) = [] := by
  rw [LogFilter.pieces_eq_map, entriesOn_map]
  rfl

theorem logs_crosses (filter : LogFilter) (paint : Paint) (entries : List Log.Entry) :
    (entriesOn .err (filter.pieces entries)).filter (isCross paint) = [] := by
  rw [LogFilter.pieces_eq_map, entriesOn_map, if_pos rfl, List.filter_eq_nil_iff]
  intro text ht
  obtain ⟨entry, -, rfl⟩ := List.mem_map.1 ht
  simp [isCross_line]

def piecesOf (finder : Finder) (filter : LogFilter) (paint : Paint) (asJson : Bool)
    (f : Finding) : List Piece :=
  filter.pieces f.entries ++ (if asJson then json f else human finder paint f)

theorem piecesOf_json_out (f : Finding) :
    entriesOn .out (piecesOf finder filter paint true f) = [lineEntry f.file f.verdict] := by
  rw [piecesOf, entriesOn_append, logs_out]
  rfl

theorem piecesOf_human_out (f : Finding) :
    entriesOn .out (piecesOf finder filter paint false f) =
      if f.verdict.valid then [checkEntry paint f.file] else [] := by
  rw [piecesOf, entriesOn_append, logs_out, List.nil_append]
  exact human_out f

theorem piecesOf_human_crosses (f : Finding) :
    (entriesOn .err (piecesOf finder filter paint false f)).filter (isCross paint) =
      if !f.verdict.valid then [crossEntry paint f.file f.verdict.error] else [] := by
  rw [piecesOf, entriesOn_append, List.filter_append, logs_crosses, List.nil_append]
  exact human_crosses f

def validFiles (verdict : Path → Verdict) (found : List Path) : List Path :=
  found.filter fun file => (verdict file).valid

def invalidFiles (verdict : Path → Verdict) (found : List Path) : List Path :=
  found.filter fun file => !(verdict file).valid

structure Ledger where
  verdict : Path → Verdict
  pieces : Path → List Piece

def ledger (files : Access) (finder : Finder) (filter : LogFilter) (paint : Paint)
    (asJson : Bool) : Ledger where
  verdict file := (finding files finder file).verdict
  pieces file := piecesOf finder filter paint asJson (finding files finder file)

def Ledger.carry (l : Ledger) (t : Tally) (found : List Path) : Tally where
  valid := t.valid + .ofNat (validFiles l.verdict found).length
  invalid := t.invalid + .ofNat (invalidFiles l.verdict found).length
  pieces := t.pieces ++ found.flatMap l.pieces

theorem tell_eq_carry (asJson : Bool) (t : Tally) (file : Path) :
    tell finder filter paint asJson t (finding files finder file) =
      (ledger files finder filter paint asJson).carry t [file] := by
  simp only [tell, Ledger.carry, ledger, validFiles, invalidFiles, List.flatMap_singleton]
  cases hv : (finding files finder file).verdict.valid with
  | true => simp [hv, piecesOf]
  | false => simp [hv, piecesOf]

theorem Ledger.carry_append (l : Ledger) (t : Tally) (found later : List Path) :
    l.carry (l.carry t found) later = l.carry t (found ++ later) := by
  simp only [carry, validFiles, invalidFiles, List.filter_append, List.length_append,
    Int32.ofNat_add, Int32.add_assoc, List.flatMap_append, List.append_assoc]

theorem tally_eq_carry (asJson : Bool) (found : List Path) :
    tally files finder filter paint asJson found =
      (ledger files finder filter paint asJson).carry {} found := by
  have hrun : ∀ t : Tally, found.foldl
      (fun t file => tell finder filter paint asJson t (finding files finder file)) t =
        (ledger files finder filter paint asJson).carry t found := by
    induction found with
    | nil =>
        intro t
        simp [Ledger.carry, validFiles, invalidFiles]
    | cons file found ih =>
        intro t
        rw [List.foldl_cons, ih, tell_eq_carry, Ledger.carry_append]
        rfl
  exact hrun {}

theorem report_pieces (asJson : Bool) (found : List Path) :
    (report files finder filter paint asJson found).pieces =
      found.flatMap (fun file => piecesOf finder filter paint asJson (finding files finder file)) ++
        (if asJson then [] else
          [⟨.out, summary paint (tally files finder filter paint asJson found)⟩]) := by
  rw [report, tally_eq_carry]
  rfl

theorem entries_json_out (found : List Path) :
    entriesOn .out (report files finder filter paint true found).pieces =
      found.map fun file => lineEntry file (finding files finder file).verdict := by
  rw [report_pieces, if_pos rfl, List.append_nil, entriesOn_flatMap]
  simp only [piecesOf_json_out, finding_file]
  exact List.flatMap_pure_eq_map _ _

theorem crosses_human (found : List Path) :
    (entriesOn .err (report files finder filter paint false found).pieces).filter (isCross paint) =
      (invalidFiles (fun file => (finding files finder file).verdict) found).map fun file =>
        crossEntry paint file (finding files finder file).verdict.error := by
  rw [report_pieces, entriesOn_append, entriesOn_flatMap, List.filter_append, List.filter_flatMap]
  simp only [piecesOf_human_crosses, flatMap_singleton_if, finding_file]
  exact List.append_nil _

theorem toInt_count (p : Path → Bool) {found : List Path} (h : found.length < 2 ^ 31) :
    (0 + Int32.ofNat (found.filter p).length : Int32).toInt = (found.filter p).length := by
  rw [Int32.zero_add]
  exact Int32.toInt_ofNat_of_lt (Nat.lt_of_le_of_lt (List.length_filter_le p found) h)

theorem toInt_valid {asJson : Bool} {found : List Path} (h : found.length < 2 ^ 31) :
    (tally files finder filter paint asJson found).valid.toInt =
      (validFiles (fun file => (finding files finder file).verdict) found).length := by
  rw [tally_eq_carry]
  exact toInt_count _ h

theorem toInt_invalid {asJson : Bool} {found : List Path} (h : found.length < 2 ^ 31) :
    (tally files finder filter paint asJson found).invalid.toInt =
      (invalidFiles (fun file => (finding files finder file).verdict) found).length := by
  rw [tally_eq_carry]
  exact toInt_count _ h

theorem intText_natCast (n : Nat) : Decimal.intText n = Decimal.text n := by
  rw [Decimal.intText, if_neg (Int.not_lt.2 (Int.natCast_nonneg n)), Int.natAbs_natCast]

theorem summary_of_few {asJson : Bool} {found : List Path} (h : found.length < 2 ^ 31) :
    summary paint (tally files finder filter paint asJson found) =
      summaryEntry paint
        (validFiles (fun file => (finding files finder file).verdict) found).length
        (invalidFiles (fun file => (finding files finder file).verdict) found).length := by
  rw [summary, toInt_valid h, toInt_invalid h, intText_natCast, intText_natCast]
  rfl

theorem invalidFiles_eq_nil_iff {found : List Path} :
    invalidFiles (fun file => (finding files finder file).verdict) found = [] ↔
      ¬ ∃ file ∈ found, ∃ error, Fault files finder.parser file error := by
  simp only [invalidFiles, List.filter_eq_nil_iff, Bool.not_eq_true', Bool.not_eq_false,
    (finding_judged files finder _).valid_eq_true_iff, not_exists, not_and]

theorem invalid_pos_iff {found : List Path} (h : found.length < 2 ^ 31) (filter : LogFilter)
    (paint : Paint) (asJson : Bool) :
    0 < (tally files finder filter paint asJson found).invalid ↔
      ∃ file ∈ found, ∃ error, Fault files finder.parser file error := by
  rw [Int32.lt_iff_toInt_lt, toInt_invalid h, ← not_iff_not, ← invalidFiles_eq_nil_iff]
  simp

def lastPieces (paint : Paint) (verdict : Path → Verdict) (found : List Path)
    (asJson : Bool) : List Piece :=
  if asJson then []
  else
    [⟨.out, summaryEntry paint (validFiles verdict found).length
      (invalidFiles verdict found).length⟩]

structure Accounts (files : Access) (parser : Parser) (paint : Paint)
    (verdict : Path → Verdict) (pieces : Bool → Path → List Piece) (found : List Path)
    (run : Bool → Outcome) : Prop where
  code_eq_one : ∀ asJson,
    (run asJson).code = 1 ↔ ∃ file ∈ found, ∃ error, Fault files parser file error
  code_eq_zero : ∀ asJson,
    (run asJson).code = 0 ↔ ¬ ∃ file ∈ found, ∃ error, Fault files parser file error
  separate : ∀ asJson,
    (run asJson).pieces = found.flatMap (pieces asJson) ++ lastPieces paint verdict found asJson
  total : (validFiles verdict found).length + (invalidFiles verdict found).length = found.length
  checks : entriesOn .out (run false).pieces =
    (validFiles verdict found).map (checkEntry paint) ++
      [summaryEntry paint (validFiles verdict found).length (invalidFiles verdict found).length]
  crosses : (entriesOn .err (run false).pieces).filter (isCross paint) =
    (invalidFiles verdict found).map fun file => crossEntry paint file (verdict file).error
  lines : entriesOn .out (run true).pieces = found.map fun file => lineEntry file (verdict file)

theorem report_accounts (files : Access) (finder : Finder) (filter : LogFilter) (paint : Paint)
    {found : List Path} (h : found.length < 2 ^ 31) :
    Accounts files finder.parser paint (fun file => (finding files finder file).verdict)
      (fun asJson file => piecesOf finder filter paint asJson (finding files finder file)) found
      fun asJson => report files finder filter paint asJson found where
  code_eq_one asJson := by
    rw [report, ← invalid_pos_iff h filter paint asJson]
    simp
  code_eq_zero asJson := by
    rw [report, ← invalid_pos_iff h filter paint asJson]
    simp
  separate asJson := by
    rw [report_pieces, summary_of_few h]
    rfl
  total := (List.length_eq_length_filter_add _).symm
  checks := by
    rw [report_pieces, summary_of_few h, entriesOn_append, entriesOn_flatMap]
    simp only [piecesOf_human_out, flatMap_singleton_if, finding_file]
    rfl
  crosses := crosses_human found
  lines := entries_json_out found

theorem run_eq_report {engine : Engine} (h : engine.create = .ok parser) {paths found : List Path}
    (hfound : discover files paths = .ok found) (filter : LogFilter) (paint : Paint)
    (asJson : Bool) :
    run engine files filter paint paths asJson =
      report files ⟨parser, .scopes⟩ filter paint asJson found := by
  rw [run, hfound, Finder.create, h]
  rfl

theorem run_of_walkError (engine : Engine) {paths : List Path} {e : WalkError}
    (h : discover files paths = .error e) (filter : LogFilter) (paint : Paint) (asJson : Bool) :
    run engine files filter paint paths asJson =
      ⟨1, [⟨.err, (Failure.mk e.message [e.error.message]).text⟩]⟩ := by
  rw [run, h]
  rfl

theorem check_accounts_for_every_file {engine : Engine} (h : engine.create = .ok parser)
    (files : Access) (filter : LogFilter) (paint : Paint) :
    ∃ verdict pieces, (∀ file, Judged files parser file (verdict file)) ∧
      ∀ paths found, discover files paths = .ok found → found.length < 2 ^ 31 →
        Accounts files parser paint verdict pieces found (run engine files filter paint paths) := by
  refine ⟨fun file => (finding files ⟨parser, .scopes⟩ file).verdict,
    fun asJson => (ledger files ⟨parser, .scopes⟩ filter paint asJson).pieces,
    fun file => finding_judged files ⟨parser, .scopes⟩ file, fun paths found hfound hfew => ?_⟩
  rw [funext (run_eq_report h hfound filter paint)]
  exact report_accounts files ⟨parser, .scopes⟩ filter paint hfew

def goodText : String := "x = 1\n"

def brokenText : String := "x = (\n"

def mixedFiles : Access where
  read path :=
    if path = "good.py" then .ok goodText.toUTF8
    else if path = "broken.py" then .ok brokenText.toUTF8
    else .ok ⟨#[0xFF]⟩
  below _ := none

def brokenPlace : SyntaxTree :=
  .node "ERROR" ⟨0, 4⟩ ⟨0, 5⟩ true []

def mixedTree (text : String) : SyntaxTree :=
  .node "module" ⟨0, 0⟩ ⟨1, 0⟩ false (if text = brokenText then [brokenPlace] else [])

def mixedParser : Parser := fun text => .ok (mixedTree text)

theorem readText_good : mixedFiles.readText "good.py" = .ok goodText := by
  decide +kernel

theorem readText_broken : mixedFiles.readText "broken.py" = .ok brokenText := by
  decide +kernel

theorem readText_latin : mixedFiles.readText "latin.py" = .error .notText := by
  decide +kernel

theorem hasErrors_good : hasErrors (mixedTree goodText) = false := by
  rw [hasErrors_eq]
  rfl

theorem not_fault_good (error : String) : ¬ Fault mixedFiles mixedParser "good.py" error := by
  intro hf
  have hm := ((Fault.iff_of_parsed readText_good rfl).1 hf).2
  rw [hasErrors_good] at hm
  cases hm

theorem brokenPlace_mem : brokenPlace ∈ preorder (mixedTree brokenText) :=
  mem_preorder_of_child (List.mem_singleton_self brokenPlace)

theorem mixedFiles_checked :
    let engine : Engine := ⟨.ok mixedParser⟩
    let outcome := run engine mixedFiles {} ⟨false⟩
      ["good.py", "latin.py", "broken.py", "good.py"] false
    engine.create = .ok mixedParser ∧ outcome.code = 1 ∧
      entriesOn .out outcome.pieces =
        ["✓ good.py\n", "✓ good.py\n", "\nSummary:\n  2 valid\n  2 invalid\n"] ∧
      (entriesOn .err outcome.pieces).filter (isCross ⟨false⟩) =
        ["✗ latin.py: failed to read file: stream did not contain valid UTF-8\n",
         "✗ broken.py: Syntax error in Python code\n"] := by
  intro engine outcome
  have hc : engine.create = .ok mixedParser := rfl
  obtain ⟨verdict, pieces, hj, hall⟩ := check_accounts_for_every_file hc mixedFiles {} ⟨false⟩
  have hfound : discover mixedFiles ["good.py", "latin.py", "broken.py", "good.py"] =
      .ok ["good.py", "latin.py", "broken.py", "good.py"] := rfl
  have haccounts := hall _ _ hfound (by decide)
  have hlatinFault : Fault mixedFiles mixedParser "latin.py"
      "failed to read file: stream did not contain valid UTF-8" := .unreadable readText_latin
  have hgood : verdict "good.py" = ⟨true, ""⟩ := (hj _).accepted.2 not_fault_good
  have hlatin : verdict "latin.py" =
      ⟨false, "failed to read file: stream did not contain valid UTF-8"⟩ :=
    ((hj _).rejected _).2 hlatinFault
  have hbroken : verdict "broken.py" = ⟨false, "Syntax error in Python code"⟩ :=
    ((hj _).rejected _).2 (.marked readText_broken rfl brokenPlace_mem rfl)
  have htwo : Decimal.text 2 = "2" := by decide +kernel
  refine ⟨hc, ?_, ?_, ?_⟩
  · exact (haccounts.code_eq_one false).2 ⟨"latin.py", by simp, _, hlatinFault⟩
  · refine haccounts.checks.trans ?_
    simp [validFiles, invalidFiles, hgood, hlatin, hbroken, summaryEntry, htwo, checkEntry,
      Paint.green, Paint.red, Paint.bold, Paint.coded]
  · refine haccounts.crosses.trans ?_
    simp [invalidFiles, hgood, hlatin, hbroken, crossEntry, cross, Paint.red, Paint.coded]

end Check

end Command

end EnclosingScope
