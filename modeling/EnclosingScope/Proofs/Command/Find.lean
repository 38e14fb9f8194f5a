import EnclosingScope.Proofs.Command.Faults
import EnclosingScope.Proofs.Config.Loaded
import EnclosingScope.Proofs.Record
import EnclosingScope.Proofs.Session

namespace EnclosingScope

open EnclosingScope.Tree Python

def OneLine (text : String) : Prop :=
  '\n' ∉ text.toList

instance (text : String) : Decidable (OneLine text) :=
  inferInstanceAs (Decidable ('\n' ∉ text.toList))

theorem OneLine.append {s t : String} (hs : OneLine s) (ht : OneLine t) : OneLine (s ++ t) := by
  rw [OneLine, String.toList_append, List.mem_append, not_or]
  exact ⟨hs, ht⟩

theorem oneLine_decimal (n : Nat) : OneLine (Decimal.text n) := by
  intro hmem
  rw [Decimal.text, String.toList_ofList] at hmem
  have hdigit := Decimal.isDigit_of_mem_digits hmem
  cases hdigit

theorem IsKindName.oneLine {name : String} (h : IsKindName name) : OneLine name := by
  intro hmem
  have hall := (isValidKind_iff_chars.1 (isValidKind_iff.2 h)).2
  have hchar := List.all_eq_true.1 hall _ hmem
  cases hchar

theorem comments_enclosingRecord (kinds : KindSet) (r : LineRange) (tree : SyntaxTree) :
    (Enclosure.mk (enclosingRecord kinds r tree)).comments = [] := by
  unfold enclosingRecord
  cases Search.enclosing r kinds tree with
  | none => rfl
  | some node => rfl

namespace Command

open Files

namespace Find

-- The configuration comes before the lines, and they before the file.
inductive Fails (refuse : Toml.Refusal) (files : Access) (config : Option String) (file : String)
    (start stop : UInt64) : Fault → Prop
  | config {e : ConfigError} (misconfigured : Misconfigured refuse files config e) :
      Fails refuse files config file start stop (.config e)
  | lines {c : Config} (configured : Configured files config c)
      (invalid : start = 0 ∨ stop < start) :
      Fails refuse files config file start stop (.lines start stop)
  | file {c : Config} {e : AccessError} (configured : Configured files config c)
      (valid : start ≠ 0 ∧ start ≤ stop) (read : files.readText file = .error e) :
      Fails refuse files config file start stop (.file file e)

structure Ready (files : Access) (config : Option String) (file : String) (start stop : UInt64)
    (c : Config) (r : LineRange) (text : String) : Prop where
  configured : Configured files config c
  lines : LineRange.ofLines start stop = .ok r
  read : files.readText file = .ok text

variable {refuse : Toml.Refusal} {files : Access} {config : Option String} {c : Config}
  {file : String} {start stop : UInt64} {last : Option UInt64} {fault : Fault}

theorem fails_or_ready (refuse : Toml.Refusal) (files : Access) (config : Option String)
    (file : String) (start stop : UInt64) :
    (∃ fault, Fails refuse files config file start stop fault) ∨
      ∃ c r text, Ready files config file start stop c r text := by
  rcases configured_or_misconfigured refuse files config with ⟨c, hc⟩ | ⟨e, he⟩
  · by_cases hv : start ≠ 0 ∧ start ≤ stop
    · cases hr : files.readText file with
      | error e => exact .inl ⟨_, .file hc hv hr⟩
      | ok text => exact .inr ⟨c, _, text, hc, LineRange.ofLines_of_valid hv.1 hv.2, hr⟩
    · have hinvalid : start = 0 ∨ stop < start := by
        rw [not_and_or, not_not, UInt64.not_le] at hv
        exact hv
      exact .inl ⟨_, .lines hc hinvalid⟩
  · exact .inl ⟨_, .config he⟩

theorem ready_iff_valid :
    (∃ c r text, Ready files config file start stop c r text) ↔
      (∃ c, Configured files config c) ∧ (start ≠ 0 ∧ start ≤ stop) ∧
        ∃ text, files.readText file = .ok text := by
  constructor
  · rintro ⟨c, r, text, hc, hl, hr⟩
    refine ⟨⟨c, hc⟩, ?_, text, hr⟩
    by_cases hv : start ≠ 0 ∧ start ≤ stop
    · exact hv
    · rw [LineRange.ofLines, dif_neg hv] at hl
      cases hl
  · rintro ⟨⟨c, hc⟩, hv, text, hr⟩
    exact ⟨c, _, text, hc, LineRange.ofLines_of_valid hv.1 hv.2, hr⟩

def place (p : Position) : String :=
  Decimal.text p.line.toNat ++ ":" ++ Decimal.text p.column.toNat

def answerLine (paint : Paint) (start stop : UInt64) : Option NodeRecord → String
  | some node =>
      paint.green "✓" ++ " " ++ paint.bold node.kind ++ " " ++ place node.location.start ++ "-"
        ++ place node.location.stop
  | none => paint.cyan "⊘" ++ " no enclosing context for lines " ++ linesText start stop

def answerText (paint : Paint) (start stop : UInt64) (json : Bool) (found : Option NodeRecord) :
    String :=
  (if json then (Enclosure.mk found).toJson.pretty else answerLine paint start stop found) ++ "\n"

variable {engine : Engine} {tree : String → SyntaxTree}

theorem ends_of_ofLines {r : LineRange} (h : LineRange.ofLines start stop = .ok r) :
    start = r.start ∧ stop = r.stop := by
  unfold LineRange.ofLines at h
  split at h
  · cases h
    exact ⟨rfl, rfl⟩
  · cases h

theorem human_eq_answerLine (paint : Paint) (r : LineRange) (found : Option NodeRecord) :
    human paint ⟨r, found⟩ = answerLine paint r.start r.stop found ++ "\n" := by
  cases found with
  | none => rfl
  | some node => rfl

theorem request_of_misconfigured {e : ConfigError} (h : Misconfigured refuse files config e)
    (engine : Engine) (env : Environment) (verbose : Bool) (task : Task) :
    Request.run engine files env ⟨config, verbose, task⟩ refuse =
      e.failure.outcome.after (warnings env verbose) := by
  simp only [Request.run, h.fails]
  rfl

theorem request_of_configured (h : Configured files config c) (engine : Engine)
    (env : Environment) (verbose : Bool) (file : String) (start : UInt64) (last : Option UInt64)
    (json : Bool) (refuse : Toml.Refusal) :
    Request.run engine files env ⟨config, verbose, .find file start last json⟩ refuse =
      (run engine files (LogFilter.ofSetting env.logSetting verbose).1 env.paint c file start
        (last.getD start) json).after (warnings env verbose) := by
  simp only [Request.run, h.loads]
  rfl

theorem request_of_fails (h : Fails refuse files config file start (last.getD start) fault)
    (engine : Engine) (env : Environment) (verbose json : Bool) :
    ∃ message cause, fault.Worded message cause ∧
      Request.run engine files env ⟨config, verbose, .find file start last json⟩ refuse =
        (Failure.mk message cause.toList).outcome.after (warnings env verbose) := by
  cases h with
  | config misconfigured =>
      exact ⟨_, _, .config misconfigured.worded, request_of_misconfigured misconfigured ..⟩
  | lines configured invalid =>
      refine ⟨_, _, .lines, ?_⟩
      rw [request_of_configured configured]
      simp only [run, answer, LineRange.ofLines_of_invalid invalid]
      rfl
  | file configured valid read =>
      refine ⟨_, _, .file, ?_⟩
      rw [request_of_configured configured]
      simp only [run, answer, LineRange.ofLines_of_valid valid.1 valid.2, read]
      rfl

theorem rejected_of_fails (h : Fails refuse files config file start (last.getD start) fault)
    (engine : Engine) (env : Environment) (verbose json : Bool) :
    ∃ message cause, fault.Worded message cause ∧ Rejected env verbose message cause
      (Request.run engine files env ⟨config, verbose, .find file start last json⟩ refuse) := by
  obtain ⟨message, cause, hworded, hrun⟩ := request_of_fails h engine env verbose json
  refine ⟨message, cause, hworded, ?_⟩
  rw [hrun]
  exact .of_failure env verbose message cause

theorem request_of_ready (h : engine.Reads tree) {r : LineRange} {text : String}
    (hready : Ready files config file start (last.getD start) c r text) (env : Environment)
    (verbose json : Bool) (refuse : Toml.Refusal) :
    ∃ logs, entriesOn .out logs = [] ∧
      Request.run engine files env ⟨config, verbose, .find file start last json⟩ refuse =
        (Outcome.after ⟨0, [⟨.out, answerText env.paint start (last.getD start) json
          (enclosingRecord c.kinds r (tree text))⟩]⟩ logs).after (warnings env verbose) := by
  obtain ⟨hstart, hstop⟩ := ends_of_ofLines hready.lines
  have hlogs := Check.logs_out (LogFilter.ofSetting env.logSetting verbose).1
    [answerEntry r (enclosingRecord c.kinds r (tree text))]
  refine ⟨_, hlogs, ?_⟩
  have hlines := hready.lines
  rw [hstop, hstart] at hlines
  rw [request_of_configured hready.configured, hstop, hstart]
  simp only [run, answer, hlines, hready.read, Finder.create_eq h, Finder.plain_attempt,
    human_eq_answerLine, answerText]
  cases json <;> rfl

structure Answered (paint : Paint) (start stop : UInt64) (json : Bool)
    (found : Option NodeRecord) (outcome : Outcome) : Prop where
  code : outcome.code = 0
  stdout : outcome.stdout = answerText paint start stop json found
  document : json = true → Enclosure.parse outcome.stdout = .ok ⟨found⟩
  line : json = false → OneLine (answerLine paint start stop found) ∧
    outcome.stdout = answerLine paint start stop found ++ "\n"
  holds : ∀ node ∈ found, node.location.start.line ≠ 0 ∧ node.location.start.line ≤ start ∧
    stop ≤ node.location.stop.line

theorem oneLine_place (p : Position) : OneLine (place p) :=
  ((oneLine_decimal _).append (by decide)).append (oneLine_decimal _)

theorem oneLine_coded (paint : Paint) (code : String) {text : String} (hc : OneLine code)
    (ht : OneLine text) : OneLine (paint.coded code text) := by
  have hopen : OneLine "\x1b[" := by decide
  have hshut : OneLine "\x1b[0m" := by decide
  have hm : OneLine "m" := by decide
  unfold Paint.coded
  split
  · exact (((hopen.append hc).append hm).append ht).append hshut
  · exact ht

theorem oneLine_answerLine (paint : Paint) (start stop : UInt64) {found : Option NodeRecord}
    (h : ∀ node ∈ found, OneLine node.kind) : OneLine (answerLine paint start stop found) := by
  have hspace : OneLine " " := by decide
  have hdash : OneLine "-" := by decide
  cases found with
  | none =>
      have hmark := oneLine_coded paint "36" (by decide) (by decide : OneLine "⊘")
      have hsaid : OneLine " no enclosing context for lines " := by decide
      exact (hmark.append hsaid).append
        (((oneLine_decimal _).append hdash).append (oneLine_decimal _))
  | some node =>
      have hmark := oneLine_coded paint "32" (by decide) (by decide : OneLine "✓")
      have hkind := oneLine_coded paint "1" (by decide) (h node rfl)
      exact (((((hmark.append hspace).append hkind).append hspace).append
        (oneLine_place _)).append hdash).append (oneLine_place _)

theorem exists_of_enclosingRecord {kinds : KindSet} {r : LineRange} {root : SyntaxTree}
    {record : NodeRecord} (h : record ∈ enclosingRecord kinds r root) :
    ∃ node : SyntaxTree, Search.Qualifies r kinds node ∧ record = NodeRecord.ofNode node := by
  obtain ⟨node, hn, hr⟩ := Option.map_eq_some_iff.1 h
  exact ⟨node, Search.enclosing_qualifies hn, hr.symm⟩

theorem answered_of_ready (h : engine.Reads tree) {r : LineRange} {text : String}
    (hready : Ready files config file start (last.getD start) c r text) (env : Environment)
    (verbose json : Bool) (refuse : Toml.Refusal) :
    Answered env.paint start (last.getD start) json (enclosingRecord c.kinds r (tree text))
      (Request.run engine files env ⟨config, verbose, .find file start last json⟩ refuse) := by
  obtain ⟨logs, hlogs, hrun⟩ := request_of_ready h hready env verbose json refuse
  obtain ⟨hstart, hstop⟩ := ends_of_ofLines hready.lines
  have hstdout : (Request.run engine files env
      ⟨config, verbose, .find file start last json⟩ refuse).stdout =
        answerText env.paint start (last.getD start) json
          (enclosingRecord c.kinds r (tree text)) := by
    rw [hrun, stdout_after _ (warnings_out env verbose), stdout_after _ hlogs]
    exact textOn_single .out _
  refine ⟨?_, hstdout, ?_, ?_, ?_⟩
  · rw [hrun]
    rfl
  · rintro rfl
    rw [hstdout]
    refine (Enclosure.reads_toJson Json.Spacing.isBlank_pretty fun comment hc => ?_).run_line
    rw [comments_enclosingRecord] at hc
    cases hc
  · rintro rfl
    refine ⟨oneLine_answerLine env.paint start _ fun record hr => ?_, hstdout⟩
    obtain ⟨node, hq, rfl⟩ := exists_of_enclosingRecord hr
    exact (hready.configured.sound.admits hq.allowed).isKindName.oneLine
  · intro record hr
    obtain ⟨node, hq, rfl⟩ := exists_of_enclosingRecord hr
    exact ⟨Point.line_ne_zero _, hstart ▸ hq.starts, hstop ▸ hq.stops⟩

theorem code_eq_zero_iff (h : engine.Reads tree) (env : Environment) (verbose json : Bool)
    (refuse : Toml.Refusal) :
    (Request.run engine files env ⟨config, verbose, .find file start last json⟩ refuse).code = 0 ↔
      ∃ c r text, Ready files config file start (last.getD start) c r text := by
  constructor
  · intro hcode
    rcases fails_or_ready refuse files config file start (last.getD start) with
      ⟨fault, hfails⟩ | hready
    · obtain ⟨message, cause, -, hrejected⟩ := rejected_of_fails hfails engine env verbose json
      rw [hrejected.code] at hcode
      cases hcode
    · exact hready
  · rintro ⟨c, r, text, hready⟩
    exact (answered_of_ready h hready env verbose json refuse).code

-- The words of the library that reads documents are its own, so they are whatever `refuse` says.
-- A range without an end holds its first line only.
theorem first_fault_or_answer_is_told (h : engine.Reads tree) (files : Access)
    (env : Environment) (refuse : Toml.Refusal) {arguments : List String} {config : Option String}
    {verbose : Bool} {file : String} {start : UInt64} {last : Option UInt64} {json : Bool}
    (hrequest : Request.ofArguments arguments =
      .ok ⟨config, verbose, .find file start last json⟩) :
    let stop := last.getD start
    let outcome := Command.run engine files env arguments refuse
    (outcome.code = 0 ↔ (∃ c, Configured files config c) ∧ (start ≠ 0 ∧ start ≤ stop) ∧
      ∃ text, files.readText file = .ok text) ∧
    (outcome.code ≠ 0 → ∃ fault, Fails refuse files config file start stop fault) ∧
    (∀ fault, Fails refuse files config file start stop fault →
      (∃ message cause, fault.Worded message cause) ∧
      ∀ message cause, fault.Worded message cause →
        Rejected env verbose message cause outcome) ∧
    (∀ path text fault, config = some path → files.readText path = .ok text →
      readConfig text refuse = .error (.fault none fault) →
        Fails refuse files config file start stop (.config (.fault (some path) fault))) ∧
    ∀ c r text, Ready files config file start stop c r text → ∃ found,
      ((Finder.mk (fun source => .ok (tree source)) c.kinds).attempt text r).result = .ok found ∧
      found = (Search.enclosing r c.kinds (tree text)).map NodeRecord.ofNode ∧
      Answered env.paint start stop json found outcome := by
  intro stop outcome
  have hrun : outcome = Request.run engine files env
      ⟨config, verbose, .find file start last json⟩ refuse := by
    simp only [outcome, Command.run, hrequest]
  have hcode : outcome.code = 0 ↔ ∃ c r text, Ready files config file start stop c r text := by
    rw [hrun]
    exact code_eq_zero_iff h env verbose json refuse
  refine ⟨hcode.trans ready_iff_valid, fun hne => ?_, fun fault hfails => ?_, ?_,
    fun c r text hready => ⟨_, ?_, rfl, ?_⟩⟩
  · rcases fails_or_ready refuse files config file start stop with hfails | hready
    · exact hfails
    · exact absurd (hcode.2 hready) hne
  · obtain ⟨message, cause, hworded, hrejected⟩ := rejected_of_fails hfails engine env verbose json
    refine ⟨⟨message, cause, hworded⟩, fun message' cause' hworded' => ?_⟩
    obtain ⟨rfl, rfl⟩ := hworded.unique hworded'
    rw [hrun]
    exact hrejected
  · rintro path text fault rfl hread hfault
    exact .config (.refused hread (readConfig_eq_error_iff.1 hfault))
  · exact congrArg Logged.result (Finder.plain_attempt text r)
  · rw [hrun]
    exact answered_of_ready h hready env verbose json refuse

def keyText : String := "extra_kinds"

def misnamingText : String :=
  "extra_kinds = [\"Case\"]\nexclude_kinds = [\"no-kind\"]\n"

def sampleFiles : Access where
  read path :=
    if path = "finder.toml" then .ok matchText.toUTF8
    else if path = "key.toml" then .ok keyText.toUTF8
    else if path = "mixed.toml" then .ok Config.mixedDocument.toUTF8
    else if path = "misnaming.toml" then .ok misnamingText.toUTF8
    else if path = "app.py" then .ok conditionalSource.toUTF8
    else if path = "latin.py" then .ok ⟨#[0x78, 0xe9]⟩
    else .error .notFound
  below _ := none

def keyReport : String :=
  "TOML parse error at line 1, column 12\n  |\n1 | extra_kinds\n  |            ^\n" ++
    "key with no value, expected `=`\n"

def sampleRefusal : Toml.Refusal := fun text =>
  if text = keyText then keyReport else ""

def sampleEngine : Engine := ⟨.ok fun text => .ok (sampleTree text)⟩

def sampleRun (arguments : List String) : Outcome :=
  Command.run sampleEngine sampleFiles {} arguments sampleRefusal

theorem readText_finder : sampleFiles.readText "finder.toml" = .ok matchText := by
  decide +kernel

theorem readText_app : sampleFiles.readText "app.py" = .ok conditionalSource := by
  decide +kernel

theorem refused_keyText : Refused sampleRefusal keyText (@ConfigFault.syntaxError keyReport) :=
  .noDocument (by decide +kernel)

theorem refused_mixedDocument :
    Refused sampleRefusal Config.mixedDocument
      (.schema ⟨⟨⟨55, 56⟩, .kind (.integer 7) "a string"⟩, Config.mixedDocument⟩) :=
  .unfit Config.parse_mixedDocument Config.firstOffence_mixedDocument

theorem parse_misnamingText :
    Toml.parse misnamingText =
      some [(⟨"extra_kinds", ⟨0, 11⟩⟩, ⟨14, 22⟩, .array false [(⟨15, 21⟩, .string "Case")]),
        (⟨"exclude_kinds", ⟨23, 36⟩⟩, ⟨39, 50⟩, .array false [(⟨40, 49⟩, .string "no-kind")])] := by
  cbv

theorem refused_misnamingText :
    Refused sampleRefusal misnamingText
      (.invalid [.invalidKind .extra "Case", .invalidKind .exclude "no-kind"]) := by
  have hunsound : ¬ Config.Sound ⟨["Case"], ["no-kind"]⟩ := by
    rw [← Config.issues_eq_nil_iff]
    decide +kernel
  have hissues : Config.issues ⟨["Case"], ["no-kind"]⟩ =
      [.invalidKind .extra "Case", .invalidKind .exclude "no-kind"] := by
    decide +kernel
  exact hissues ▸ .unsound parse_misnamingText rfl hunsound

theorem enclosingRecord_excluded :
    enclosingRecord matchConfig.kinds ⟨2, 2, by decide, by decide⟩ conditionalTree = none := by
  have hkinds : ∀ kind ∈ ["module", "if_statement", "block", "expression_statement", "identifier"],
      kind ∉ matchConfig.kinds := by
    simp only [Config.mem_kinds]
    decide +kernel
  have hw : SyntaxNode.WellNested conditionalTree := by
    simp [conditionalTree, SyntaxTree.leaf, Point.le_iff]
  rw [enclosingRecord, Search.enclosing_eq_pruned hw]
  simp [conditionalTree, SyntaxTree.leaf, Point.line, Search.prefer, hkinds]

structure Told (outcome : Outcome) (text : String) : Prop where
  code : outcome.code = 1
  stdout : outcome.stdout = ""
  stderr : outcome.stderr = text

def misconfiguredRun (path : String) : List String :=
  ["-c" ++ path, "find", "gone.py", "-s5", "-e2"]

theorem ofArguments_misconfiguredRun (path : String)
    (h : path ∈ ["gone.toml", "key.toml", "mixed.toml", "misnaming.toml"]) :
    Request.ofArguments (misconfiguredRun path) =
      .ok ⟨some path, false, .find "gone.py" 5 (some 2) false⟩ := by
  have hall : ∀ path ∈ ["gone.toml", "key.toml", "mixed.toml", "misnaming.toml"],
      (Request.ofArguments (misconfiguredRun path)).toOption =
        some ⟨some path, false, .find "gone.py" 5 (some 2) false⟩ := by
    decide +kernel
  exact eq_ok_of_toOption (hall path h)

-- In the runs for `gone.py` with a configuration everything is at fault.
theorem sampleFiles_told :
    let found := sampleRun ["find", "app.py", "--start=2"]
    let excluded := sampleRun ["find", "app.py", "-s2", "--json", "-c", "finder.toml"]
    let gone := sampleRun (misconfiguredRun "gone.toml")
    let key := sampleRun (misconfiguredRun "key.toml")
    let mixed := sampleRun (misconfiguredRun "mixed.toml")
    let misnaming := sampleRun (misconfiguredRun "misnaming.toml")
    let backwards := sampleRun ["find", "gone.py", "-s5", "-e2"]
    let latin := sampleRun ["find", "latin.py", "-s1", "--end=3"]
    sampleEngine.Reads sampleTree ∧
      (found.code = 0 ∧ found.stdout = "✓ if_statement 1:0-2:5\n") ∧
      (excluded.code = 0 ∧ Enclosure.parse excluded.stdout = .ok ⟨none⟩) ∧
      Told gone ("Error: failed to read finder config from gone.toml: " ++
        "No such file or directory (os error 2)\n\n" ++
        "Caused by:\n    No such file or directory (os error 2)\n") ∧
      Told key ("Error: failed to parse finder config TOML (key.toml): " ++
        "TOML parse error at line 1, column 12\n  |\n1 | extra_kinds\n  |            ^\n" ++
        "key with no value, expected `=`\n\n\n" ++
        "Caused by:\n    TOML parse error at line 1, column 12\n      |\n    1 | extra_kinds\n" ++
        "      |            ^\n    key with no value, expected `=`\n    \n") ∧
      Told mixed ("Error: failed to parse finder config TOML (mixed.toml): " ++
        "TOML parse error at line 2, column 23\n  |\n2 | extra_kinds = [\"Bad\", 7]\n" ++
        "  |                       ^\ninvalid type: integer `7`, expected a string\n\n\n" ++
        "Caused by:\n    TOML parse error at line 2, column 23\n      |\n" ++
        "    2 | extra_kinds = [\"Bad\", 7]\n      |                       ^\n" ++
        "    invalid type: integer `7`, expected a string\n    \n") ∧
      Told misnaming ("Error: invalid finder config (misnaming.toml): " ++
        "'Case' in extra_kinds is not a valid node kind name\n" ++
        "'no-kind' in exclude_kinds is not a valid node kind name\n\n" ++
        "Caused by:\n    'Case' in extra_kinds is not a valid node kind name\n" ++
        "    'no-kind' in exclude_kinds is not a valid node kind name\n") ∧
      Told backwards ("Error: invalid line range 5..=2: " ++
        "lines are 1-indexed and start must not exceed end\n") ∧
      Told latin ("Error: failed to read latin.py\n\n" ++
        "Caused by:\n    stream did not contain valid UTF-8\n") := by
  intro found excluded gone key mixed misnaming backwards latin
  have hreads : sampleEngine.Reads sampleTree := rfl
  have hsource : sampleTree conditionalSource = conditionalTree := if_pos rfl
  have hlines : LineRange.ofLines 2 2 = .ok ⟨2, 2, by decide, by decide⟩ :=
    LineRange.ofLines_of_valid (by decide) (by decide)
  have htold : ∀ {arguments config file start last fault message cause} (text : String),
      Request.ofArguments arguments = .ok ⟨config, false, .find file start last false⟩ →
      Fails sampleRefusal sampleFiles config file start (last.getD start) fault →
      fault.Worded message cause → "Error: " ++ message ++ causeText cause ++ "\n" = text →
        Told (sampleRun arguments) text := by
    intro arguments config file start last fault message cause text harguments hfails hworded htext
    obtain ⟨-, -, hrejected, -⟩ :=
      first_fault_or_answer_is_told hreads sampleFiles {} sampleRefusal harguments
    have h := (hrejected fault hfails).2 message cause hworded
    exact ⟨h.code, h.stdout, h.stderr.trans htext⟩
  have hrefused : ∀ {path text fault},
      Request.ofArguments (misconfiguredRun path) =
        .ok ⟨some path, false, .find "gone.py" 5 (some 2) false⟩ →
      sampleFiles.readText path = .ok text → Refused sampleRefusal text fault →
        Fails sampleRefusal sampleFiles (some path) "gone.py" 5 2
          (.config (.fault (some path) fault)) := by
    intro path text fault harguments hread hfault
    obtain ⟨-, -, -, hloaded, -⟩ :=
      first_fault_or_answer_is_told hreads sampleFiles {} sampleRefusal harguments
    exact hloaded path text fault rfl hread (readConfig_eq_error_iff.2 hfault)
  refine ⟨hreads, ?_, ?_, ?_, ?_, ?_, ?_, ?_, ?_⟩
  · have hfound : Request.ofArguments ["find", "app.py", "--start=2"] =
        .ok ⟨none, false, .find "app.py" 2 none false⟩ := eq_ok_of_toOption (by decide +kernel)
    obtain ⟨-, -, -, -, hready⟩ :=
      first_fault_or_answer_is_told hreads sampleFiles {} sampleRefusal hfound
    obtain ⟨node, -, hnode, hanswered⟩ := hready {} _ _ ⟨.usual, hlines, readText_app⟩
    rw [hsource] at hnode
    obtain rfl := hnode.trans enclosingRecord_conditionalTree
    refine ⟨hanswered.code, hanswered.stdout.trans ?_⟩
    decide +kernel
  · have hexcluded : Request.ofArguments ["find", "app.py", "-s2", "--json", "-c", "finder.toml"] =
        .ok ⟨some "finder.toml", false, .find "app.py" 2 none true⟩ :=
      eq_ok_of_toOption (by decide +kernel)
    obtain ⟨members, hparsed, hdecoded, hsound⟩ := ofText_eq_ok_iff.1 ofText_matchText
    have hconfigured : Configured sampleFiles (some "finder.toml") matchConfig :=
      .loaded readText_finder hparsed hdecoded hsound
    obtain ⟨-, -, -, -, hready⟩ :=
      first_fault_or_answer_is_told hreads sampleFiles {} sampleRefusal hexcluded
    obtain ⟨node, -, hnode, hanswered⟩ := hready _ _ _ ⟨hconfigured, hlines, readText_app⟩
    rw [hsource] at hnode
    obtain rfl := hnode.trans enclosingRecord_excluded
    exact ⟨hanswered.code, hanswered.document rfl⟩
  · have hread : sampleFiles.readText "gone.toml" = .error .notFound := by decide +kernel
    exact htold _ (ofArguments_misconfiguredRun "gone.toml" (by simp)) (.config (.unreadable hread))
      (.config .access) (by decide +kernel)
  · have harguments := ofArguments_misconfiguredRun "key.toml" (by simp)
    exact htold _ harguments (hrefused harguments (by decide +kernel) refused_keyText)
      (.config .syntaxError) (by decide +kernel)
  · have harguments := ofArguments_misconfiguredRun "mixed.toml" (by simp)
    exact htold _ harguments (hrefused harguments (by decide +kernel) refused_mixedDocument)
      (.config (.schema .kind (Toml.Span.reports _ _ _))) (by decide +kernel)
  · have harguments := ofArguments_misconfiguredRun "misnaming.toml" (by simp)
    exact htold _ harguments (hrefused harguments (by decide +kernel) refused_misnamingText)
      (.config (.invalid (.cons .extra (.last .exclude)))) (by decide +kernel)
  · have hbackwards : Request.ofArguments ["find", "gone.py", "-s5", "-e2"] =
        .ok ⟨none, false, .find "gone.py" 5 (some 2) false⟩ := eq_ok_of_toOption (by decide +kernel)
    exact htold _ hbackwards (.lines .usual (.inr (by decide))) .lines (by decide +kernel)
  · have hlatin : Request.ofArguments ["find", "latin.py", "-s1", "--end=3"] =
        .ok ⟨none, false, .find "latin.py" 1 (some 3) false⟩ :=
      eq_ok_of_toOption (by decide +kernel)
    have hread : sampleFiles.readText "latin.py" = .error .notText := by decide +kernel
    exact htold _ hlatin (.file .usual ⟨by decide, by decide⟩ hread) .file (by decide +kernel)

end Find

end Command

end EnclosingScope
