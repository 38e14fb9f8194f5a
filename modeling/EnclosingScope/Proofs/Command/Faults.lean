import EnclosingScope.Command.Run
import EnclosingScope.Proofs.Command.Check
import EnclosingScope.Proofs.Config.Decoding
import EnclosingScope.Proofs.Config.Kinds

namespace EnclosingScope

inductive Mismatch.Worded : Mismatch → String → Prop
  | unknown {name : String} :
      Worded (.unknown name ["extra_kinds", "exclude_kinds"])
        ("unknown field `" ++ name ++ "`, expected `extra_kinds` or `exclude_kinds`")
  | kind {found : Found} {wanted : String} :
      Worded (.kind found wanted) ("invalid type: " ++ found.message ++ ", expected " ++ wanted)

inductive Issue.Worded : Issue → String → Prop
  | extra {kind : String} :
      Worded (.invalidKind .extra kind)
        ("'" ++ kind ++ "' in extra_kinds is not a valid node kind name")
  | exclude {kind : String} :
      Worded (.invalidKind .exclude kind)
        ("'" ++ kind ++ "' in exclude_kinds is not a valid node kind name")
  | emptyAllowList : Worded .emptyAllowList "configuration leaves no node kinds to search for"

inductive Issue.Listed : List Issue → String → Prop
  | last {issue : Issue} {text : String} (worded : issue.Worded text) : Listed [issue] text
  | cons {issue : Issue} {issues : List Issue} {text texts : String} (worded : issue.Worded text)
      (listed : Listed issues texts) : Listed (issue :: issues) (text ++ "\n" ++ texts)

theorem Mismatch.Worded.unique {mismatch : Mismatch} {text text' : String}
    (h : mismatch.Worded text) (h' : mismatch.Worded text') : text = text' := by
  cases h with
  | unknown | kind =>
      cases h'
      rfl

theorem Mismatch.message_unknown (name : String) :
    message (.unknown name ["extra_kinds", "exclude_kinds"]) =
      "unknown field `" ++ name ++ "`, expected `extra_kinds` or `exclude_kinds`" := by
  have hmessage : message (.unknown name ["extra_kinds", "exclude_kinds"]) =
      "unknown field " ++ inBackticks name ++ ", expected "
        ++ String.intercalate " or " (["extra_kinds", "exclude_kinds"].map inBackticks) := rfl
  have hbefore : "unknown field `" = "unknown field " ++ "`" := by decide
  have hafter : "`, expected `extra_kinds` or `exclude_kinds`" = "`" ++ ", expected "
      ++ String.intercalate " or " (["extra_kinds", "exclude_kinds"].map inBackticks) := by decide
  rw [hmessage, hbefore, hafter, inBackticks]
  simp only [String.append_assoc]

theorem Mismatch.worded_of_offends {member : Toml.Key × Toml.Span × Toml.Item} {e : SchemaError}
    (h : Config.Offends member e) : e.mismatch.Worded e.mismatch.message := by
  cases h with
  | @unknown key value unknown =>
      rw [message_unknown]
      exact .unknown
  | noArray known shape => exact .kind
  | noString known strings shape => exact .kind

namespace Issue

theorem Worded.unique {issue : Issue} {text text' : String} (h : issue.Worded text)
    (h' : issue.Worded text') : text = text' := by
  cases h with
  | extra | exclude | emptyAllowList =>
      cases h'
      rfl

theorem Listed.unique {issues : List Issue} {texts texts' : String} (h : Listed issues texts)
    (h' : Listed issues texts') : texts = texts' := by
  induction h generalizing texts' with
  | last worded =>
      cases h' with
      | last worded' => exact worded.unique worded'
      | cons _ listed' => cases listed'
  | cons worded listed ih =>
      cases h' with
      | last _ => cases listed
      | cons worded' listed' => rw [worded.unique worded', ih listed']

theorem worded (issue : Issue) : issue.Worded issue.message := by
  cases issue with
  | invalidKind list kind =>
      cases list with
      | extra =>
          have hmessage : message (.invalidKind .extra kind) =
              "'" ++ kind ++ "' in extra_kinds is not a valid node kind name" := by
            simp [message, KindList.name, String.append_assoc]
          rw [hmessage]
          exact .extra
      | exclude =>
          have hmessage : message (.invalidKind .exclude kind) =
              "'" ++ kind ++ "' in exclude_kinds is not a valid node kind name" := by
            simp [message, KindList.name, String.append_assoc]
          rw [hmessage]
          exact .exclude
  | emptyAllowList => exact .emptyAllowList

theorem listed {issues : List Issue} (h : issues ≠ []) : Listed issues (messages issues) := by
  induction issues with
  | nil => exact absurd rfl h
  | cons issue issues ih =>
      cases issues with
      | nil =>
          rw [messages, List.map_singleton, String.intercalate_singleton]
          exact .last issue.worded
      | cons next issues =>
          rw [messages, List.map_cons, List.map_cons, String.intercalate_cons_cons]
          exact .cons issue.worded (ih (List.cons_ne_nil next issues))

end Issue

namespace Command

open Files

theorem textOn_single (stream : Stream) (text : String) :
    textOn stream [⟨stream, text⟩] = text := by
  have hentries := (entriesOn_map stream stream [text]).trans (if_pos rfl)
  rw [textOn_eq_join]
  exact (congrArg String.join hentries).trans String.empty_append

theorem stdout_after (o : Outcome) {pieces : List Piece} (h : entriesOn .out pieces = []) :
    (o.after pieces).stdout = o.stdout := by
  rw [Outcome.stdout, Outcome.stdout, textOn_eq_join, textOn_eq_join, Outcome.after,
    entriesOn_append, h, List.nil_append]

theorem stderr_after (o : Outcome) (pieces : List Piece) :
    (o.after pieces).stderr = textOn .err pieces ++ o.stderr := by
  rw [Outcome.stderr, Outcome.stderr, textOn_eq_join, textOn_eq_join, textOn_eq_join,
    Outcome.after, entriesOn_append, String.join_append]

def warnings (e : Environment) (verbose : Bool) : List Piece :=
  (LogFilter.ofSetting e.logSetting verbose).2

theorem warnings_out (e : Environment) (verbose : Bool) :
    entriesOn .out (warnings e verbose) = [] := by
  have hmap : ∃ texts : List String, warnings e verbose = texts.map (Piece.mk .err) :=
    ⟨_, List.map_map.symm⟩
  obtain ⟨texts, ht⟩ := hmap
  rw [ht, entriesOn_map]
  rfl

-- Every line of a cause is moved to the right.
def causeText : Option String → String
  | none => ""
  | some cause =>
      "\n\nCaused by:\n    " ++
        String.ofList ("\n    ".toList.intercalate (cause.toList.splitOn '\n'))

structure Rejected (env : Environment) (verbose : Bool) (message : String) (cause : Option String)
    (outcome : Outcome) : Prop where
  code : outcome.code = 1
  stdout : outcome.stdout = ""
  stderr : outcome.stderr =
    textOn .err (warnings env verbose) ++ "Error: " ++ message ++ causeText cause ++ "\n"

theorem flatMap_eq_intercalate (later cs : List Char) :
    (cs.flatMap fun c => if c = '\n' then later else [c]) =
      later.intercalate (cs.splitOn '\n') := by
  induction cs with
  | nil => rw [List.flatMap_nil, List.splitOn, List.splitOnP_nil, List.intercalate_singleton]
  | cons c cs ih =>
      obtain ⟨line, lines, hlines⟩ :=
        List.exists_cons_of_ne_nil (List.splitOnP_ne_nil (· == '\n') cs)
      rw [List.splitOn, hlines] at ih
      rw [List.flatMap_cons, ih, List.splitOn, List.splitOnP_cons_eq_if_modifyHead, hlines]
      by_cases hc : c = '\n'
      · rw [if_pos hc, if_pos (beq_iff_eq.2 hc), List.intercalate_cons_cons, List.nil_append]
      · rw [if_neg hc, if_neg (mt beq_iff_eq.1 hc), List.modifyHead_cons]
        cases lines with
        | nil =>
            rw [List.intercalate_singleton, List.intercalate_singleton]
            rfl
        | cons next lines =>
            rw [List.intercalate_cons_cons, List.intercalate_cons_cons]
            rfl

theorem failure_text (message : String) (cause : Option String) :
    (Failure.mk message cause.toList).text =
      "Error: " ++ message ++ causeText cause ++ "\n" := by
  cases cause with
  | none => rfl
  | some cause =>
      have htext : (Failure.mk message [cause]).text =
          "Error: " ++ message ++ ("\n\nCaused by:" ++ ("" ++ ("\n" ++ ("    " ++ String.ofList
            (cause.toList.flatMap fun c => if c = '\n' then "\n    ".toList else [c]))))) ++ "\n" :=
        rfl
      have hcause : causeText (some cause) = "\n\nCaused by:\n    " ++
          String.ofList ("\n    ".toList.intercalate (cause.toList.splitOn '\n')) := rfl
      have hopen : "\n\nCaused by:\n    " = "\n\nCaused by:" ++ ("" ++ ("\n" ++ "    ")) := by
        decide
      rw [Option.toList_some, htext, flatMap_eq_intercalate, hcause, hopen]
      simp only [String.append_assoc]

theorem Rejected.of_failure (env : Environment) (verbose : Bool) (message : String)
    (cause : Option String) :
    Rejected env verbose message cause
      ((Failure.mk message cause.toList).outcome.after (warnings env verbose)) := by
  refine ⟨rfl, ?_, ?_⟩
  · rw [stdout_after _ (warnings_out env verbose)]
    rfl
  · have htext := (textOn_single .err (Failure.mk message cause.toList).text).trans
      (failure_text message cause)
    rw [stderr_after, Outcome.stderr, Failure.outcome, htext]
    simp only [String.append_assoc]

variable {refuse : Toml.Refusal} {files : Access} {config : Option String} {c : Config}
  {e : ConfigError} {text : String} {fault : ConfigFault}

inductive Configured (files : Access) : Option String → Config → Prop
  | usual : Configured files none {}
  | loaded {path text : String} {members : Toml.Members} {c : Config}
      (read : files.readText path = .ok text) (parsed : Toml.parse text = some members)
      (decoded : Config.ofMembers members = .ok c) (sound : c.Sound) :
      Configured files (some path) c

-- The faults of a text, the first that there is: no later one is looked for.
inductive Refused (refuse : Toml.Refusal) (text : String) : ConfigFault → Prop
  | noDocument (parsed : Toml.parse text = none) :
      Refused refuse text (@ConfigFault.syntaxError (refuse text))
  | unfit {members : Toml.Members} {e : SchemaError} (parsed : Toml.parse text = some members)
      (first : Config.FirstOffence members e) : Refused refuse text (.schema ⟨e, text⟩)
  | unsound {members : Toml.Members} {c : Config} (parsed : Toml.parse text = some members)
      (decoded : Config.ofMembers members = .ok c) (unsound : ¬ c.Sound) :
      Refused refuse text (.invalid c.issues)

inductive Misconfigured (refuse : Toml.Refusal) (files : Access) :
    Option String → ConfigError → Prop
  | unreadable {path : String} {e : AccessError} (read : files.readText path = .error e) :
      Misconfigured refuse files (some path) (.access path e)
  | refused {path text : String} {fault : ConfigFault} (read : files.readText path = .ok text)
      (refused : Refused refuse text fault) :
      Misconfigured refuse files (some path) (.fault (some path) fault)

inductive ConfigError.Worded : ConfigError → String → String → Prop
  | access {path : String} {e : AccessError} :
      Worded (.access path e) ("failed to read finder config from " ++ path ++ ": " ++ e.message)
        e.message
  | syntaxError {path report : String} :
      Worded (.fault (some path) (@ConfigFault.syntaxError report))
        ("failed to parse finder config TOML (" ++ path ++ "): " ++ report) report
  | schema {path text why report : String} {e : SchemaError} (worded : e.mismatch.Worded why)
      (reports : Toml.Reports text e.span why report) :
      Worded (.fault (some path) (.schema ⟨e, text⟩))
        ("failed to parse finder config TOML (" ++ path ++ "): " ++ report) report
  | invalid {path texts : String} {issues : List Issue} (listed : Issue.Listed issues texts) :
      Worded (.fault (some path) (.invalid issues))
        ("invalid finder config (" ++ path ++ "): " ++ texts) texts

theorem ofText_eq_ok_iff :
    Config.ofText refuse text = .ok c ↔
      ∃ members, Toml.parse text = some members ∧ Config.ofMembers members = .ok c ∧ c.Sound := by
  constructor
  · intro h
    have hsound := Config.sound_of_ofText h
    rw [Config.ofText] at h
    split at h
    · cases h
    · next members hparsed =>
        split at h
        · cases h
        · next found hdecoded =>
            split at h
            · cases h
              exact ⟨members, hparsed, hdecoded, hsound⟩
            · cases h
  · rintro ⟨members, hparsed, hdecoded, hsound⟩
    simp only [Config.ofText, hparsed, hdecoded, Config.issues_eq_nil_iff.2 hsound]

theorem ofText_of_unsound {members : Toml.Members} (hparsed : Toml.parse text = some members)
    (hdecoded : Config.ofMembers members = .ok c) (h : ¬ c.Sound) :
    Config.ofText refuse text = .error (.invalid c.issues) := by
  cases hissues : c.issues with
  | nil => exact absurd (Config.issues_eq_nil_iff.1 hissues) h
  | cons issue issues => simp only [Config.ofText, hparsed, hdecoded, hissues]

theorem Refused.ofText (h : Refused refuse text fault) :
    Config.ofText refuse text = .error fault := by
  cases h with
  | noDocument parsed => simp only [Config.ofText, parsed]
  | unfit parsed first =>
      simp only [Config.ofText, parsed, Config.ofMembers_eq_error_iff.2 first]
  | unsound parsed decoded unsound => exact ofText_of_unsound parsed decoded unsound

theorem ofText_eq_error_iff :
    Config.ofText refuse text = .error fault ↔ Refused refuse text fault := by
  refine ⟨fun h => ?_, Refused.ofText⟩
  have hrefused : ∀ found, Refused refuse text found → found = fault := fun found hf =>
    Except.error.inj (hf.ofText.symm.trans h)
  cases hparsed : Toml.parse text with
  | none =>
      have hnone : Refused refuse text _ := .noDocument hparsed
      exact hrefused _ hnone ▸ hnone
  | some members =>
      cases hdecoded : Config.ofMembers members with
      | error e =>
          have hunfit : Refused refuse text _ :=
            .unfit hparsed (Config.ofMembers_eq_error_iff.1 hdecoded)
          exact hrefused _ hunfit ▸ hunfit
      | ok c =>
          by_cases hsound : c.Sound
          · cases (ofText_eq_ok_iff.2 ⟨members, hparsed, hdecoded, hsound⟩).symm.trans h
          · have hunsound : Refused refuse text _ := .unsound hparsed hdecoded hsound
            exact hrefused _ hunsound ▸ hunsound

theorem readConfig_eq_error_iff :
    readConfig text refuse = .error (.fault none fault) ↔ Refused refuse text fault := by
  rw [readConfig, ← ofText_eq_error_iff]
  cases Config.ofText refuse text <;> simp [Except.mapError]

theorem Configured.sound (h : Configured files config c) : c.Sound := by
  cases h with
  | usual => exact Config.sound_default
  | loaded read parsed decoded sound => exact sound

theorem Configured.loads (h : Configured files config c) :
    loadConfig? files refuse config = .ok c := by
  cases h with
  | usual => rfl
  | loaded read parsed decoded sound =>
      have htext : Config.ofText refuse _ = .ok c :=
        ofText_eq_ok_iff.2 ⟨_, parsed, decoded, sound⟩
      simp only [loadConfig?, loadConfig, read, htext, Except.mapError]

theorem Misconfigured.fails (h : Misconfigured refuse files config e) :
    loadConfig? files refuse config = .error e := by
  cases h with
  | unreadable read => simp only [loadConfig?, loadConfig, read]
  | refused read refused =>
      simp only [loadConfig?, loadConfig, read, refused.ofText, Except.mapError]

theorem configured_or_misconfigured (refuse : Toml.Refusal) (files : Access)
    (config : Option String) :
    (∃ c, Configured files config c) ∨ ∃ e, Misconfigured refuse files config e := by
  cases config with
  | none => exact .inl ⟨{}, .usual⟩
  | some path =>
      cases hr : files.readText path with
      | error e => exact .inr ⟨_, .unreadable hr⟩
      | ok text =>
          cases ht : Config.ofText refuse text with
          | error fault => exact .inr ⟨_, .refused hr (ofText_eq_error_iff.1 ht)⟩
          | ok c =>
              obtain ⟨members, hparsed, hdecoded, hsound⟩ := ofText_eq_ok_iff.1 ht
              exact .inl ⟨c, .loaded hr hparsed hdecoded hsound⟩

namespace ConfigError

theorem message_invalid (path : String) (issues : List Issue) :
    message (.fault (some path) (.invalid issues)) =
      "invalid finder config (" ++ path ++ "): " ++ Issue.messages issues := by
  have hmessage : message (.fault (some path) (.invalid issues)) =
      "invalid finder config" ++ (" (" ++ path ++ ")") ++ ": " ++ Issue.messages issues := rfl
  rw [hmessage]
  apply String.toList_inj.1
  simp

theorem message_fault (path : String) (h : ∀ issues, fault ≠ .invalid issues) :
    message (.fault (some path) fault) =
      "failed to parse finder config TOML (" ++ path ++ "): " ++ fault.message := by
  have hmessage : message (.fault (some path) fault) =
      "failed to parse finder config TOML" ++ (" (" ++ path ++ ")") ++ ": " ++ fault.message := by
    cases fault with
    | invalid issues => exact absurd rfl (h issues)
    | syntaxError | schema => rfl
  rw [hmessage]
  apply String.toList_inj.1
  simp

end ConfigError

theorem ConfigError.Worded.unique {message message' cause cause' : String}
    (h : e.Worded message cause) (h' : e.Worded message' cause') :
    message = message' ∧ cause = cause' := by
  cases h with
  | access | syntaxError =>
      cases h'
      exact ⟨rfl, rfl⟩
  | schema worded reports =>
      cases h' with
      | schema worded' reports' =>
          obtain rfl := worded.unique worded'
          obtain rfl := reports.unique reports'
          exact ⟨rfl, rfl⟩
  | invalid listed =>
      cases h' with
      | invalid listed' =>
          obtain rfl := listed.unique listed'
          exact ⟨rfl, rfl⟩

theorem Refused.worded (h : Refused refuse text fault) (path : String) :
    (ConfigError.fault (some path) fault).Worded
      (ConfigError.fault (some path) fault).message fault.message := by
  cases h with
  | noDocument parsed =>
      rw [ConfigError.message_fault path (by simp)]
      exact .syntaxError
  | @unfit members e parsed first =>
      obtain ⟨before, member, after, -, -, offends⟩ := first
      rw [ConfigError.message_fault path (by simp)]
      exact .schema (Mismatch.worded_of_offends offends) (e.span.reports text _)
  | unsound parsed decoded unsound =>
      rw [ConfigError.message_invalid]
      exact .invalid (Issue.listed (mt Config.issues_eq_nil_iff.1 unsound))

theorem Misconfigured.worded (h : Misconfigured refuse files config e) :
    e.Worded e.message e.cause := by
  cases h with
  | unreadable read => exact .access
  | refused read refused => exact refused.worded _

-- What goes wrong with a question for the lines of a file.
inductive Fault where
  | config (e : ConfigError)
  | lines (start stop : UInt64)
  | file (path : String) (e : AccessError)

inductive Fault.Worded : Fault → String → Option String → Prop
  | config {e : ConfigError} {message cause : String} (worded : e.Worded message cause) :
      Worded (.config e) message (some cause)
  | lines {start stop : UInt64} :
      Worded (.lines start stop)
        ("invalid line range " ++ Decimal.text start.toNat ++ "..=" ++ Decimal.text stop.toNat
          ++ ": lines are 1-indexed and start must not exceed end") none
  | file {path : String} {e : AccessError} :
      Worded (.file path e) ("failed to read " ++ path) (some e.message)

theorem Fault.Worded.unique {fault : Fault} {message message' : String}
    {cause cause' : Option String} (h : fault.Worded message cause)
    (h' : fault.Worded message' cause') : message = message' ∧ cause = cause' := by
  cases h with
  | config worded =>
      cases h' with
      | config worded' =>
          obtain ⟨rfl, rfl⟩ := worded.unique worded'
          exact ⟨rfl, rfl⟩
  | lines | file =>
      cases h'
      exact ⟨rfl, rfl⟩

end Command

end EnclosingScope
