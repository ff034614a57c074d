import FleetSelect.CommandLine
import FleetSelect.Proofs.Document
import FleetSelect.Proofs.Refusal
import FleetSelect.Proofs.Reordering

namespace FleetSelect

variable {α β : Type} {f : Failure}

theorem bind_eq_ok_iff {x : Except Failure α} {g : α → Except Failure β} {b : β} :
    x >>= g = .ok b ↔ ∃ a, x = .ok a ∧ g a = .ok b := by
  cases x with
  | ok a => simp [bind, Except.bind]
  | error e => simp [bind, Except.bind]

theorem bind_eq_error_iff {x : Except Failure α} {g : α → Except Failure β} :
    x >>= g = .error f ↔ x = .error f ∨ ∃ a, x = .ok a ∧ g a = .error f := by
  cases x with
  | ok a => simp [bind, Except.bind]
  | error e => simp [bind, Except.bind]

/-- A setting has the value that the text of its variable is read as, and a default where the
variable is not set. -/
inductive Says (read : String → Except Failure α) (default : α) : Option String → α → Prop
  | unset : Says read default none default
  | text {s : String} {a : α} (h : read s = .ok a) : Says read default (some s) a

theorem elim_eq_ok_iff {read : String → Except Failure α} {default a : α} {t : Option String} :
    t.elim (.ok default) read = .ok a ↔ Says read default t a := by
  constructor
  · intro h
    cases t with
    | none =>
      obtain rfl := Except.ok.inj h
      exact .unset
    | some s => exact .text h
  · intro h
    cases h with
    | unset => rfl
    | text h => exact h

theorem elim_eq_error_iff {read : String → Except Failure α} {default : α} {t : Option String} :
    t.elim (.ok default) read = .error f ↔ ∃ s, t = some s ∧ read s = .error f := by
  cases t with
  | none => simp
  | some s => simp

theorem LogLevel.exists_invalidConfig_of_ofText {s : String} (h : ofText s = .error f) :
    ∃ reason, f = .invalidConfig reason := by
  unfold ofText at h
  split at h
  · cases h
  · exact ⟨_, (Except.error.inj h).symm⟩

theorem exists_invalidConfig_of_boolOfText {key s : String} (h : boolOfText key s = .error f) :
    ∃ reason, f = .invalidConfig reason := by
  unfold boolOfText at h
  split at h
  · cases h
  · exact ⟨_, (Except.error.inj h).symm⟩

namespace Settings

variable {lookup : String → Option String} {level : LogLevel} {pretty : Bool}

theorem ofLookup_eq (lookup : String → Option String) : ofLookup lookup = do
    let level ← (lookup logLevelVariable).elim (.ok .warn) LogLevel.ofText
    let pretty ← (lookup prettyVariable).elim (.ok true) (boolOfText prettyVariable)
    return ⟨level, pretty⟩ := by
  unfold ofLookup
  cases lookup logLevelVariable
  all_goals cases lookup prettyVariable
  all_goals simp only [Option.elim]

theorem ofLookup_eq_ok_iff : ofLookup lookup = .ok ⟨level, pretty⟩ ↔
    Says LogLevel.ofText .warn (lookup logLevelVariable) level ∧
      Says (boolOfText prettyVariable) true (lookup prettyVariable) pretty := by
  rw [ofLookup_eq, ← elim_eq_ok_iff, ← elim_eq_ok_iff, bind_eq_ok_iff]
  constructor
  · intro h
    obtain ⟨level', hl, h⟩ := h
    obtain ⟨pretty', hp, h⟩ := bind_eq_ok_iff.1 h
    cases h
    exact ⟨hl, hp⟩
  · intro h
    exact ⟨level, h.1, bind_eq_ok_iff.2 ⟨pretty, h.2, rfl⟩⟩

theorem ofLookup_eq_error_iff : ofLookup lookup = .error f ↔
    (∃ s, lookup logLevelVariable = some s ∧ LogLevel.ofText s = .error f) ∨
    (∃ level, Says LogLevel.ofText .warn (lookup logLevelVariable) level) ∧
      ∃ s, lookup prettyVariable = some s ∧ boolOfText prettyVariable s = .error f := by
  rw [ofLookup_eq, bind_eq_error_iff, elim_eq_error_iff]
  apply or_congr_right
  simp only [elim_eq_ok_iff, bind_eq_error_iff, elim_eq_error_iff]
  constructor
  · intro h
    obtain ⟨level, hlevel, hpretty | ⟨_, _, h⟩⟩ := h
    · exact ⟨⟨level, hlevel⟩, hpretty⟩
    · cases h
  · intro h
    obtain ⟨⟨level, hlevel⟩, hpretty⟩ := h
    exact ⟨level, hlevel, .inl hpretty⟩

theorem exists_invalidConfig_of_ofLookup (h : ofLookup lookup = .error f) :
    ∃ reason, f = .invalidConfig reason := by
  rcases ofLookup_eq_error_iff.1 h with ⟨s, _, hs⟩ | ⟨_, s, _, hs⟩
  · exact LogLevel.exists_invalidConfig_of_ofText hs
  · exact exists_invalidConfig_of_boolOfText hs

end Settings

section

variable {content : Option ByteArray} {inv : Inventory} {pattern : String} {explain : Bool}
  {report : Report}

/-- The content of a file is a text that describes an inventory. -/
def Loads (content : Option ByteArray) (inv : Inventory) : Prop :=
  ∃ bytes text, content = some bytes ∧ String.fromUTF8? bytes = some text ∧
    (loadText text).result = .ok inv

theorem result_loadFile_eq_ok_iff : (loadFile content).result = .ok inv ↔ Loads content inv := by
  unfold loadFile
  cases ht : content.bind String.fromUTF8? with
  | none =>
    refine iff_of_false nofun fun h => ?_
    obtain ⟨bytes, text, rfl, hb, _⟩ := h
    rw [Option.bind_some, hb] at ht
    cases ht
  | some text =>
    obtain ⟨bytes, rfl, hb⟩ := Option.bind_eq_some_iff.1 ht
    constructor
    · intro h
      exact ⟨bytes, text, rfl, hb, h⟩
    · intro h
      obtain ⟨bytes', text', hc, hb', h⟩ := h
      obtain rfl := Option.some.inj hc
      obtain rfl := Option.some.inj (hb.symm.trans hb')
      exact h

theorem inventory_failure_of_result_loadFile (h : (loadFile content).result = .error f) :
    (∃ reason, f = .inventoryRead reason) ∨ ∃ reason, f = .inventoryFormat reason := by
  unfold loadFile at h
  split at h
  · next text _ =>
    rw [result_loadText] at h
    split at h
    · cases h
    · exact .inr ⟨_, (Except.error.inj h).symm⟩
  · exact .inl ⟨_, (Except.error.inj h).symm⟩

theorem pattern_failure_of_selectReport (h : selectReport pattern inv explain = .error f) :
    f = .emptyPattern ∨ ∃ e reason, f = .regexCompile e reason := by
  rw [selectReport_eq_map, map_eq_error_iff, result_run_eq_error_iff] at h
  cases h with
  | emptyPattern _ => exact .inl rfl
  | refused _ _ hs =>
    obtain ⟨-, e, reason, -, -, rfl⟩ := hs
    exact .inr ⟨e, reason.message, rfl⟩

theorem report_of_selectReport (h : selectReport pattern inv explain = .ok report) :
    report.pattern = pattern ∧ selectHosts pattern inv = .ok report.matched ∧
      report.limit.isSome = explain := by
  rw [selectReport_eq_map] at h
  rw [selectHosts_eq_map]
  cases hrun : (run pattern inv).result with
  | error f =>
    rw [hrun] at h
    cases h
  | ok r =>
    rw [hrun] at h
    obtain rfl := Except.ok.inj h
    refine ⟨rfl, rfl, ?_⟩
    cases explain with
    | true => rfl
    | false => rfl

end

namespace CommandLine

variable {env env' : Environment} {args args' : Arguments} {level : LogLevel} {pretty : Bool}
  {inv : Inventory} {report : Report} {text : String} {words : List String}

/-- The environment has all that a request needs: variables that can be read, whether or not there
is an option for them, an inventory, and hosts or at least a pattern that can be resolved. -/
structure Environment.Answers (env : Environment) (args : Arguments) (level : LogLevel)
    (pretty : Bool) (inv : Inventory) (report : Report) : Prop where
  level : Says LogLevel.ofText .warn (env.setting? Settings.logLevelVariable) level
  pretty : Says (boolOfText Settings.prettyVariable) true
    (env.setting? Settings.prettyVariable) pretty
  inventory : Loads (env.file? args.inventory) inv
  report : selectReport args.pattern inv args.explain = .ok report

theorem answer_eq_ok_iff : answer env args = .ok text ↔ ∃ level pretty inv report,
    env.Answers args level pretty inv report ∧ report.render (args.pretty.getD pretty) = text := by
  unfold answer
  constructor
  · intro h
    obtain ⟨⟨level, pretty⟩, hs, h⟩ := bind_eq_ok_iff.1 h
    obtain ⟨inv, hl, h⟩ := bind_eq_ok_iff.1 h
    obtain ⟨report, hr, h⟩ := bind_eq_ok_iff.1 h
    obtain ⟨hlevel, hpretty⟩ := Settings.ofLookup_eq_ok_iff.1 hs
    exact ⟨level, pretty, inv, report, ⟨hlevel, hpretty, result_loadFile_eq_ok_iff.1 hl, hr⟩,
      Except.ok.inj h⟩
  · intro h
    obtain ⟨level, pretty, inv, report, ha, rfl⟩ := h
    have hs := Settings.ofLookup_eq_ok_iff.2 ⟨ha.level, ha.pretty⟩
    have hl := result_loadFile_eq_ok_iff.2 ha.inventory
    exact bind_eq_ok_iff.2 ⟨_, hs, bind_eq_ok_iff.2 ⟨_, hl, bind_eq_ok_iff.2 ⟨_, ha.report, rfl⟩⟩⟩

/-- Nothing that goes wrong has to do with writing the report. -/
theorem statusOf_of_answer_eq_error (h : answer env args = .error f) : statusOf f = 2 := by
  unfold answer at h
  rcases bind_eq_error_iff.1 h with h | ⟨settings, _, h⟩
  · obtain ⟨reason, rfl⟩ := Settings.exists_invalidConfig_of_ofLookup h
    rfl
  rcases bind_eq_error_iff.1 h with h | ⟨inv, _, h⟩
  · rcases inventory_failure_of_result_loadFile h with ⟨reason, rfl⟩ | ⟨reason, rfl⟩
    · rfl
    · rfl
  rcases bind_eq_error_iff.1 h with h | ⟨report, _, h⟩
  · rcases pattern_failure_of_selectReport h with rfl | ⟨e, reason, rfl⟩
    · rfl
    · rfl
  · cases h

theorem execute_of_ok (h : answer env args = .ok text) :
    (execute env args).status = 0 ∧ (execute env args).output = text ++ "\n" := by
  rw [execute, h]
  exact ⟨rfl, rfl⟩

theorem execute_of_error (h : answer env args = .error f) :
    (execute env args).status = 2 ∧ (execute env args).output = "" := by
  rw [execute, h]
  exact ⟨statusOf_of_answer_eq_error h, rfl⟩

theorem status_execute_eq_zero_iff :
    (execute env args).status = 0 ↔ ∃ text, answer env args = .ok text := by
  cases h : answer env args with
  | ok text => exact iff_of_true (execute_of_ok h).1 ⟨text, rfl⟩
  | error f =>
    refine iff_of_false ?_ nofun
    rw [(execute_of_error h).1]
    decide

/-- Two requests that are the same but for the log levels, which are all levels. -/
structure SameButLevel (env env' : Environment) (args args' : Arguments) : Prop where
  args_eq : args' = { args with logLevel := args'.logLevel }
  setting_eq : ∀ key, key ≠ Settings.logLevelVariable → env'.setting? key = env.setting? key
  file_eq : ∀ path, env'.file? path = env.file? path
  level : ∃ level, Says LogLevel.ofText .warn (env.setting? Settings.logLevelVariable) level
  level' : ∃ level, Says LogLevel.ofText .warn (env'.setting? Settings.logLevelVariable) level

theorem SameButLevel.symm (h : SameButLevel env env' args args') :
    SameButLevel env' env args' args where
  args_eq := by rw [h.args_eq]
  setting_eq key hk := (h.setting_eq key hk).symm
  file_eq path := (h.file_eq path).symm
  level := h.level'
  level' := h.level

theorem SameButLevel.answer_eq_ok (h : SameButLevel env env' args args')
    (ha : answer env args = .ok text) : answer env' args' = .ok text := by
  obtain ⟨level, pretty, inv, report, hrequest, rfl⟩ := answer_eq_ok_iff.1 ha
  obtain ⟨level', hlevel⟩ := h.level'
  have hkey : Settings.prettyVariable ≠ Settings.logLevelVariable := by decide
  rw [answer_eq_ok_iff, h.args_eq]
  refine ⟨level', pretty, inv, report, ⟨hlevel, ?_, ?_, hrequest.report⟩, rfl⟩
  · rw [h.setting_eq _ hkey]
    exact hrequest.pretty
  · rw [h.file_eq]
    exact hrequest.inventory

theorem SameButLevel.execute_eq (h : SameButLevel env env' args args') :
    (execute env' args').status = (execute env args).status ∧
      (execute env' args').output = (execute env args).output := by
  cases ha : answer env args with
  | ok text =>
    have ha' := h.answer_eq_ok ha
    rw [(execute_of_ok ha).1, (execute_of_ok ha).2]
    exact execute_of_ok ha'
  | error f =>
    cases ha' : answer env' args' with
    | ok text =>
      rw [h.symm.answer_eq_ok ha'] at ha
      cases ha
    | error f' =>
      -- all failures end a request in the same way
      rw [(execute_of_error ha).1, (execute_of_error ha).2]
      exact execute_of_error ha'

theorem run_of_read (h : read words = .ok args) : run env words = execute env args := by
  rw [run, h]

/-- A request that is read from a command line ends well exactly if its environment answers it, and
then its output is the report, in the layout of the option or else of the variable. Otherwise it
ends with status 2 and no output. Only valid log levels may differ without a difference in the
outcome. -/
theorem run_answers (env : Environment) (h : read words = .ok args) :
    ((run env words).status = 0 ↔
      ∃ level pretty inv report, env.Answers args level pretty inv report) ∧
    (∀ level pretty inv report, env.Answers args level pretty inv report →
      (run env words).output = report.render (args.pretty.getD pretty) ++ "\n" ∧
      selectHosts args.pattern inv = .ok report.matched ∧ report.pattern = args.pattern ∧
      report.limit.isSome = args.explain) ∧
    ((¬ ∃ level pretty inv report, env.Answers args level pretty inv report) →
      (run env words).status = 2 ∧ (run env words).output = "") ∧
    (run env words).status ≠ 1 ∧
    ∀ env' words' args', read words' = .ok args' → SameButLevel env env' args args' →
      (run env' words').status = (run env words).status ∧
      (run env' words').output = (run env words).output := by
  have hanswer : (∃ text, answer env args = .ok text) ↔
      ∃ level pretty inv report, env.Answers args level pretty inv report := by
    simp only [answer_eq_ok_iff]
    constructor
    · intro h
      obtain ⟨_, level, pretty, inv, report, ha, _⟩ := h
      exact ⟨level, pretty, inv, report, ha⟩
    · intro h
      obtain ⟨level, pretty, inv, report, ha⟩ := h
      exact ⟨_, level, pretty, inv, report, ha, rfl⟩
  have hfail (hno : ¬ ∃ text, answer env args = .ok text) :
      (execute env args).status = 2 ∧ (execute env args).output = "" := by
    obtain ⟨f, hf⟩ := exists_error_iff.2 hno
    exact execute_of_error hf
  rw [run_of_read h]
  refine ⟨?_, ?_, ?_, ?_, ?_⟩
  · rw [status_execute_eq_zero_iff, hanswer]
  · intro level pretty inv report ha
    obtain ⟨hpattern, hmatched, hlimit⟩ := report_of_selectReport ha.report
    have hok := answer_eq_ok_iff.2 ⟨level, pretty, inv, report, ha, rfl⟩
    exact ⟨(execute_of_ok hok).2, hmatched, hpattern, hlimit⟩
  · intro hno
    exact hfail (mt hanswer.1 hno)
  · by_cases hok : ∃ text, answer env args = .ok text
    · rw [status_execute_eq_zero_iff.2 hok]
      decide
    · rw [(hfail hok).1]
      decide
  · intro env' words' args' h' hsame
    rw [run_of_read h']
    exact hsame.execute_eq

theorem run_answers_of_variables :
    let file? := fun path =>
      if path = "f" then some (String.toUTF8 "\x7b\"hosts\":[\"a\",\"b\"]\x7d") else none
    let settings := fun level pretty key =>
      if key = Settings.logLevelVariable then level
      else if key = Settings.prettyVariable then some pretty else none
    let env : Environment := ⟨settings (some "WARNING") " No ", file?⟩
    let env' : Environment := ⟨settings none " No ", file?⟩
    let bad : Environment := ⟨settings none "maybe", file?⟩
    let args : Arguments := ⟨"b:~^a", "f", none, false, none⟩
    let args' : Arguments := ⟨"b:~^a", "f", none, false, some .debug⟩
    let output := "\x7b\"pattern\":\"b:~^a\",\"matched\":[\"a\",\"b\"]\x7d\n"
    read ["-pb:~^a", "--inventory=f"] = .ok args ∧
      read ["-if", "--log-level", "Debug", "-p", "b:~^a"] = .ok args' ∧
      read ["--pretty=true", "-pb:~^a", "-if"] = .ok { args with pretty := some true } ∧
      SameButLevel env env' args args' ∧
      (run env ["-pb:~^a", "--inventory=f"]).status = 0 ∧
      (run env ["-pb:~^a", "--inventory=f"]).output = output ∧
      (run env' ["-if", "--log-level", "Debug", "-p", "b:~^a"]).output = output ∧
      (run bad ["--pretty=true", "-pb:~^a", "-if"]).status = 2 := by
  intro file? settings env env' bad args args' output
  have hread : read ["-pb:~^a", "--inventory=f"] = .ok args := rfl
  have hread' : read ["-if", "--log-level", "Debug", "-p", "b:~^a"] = .ok args' := rfl
  have hpretty : read ["--pretty=true", "-pb:~^a", "-if"] =
      .ok { args with pretty := some true } := rfl
  have hload : (loadText "\x7b\"hosts\":[\"a\",\"b\"]\x7d").result = .ok ⟨["a", "b"], []⟩ := rfl
  have hreport : selectReport "b:~^a" ⟨["a", "b"], []⟩ false =
      .ok ⟨"b:~^a", ["a", "b"], none⟩ := rfl
  have hrender : Report.render ⟨"b:~^a", ["a", "b"], none⟩ false ++ "\n" =
      "\x7b\"pattern\":\"b:~^a\",\"matched\":[\"a\",\"b\"]\x7d\n" := rfl
  have hlevel : LogLevel.ofText "WARNING" = .ok .warn := rfl
  have hlayout : boolOfText Settings.prettyVariable " No " = .ok false := rfl
  have ha : env.Answers args .warn false ⟨["a", "b"], []⟩ ⟨"b:~^a", ["a", "b"], none⟩ :=
    ⟨.text hlevel, .text hlayout, ⟨_, _, rfl, dif_pos (String.isValidUTF8 _), hload⟩, hreport⟩
  have hsame : SameButLevel env env' args args' := by
    refine ⟨rfl, ?_, fun _ => rfl, ⟨_, .text hlevel⟩, _, .unset⟩
    intro key hkey
    simp only [env, env', settings, if_neg hkey]
  have hbad : ¬ ∃ level pretty inv report,
      bad.Answers { args with pretty := some true } level pretty inv report := by
    intro h
    obtain ⟨level, pretty, inv, report, hb⟩ := h
    cases hb.pretty with
    | text h => cases h
  obtain ⟨hzero, houtput, -, -, hother⟩ := run_answers env hread
  obtain ⟨-, -, hfails, -, -⟩ := run_answers bad hpretty
  have hout := (houtput _ _ _ _ ha).1.trans hrender
  obtain ⟨-, hout'⟩ := hother env' _ args' hread' hsame
  exact ⟨hread, hread', hpretty, hsame, hzero.2 ⟨_, _, _, _, ha⟩, hout, hout'.trans hout,
    (hfails hbad).1⟩

end CommandLine

end FleetSelect
