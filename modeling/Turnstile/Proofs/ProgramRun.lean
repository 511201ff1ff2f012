import Turnstile.CommandLine
import Turnstile.Proofs.Basics
import Turnstile.Proofs.ConfiguredLogin
import Turnstile.Proofs.TelemetrySetup
import Turnstile.Proofs.VariableFile

/-! Runs of the program. A configuration that passed its checks is one under which telemetry starts and a
login comes to an outcome, so that all that can go wrong goes wrong while it is loaded. -/
namespace Turnstile

/-- The file of variables gives one of them a value that no variable can have. -/
def World.Unsettable (w : World) : Prop :=
  ∃ lines, w.dotEnv.lines? = some lines ∧ DotEnv.apply lines w.env = .error .nullCharacter

namespace World
variable {w : World}

lemma withDotEnv_eq_aborted_iff : w.withDotEnv = .error .aborted ↔ w.Unsettable := by
  rw [withDotEnv]
  cases hl : w.dotEnv.lines? with
  | none => simp [Unsettable, hl]
  | some lines => cases ha : DotEnv.apply lines w.env with
    | ok env => simp [Unsettable, hl, ha]
    | error fault => cases fault <;> simp [Unsettable, hl, ha]

lemma not_unsettable_of_nullFree (he : w.env.NullFree) (hf : w.dotEnv.NullFree) :
    ¬ w.Unsettable := by
  rintro ⟨lines,hl,ha⟩
  exact DotEnv.apply_ne_nullCharacter he (hf.lines? hl) ha

end World

namespace Loader
variable {l : Loader}

lemma withFile_ne_aborted (w : World) (path : String) : l.withFile w path ≠ .error .aborted := by
  rw [withFile]
  split
  · simp
  · simp
  · simp
  · split
    · rename_i content _ format _
      rw [readConfig]
      split <;> simp [Except.map]
    · simp

lemma withOptionalFile_ne_aborted (w : World) (path : String) :
    l.withOptionalFile w path ≠ .error .aborted := by
  rw [withOptionalFile]
  split
  · simp
  · exact withFile_ne_aborted w path

lemma overlaid_ne_aborted (env : Environment) : l.overlaid env ≠ .error .aborted := by
  intro h
  obtain ⟨name,reason,he⟩ := overlaid_eq_error h
  cases he

end Loader

lemma Config.validate_ne_aborted {c : Config}
    (h : Filter.read c.telemetry.logging.level ≠ .error .splitCharacter) :
    c.validate ≠ .error .aborted := by
  by_cases hu : ∃ r : Requirement, ¬ r.Met c
  · obtain ⟨r,hr⟩ := Requirement.exists_firstUnmet hu
    rcases validate_of_firstUnmet hr with ⟨reason,hv⟩ | ⟨-,hb,-⟩
    · simp [hv]
    · exact absurd hb h
  · simp [validate_of_met (not_exists_not.mp hu)]

namespace Program
variable {w : World} {c : Config}

/-- The configuration before it is checked. -/
def assembled (w : World) : Except Stop Config := do
  let w ← inContext [] w.withDotEnv
  let loader := Loader.start.withDefaults
  let loader ← match namedFile? w.env with
    | some path => inContext ["loading " ++ path] (loader.withFile w path)
    | none => inContext [] (loader.withOptionalFile w defaultFile)
  inContext ["invalid configuration"] ((loader.withScope scope).overlaid w.env)

lemma inContext_eq_error_iff {α : Type} {context : List String} {x : Except ConfigError α}
    {stop : Stop} :
    inContext context x = .error stop ↔ ∃ e, x = .error e ∧ stop = .config context e := by
  cases x <;> simp [inContext, eq_comm]

@[simp] lemma isCrash_config (context : List String) (e : ConfigError) :
    (Stop.config context e).isCrash ↔ e = .aborted := by
  cases e <;> simp [Stop.isCrash]

lemma inContext_load (context : List String) (l : Loader) (env : Environment) :
    inContext context (l.load env) = (inContext context (l.overlaid env) >>= fun c =>
      inContext context c.validate >>= fun _ => .ok c) := by
  rw [Loader.load]
  cases l.overlaid env with
  | error e => rfl
  | ok c =>
    change inContext context (c.validate >>= fun _ => .ok c) =
      (inContext context c.validate >>= fun _ => .ok c)
    cases c.validate <;> rfl

/-- What is loaded is what was put together, if it passes the checks. -/
lemma loadConfig_eq (w : World) :
    loadConfig w = (assembled w >>= fun c =>
      inContext ["invalid configuration"] c.validate >>= fun _ => .ok c) := by
  simp only [loadConfig, assembled, inContext_load, bind_assoc]
  refine bind_congr fun v => ?_
  cases namedFile? v.env <;> simp only [bind_assoc]

lemma assembled_of_unsettable (h : w.Unsettable) : assembled w = .error (.config [] .aborted) := by
  rw [assembled, World.withDotEnv_eq_aborted_iff.mpr h]
  rfl

lemma not_isCrash_of_inContext {α : Type} {context : List String} {x : Except ConfigError α}
    {stop : Stop} (hx : x ≠ .error .aborted) (h : inContext context x = .error stop) :
    ¬ stop.isCrash := by
  obtain ⟨e,he,rfl⟩ := inContext_eq_error_iff.mp h
  rw [isCrash_config]
  rintro rfl
  exact hx he

/-- Nothing but the file of variables makes the program break down before the checks. -/
lemma not_isCrash_of_assembled (h : ¬ w.Unsettable) {stop : Stop} (hs : assembled w = .error stop) :
    ¬ stop.isCrash := by
  -- Variables, file, variables on top: the step that stops the program, with the ones before it done.
  rcases Except.bind_eq_error_iff.mp hs with hs | ⟨v,-,hs⟩
  · exact not_isCrash_of_inContext (mt World.withDotEnv_eq_aborted_iff.mp h) hs
  · dsimp only at hs
    split at hs <;> rcases Except.bind_eq_error_iff.mp hs with hs | ⟨l,-,hs⟩
    · exact not_isCrash_of_inContext (Loader.withFile_ne_aborted _ _) hs
    · exact not_isCrash_of_inContext (Loader.overlaid_ne_aborted _) hs
    · exact not_isCrash_of_inContext (Loader.withOptionalFile_ne_aborted _ _) hs
    · exact not_isCrash_of_inContext (Loader.overlaid_ne_aborted _) hs

/-- If the reader of filters gives an answer, only the file of variables can break the program down. -/
lemma isCrash_loadConfig_iff
    (hf : ∀ c, assembled w = .ok c →
      Filter.read c.telemetry.logging.level ≠ .error .splitCharacter)
    {stop : Stop} (hs : loadConfig w = .error stop) : stop.isCrash ↔ w.Unsettable := by
  constructor
  · intro hc
    by_contra h
    rw [loadConfig_eq] at hs
    rcases Except.bind_eq_error_iff.mp hs with hs | ⟨c,ha,hs⟩
    · exact not_isCrash_of_assembled h hs hc
    · rcases Except.bind_eq_error_iff.mp hs with hs | ⟨-,-,hs⟩
      · exact not_isCrash_of_inContext (Config.validate_ne_aborted (hf c ha)) hs hc
      · cases hs
  · intro h
    rw [loadConfig_eq, assembled_of_unsettable h] at hs
    cases hs
    rfl

lemma inContext_eq_ok_iff {α : Type} {context : List String} {x : Except ConfigError α} {a : α} :
    inContext context x = .ok a ↔ x = .ok a := by
  cases x <;> simp [inContext]

lemma loadConfig_eq_ok_iff : loadConfig w = .ok c ↔ assembled w = .ok c ∧ c.validate = .ok () := by
  simp only [loadConfig_eq, Except.bind_eq_ok_iff, inContext_eq_ok_iff, Except.ok.injEq]
  constructor
  · rintro ⟨d,ha,⟨⟩,hv,rfl⟩
    exact ⟨ha,hv⟩
  · rintro ⟨ha,hv⟩
    exact ⟨c,ha,(),hv,rfl⟩

/-- Whatever passes the checks can be set up in a process that has set up nothing yet. -/
lemma startTelemetry_of_validate (h : c.validate = .ok ()) :
    ∃ started, (startTelemetry fresh (telemetryOf c)).answer = .ok started := by
  have hl : Requirement.logLevel.Met c := Config.validate_eq_ok_iff.mp h .logLevel
  refine (startTelemetry_iff_not_clashes (t := telemetryOf c) hl rfl fresh).mpr ?_
  simp [Installed.Clashes, fresh]

lemma runLogin_of_ok (h : loadConfig w = .ok c) (took : Duration) (attempt : Attempt) :
    ∃ log, runLogin w took attempt = decided (c.verdict attempt.identity attempt.secret) log := by
  obtain ⟨started,hs⟩ := startTelemetry_of_validate (loadConfig_eq_ok_iff.mp h).2
  have hl := Service.answer_login_eq_verdict 0 took c attempt.identity attempt.secret
  have he : (evaluate c took attempt).answer =
      .ok (started, c.verdict attempt.identity attempt.secret) := by
    rw [evaluate, Traced.answer_bind, hs, Traced.answer_preceded, Traced.answer_bind, hl]
    rfl
  refine ⟨logOf c started (evaluate c took attempt).trace,?_⟩
  simp only [runLogin, h, he]

lemma runLogin_of_error {stop : Stop} (h : loadConfig w = .error stop) (took : Duration)
    (attempt : Attempt) : runLogin w took attempt = stopped stop := by
  rw [runLogin, h]

lemma exit_stopped (stop : Stop) :
    (stopped stop).stdout = "" ∧ (stopped stop).exit = if stop.isCrash then 101 else 2 := by
  rw [stopped]
  split <;> exact ⟨rfl,rfl⟩

lemma newline_notMem_toJson (outcome : Outcome) : '\n' ∉ outcome.toNode.toJson.toList := by
  match outcome with
  | .granted .admin => decide
  | .granted .standard => decide
  | .denied .unknownUser => decide
  | .denied .badPassword => decide

lemma exit_decided (outcome : Outcome) (log : Log.Lines) :
    (decided outcome log).exit = 0 ∨ (decided outcome log).exit = 1 := by
  rw [decided]
  split <;> simp

lemma exit_decided_eq_zero_iff (outcome : Outcome) (log : Log.Lines) :
    (decided outcome log).exit = 0 ↔ ∃ route, outcome = .granted route := by
  cases outcome <;> simp [decided, Outcome.isGranted]

lemma exit_decided_eq_one_iff (outcome : Outcome) (log : Log.Lines) :
    (decided outcome log).exit = 1 ↔ ∃ reason, outcome = .denied reason := by
  cases outcome <;> simp [decided, Outcome.isGranted]

/-- A run that refuses its arguments or is asked for a login, where the reader of filters gives an answer.
It fails with 2 and without output if the arguments are refused or no configuration is loaded. Under a
configuration telemetry starts and the login comes to an outcome; this is the one line of the output, and
the exit tells a granted login from a denied one, whatever is configured for the log, which goes elsewhere.
Only a file of variables that sets one to a value with a null character makes the program break down. -/
theorem run_login_or_refused (w : World) (took : Duration) (arguments : List String)
    (hf : ∀ c, assembled w = .ok c →
      Filter.read c.telemetry.logging.level ≠ .error .splitCharacter) :
    let r := run w took arguments
    (∀ e, Command.parse arguments = .error e → r.exit = 2 ∧ r.stdout = "") ∧
    ∀ attempt, Command.parse arguments = .ok (.login attempt) →
      (r.exit = 101 ↔ w.Unsettable) ∧
      (w.env.NullFree → w.dotEnv.NullFree → ¬ w.Unsettable) ∧
      (¬ w.Unsettable →
        r.exit ∈ [0, 1, 2] ∧ (r.exit = 2 ↔ ∃ stop, loadConfig w = .error stop)) ∧
      (∀ stop, loadConfig w = .error stop → r.stdout = "") ∧
      ∀ c, loadConfig w = .ok c →
        (∃ started, (startTelemetry fresh (telemetryOf c)).answer = .ok started) ∧
        (telemetryOf c).logging.writer = .stderr ∧
        (∃ outcome, ((Service.ofConfig 0 c).login took attempt).answer = .ok outcome ∧
          r.stdout = outcome.toNode.toJson ++ "\n" ∧ '\n' ∉ outcome.toNode.toJson.toList ∧
          (r.exit = 0 ↔ ∃ route, outcome = .granted route) ∧
          (r.exit = 1 ↔ ∃ reason, outcome = .denied reason)) ∧
        ∀ v d, loadConfig v = .ok d → d.credentials = c.credentials → d.routing = c.routing →
          (run v took arguments).stdout = r.stdout ∧ (run v took arguments).exit = r.exit := by
  intro r
  constructor
  · intro e he
    simp only [r, run, he, and_self]
  · intro attempt ha
    have hrun (v : World) : run v took arguments = runLogin v took attempt := by
      simp only [run, ha]
    have hr : r = runLogin w took attempt := hrun w
    rw [hr]
    cases hl : loadConfig w with
    | error stop =>
      have hc := isCrash_loadConfig_iff hf hl
      obtain ⟨hout,hexit⟩ := exit_stopped stop
      rw [runLogin_of_error hl, hout, hexit, ← hc]
      refine ⟨?_,?_,?_,fun _ _ => rfl,fun _ h => by cases h⟩
      · split <;> simp [*]
      · rw [hc]
        exact World.not_unsettable_of_nullFree
      · intro hn
        simp [hn]
    | ok c =>
      -- A configuration was loaded, so the program got past the file of variables.
      have hu : ¬ w.Unsettable := by
        intro hu
        rw [loadConfig_eq, assembled_of_unsettable hu] at hl
        cases hl
      obtain ⟨log,hd⟩ := runLogin_of_ok hl took attempt
      have hexit := exit_decided (c.verdict attempt.identity attempt.secret) log
      rw [hd]
      refine ⟨?_,fun _ _ => hu,fun _ => ?_,fun _ h => (by cases h),?_⟩
      · rcases hexit with he | he <;> simp [he, hu]
      · rcases hexit with he | he <;> simp [he]
      · intro d he
        cases he
        refine ⟨startTelemetry_of_validate (loadConfig_eq_ok_iff.mp hl).2,rfl,?_,?_⟩
        · exact ⟨_,Service.answer_login_eq_verdict 0 took c _ _,rfl,newline_notMem_toJson _,
            exit_decided_eq_zero_iff _ _,exit_decided_eq_one_iff _ _⟩
        · intro v d hv hc hr
          obtain ⟨other,ho⟩ := runLogin_of_ok hv took attempt
          have he : d.verdict attempt.identity attempt.secret =
              c.verdict attempt.identity attempt.secret := by
            rw [Config.verdict, Config.verdict, hc, hr]
          rw [hrun, ho, he]
          exact ⟨rfl,rfl⟩

/-- A line of the file of variables replaces the users, so that the administrator is unknown. -/
theorem run_login_or_refused_replaced_users :
    let w : World := ⟨.empty, .text "GATEHOUSE__CREDENTIALS__USERS=bob:pw", fun _ => .nothing⟩
    let d : Config := { Config.default with credentials := ⟨Users.empty.insert "bob" "pw"⟩ }
    (∀ c, assembled w = .ok c →
      Filter.read c.telemetry.logging.level ≠ .error .splitCharacter) ∧
    loadConfig w = .ok d ∧ (run w ⟨0, 0⟩ ["bob", "pw"]).exit = 0 ∧
    (run w ⟨0, 0⟩ ["admin", "admin"]).stdout =
      "\x7b\"outcome\":\"denied\",\"reason\":\"unknown_user\"\x7d\n" ∧
    (run w ⟨0, 0⟩ ["bob"]).exit = 2 := by
  intro w d
  have hw : w.withDotEnv =
      .ok { w with env := ⟨[("GATEHOUSE__CREDENTIALS__USERS", "bob:pw")]⟩ } := rfl
  have ha : assembled w = .ok d := by
    rw [assembled, hw]
    change inContext ["invalid configuration"] (Override.applyVariables "GATEHOUSE" .default
      (List.mergeSort [("GATEHOUSE__CREDENTIALS__USERS", "bob:pw")] _)) = _
    rw [List.mergeSort_singleton]
    rfl
  have hf (c : Config) (hc : assembled w = .ok c) :
      Filter.read c.telemetry.logging.level ≠ .error .splitCharacter := by
    cases ha.symm.trans hc
    decide +kernel
  have hl : loadConfig w = .ok d := loadConfig_eq_ok_iff.mpr ⟨ha,by decide +kernel⟩
  refine ⟨hf,hl,?_,?_,?_⟩
  · obtain ⟨-,-,⟨outcome,ho,-,-,hz,-⟩,-⟩ :=
      ((run_login_or_refused w ⟨0, 0⟩ ["bob", "pw"] hf).2 _ rfl).2.2.2.2 d hl
    rw [Service.answer_login_eq_verdict] at ho
    exact hz.mpr ⟨.standard,(Except.ok.inj ho).symm⟩
  · obtain ⟨-,-,⟨outcome,ho,hs,-⟩,-⟩ :=
      ((run_login_or_refused w ⟨0, 0⟩ ["admin", "admin"] hf).2 _ rfl).2.2.2.2 d hl
    rw [Service.answer_login_eq_verdict] at ho
    cases ho
    rw [hs]
    rfl
  · exact ((run_login_or_refused w ⟨0, 0⟩ ["bob"] hf).1 _ rfl).1

/-- A null character in the file of variables makes the program break down, although the arguments are in
order and the filter of the log is never read. -/
theorem run_null_character :
    let w : World := ⟨.empty, .text "A=\x00", fun _ => .nothing⟩
    Command.parse ["admin", "admin"] = .ok (.login ⟨"admin", "admin"⟩) ∧
    (∀ c, assembled w = .ok c →
      Filter.read c.telemetry.logging.level ≠ .error .splitCharacter) ∧
    (run w ⟨0, 0⟩ ["admin", "admin"]).exit ∉ [0, 1, 2] := by
  intro w
  have hw : w.Unsettable := ⟨_,rfl,by decide⟩
  have ha := assembled_of_unsettable hw
  refine ⟨rfl,?_,?_⟩
  · intro c hc
    cases ha.symm.trans hc
  · have hl : loadConfig w = .error (.config [] .aborted) := by
      rw [loadConfig_eq, ha]
      rfl
    rw [show run w ⟨0, 0⟩ ["admin", "admin"] = runLogin w ⟨0, 0⟩ ⟨"admin", "admin"⟩ from rfl,
      runLogin_of_error hl]
    decide

end Program

end Turnstile
