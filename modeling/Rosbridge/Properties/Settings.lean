import Rosbridge.Properties.Lifecycle
import Rosbridge.Startup.Server

/-!
When accepted settings crash the server.

Owns: what `load` has checked of the settings it returns; and that the server makes of them
what it needs without a panic exactly when two of the timeouts are in range.
-/

set_option autoImplicit false

namespace Rosbridge.Startup

open Foundation

/-! ### What `load` has checked -/

/-- The settings that passed the checks of `load`. -/
structure Checked (args : Args) : Prop where
  encodingWorkers : 0 < args.encodingWorkers
  writeQueueBytes : 0 < args.writeQueueBytes
  pingInterval : ∃ duration, Duration.tryFromSecsF64 args.websocketPingInterval = .ok duration
  pingTimeout : ∃ duration, Duration.tryFromSecsF64 args.websocketPingTimeout = .ok duration
  incomingQueueSize : 0 < args.incomingQueueSize
  writeQueueSize : 0 < args.writeQueueSize
  maxMessageSize : 0 < args.maxMessageSize

theorem ensure_ok {condition : Bool} {message : String}
    (passed : ensure condition message = .ok ()) : condition = true := by
  unfold ensure at passed
  by_contra fails
  rw [if_neg fails] at passed
  cases passed

section Load

variable {host : Host} {given : Given} {args loaded : Args} {config : Config} {log : Log}

theorem bind_unit {α : Type} {first : Except Error Unit} {next : Unit → Except Error α} {value : α}
    (ran : first >>= next = .ok value) : first = .ok () ∧ next () = .ok value := by
  cases first with
  | error cause => cases ran
  | ok done => exact ⟨rfl, ran⟩

theorem bind_value {α β : Type} {first : Except Error α} {next : α → Except Error β} {value : β}
    (ran : first >>= next = .ok value) : ∃ middle, first = .ok middle ∧ next middle = .ok value := by
  cases first with
  | error cause => cases ran
  | ok middle => exact ⟨middle, rfl, ran⟩

theorem check_ok (passed : check args = .ok ()) : Checked args := by
  unfold check at passed
  obtain ⟨workers, passed⟩ := bind_unit passed
  obtain ⟨bytes, passed⟩ := bind_unit passed
  obtain ⟨interval, passed⟩ := bind_unit passed
  obtain ⟨timeout, passed⟩ := bind_unit passed
  obtain ⟨queues, passed⟩ := bind_unit passed
  obtain ⟨size, -⟩ := bind_unit passed
  have workers := ensure_ok workers
  have bytes := ensure_ok bytes
  have interval := ensure_ok interval
  have timeout := ensure_ok timeout
  have queues := ensure_ok queues
  have size := ensure_ok size
  simp only [Bool.and_eq_true, decide_eq_true_eq] at workers bytes queues size
  refine ⟨workers.1, bytes, ?_, ?_, queues.1, queues.2, size⟩
  · cases converted : Duration.tryFromSecsF64 args.websocketPingInterval with
    | ok duration => exact ⟨duration, rfl⟩
    | error cause =>
        rw [converted] at interval
        cases interval
  · cases converted : Duration.tryFromSecsF64 args.websocketPingTimeout with
    | ok duration => exact ⟨duration, rfl⟩
    | error cause =>
        rw [converted] at timeout
        cases timeout

/-- Only the address to listen on is changed. -/
theorem loadBind_ok {bound : Args} (ran : loadBind host given config args = .ok bound) :
    ∃ ip port, bound = { args with bindIp := ip, bindPort := port } := by
  unfold loadBind at ran
  split at ran
  · cases ran
    exact ⟨_, _, rfl⟩
  · obtain ⟨ip, -, ran⟩ := bind_value ran
    cases ran
    exact ⟨ip, _, rfl⟩

/-- The settings that `load` returns are those of the file and the command line, and passed
the checks. -/
theorem load_ok (configured : host.config = .ok config)
    (ran : load host given args = .ok (loaded, log)) :
    Checked loaded ∧
      loaded.serviceTimeout =
        apply (given "service_timeout") config.defaultCallServiceTimeout args.serviceTimeout ∧
      loaded.fragmentTimeout =
        apply (given "fragment_timeout") config.fragmentTimeout args.fragmentTimeout := by
  unfold load at ran
  rw [configured] at ran
  have steps : (loadBind host given config args >>= _) = .ok (loaded, log) := ran
  obtain ⟨bound, listening, ran⟩ := bind_value steps
  obtain ⟨passed, ran⟩ := bind_unit ran
  obtain ⟨globs, -, ran⟩ := bind_value ran
  obtain ⟨timeout, -, ran⟩ := bind_value ran
  obtain ⟨settings, -, ran⟩ := bind_value ran
  obtain ⟨ip, port, rfl⟩ := loadBind_ok listening
  have checked := check_ok passed
  cases ran
  exact ⟨⟨checked.encodingWorkers, checked.writeQueueBytes, checked.pingInterval,
    checked.pingTimeout, checked.incomingQueueSize, checked.writeQueueSize,
    checked.maxMessageSize⟩, rfl, rfl⟩

end Load

/-! ### Startup -/

/-- A length of time that a number of seconds stands for. -/
def Representable (seconds : F64) : Prop :=
  ∃ duration, Duration.tryFromSecsF64 seconds = .ok duration

/-- The server comes to hold its settings, its connections to hold theirs, and the service
timeout can be added to the clock as the machine reads it, or it ends with an error first. -/
structure Calm (host : Host) (args : Args) (env : Environment) (m : Machine) : Prop where
  prepares : ¬ (prepare host args ()).1.IsPanic
  connects : ∀ settings, (prepare host args ()).1 = .ok settings →
    ¬ ((openQueue settings : Thread (Outgoing.Shared Unit Unit)) ()).1.IsPanic
  waits : ∀ settings, (prepare host args ()).1 = .ok settings →
    ¬ (after env settings.timeout m).1.IsPanic

theorem wp_ofOutcome {α : Type} {outcome : Outcome Error α} {post : Outcome Error α → Unit → Prop}
    {state : Unit} : Program.wp (ofOutcome outcome) post state ↔ post outcome state := Iff.rfl

/-- How `prepare` ends with settings that passed the checks. -/
theorem prepare_checked (host : Host) {args : Args} (checked : Checked args) :
    Program.wp (prepare host args) (fun outcome _ =>
      (outcome.IsPanic ↔ Representable args.serviceTimeout ∧
        (∃ access, fromRosArgs host args.rosArgs = .ok access) ∧
        ¬ Representable args.fragmentTimeout) ∧
      ((∃ settings, outcome = .ok settings) ↔ Representable args.serviceTimeout ∧
        (∃ access, fromRosArgs host args.rosArgs = .ok access) ∧
        Representable args.fragmentTimeout) ∧
      ∀ settings, outcome = .ok settings →
        Duration.tryFromSecsF64 args.serviceTimeout = .ok settings.timeout ∧
        settings.writeQueue = args.writeQueueSize ∧
        settings.writeQueueBytes = args.writeQueueBytes) () := by
  obtain ⟨interval, pings⟩ := checked.pingInterval
  obtain ⟨wait, pongs⟩ := checked.pingTimeout
  unfold prepare
  rw [Program.wp_bind, Program.wp_ofExcept]
  cases service : Duration.tryFromSecsF64 args.serviceTimeout with
  | error cause =>
      have unrepresentable : ¬ Representable args.serviceTimeout := by
        rintro ⟨duration, converted⟩
        rw [service] at converted
        cases converted
      refine ⟨iff_of_false id fun ends => unrepresentable ends.1, iff_of_false ?_ fun ends =>
        unrepresentable ends.1, fun settings ok => by cases ok⟩
      rintro ⟨settings, ok⟩
      cases ok
  | ok timeout =>
      dsimp only [context]
      rw [Program.andThen_ok]
      refine Program.wp_bind_ensure (fun fails => ?_) fun _ => ?_
      · exact absurd checked.maxMessageSize (by simpa using fails)
      · rw [Program.wp_bind, Program.wp_ofExcept]
        cases allowed : fromRosArgs host args.rosArgs with
        | error cause =>
            have refused : ¬ ∃ access : Access, Except.error cause = Except.ok access := by
              rintro ⟨access, built⟩
              cases built
            refine ⟨iff_of_false id fun ends => refused ends.2.1, iff_of_false ?_ fun ends =>
              refused ends.2.1, fun settings ok => by cases ok⟩
            rintro ⟨settings, ok⟩
            cases ok
        | ok access =>
            dsimp only
            rw [Program.andThen_ok, Program.wp_bind, wp_ofOutcome,
              Incoming.channel_pos checked.incomingQueueSize, Program.andThen_ok,
              Program.wp_bind, wp_ofOutcome]
            unfold fromSecsF64
            cases fragment : Duration.tryFromSecsF64 args.fragmentTimeout with
            | error cause =>
                have unrepresentable : ¬ Representable args.fragmentTimeout := by
                  rintro ⟨duration, converted⟩
                  rw [fragment] at converted
                  cases converted
                refine ⟨iff_of_true trivial ⟨⟨timeout, service⟩, ⟨access, rfl⟩, unrepresentable⟩,
                  iff_of_false ?_ fun ends => unrepresentable ends.2.2,
                  fun settings ok => by cases ok⟩
                rintro ⟨settings, ok⟩
                cases ok
            | ok duration =>
                dsimp only
                rw [Program.andThen_ok, Program.wp_bind, wp_ofOutcome, Outgoing.Pool.new,
                  if_pos checked.encodingWorkers, Program.andThen_ok, Program.wp_bind,
                  Program.wp_ofExcept, pings]
                dsimp only
                rw [Program.andThen_ok, Program.wp_bind, Program.wp_ofExcept, pongs]
                dsimp only
                rw [Program.andThen_ok, Program.wp_pure]
                refine ⟨iff_of_false id fun ends => ends.2.2 ⟨duration, fragment⟩,
                  iff_of_true ⟨_, rfl⟩ ⟨⟨timeout, service⟩, ⟨access, rfl⟩, ⟨duration, fragment⟩⟩,
                  fun settings ok => ?_⟩
                cases ok
                exact ⟨rfl, rfl, rfl⟩

/-- A deadline is in the range of the clock, or setting it ends the thread. -/
theorem after_isPanic {env : Environment} {m : Machine} {duration : Duration} :
    (after env duration m).1.IsPanic ↔ ¬ env.instant m.log + duration < Instant.limit := by
  have reading : (after env duration m).1 =
      (Program.unwrap "overflow when adding duration to instant"
        (Instant.add? (env.instant m.log) duration) _ : Outcome Error Instant × Machine).1 := rfl
  rw [reading, Instant.add?]
  by_cases roomy : env.instant m.log + duration < Instant.limit
  · rw [if_pos roomy]
    exact iff_of_false id (not_not_intro roomy)
  · rw [if_neg roomy]
    exact iff_of_true trivial roomy

/-- Settings that `load` accepts crash nothing, exactly if the fragment timeout is a duration
and the service timeout can be added to the clock, or if the server has ended with an error
by then. -/
theorem accepted_settings {host : Host} {given : Given} {args loaded : Args} {config : Config}
    {log : Log} {env : Environment} {m : Machine} (configured : host.config = .ok config)
    (ran : load host given args = .ok (loaded, log)) :
    let service :=
      apply (given "service_timeout") config.defaultCallServiceTimeout args.serviceTimeout
    let fragment := apply (given "fragment_timeout") config.fragmentTimeout args.fragmentTimeout
    Calm host loaded env m ↔
      ¬ Representable service ∨ (∃ cause, fromRosArgs host loaded.rosArgs = .error cause) ∨
        (Representable fragment ∧ ∀ timeout, Duration.tryFromSecsF64 service = .ok timeout →
          env.instant m.log + timeout < Instant.limit) := by
  obtain ⟨checked, service, fragment⟩ := load_ok configured ran
  rw [← service, ← fragment]
  dsimp only
  obtain ⟨panics, returns, settled⟩ := prepare_checked host checked
  have connects (settings : Settings) (ok : (prepare host loaded ()).1 = .ok settings) :
      ¬ ((openQueue settings : Thread (Outgoing.Shared Unit Unit)) ()).1.IsPanic := by
    obtain ⟨-, queue, bytes⟩ := settled settings ok
    show ¬ (Outgoing.channelWithPool settings.writeQueue settings.writeQueueBytes).IsPanic
    rw [Outgoing.channelWithPool, queue, bytes,
      if_pos ⟨checked.writeQueueSize, checked.writeQueueBytes⟩]
    exact id
  constructor
  · rintro ⟨prepares, -, waits⟩
    by_cases converts : Representable loaded.serviceTimeout
    · refine .inr ?_
      cases allowed : fromRosArgs host loaded.rosArgs with
      | error cause => exact .inl ⟨cause, rfl⟩
      | ok access =>
          have fragment : Representable loaded.fragmentTimeout := by
            by_contra unrepresentable
            exact prepares (panics.mpr ⟨converts, ⟨access, allowed⟩, unrepresentable⟩)
          obtain ⟨settings, ok⟩ := returns.mpr ⟨converts, ⟨access, allowed⟩, fragment⟩
          refine .inr ⟨fragment, fun timeout converted => ?_⟩
          have same := (settled settings ok).1
          rw [converted] at same
          cases same
          by_contra overflows
          exact waits settings ok (after_isPanic.mpr overflows)
    · exact .inl converts
  · intro condition
    refine ⟨fun panic => ?_, connects, fun settings ok panic => ?_⟩
    · obtain ⟨converts, ⟨access, allowed⟩, unrepresentable⟩ := panics.mp panic
      rcases condition with invalid | ⟨cause, refused⟩ | ⟨fragment, -⟩
      · exact invalid converts
      · cases allowed.symm.trans refused
      · exact unrepresentable fragment
    · obtain ⟨converts, ⟨access, allowed⟩, -⟩ := returns.mp ⟨settings, ok⟩
      rcases condition with invalid | ⟨cause, refused⟩ | ⟨-, roomy⟩
      · exact invalid converts
      · cases allowed.symm.trans refused
      · exact after_isPanic.mp panic (roomy _ (settled settings ok).1)

/-! ### Timeouts out of range -/

/-- The arguments without a command line, but for two timeouts. -/
def Args.timed (fragment service : F64) : Args where
  logDirectory := none
  logLevel := none
  logTimezone := none
  logAnsi := none
  urlPath := "/"
  incomingQueueSize := 256
  writeQueueSize := 64
  writeQueueBytes := 67108864
  encodingWorkers := 2
  fragmentTimeout := fragment
  websocketPingInterval := .ofInt 30
  websocketPingTimeout := .ofInt 30
  bindIp := "0.0.0.0"
  bindPort := 9090
  nodeName := "rosbridge_websocket"
  nodeNamespace := "/"
  useSimTime := false
  noRosapi := false
  serviceTimeout := service
  maxMessageSize := 16777216
  rosArgs := []

/-- A host with an empty configuration file. -/
def Host.plain : Host where
  home := some "/root"
  rustLog := none
  config := .ok {}
  parseIp := some
  glob text := .ok ⟨text, fun name => name = text⟩
  showF64 _ := ""
  toml _ := .error ⟨"expected a value"⟩

theorem load_timed (fragment service : F64)
    (passed : check (.timed fragment service) = .ok ()) :
    load .plain (fun _ => false) (.timed fragment service) = .ok (.timed fragment service, {}) := by
  show Except.bind (check (.timed fragment service)) _ = _
  rw [passed]
  rfl

/-- The usual timeouts crash nothing. -/
theorem accepted_settings_usual : Calm .plain (.timed (.ofInt 30) (.ofInt 30)) .steady
    (Machine.new {} 5) := by
  have ran := load_timed (.ofInt 30) (.ofInt 30) (by decide +kernel)
  refine (accepted_settings rfl ran).mpr (.inr (.inr ⟨?_, fun timeout converted => ?_⟩))
  · have usual : Duration.tryFromSecsF64 (.ofInt 30) = .ok 30000000000 := by decide +kernel
    exact ⟨_, usual⟩
  · have usual : Duration.tryFromSecsF64 (.ofInt 30) = .ok 30000000000 := by decide +kernel
    cases usual.symm.trans converted
    show 0 + 30000000000 < Instant.limit
    decide

/-- A fragment timeout of 2^70 seconds is accepted and ends the server at its start; a service
timeout of 2^63 seconds is accepted and ends it at the first deadline. -/
theorem accepted_settings_endless :
    (load .plain (fun _ => false) (.timed (.ofInt (2 ^ 70)) (.ofInt 30)) =
        .ok (.timed (.ofInt (2 ^ 70)) (.ofInt 30), {}) ∧
      (prepare .plain (.timed (.ofInt (2 ^ 70)) (.ofInt 30)) ()).1.IsPanic) ∧
    load .plain (fun _ => false) (.timed (.ofInt 30) (.ofInt (2 ^ 63))) =
        .ok (.timed (.ofInt 30) (.ofInt (2 ^ 63)), {}) ∧
      ∃ settings, (prepare .plain (.timed (.ofInt 30) (.ofInt (2 ^ 63))) ()).1 = .ok settings ∧
        (after .steady settings.timeout (Machine.new {} 5)).1.IsPanic := by
  refine ⟨⟨load_timed _ _ (by decide +kernel), by decide +kernel⟩,
    load_timed _ _ (by decide +kernel), ?_⟩
  have checked : Checked (.timed (.ofInt 30) (.ofInt (2 ^ 63))) := check_ok (by decide +kernel)
  obtain ⟨-, returns, settled⟩ := prepare_checked .plain checked
  have service : Duration.tryFromSecsF64 (.ofInt (2 ^ 63)) = .ok (2 ^ 63 * 1000000000) := by
    decide +kernel
  have fragment : Duration.tryFromSecsF64 (.ofInt 30) = .ok 30000000000 := by decide +kernel
  obtain ⟨settings, ok⟩ := returns.mpr ⟨⟨_, service⟩, ⟨{}, rfl⟩, ⟨_, fragment⟩⟩
  refine ⟨settings, ok, after_isPanic.mpr ?_⟩
  have timeout := (settled settings ok).1
  rw [← Except.ok.inj (service.symm.trans timeout)]
  show ¬ 0 + 2 ^ 63 * 1000000000 < Instant.limit
  decide

end Rosbridge.Startup
