import Rosbridge.Properties.Lifecycle
import Rosbridge.Refine.Answers
import Rosbridge.Refine.Failures

/-!
Acquisitions that fail.

Owns: that a command which fails to acquire entities leaves the tables and the entities that
exist as they were, exactly if it does not replace a registration.
-/

set_option autoImplicit false

namespace Rosbridge

open Foundation Program

/-- The commands that acquire entities. -/
def acquisitions : List String :=
  ["advertise", "subscribe", "call_service", "advertise_service", "send_action_goal",
    "advertise_action"]

/-- The entities that exist. -/
def History.live (log : History) : Set Entity :=
  {entity | entity ∈ log.created ∧ entity ∉ log.destroyed}

/-- The tables and the entities that exist are the same. -/
structure Undisturbed (before after : Machine) : Prop where
  publishers : after.bridge.publishers = before.bridge.publishers
  subscriptions : after.bridge.subscriptions = before.bridge.subscriptions
  services : after.bridge.services = before.bridge.services
  calls : after.bridge.calls = before.bridge.calls
  external : after.bridge.external = before.bridge.external
  goals : after.bridge.goals = before.bridge.goals
  actionCalls : after.bridge.actionCalls = before.bridge.actionCalls
  actionServers : after.bridge.actionServers = before.bridge.actionServers
  serverGoals : after.bridge.serverGoals = before.bridge.serverGoals
  live : after.log.live = before.log.live

/-- The command passes the checks and gives a registration of its connection another type. -/
def Bridge.Replaces (b : Bridge) (owner : Connection) (v : Json) : Prop :=
  (∃ id, requestId v = .ok id) ∧
    ((required v "op" = .ok "advertise_service" ∧
        checkAccess b.access "advertise_service" v = .ok () ∧ b.ReplacesService owner v) ∨
      (required v "op" = .ok "advertise_action" ∧
        checkAccess b.access "advertise_action" v = .ok () ∧ b.ReplacesAction owner v))

section Failing

variable {env : Environment} {owner : Connection} {v : Json} {m : Machine} {op : String}

/-- An operation that replaces nothing. -/
theorem Clean.retains {program : Step Unit} (named : required v "op" = .ok op)
    (service : op ≠ "advertise_service") (action : op ≠ "advertise_action")
    (clean : wp program (Clean m.bridge) m) :
    wp program (Loses m.bridge (m.bridge.Replaces owner v)) m := by
  refine Clean.loses ?_ clean
  rintro ⟨-, ⟨other, -⟩ | ⟨other, -⟩⟩
  · exact service (Except.ok.inj (named.symm.trans other))
  · exact action (Except.ok.inj (named.symm.trans other))

theorem Loses.congr {program : Step Unit} {b : Bridge} {replaces other : Prop}
    (same : replaces ↔ other) (loses : wp program (Loses b replaces) m) :
    wp program (Loses b other) m := by
  rwa [← propext same]

/-- A command that fails has changed no table, unless it has replaced a registration. -/
theorem execute_fails (named : required v "op" = .ok op) (acquires : op ∈ acquisitions) :
    wp (execute env owner v) (Loses m.bridge (m.bridge.Replaces owner v)) m := by
  unfold execute
  refine wp_bind_lift (fun cause failed => .inl ⟨?_, rfl⟩) fun id identified => ?_
  · rintro ⟨⟨id, identified⟩, -⟩
    rw [identified] at failed
    cases failed
  refine wp_bind_lift (fun cause failed => ?_) fun found same => ?_
  · rw [named] at failed
    cases failed
  cases named.symm.trans same
  refine wp_bind_tables ?_
  refine wp_bind_lift (fun cause refused => .inl ⟨?_, rfl⟩) fun _ granted => ?_
  · rintro ⟨-, ⟨other, granted, -⟩ | ⟨other, granted, -⟩⟩
    · cases named.symm.trans other
      rw [granted] at refused
      cases refused
    · cases named.symm.trans other
      rw [granted] at refused
      cases refused
  simp only [acquisitions, List.mem_cons, List.not_mem_nil, or_false] at acquires
  rcases acquires with rfl | rfl | rfl | rfl | rfl | rfl
  · exact Clean.retains named (by decide) (by decide) advertise_clean
  · exact Clean.retains named (by decide) (by decide) (subscribe_clean identified)
  · exact Clean.retains named (by decide) (by decide) callService_clean
  · refine Loses.congr ⟨fun holds => ⟨⟨id, identified⟩, .inl ⟨named, granted, holds⟩⟩, ?_⟩
      advertiseService_fails
    rintro ⟨-, ⟨-, -, holds⟩ | ⟨other, -⟩⟩
    · exact holds
    · exact absurd (Except.ok.inj (named.symm.trans other)) (by decide)
  · exact Clean.retains named (by decide) (by decide) sendGoal_clean
  · refine Loses.congr ⟨fun holds => ⟨⟨id, identified⟩, .inr ⟨named, granted, holds⟩⟩, ?_⟩
      advertiseAction_fails
    rintro ⟨-, ⟨other, -⟩ | ⟨-, -, holds⟩⟩
    · exact absurd (Except.ok.inj (named.symm.trans other)) (by decide)
    · exact holds

/-- A command that fails is answered, which changes no table. -/
theorem command_fails {cause : Error} (connected : owner ∈ m.bridge.outputs)
    (failed : (execute env owner v m).1 = .error cause) :
    wp (command env owner v)
      (fun outcome after => outcome = .ok () ∧ (execute env owner v m).2.SameTables after) m := by
  unfold command
  refine wp_bind_tables ?_
  rw [wp_ite, if_pos connected, wp_bind, wp_attempt, wp_iff, failed]
  dsimp only
  rw [andThen_ok]
  refine wp_send env fun after sent => ?_
  exact ⟨rfl, sent.tables⟩

end Failing

/-- A failed acquisition changes nothing, exactly if it does not replace a registration. -/
theorem failed_acquisition {env : Environment} {access : Access} {timeout : Duration}
    {m : Machine} (reached : Reachable env access timeout m) {owner : Connection} {v : Object}
    {op : String} {cause : Error} (named : required (.obj v) "op" = .ok op)
    (acquires : op ∈ acquisitions) (connected : owner ∈ m.bridge.outputs)
    (failed : (execute env owner (.obj v) m).1 = .error cause)
    (fresh : Fresh (m.next env (.command owner v)).log) :
    Undisturbed m (m.next env (.command owner v)) ↔ ¬ m.bridge.Replaces owner (.obj v) := by
  obtain ⟨returned, next, failures, tables⟩ := command_fails connected failed
  have ended : wp (execute env owner (.obj v)) (Loses m.bridge (m.bridge.Replaces owner (.obj v)))
      m := execute_fails named acquires
  rw [wp_iff, failed] at ended
  have final : (m.next env (.command owner v)).bridge =
      { (execute env owner (.obj v) m).2.bridge with next := next, failed := failures } := tables
  rcases ended with ⟨retains, same⟩ | ⟨replaces, lost⟩
  · refine iff_of_true ?_ retains
    have returns : ¬ (perform env (.command owner v) m).1.IsPanic := by
      show ¬ (command env owner (.obj v) m).1.IsPanic
      rw [returned]
      exact id
    have later : Reachable env access timeout (m.next env (.command owner v)) :=
      .step _ reached returns trivial
    have grown := reach_log_grows
      (command_next (reached.shaped (shaped_new access timeout)) returns)
    have before := (reached.balanced (fresh.inherit grown)).lifecycle (fresh.inherit grown)
    have after := (later.balanced fresh).lifecycle fresh
    rw [same] at final
    have held : (m.next env (.command owner v)).bridge.held = m.bridge.held := by
      rw [final]
      rfl
    refine ⟨by rw [final], by rw [final], by rw [final], by rw [final], by rw [final],
      by rw [final], by rw [final], by rw [final], by rw [final], ?_⟩
    ext entity
    exact (after.1 entity).symm.trans (by rw [held, before.1 entity]; rfl)
  · refine iff_of_false (fun undisturbed => ?_) (not_not_intro replaces)
    rcases lost with services | servers
    · exact services (by rw [← undisturbed.services, final])
    · exact servers (by rw [← undisturbed.actionServers, final])

/-! ### Services of a backend that knows one type -/

/-- The backend serves one type. -/
def Environment.adding : Environment :=
  { Environment.steady with
    service := fun log _ typ =>
      if typ = "demo/srv/Add" then .ok log.length else .error ⟨"unknown type " ++ typ⟩ }

/-- An advertisement of `/add`. -/
def advertisement (typ : String) : Object :=
  [("op", .str "advertise_service"), ("service", .str "/add"), ("type", .str typ)]

/-- A new advertisement that fails changes nothing. -/
theorem failed_acquisition_new :
    Undisturbed ((Machine.new {} 5).next .adding (.connect 0))
      (((Machine.new {} 5).next .adding (.connect 0)).next .adding
        (.command 0 (advertisement "demo/srv/Sub"))) := by
  have reached : Reachable .adding {} 5 ((Machine.new {} 5).next .adding (.connect 0)) :=
    .step _ .here (by decide +kernel) trivial
  have failed : (execute .adding 0 (.obj (advertisement "demo/srv/Sub"))
      ((Machine.new {} 5).next .adding (.connect 0))).1 =
        .error ⟨"unknown type demo/srv/Sub"⟩ := by decide +kernel
  have named : required (.obj (advertisement "demo/srv/Sub")) "op" = .ok "advertise_service" := by
    decide +kernel
  refine (failed_acquisition reached named (by decide) (by decide +kernel) failed
    ⟨by decide +kernel, by decide +kernel, by decide +kernel⟩).mpr ?_
  rintro ⟨-, ⟨-, -, service, text, typ, current, -, -, -, -, found, -⟩ | ⟨other, -⟩⟩
  · cases found
  · exact absurd other (by decide +kernel)

/-- The service that is to get another type is gone when its creation fails. -/
theorem failed_acquisition_replaced :
    let m := ((Machine.new {} 5).next .adding (.connect 0)).next .adding
      (.command 0 (advertisement "demo/srv/Add"))
    Reachable .adding {} 5 m ∧
      (execute .adding 0 (.obj (advertisement "demo/srv/Sub")) m).1 =
        .error ⟨"unknown type demo/srv/Sub"⟩ ∧
      ¬ Undisturbed m (m.next .adding (.command 0 (advertisement "demo/srv/Sub"))) := by
  refine ⟨.step _ (.step _ .here (by decide +kernel) trivial) (by decide +kernel) trivial,
    by decide +kernel, fun undisturbed => ?_⟩
  have kept := congrArg (fun services => (services.lookup "/add").isSome) undisturbed.services
  exact absurd kept (by decide +kernel)

end Rosbridge
