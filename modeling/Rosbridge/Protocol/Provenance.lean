import Rosbridge.Protocol.Shape

/-!
Where the entities of a bridge come from.

Owns: `Entry.Through`, a call on an entity that was created before under a name; `Threads`,
the histories of such calls; `Sprung`, the creations behind the tables; and that every move
keeps them and asks only for what the allowlists grant.
-/

set_option autoImplicit false

namespace Rosbridge

open Foundation

/-! ### Calls on entities -/

/-- A call on an entity goes through one that was created before, under a name. What is asked
of a service is permitted for its type. -/
def Entry.Through (access : Access) (before : History) : Entry → Prop
  | publish entity _ _ => ∃ name typ qos, .publisher name typ qos (.ok entity) ∈ before
  | request entity args _ =>
      ∃ name typ, .client name typ (.ok entity) ∈ before ∧ access.Permits typ args
  | respond entity _ _ _ => ∃ name typ, .service name typ (.ok entity) ∈ before
  | _ => True

/-- Entries that follow a history: each creation is granted, and each call goes through an
entity that was created before it. -/
def Threads (access : Access) : History → List Entry → Prop
  | _, [] => True
  | before, entry :: rest =>
      entry.Granted access ∧ entry.Through access before ∧ Threads access (before ++ [entry]) rest

variable {access : Access} {before : History} {env : Environment} {move : Move} {m : Machine}

theorem Entry.Through.grow {entry : Entry} {later : History} (through : entry.Through access before)
    (grown : before ⊆ later) : entry.Through access later := by
  cases entry with
  | publish entity message reply =>
      obtain ⟨name, typ, qos, member⟩ := through
      exact ⟨name, typ, qos, grown member⟩
  | request entity args reply =>
      obtain ⟨name, typ, member, permits⟩ := through
      exact ⟨name, typ, grown member, permits⟩
  | respond entity request values reply =>
      obtain ⟨name, typ, member⟩ := through
      exact ⟨name, typ, grown member⟩
  | _ => trivial

theorem Threads.append {first rest : List Entry} (early : Threads access before first)
    (late : Threads access (before ++ first) rest) : Threads access before (first ++ rest) := by
  induction first generalizing before with
  | nil => rwa [List.append_nil] at late
  | cons entry first inductionHypothesis =>
      obtain ⟨granted, through, early⟩ := early
      refine ⟨granted, through, inductionHypothesis early ?_⟩
      rwa [List.append_assoc, List.singleton_append]

/-- Entries that need nothing new follow every history. -/
theorem Threads.of_each {entries : List Entry}
    (each : ∀ entry ∈ entries, entry.Granted access ∧ entry.Through access before) :
    Threads access before entries := by
  induction entries generalizing before with
  | nil => trivial
  | cons entry rest inductionHypothesis =>
      obtain ⟨granted, through⟩ := each entry List.mem_cons_self
      refine ⟨granted, through, inductionHypothesis fun other member => ?_⟩
      obtain ⟨granted, through⟩ := each other (List.mem_cons_of_mem _ member)
      exact ⟨granted, through.grow (List.subset_append_left _ _)⟩

theorem Threads.single {entry : Entry} (granted : entry.Granted access)
    (through : entry.Through access before) : Threads access before [entry] :=
  ⟨granted, through, trivial⟩

/-- Read at one entry. -/
theorem Threads.at {entries earlier later : List Entry} {entry : Entry}
    (threads : Threads access before entries) (split : entries = earlier ++ entry :: later) :
    entry.Granted access ∧ entry.Through access (before ++ earlier) := by
  induction earlier generalizing before entries with
  | nil =>
      subst split
      exact ⟨threads.1, by rw [List.append_nil]; exact threads.2.1⟩
  | cons first earlier inductionHypothesis =>
      subst split
      have rest := inductionHypothesis threads.2.2 rfl
      rwa [List.append_assoc, List.singleton_append] at rest

/-! ### Tables -/

/-- Types whose requests carry no parameter. -/
def Plainly (typ : String) : Prop :=
  rawParameterService typ = false ∧ rosapiParameterService typ = false

theorem Plainly.permits {typ : String} (plain : Plainly typ) (access : Access) (args : Json) :
    access.Permits typ args := fun _ rosapi => by
  rw [plain.2] at rosapi
  cases rosapi

/-- The creations that a goal of a client stands for. -/
structure ClientGoal.Sprung (goal : ClientGoal) (log : History) : Prop where
  result : ∃ name typ, .client name typ (.ok goal.result) ∈ log ∧ Plainly typ
  cancel : ∃ name typ, .client name typ (.ok goal.cancel) ∈ log ∧ Plainly typ
  feedback : ∃ typ qos,
    .subscription (goal.action ++ "/_action/feedback") typ qos (.ok goal.feedbackSub) ∈ log

/-- The creations that an action server stands for. -/
structure ActionServer.Sprung (server : ActionServer) (log : History) : Prop where
  publishers : ∀ entity ∈ [server.feedback, server.status],
    ∃ name typ qos, .publisher name typ qos (.ok entity) ∈ log
  services : ∀ entity ∈ [server.send, server.result, server.cancel],
    ∃ name typ, .service name typ (.ok entity) ∈ log

/-- The creations that the tables stand for. -/
structure Sprung (b : Bridge) (log : History) : Prop where
  publishers : ∀ topic publisher, b.publishers.lookup topic = some publisher →
    ∃ typ qos, .publisher topic typ qos (.ok publisher.entity) ∈ log
  subscriptions : ∀ topic subscription, b.subscriptions.lookup topic = some subscription →
    ∃ typ qos, .subscription topic typ qos (.ok subscription.entity) ∈ log
  services : ∀ name service, b.services.lookup name = some service →
    ∃ typ, .service name typ (.ok service.entity) ∈ log
  goals : ∀ key goal, b.goals.lookup key = some goal → goal.Sprung log
  servers : ∀ action server, b.actionServers.lookup action = some server → server.Sprung log

theorem ClientGoal.Sprung.grow {goal : ClientGoal} {log later : History}
    (sprung : goal.Sprung log) (grown : log ⊆ later) : goal.Sprung later := by
  obtain ⟨⟨name, typ, made, plain⟩, ⟨name', typ', made', plain'⟩, typ'', qos, made''⟩ := sprung
  exact ⟨⟨name, typ, grown made, plain⟩, ⟨name', typ', grown made', plain'⟩, typ'', qos,
    grown made''⟩

theorem ActionServer.Sprung.grow {server : ActionServer} {log later : History}
    (sprung : server.Sprung log) (grown : log ⊆ later) : server.Sprung later := by
  refine ⟨fun entity member => ?_, fun entity member => ?_⟩
  · obtain ⟨name, typ, qos, made⟩ := sprung.publishers entity member
    exact ⟨name, typ, qos, grown made⟩
  · obtain ⟨name, typ, made⟩ := sprung.services entity member
    exact ⟨name, typ, grown made⟩

theorem Sprung.grow {b : Bridge} {log later : History} (sprung : Sprung b log)
    (grown : log ⊆ later) : Sprung b later := by
  refine ⟨fun topic publisher found => ?_, fun topic subscription found => ?_,
    fun name service found => ?_, fun key goal found => (sprung.goals key goal found).grow grown,
    fun action server found => (sprung.servers action server found).grow grown⟩
  · obtain ⟨typ, qos, made⟩ := sprung.publishers topic publisher found
    exact ⟨typ, qos, grown made⟩
  · obtain ⟨typ, qos, made⟩ := sprung.subscriptions topic subscription found
    exact ⟨typ, qos, grown made⟩
  · obtain ⟨typ, made⟩ := sprung.services name service found
    exact ⟨typ, grown made⟩

theorem sprung_new (access : Access) (timeout : Duration) (log : History) :
    Sprung (Bridge.new access timeout) log := ⟨nofun, nofun, nofun, nofun, nofun⟩

/-! ### One move -/

section Step

/-- How a publisher that is there after a move came about. -/
theorem Move.publisher_history {topic : String} {publisher : Publisher} {b : Bridge}
    (found : (move.effect b).publishers.lookup topic = some publisher) :
    (∃ owner id typ qos, move = .advertised topic owner id publisher.entity typ qos) ∨
      ∃ old, b.publishers.lookup topic = some old ∧ publisher.entity = old.entity := by
  have altered {other : String} {change : Publisher → Publisher}
      (found : (b.publishers.alter other change).lookup topic = some publisher)
      (keeps : ∀ publisher, (change publisher).entity = publisher.entity) :
      ∃ old, b.publishers.lookup topic = some old ∧ publisher.entity = old.entity := by
    rw [AList.lookup_alter] at found
    split at found
    · next same =>
        obtain ⟨old, present, rfl⟩ := Option.map_eq_some_iff.mp found
        exact ⟨old, same ▸ present, keeps old⟩
    · exact ⟨publisher, found, rfl⟩
  cases move
  case advertised other owner id entity typ qos =>
    rw [Move.effect, AList.lookup_insert_if] at found
    split at found
    · next same =>
        cases found
        exact .inl ⟨owner, id, typ, qos, by rw [same]⟩
    · exact .inr ⟨publisher, found, rfl⟩
  case registered other owner id => exact .inr (altered found fun _ => rfl)
  case withdrawn other owner id => exact .inr (altered found fun _ => rfl)
  case unadvertised other owner id gone =>
    rw [Move.effect, AList.lookup_erase_if] at found
    split at found
    · cases found
    · exact .inr ⟨publisher, found, rfl⟩
  all_goals exact .inr ⟨publisher, found, rfl⟩

/-- How a subscription that is there after a move came about. -/
theorem Move.subscription_history {topic : String} {subscription : Subscription} {b : Bridge}
    (found : (move.effect b).subscriptions.lookup topic = some subscription) :
    (∃ owner id options typ qos,
        move = .subscribed topic owner id options subscription.entity typ qos) ∨
      ∃ old, b.subscriptions.lookup topic = some old ∧ subscription.entity = old.entity := by
  have altered {other : String} {change : Subscription → Subscription}
      (found : (b.subscriptions.alter other change).lookup topic = some subscription)
      (keeps : ∀ subscription, (change subscription).entity = subscription.entity) :
      ∃ old, b.subscriptions.lookup topic = some old ∧ subscription.entity = old.entity := by
    rw [AList.lookup_alter] at found
    split at found
    · next same =>
        obtain ⟨old, present, rfl⟩ := Option.map_eq_some_iff.mp found
        exact ⟨old, same ▸ present, keeps old⟩
    · exact ⟨subscription, found, rfl⟩
  cases move
  case subscribed other owner id options entity typ qos =>
    rw [Move.effect, AList.lookup_insert_if] at found
    split at found
    · next same =>
        cases found
        exact .inl ⟨owner, id, options, typ, qos, by rw [same, Subscription.enroll_entity]⟩
    · exact .inr ⟨subscription, found, rfl⟩
  case joined other owner id options =>
    exact .inr (altered found (Subscription.enroll_entity owner id options))
  case sampled other owner change => exact .inr (altered found fun _ => rfl)
  case retained other sample => exact .inr (altered found fun _ => rfl)
  case parted other owner id => exact .inr (altered found fun _ => rfl)
  case unsubscribed other owner id gone =>
    rw [Move.effect, AList.lookup_erase_if] at found
    split at found
    · cases found
    · exact .inr ⟨subscription, found, rfl⟩
  all_goals exact .inr ⟨subscription, found, rfl⟩

/-- How a service that is there after a move came about. -/
theorem Move.service_history {name : String} {service : Service} {b : Bridge}
    (found : (move.effect b).services.lookup name = some service) :
    move = .serviceOpened name service ∨
      ∃ old, b.services.lookup name = some old ∧ service.entity = old.entity := by
  cases move
  case serviceOpened other opened =>
    rw [Move.effect, AList.lookup_insert_if] at found
    split at found
    · next same =>
        cases found
        exact .inl (by rw [same])
    · exact .inr ⟨service, found, rfl⟩
  case serviceRemoved other gone =>
    rw [Move.effect, AList.lookup_erase_if] at found
    split at found
    · cases found
    · exact .inr ⟨service, found, rfl⟩
  case forwarded number request reading =>
    rw [Move.effect, AList.lookup_alter] at found
    split at found
    · next same =>
        obtain ⟨old, present, rfl⟩ := Option.map_eq_some_iff.mp found
        exact .inr ⟨old, same ▸ present, rfl⟩
    · exact .inr ⟨service, found, rfl⟩
  all_goals exact .inr ⟨service, found, rfl⟩

/-- How an action server that is there after a move came about. -/
theorem Move.server_history {action : String} {server : ActionServer} {b : Bridge}
    (found : (move.effect b).actionServers.lookup action = some server) :
    move = .actionOpened action server ∨ b.actionServers.lookup action = some server := by
  cases move
  case actionOpened other opened =>
    rw [Move.effect, AList.lookup_insert_if] at found
    split at found
    · next same =>
        cases found
        exact .inl (by rw [same])
    · exact .inr found
  case actionRemoved other gone closed replies =>
    rw [Move.effect, AList.lookup_erase_if] at found
    split at found
    · cases found
    · exact .inr found
  all_goals exact .inr found

theorem plainly_action {text typ : String} (named : typeName text "action" = .ok typ)
    (suffix : String) : Plainly (typ ++ suffix) := typeName_action named suffix

/-- Every entity that the tables name was created. -/
theorem Move.keeps_sprung (enabled : move.Enabled env m) (sprung : Sprung m.bridge m.log) :
    Sprung (move.effect m.bridge) (m.log ++ move.entries) := by
  have sprung := sprung.grow (List.subset_append_left m.log move.entries)
  refine ⟨fun topic publisher found => ?_, fun topic subscription found => ?_,
    fun name service found => ?_, fun key goal found => ?_, fun action server found => ?_⟩
  · rcases Move.publisher_history found with ⟨owner, id, typ, qos, rfl⟩ | ⟨old, present, same⟩
    · exact ⟨typ, qos, List.mem_append_right _ (List.mem_singleton_self _)⟩
    · rw [same]
      exact sprung.publishers topic old present
  · rcases Move.subscription_history found with
      ⟨owner, id, options, typ, qos, rfl⟩ | ⟨old, present, same⟩
    · exact ⟨typ, qos, List.mem_append_right _ (List.mem_singleton_self _)⟩
    · rw [same]
      exact sprung.subscriptions topic old present
  · rcases Move.service_history found with rfl | ⟨old, present, same⟩
    · exact ⟨service.typ, List.mem_append_right _ (List.mem_singleton_self _)⟩
    · rw [same]
      exact sprung.services name old present
  · rcases Move.goal_origin found with
      ⟨fresh, sequence, typ, args, reading, rfl⟩ | ⟨old, present, same⟩
    · obtain ⟨-, -, -, -, -, -, -, text, named⟩ := enabled
      have cancel : Plainly "action_msgs/srv/CancelGoal" := ⟨rfl, rfl⟩
      refine ⟨⟨goal.action ++ "/_action/get_result", typ ++ "_GetResult",
        List.mem_append_right _ ?_, plainly_action named "_GetResult"⟩,
        ⟨goal.action ++ "/_action/cancel_goal", _, List.mem_append_right _ ?_, cancel⟩,
        typ ++ "_FeedbackMessage", Qos.service, List.mem_append_right _ ?_⟩
      all_goals simp [Move.entries]
    · have earlier := sprung.goals key old present
      rw [same]
      exact ⟨earlier.result, earlier.cancel, earlier.feedback⟩
  · rcases Move.server_history found with rfl | present
    · refine ⟨fun entity member => ?_, fun entity member => ?_⟩
      · simp only [List.mem_cons, List.not_mem_nil, or_false] at member
        rcases member with rfl | rfl
        · exact ⟨action ++ "/_action/feedback", server.typ ++ "_FeedbackMessage", Qos.service,
            List.mem_append_right _ (by simp [Move.entries])⟩
        · exact ⟨action ++ "/_action/status", "action_msgs/msg/GoalStatusArray",
            { Qos.service with durability := 1, depth := 1 },
            List.mem_append_right _ (by simp [Move.entries])⟩
      · simp only [List.mem_cons, List.not_mem_nil, or_false] at member
        rcases member with rfl | rfl | rfl
        · exact ⟨action ++ "/_action/send_goal", server.typ ++ "_SendGoal",
            List.mem_append_right _ (by simp [Move.entries])⟩
        · exact ⟨action ++ "/_action/get_result", server.typ ++ "_GetResult",
            List.mem_append_right _ (by simp [Move.entries])⟩
        · exact ⟨action ++ "/_action/cancel_goal", "action_msgs/srv/CancelGoal",
            List.mem_append_right _ (by simp [Move.entries])⟩
    · exact sprung.servers action server present

/-- Entries that are no call on an entity and no creation. -/
def Entry.Aside : Entry → Prop
  | publisher _ _ _ _ | subscription _ _ _ _ | client _ _ _ | service _ _ _ => False
  | publish _ _ _ | request _ _ _ | respond _ _ _ _ => False
  | _ => True

theorem Threads.aside {entries : List Entry} (aside : ∀ entry ∈ entries, entry.Aside) :
    Threads access before entries := by
  refine Threads.of_each fun entry member => ?_
  have clear := aside entry member
  cases entry <;> first | exact clear.elim | exact ⟨trivial, trivial⟩

theorem Threads.destroys (entities : List Entity) :
    Threads access before (entities.map Entry.destroy) := by
  refine Threads.aside fun entry member => ?_
  obtain ⟨entity, -, rfl⟩ := List.mem_map.mp member
  trivial

/-- What `send` notes is no call on an entity. -/
theorem Sent.says {message : Option Message} {after : Machine} (sent : Sent message m after) :
    ∃ said : History, after.log = m.log ++ said ∧ ∀ entry ∈ said, entry.Aside := by
  cases sent with
  | silent => exact ⟨[], (List.append_nil _).symm, by simp⟩
  | muted failed => exact ⟨_, rfl, by simp [Message.entry, Entry.Aside]⟩
  | unrouted absent => exact ⟨_, rfl, by simp [Message.entry, Entry.Aside]⟩
  | queued found operation topic queue request =>
      exact ⟨_, List.append_assoc _ _ _, by simp [Message.entry, Entry.Aside]⟩
  | rejected found operation topic queue request cause =>
      exact ⟨_, List.append_assoc _ _ _, by simp [Message.entry, Entry.Aside]⟩

/-- A request that waits for a goal came to a service of its action server. -/
theorem Sprung.parked (sprung : Sprung m.bridge m.log) (shaped : Shaped m) {key : String}
    {goal : ServerGoal} {request : Entity × Nat}
    (found : m.bridge.serverGoals.lookup key = some goal) (member : request ∈ goal.requests) :
    ∃ name typ, .service name typ (.ok request.1) ∈ m.log := by
  obtain ⟨server, serves, -, waiting⟩ := shaped.served key goal found
  rw [← waiting request member]
  exact (sprung.servers goal.action server serves).services _ (by simp)

/-- A native request came to a service of a client. -/
theorem Sprung.requested (sprung : Sprung m.bridge m.log) (shaped : Shaped m) {id : String}
    {request : ExternalRequest} (found : m.bridge.external.lookup id = some request) :
    ∃ name typ, .service name typ (.ok request.entity) ∈ m.log := by
  obtain ⟨service, -, present, -, same, -⟩ := shaped.external id request found
  obtain ⟨typ, made⟩ := sprung.services request.service service present
  exact ⟨request.service, typ, by rw [← same]; exact made⟩

theorem Bridge.Uses.threads {entry : Entry} (uses : m.bridge.Uses entry)
    (sprung : Sprung m.bridge m.log) : Threads access m.log [entry] := by
  cases uses with
  | publisher found =>
      obtain ⟨typ, qos, made⟩ := sprung.publishers _ _ found
      exact .single trivial ⟨_, typ, qos, made⟩
  | server found member => exact .single trivial ((sprung.servers _ _ found).publishers _ member)
  | cancel found =>
      obtain ⟨name, typ, made, plain⟩ := (sprung.goals _ _ found).cancel
      exact .single trivial ⟨name, typ, made, plain.permits access _⟩
  | refusal found member => exact .single trivial ((sprung.servers _ _ found).services _ member)

/-- A move creates only what is granted, and calls only what was created. -/
theorem Move.threads (enabled : move.Enabled env m) (shaped : Shaped m)
    (sprung : Sprung m.bridge m.log) : Threads m.bridge.access m.log move.entries := by
  have result {key : String} {goal : ClientGoal} {reply : Except Error Int}
      (found : m.bridge.goals.lookup key = some goal) :
      Threads m.bridge.access m.log [.request goal.result (resultArgs goal.uuid) reply] := by
    obtain ⟨name, typ, made, plain⟩ := (sprung.goals key goal found).result
    exact .single trivial ⟨name, typ, made, plain.permits _ _⟩
  have answered {entity : Entity} {request : Nat} {values : Json} {reply : Except Error Unit}
      (made : ∃ name typ, Entry.service name typ (.ok entity) ∈ m.log) :
      Threads m.bridge.access m.log [.respond entity request values reply] :=
    .single trivial made
  cases move
  case observed entries =>
    refine Threads.aside fun entry member => ?_
    have inert := enabled entry member
    cases entry <;> trivial
  case aborted creations refusal =>
    obtain ⟨kinds, -, granted, refuses⟩ := enabled
    refine .append (.append (.of_each fun entry member => ⟨granted entry member, ?_⟩) ?_)
      (.destroys _)
    · rcases kinds entry member with inert | vain | created
      · cases entry <;> trivial
      · cases entry <;> trivial
      · cases entry <;> trivial
    · refine .of_each fun entry member => ?_
      obtain ⟨refused, chosen, rfl⟩ := List.mem_map.mp member
      obtain ⟨name, typ, made, permits⟩ := refuses refused (Option.mem_toList.mp chosen)
      exact ⟨trivial, name, typ, List.mem_append_right _ made, permits⟩
  case used entry => exact enabled.threads sprung
  case probed readings =>
    refine Threads.aside fun entry member => ?_
    obtain ⟨reading, -, rfl⟩ := List.mem_map.mp member
    trivial
  case advertised topic owner id entity typ qos => exact .single enabled.2.2 trivial
  case subscribed topic owner id options entity typ qos => exact .single enabled.2.2 trivial
  case called key call typ args reading =>
    obtain ⟨-, granted, permits, -⟩ := enabled
    refine ⟨granted, trivial, trivial, ⟨call.service, typ, ?_, permits⟩, trivial, trivial, trivial⟩
    exact List.mem_append_right _ (List.mem_singleton_self _)
  case serviceOpened name service => exact .single enabled.2.2 trivial
  case answered id request values => exact answered (sprung.requested shaped enabled)
  case answerRefused id request values cause => exact answered (sprung.requested shaped enabled)
  case goalOpened key goal fresh sequence typ args reading =>
    obtain ⟨-, -, -, -, -, -, listed, text, named⟩ := enabled
    obtain ⟨send, result, cancel, feedback, status⟩ := Access.action_ok listed
    have plain (suffix : String) := plainly_action named suffix
    have granted (suffix : String) : m.bridge.access.params.isSome = true →
        rawParameterService (typ ++ suffix) = false := fun _ => (plain suffix).1
    refine ⟨trivial, trivial, ⟨send, granted _⟩, trivial, ⟨result, granted _⟩, trivial,
      ⟨cancel, fun _ => rfl⟩, trivial, feedback, trivial, status, trivial, trivial, ?_, trivial,
      trivial, trivial⟩
    exact ⟨goal.action ++ "/_action/send_goal", _, by simp, (plain "_SendGoal").permits _ _⟩
  case goalAccepted pending key goal sequence => exact result enabled.2
  case goalStranded pending key goal cause => exact result enabled.2.1
  case cancelSent key goal sequence => exact (Bridge.Uses.cancel enabled.1).threads sprung
  case goalFinished key goal values status success => exact .destroys _
  case actionOpened action server =>
    obtain ⟨-, -, listed, text, named⟩ := enabled
    obtain ⟨send, result, cancel, feedback, status⟩ := Access.action_ok listed
    have plain (suffix : String) : m.bridge.access.params.isSome = true →
        rawParameterService (server.typ ++ suffix) = false ∧
          rosapiParameterService (server.typ ++ suffix) = false :=
      fun _ => plainly_action named suffix
    exact ⟨⟨send, plain _⟩, trivial, ⟨result, plain _⟩, trivial, ⟨cancel, fun _ => ⟨rfl, rfl⟩⟩,
      trivial, feedback, trivial, status, trivial, trivial⟩
  case actionRemoved action server closed replies =>
    obtain ⟨serves, -, listed, requests⟩ := enabled
    refine .append (.of_each fun entry member => ⟨?_, ?_⟩) (.destroys _)
    · obtain ⟨reply, -, rfl⟩ := List.mem_map.mp member
      trivial
    · obtain ⟨reply, chosen, rfl⟩ := List.mem_map.mp member
      have parked := List.mem_map_of_mem (f := fun reply => (reply.1, reply.2.1)) chosen
      rw [requests] at parked
      obtain ⟨entry, among, waits⟩ := List.mem_flatMap.mp parked
      exact sprung.parked shaped ((listed entry.1 entry.2).mp among).1 waits
  case requestAnswered entity request values =>
    obtain ⟨action, server, serves, member⟩ := enabled
    exact answered ((sprung.servers action server serves).services entity member)
  case goalAdmitted key goal entity request =>
    obtain ⟨-, -, -, -, -, server, serves, -, rfl, -⟩ := enabled
    exact answered ((sprung.servers goal.action server serves).services _ (by simp))
  case resultRepeated key goal stored entity request =>
    obtain ⟨-, -, action, server, serves, rfl⟩ := enabled
    exact answered ((sprung.servers action server serves).services _ (by simp))
  case parkedAnswered key goal request values =>
    exact answered (sprung.parked shaped enabled.1 (List.mem_of_getLast? enabled.2))
  case parkedRefused key goal request values cause =>
    exact answered (sprung.parked shaped enabled.1 (List.mem_of_getLast? enabled.2))
  all_goals exact Threads.aside (by simp [Move.entries, Entry.Aside])

end Step

/-! ### Runs -/

/-- The history of a bridge with these allowlists creates only what they grant and calls only
what was created. -/
structure Vetted (access : Access) (m : Machine) : Prop where
  lists : m.bridge.access = access
  sprung : Sprung m.bridge m.log
  threads : Threads access [] m.log

theorem vetted_new (access : Access) (timeout : Duration) :
    Vetted access (Machine.new access timeout) :=
  ⟨rfl, sprung_new access timeout [], trivial⟩

theorem Move.keeps_access (b : Bridge) : (move.effect b).access = b.access := by
  cases move <;> rfl

theorem Transition.vetted {before after : Machine} (taken : Transition env move before after)
    (shaped : Shaped before) (vetted : Vetted access before) : Vetted access after := by
  obtain ⟨middle, sent, enabled, rfl⟩ := taken
  have between := sent.shaped shaped
  obtain ⟨said, grown, quiet⟩ := sent.says
  obtain ⟨next, failed, tables⟩ := sent.tables
  have sprung : Sprung middle.bridge middle.log := by
    have later := vetted.sprung.grow (List.subset_append_left before.log said)
    rw [grown, tables]
    exact ⟨later.publishers, later.subscriptions, later.services, later.goals, later.servers⟩
  have same : middle.bridge.access = access := by
    rw [tables]
    exact vetted.lists
  refine ⟨(Move.keeps_access _).trans same, Move.keeps_sprung enabled sprung, ?_⟩
  have spoken : Threads access [] middle.log := by
    rw [grown]
    exact vetted.threads.append (Threads.aside quiet)
  refine spoken.append ?_
  have entries := Move.threads enabled between sprung
  rwa [same] at entries

end Rosbridge
