import Rosbridge.Properties.Lifecycle

/-!
Isolation between connections.

Owns: `Bridge.view`, what a connection has in the tables; and that the commands and
the end of another connection leave it as it is.
-/

set_option autoImplicit false

namespace Rosbridge

open Foundation Program

/-! ### What a connection has -/

/-- What the tables hold for one connection, with what it relies on. -/
structure View where
  publishers : String → Option (Entity × String × Finset (Option String))
  subscriptions : String → Option (Entity × String × ClientSubscription)
  services : String → Option Service
  calls : Entity × Int → Option Call
  external : String → Option ExternalRequest
  goals : String → Option ClientGoal
  actionServers : String → Option ActionServer
  serverGoals : String → Option ServerGoal

/-- A connection's part of a publisher. -/
def Publisher.share (owner : Connection) (publisher : Publisher) :
    Option (Entity × String × Finset (Option String)) :=
  (publisher.owners.lookup owner).map fun ids => (publisher.entity, publisher.typ, ids)

/-- A connection's part of a subscription. -/
def Subscription.share (owner : Connection) (subscription : Subscription) :
    Option (Entity × String × ClientSubscription) :=
  (subscription.clients.lookup owner).map fun client =>
    (subscription.entity, subscription.typ, client)

/-- The view of one connection. -/
def Bridge.view (b : Bridge) (owner : Connection) : View where
  publishers := b.publishers.seen (Publisher.share owner)
  subscriptions := b.subscriptions.seen (Subscription.share owner)
  services := b.services.seen (Option.guard fun service => service.owner = owner)
  calls := b.calls.seen (Option.guard fun call => call.owner = owner)
  external := b.external.seen (Option.guard fun request => request.owner = owner)
  goals := b.goals.seen (Option.guard fun goal => goal.owner = owner)
  actionServers := b.actionServers.seen (Option.guard fun server => server.owner = owner)
  serverGoals := b.serverGoals.seen (Option.guard fun goal => goal.owner = owner)

/-- The entities that what a connection has relies on. -/
inductive View.ReliesOn (view : View) : Entity → Prop where
  | publisher {topic typ : String} {entity : Entity} {ids : Finset (Option String)}
      (has : view.publishers topic = some (entity, typ, ids)) : ReliesOn view entity
  | subscription {topic typ : String} {entity : Entity} {client : ClientSubscription}
      (has : view.subscriptions topic = some (entity, typ, client)) : ReliesOn view entity
  | service {name : String} {service : Service} (has : view.services name = some service) :
      ReliesOn view service.entity
  | call {key : Entity × Int} {call : Call} (has : view.calls key = some call) :
      ReliesOn view key.1
  | external {id : String} {request : ExternalRequest} (has : view.external id = some request) :
      ReliesOn view request.entity
  | goal {key : String} {goal : ClientGoal} {entity : Entity}
      (has : view.goals key = some goal) (member : entity ∈ goal.entities) : ReliesOn view entity
  | server {action : String} {server : ActionServer} {entity : Entity}
      (has : view.actionServers action = some server) (member : entity ∈ server.entities) :
      ReliesOn view entity
  | serverGoal {key : String} {goal : ServerGoal} {request : Entity × Nat}
      (has : view.serverGoals key = some goal) (member : request ∈ goal.requests) :
      ReliesOn view request.1

/-! ### Moves of another connection -/

/-- Moves that only concern one connection. -/
def Move.Of (owner : Connection) : Move → Prop
  | observed _ | aborted _ _ | used _ => True
  | told message => message.owner = owner
  | refused other _ _ | left other | requestsDropped other => other = owner
  | advertised _ other _ _ _ _ | registered _ other _ | withdrawn _ other _ => other = owner
  | unadvertised _ other _ _ => other = owner
  | subscribed _ other _ _ _ _ _ | joined _ other _ _ | sampled _ other _ => other = owner
  | parted _ other _ | unsubscribed _ other _ _ => other = owner
  | called _ call _ _ _ | abandoned _ call => call.owner = owner
  | serviceOpened _ service | serviceRemoved _ service => service.owner = owner
  | answered _ request _ | answerRefused _ request _ _ => request.owner = owner
  | goalOpened _ goal _ _ _ _ _ | cancelSent _ goal _ | goalFinished _ goal _ _ _ =>
      goal.owner = owner
  | actionOpened _ server | actionRemoved _ server _ _ => server.owner = owner
  | parkedAnswered _ goal _ _ | parkedRefused _ goal _ _ _ => goal.owner = owner
  | goalCompleted _ goal _ _ _ => goal.owner = owner
  | _ => False

section Other

variable {env : Environment} {move : Move} {m : Machine} {owner other : Connection}

theorem Move.By.of (by' : move.By owner) : move.Of owner := by
  cases move <;> first | exact by' | exact by'.1 | exact by'.elim

theorem Move.Releasing.of (releasing : move.Releasing owner) : move.Of owner := by
  rcases releasing with pass | pass | pass | pass | pass | pass | rfl
  all_goals try (cases move <;> first | exact pass | exact pass.elim)
  rfl

theorem Publisher.share_release {publisher : Publisher} {id : Option String}
    (apart : other ≠ owner) : (publisher.release owner id).share other = publisher.share other := by
  unfold Publisher.release Publisher.share
  dsimp only
  cases found : publisher.owners.lookup owner with
  | none => rfl
  | some ids =>
      dsimp only
      generalize (if id.isSome = true then ids.erase id else ∅) = remaining
      split
      · rw [AList.lookup_erase_ne apart]
      · rw [AList.lookup_alter, if_neg apart]

theorem Publisher.share_register {publisher : Publisher} {id : Option String}
    (apart : other ≠ owner) : (publisher.register owner id).share other = publisher.share other := by
  unfold Publisher.register Publisher.share
  dsimp only
  split
  · rw [AList.lookup_alter, if_neg apart]
  · rw [AList.lookup_insert_ne apart]

theorem Subscription.share_release {subscription : Subscription} {id : Option String}
    (apart : other ≠ owner) :
    (subscription.release owner id).share other = subscription.share other := by
  unfold Subscription.release Subscription.share
  dsimp only
  cases found : subscription.clients.lookup owner with
  | none => rfl
  | some client =>
      dsimp only
      generalize (if id.isSome = true then client.registrations.erase id else ∅) = remaining
      split
      · rw [AList.lookup_erase_ne apart]
      · rw [AList.lookup_alter, if_neg apart]

theorem Subscription.share_enroll {subscription : Subscription} {id : Option String}
    {options : Options} (apart : other ≠ owner) :
    (subscription.enroll owner id options).share other = subscription.share other := by
  unfold Subscription.enroll Subscription.join Subscription.share
  dsimp only
  rw [AList.lookup_alter, if_neg apart]
  split
  · rfl
  · rw [AList.lookup_insert_ne apart]

theorem Move.Of.keeps_publishers (of : move.Of owner) (enabled : move.Enabled env m)
    (apart : other ≠ owner) :
    (move.effect m.bridge).publishers.seen (Publisher.share other) =
      m.bridge.publishers.seen (Publisher.share other) := by
  cases move
  case advertised topic opener id entity typ qos =>
    obtain rfl : opener = owner := of
    refine AList.seen_insert _ enabled.1 ?_
    rw [Publisher.share, ← AList.insert_empty, AList.lookup_insert_ne apart]
    rfl
  case registered topic opener id =>
    obtain rfl : opener = owner := of
    exact AList.seen_alter fun _ _ => Publisher.share_register apart
  case withdrawn topic opener id =>
    obtain rfl : opener = owner := of
    exact AList.seen_alter fun _ _ => Publisher.share_release apart
  case unadvertised topic opener id publisher =>
    obtain rfl : opener = owner := of
    obtain ⟨found, -, -, nobody⟩ := enabled
    refine AList.seen_erase fun value present => ?_
    cases found.symm.trans present
    have unchanged : (publisher.release opener id).share other = publisher.share other :=
      Publisher.share_release apart
    rw [← unchanged, Publisher.share, nobody]
    rfl
  all_goals rfl

theorem Move.Of.keeps_subscriptions (of : move.Of owner) (enabled : move.Enabled env m)
    (apart : other ≠ owner) :
    (move.effect m.bridge).subscriptions.seen (Subscription.share other) =
      m.bridge.subscriptions.seen (Subscription.share other) := by
  cases move
  case subscribed topic opener id options entity typ qos =>
    obtain rfl : opener = owner := of
    refine AList.seen_insert _ enabled.1 ?_
    rw [Subscription.share_enroll apart]
    rfl
  case joined topic opener id options =>
    obtain rfl : opener = owner := of
    exact AList.seen_alter fun _ _ => Subscription.share_enroll apart
  case sampled topic opener change =>
    obtain rfl : opener = owner := of
    refine AList.seen_alter fun subscription _ => ?_
    unfold Subscription.share
    dsimp only
    rw [AList.lookup_alter, if_neg apart]
  case retained => exact of.elim
  case parted topic opener id =>
    obtain rfl : opener = owner := of
    exact AList.seen_alter fun _ _ => Subscription.share_release apart
  case unsubscribed topic opener id subscription =>
    obtain rfl : opener = owner := of
    obtain ⟨found, -, -, nobody⟩ := enabled
    refine AList.seen_erase fun value present => ?_
    cases found.symm.trans present
    have unchanged : (subscription.release opener id).share other = subscription.share other :=
      Subscription.share_release apart
    rw [← unchanged, Subscription.share, nobody]
    rfl
  all_goals rfl

section Owned

variable {ν : Type} {owns : ν → Connection} {value : ν}

/-- What one connection owns is hidden from another. -/
theorem guard_hidden (owned : owns value = owner) (apart : other ≠ owner) :
    (Option.guard (fun value => owns value = other) value) = none := by
  rw [Option.guard, if_neg]
  rw [decide_eq_true_eq, owned]
  exact Ne.symm apart

theorem guard_unchanged {changed : ν} (owned : owns changed = owner) (before : owns value = owner)
    (apart : other ≠ owner) : Option.guard (fun value => owns value = other) changed =
      Option.guard (fun value => owns value = other) value := by
  rw [guard_hidden owned apart, guard_hidden before apart]

end Owned

theorem Move.Of.keeps_services (of : move.Of owner) (enabled : move.Enabled env m)
    (apart : other ≠ owner) :
    (move.effect m.bridge).services.seen (Option.guard fun service => service.owner = other) =
      m.bridge.services.seen (Option.guard fun service => service.owner = other) := by
  cases move
  case serviceOpened name service => exact AList.seen_insert _ enabled.1 (guard_hidden of apart)
  case serviceRemoved name service =>
    refine AList.seen_erase fun value present => ?_
    cases enabled.symm.trans present
    exact guard_hidden of apart
  case forwarded => exact of.elim
  all_goals rfl

theorem Move.Of.keeps_calls (of : move.Of owner) (enabled : move.Enabled env m)
    (balanced : Balanced m) (fresh : Fresh (m.log ++ move.entries)) (apart : other ≠ owner) :
    (move.effect m.bridge).calls.seen (Option.guard fun call => call.owner = other) =
      m.bridge.calls.seen (Option.guard fun call => call.owner = other) := by
  cases move
  case called key call typ args reading =>
    have absent : key ∉ m.bridge.calls := balanced.call_absent fresh List.mem_cons_self
    exact AList.seen_insert _ absent (guard_hidden of apart)
  case abandoned key call =>
    refine AList.seen_erase fun value present => ?_
    cases enabled.1.symm.trans present
    exact guard_hidden of apart
  case replied | expired => exact of.elim
  all_goals rfl

/-- No two services share an entity. -/
theorem service_unique {name further : String} {service current : Service}
    (distinct : m.bridge.held.Nodup) (serves : m.bridge.services.lookup further = some current)
    (found : m.bridge.services.lookup name = some service)
    (same : current.entity = service.entity) : further = name := by
  by_contra different
  rw [held_erase_service found, Multiset.nodup_cons] at distinct
  have kept : (m.bridge.services.erase name).lookup further = some current := by
    rw [AList.lookup_erase_ne different, serves]
  exact distinct.1 (Bridge.mem_held.mpr (.inr (.inr (.inl ⟨further, current, kept, same.symm⟩))))

theorem Move.Of.keeps_external (of : move.Of owner) (enabled : move.Enabled env m)
    (shaped : Shaped m) (distinct : m.bridge.held.Nodup) (apart : other ≠ owner) :
    (move.effect m.bridge).external.seen (Option.guard fun request => request.owner = other) =
      m.bridge.external.seen (Option.guard fun request => request.owner = other) := by
  cases move
  case serviceRemoved name service =>
    refine AList.seen_retain fun id request present dropped => ?_
    obtain ⟨current, number, serves, own, entity, -⟩ := shaped.external id request present
    have same : request.entity = service.entity := not_not.mp (of_decide_eq_false dropped)
    have here : request.service = name :=
      service_unique distinct serves enabled (entity.trans same)
    cases (here ▸ serves).symm.trans enabled
    exact guard_hidden (own.symm.trans of) apart
  case answered id request values =>
    refine AList.seen_erase fun value present => ?_
    cases enabled.symm.trans present
    exact guard_hidden of apart
  case requestsDropped dropped =>
    obtain rfl : dropped = owner := of
    refine AList.seen_retain fun id request present gone => ?_
    exact guard_hidden (not_not.mp (of_decide_eq_false gone)) apart
  case forwarded | requestExpired => exact of.elim
  all_goals rfl

theorem Move.Of.keeps_goals (of : move.Of owner) (enabled : move.Enabled env m)
    (shaped : Shaped m) (fresh : Fresh (m.log ++ move.entries)) (apart : other ≠ owner) :
    (move.effect m.bridge).goals.seen (Option.guard fun goal => goal.owner = other) =
      m.bridge.goals.seen (Option.guard fun goal => goal.owner = other) := by
  cases move
  case goalOpened key goal drawn sequence typ args reading =>
    have absent := shaped.goal_absent fresh drawn List.mem_cons_self
    rw [← enabled.2.2.1] at absent
    exact AList.seen_insert _ absent (guard_hidden of apart)
  case cancelSent key goal sequence =>
    refine AList.seen_alter fun value present => ?_
    cases enabled.1.symm.trans present
    exact guard_unchanged of of apart
  case goalFinished key goal values status success =>
    refine AList.seen_erase fun value present => ?_
    cases enabled.symm.trans present
    exact guard_hidden of apart
  case goalAccepted | goalStranded | cancelRejected => exact of.elim
  all_goals rfl

theorem Move.Of.keeps_actionServers (of : move.Of owner) (enabled : move.Enabled env m)
    (apart : other ≠ owner) :
    (move.effect m.bridge).actionServers.seen (Option.guard fun server => server.owner = other) =
      m.bridge.actionServers.seen (Option.guard fun server => server.owner = other) := by
  cases move
  case actionOpened action server => exact AList.seen_insert _ enabled.1 (guard_hidden of apart)
  case actionRemoved action server closed replies =>
    refine AList.seen_erase fun value present => ?_
    cases enabled.1.symm.trans present
    exact guard_hidden of apart
  all_goals rfl

theorem Move.Of.keeps_serverGoals (of : move.Of owner) (enabled : move.Enabled env m)
    (shaped : Shaped m) (apart : other ≠ owner) :
    (move.effect m.bridge).serverGoals.seen (Option.guard fun goal => goal.owner = other) =
      m.bridge.serverGoals.seen (Option.guard fun goal => goal.owner = other) := by
  cases move
  case actionRemoved action server closed replies =>
    obtain ⟨serves, -, listed, -⟩ := enabled
    refine AList.seen_eraseAll fun key member goal present => ?_
    obtain ⟨entry, inClosed, rfl⟩ := List.mem_map.mp member
    obtain ⟨found, same⟩ := (listed entry.1 entry.2).mp inClosed
    cases found.symm.trans present
    obtain ⟨current, serves', own, -⟩ := shaped.served _ _ found
    rw [same] at serves'
    cases serves.symm.trans serves'
    exact guard_hidden (own.symm.trans of) apart
  case parkedAnswered key goal request values =>
    refine AList.seen_alter fun value present => ?_
    cases enabled.1.symm.trans present
    exact guard_unchanged of of apart
  case goalCompleted key goal status values reading =>
    refine AList.seen_alter fun value present => ?_
    cases enabled.1.symm.trans present
    exact guard_unchanged of of apart
  case goalAdmitted | goalMarked | requestParked | goalForgotten => exact of.elim
  all_goals rfl

/-- A move of one connection leaves the others what they have. -/
theorem Move.Of.keeps_view (of : move.Of owner) (enabled : move.Enabled env m) (shaped : Shaped m)
    (balanced : Balanced m) (fresh : Fresh (m.log ++ move.entries)) (apart : other ≠ owner) :
    (move.effect m.bridge).view other = m.bridge.view other := by
  have distinct := (balanced.lifecycle (fresh.inherit (List.prefix_append _ _))).2.1
  unfold Bridge.view
  rw [of.keeps_publishers enabled apart, of.keeps_subscriptions enabled apart,
    of.keeps_services enabled apart, of.keeps_calls enabled balanced fresh apart,
    of.keeps_external enabled shaped distinct apart, of.keeps_goals enabled shaped fresh apart,
    of.keeps_actionServers enabled apart, of.keeps_serverGoals enabled shaped apart]

/-! ### Messages of another connection -/

/-- The entry hands a message to the connection. -/
def Entry.Reaches (owner : Connection) : Entry → Prop
  | handed addressee _ _ => addressee = owner
  | sendRequest output _ _ _ _ _ => output.connection = owner
  | _ => False

theorem Move.Of.message_owner (of : move.Of owner) {message : Message}
    (spoken : move.message = some message) : message.owner = owner := by
  cases move
  all_goals first | exact of.elim | (cases spoken; first | exact of | done)

theorem Move.Of.silent (of : move.Of owner) (enabled : move.Enabled env m) :
    ∀ entry ∈ move.entries, ¬ entry.Reaches other := by
  have quiet (inner : move.Inner) : ∀ entry ∈ move.entries, ¬ entry.Reaches other := by
    intro entry member
    have silent := inner.silent enabled entry member
    cases entry <;> first | exact silent.elim | exact id
  cases move
  all_goals first | exact quiet trivial | exact of.elim | exact nofun

theorem Sent.reaches {message : Message} {before after : Machine}
    (sent : Sent (some message) before after) (shaped : Shaped before)
    (apart : other ≠ message.owner) :
    ∃ entries, after.log = before.log ++ entries ∧ ∀ entry ∈ entries, ¬ entry.Reaches other := by
  have handed : ¬ message.entry.Reaches other := Ne.symm apart
  have queued {output : Output} (found : before.bridge.outputs.lookup message.owner = some output) :
      output.connection ≠ other := by
    rw [(shaped.outputs _ _ found).1]
    exact Ne.symm apart
  cases sent with
  | muted _ | unrouted _ =>
      refine ⟨[message.entry], rfl, fun entry member => ?_⟩
      rwa [List.mem_singleton.mp member]
  | queued found operation topic queue request =>
      refine ⟨_, List.append_assoc _ _ _, fun entry member => ?_⟩
      rcases List.mem_cons.mp member with rfl | last
      · exact handed
      · rw [List.mem_singleton.mp last]
        exact queued found
  | rejected found operation topic queue request cause =>
      refine ⟨_, List.append_assoc _ _ _, fun entry member => ?_⟩
      rcases List.mem_cons.mp member with rfl | last
      · exact handed
      · rw [List.mem_singleton.mp last]
        exact queued found

/-! ### Runs of another connection -/

/-- What `other` has is as it was at `origin`, and nothing was handed to it since. -/
structure Untouched (other : Connection) (origin m : Machine) : Prop where
  view : m.bridge.view other = origin.bridge.view other
  entries : ∃ entries, m.log = origin.log ++ entries ∧ ∀ entry ∈ entries, ¬ entry.Reaches other

theorem Untouched.refl : Untouched other m m :=
  ⟨rfl, [], (List.append_nil _).symm, nofun⟩

theorem Transition.untouched {origin before after : Machine}
    (taken : Transition env move before after) (of : move.Of owner) (shaped : Shaped before)
    (balanced : Balanced before) (fresh : Fresh after.log) (apart : other ≠ owner)
    (untouched : Untouched other origin before) : Untouched other origin after := by
  obtain ⟨middle, sent, enabled, rfl⟩ := taken
  obtain ⟨next, failed, tables⟩ := sent.tables
  obtain ⟨view, entries, grown, quiet⟩ := untouched
  refine ⟨?_, ?_⟩
  · rw [of.keeps_view enabled (sent.shaped shaped) (sent.balanced balanced) fresh apart, tables]
    exact view
  · have handed : ∃ added, middle.log = before.log ++ added ∧
        ∀ entry ∈ added, ¬ entry.Reaches other := by
      cases spoken : move.message with
      | none =>
          rw [spoken] at sent
          cases sent
          exact ⟨[], (List.append_nil _).symm, nofun⟩
      | some message =>
          rw [spoken] at sent
          exact sent.reaches shaped fun same => apart (same.trans (of.message_owner spoken))
    obtain ⟨added, longer, silent⟩ := handed
    refine ⟨entries ++ added ++ move.entries, ?_, fun entry member => ?_⟩
    · show middle.log ++ move.entries = _
      rw [longer, grown, List.append_assoc, List.append_assoc, List.append_assoc]
    · rcases List.mem_append.mp member with before | last
      · rcases List.mem_append.mp before with old | new
        · exact quiet entry old
        · exact silent entry new
      · exact of.silent enabled entry last

theorem Follows.untouched {origin before after : Machine}
    (reach : Follows (Transition env) (Move.Of owner) before after) (shaped : Shaped before)
    (balanced : Balanced before) (fresh : Fresh after.log) (apart : other ≠ owner)
    (untouched : Untouched other origin before) : Untouched other origin after := by
  refine (Foundation.Follows.inherited (fun m => Fresh m.log)
    (fun m => Shaped m ∧ Balanced m ∧ Untouched other origin m) reach ?_ ?_ fresh
    ⟨shaped, balanced, untouched⟩).2.2
  · exact fun _ _ _ taken fresh => fresh.inherit taken.log_grows
  · rintro move before after of taken fresh ⟨shaped, balanced, untouched⟩
    exact ⟨taken.shaped shaped, taken.balanced shaped fresh balanced,
      taken.untouched of shaped balanced fresh apart untouched⟩

/-- What a connection relies on exists. -/
theorem View.ReliesOn.held {entity : Entity} (relies : (m.bridge.view owner).ReliesOn entity)
    (shaped : Shaped m) : entity ∈ m.bridge.held := by
  have owned {κ ν : Type} [DecidableEq κ] {table : Table κ ν} {owns : ν → Connection} {key : κ}
      {value : ν} (has : table.seen (Option.guard fun value => owns value = owner) key = some value) :
      table.lookup key = some value := by
    obtain ⟨inner, found, seen⟩ := Option.bind_eq_some_iff.mp has
    rw [found, (Option.guard_eq_some_iff.mp seen).1]
  refine shaped.held_of_names ?_
  cases relies with
  | publisher has =>
      obtain ⟨publisher, found, share⟩ := Option.bind_eq_some_iff.mp has
      obtain ⟨ids, -, same⟩ := Option.map_eq_some_iff.mp share
      cases same
      exact Bridge.names_publisher found
  | subscription has =>
      obtain ⟨subscription, found, share⟩ := Option.bind_eq_some_iff.mp has
      obtain ⟨client, -, same⟩ := Option.map_eq_some_iff.mp share
      cases same
      exact .held (Bridge.mem_held.mpr (.inr (.inl ⟨_, subscription, found, rfl⟩)))
  | service has => exact .held (Bridge.mem_held.mpr (.inr (.inr (.inl ⟨_, _, owned has, rfl⟩))))
  | call has =>
      exact .held (Bridge.mem_held.mpr (.inr (.inr (.inr (.inl ⟨_, _, owned has, rfl⟩)))))
  | external has => exact .external (owned has)
  | goal has member => exact Bridge.names_goal (owned has) member
  | server has member => exact Bridge.names_server (owned has) member
  | serverGoal has member => exact .parked (owned has) member

end Other

/-! ### Isolation -/

/-- A command of one connection, or its end, leaves another connection what it has:
its registrations, throttle times and pending samples, its services, calls, requests,
goals and action servers. The entities these rely on are not destroyed, and nothing is
handed to the other connection. -/
theorem isolation {env : Environment} {access : Access} {timeout : Duration} {m : Machine}
    {owner other : Connection} {op : Operation} (reached : Reachable env access timeout m)
    (fresh : Fresh (m.next env op).log) (apart : other ≠ owner)
    (concerns : (∃ v, op = .command owner v) ∨ op = .disconnect owner)
    (returns : ¬ (perform env op m).1.IsPanic) :
    (m.next env op).bridge.view other = m.bridge.view other ∧
    (∃ entries, (m.next env op).log = m.log ++ entries ∧
      ∀ entry ∈ entries, ¬ entry.Reaches other) ∧
    ∀ entity, (m.bridge.view other).ReliesOn entity → entity ∈ (m.next env op).bridge.held ∧
      .destroy entity ∉ (m.next env op).log := by
  have shaped := Onward.shaped reached (shaped_new access timeout)
  have performed := performed_next op shaped returns
  have shaped' := Follows.shaped performed.follows shaped
  have before : Fresh m.log := fresh.inherit (reach_log_grows performed.follows)
  have balanced := ReachableBy.balanced reached before
  have balanced' : Balanced (m.next env op) := Follows.carry performed.follows
    (fun _ _ _ taken => taken.balanced) shaped fresh balanced
  have untouched : Untouched other m (m.next env op) := by
    rcases concerns with ⟨v, rfl⟩ | rfl
    · exact Follows.untouched (performed.mono fun _ => Move.By.of) shaped balanced fresh apart .refl
    · obtain ⟨gone, left, reach, -, -⟩ := performed
      have middle : Fresh gone.log := fresh.inherit (reach_log_grows reach)
      exact Follows.untouched (reach.mono fun _ => Move.Releasing.of) (left.shaped shaped)
        (left.balanced shaped middle balanced) fresh apart
        (left.untouched rfl shaped balanced middle apart .refl)
  refine ⟨untouched.view, untouched.entries, fun entity relies => ?_⟩
  rw [← untouched.view] at relies
  have held := relies.held shaped'
  refine ⟨held, fun destroyed => ?_⟩
  exact ((balanced'.lifecycle fresh).1 entity |>.mp held).2
    (List.mem_filterMap.mpr ⟨_, destroyed, rfl⟩)

/-- Connection 0 advertises and disconnects; connection 1 advertised the topic before. -/
theorem isolation_steady :
    let advertise (owner : Connection) := Operation.command owner [("op", .str "advertise"),
      ("topic", .str "/chatter"), ("type", .str "std_msgs/msg/String")]
    let m := ((((Machine.new {} 5).next .steady (.connect 0)).next .steady (.connect 1)).next
      .steady (advertise 1)).next .steady (advertise 0)
    (m.bridge.view 1).publishers "/chatter" = some (3, "std_msgs/msg/String", {none}) ∧
    ((m.next .steady (.disconnect 0)).bridge.view 1).publishers "/chatter" =
      (m.bridge.view 1).publishers "/chatter" := by
  intro advertise m
  have reached : Reachable .steady {} 5 m :=
    .step _ (.step _ (.step _ (.step _ .here (by decide +kernel) trivial) (by decide +kernel) trivial) (by decide +kernel)
      trivial) (by decide +kernel) trivial
  have fresh : Fresh (m.next .steady (.disconnect 0)).log :=
    ⟨by decide +kernel, by decide +kernel, by decide +kernel⟩
  have apart : (1 : Connection) ≠ 0 := by decide
  exact ⟨by decide +kernel, congrArg (fun view => view.publishers "/chatter")
    (isolation reached fresh apart (.inr rfl) (by decide +kernel)).1⟩

end Rosbridge
