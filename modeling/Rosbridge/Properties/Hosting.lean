import Rosbridge.Properties.Authority
import Rosbridge.Properties.Correlation
import Rosbridge.Properties.Discovery
import Rosbridge.Properties.Home
import Rosbridge.Properties.Requests

/-!
The bridge on the node.

Owns: that the node keeps what the bridge relies on; that the handles of the node are those that the
tables of the bridge and of rosapi stand for; and that no call of the bridge misses its handle.
-/

set_option autoImplicit false

namespace Rosbridge.Ros

open Foundation

variable {env : Environment} {access : Access} {timeout : Duration} {simulated serving : Bool}
  {m : Machine} {log earlier later : History} {entry : Entry} {s start before : Native}

/-! ### A service on the node -/

/-- Entries that are no calls of the backend. -/
def Elsewhere : Entry → Bool
  | .connected _ | .instant _ | .uuid _ | .order _ | .handed .. | .sendRequest .. | .isClosed .. => true
  | _ => false

/-- ROS accepts everything. -/
def quietHost : Host where
  toMiddleware := quiet
  publish _ _ _ := .ok ()
  publishersInfo _ _ := .ok []

theorem trail_of_calls {after : Native}
    (calls : Trail (Serves serving) (log.filter fun entry => !Elsewhere entry) s after) :
    Trail (Serves serving) log s after := by
  induction log generalizing s with
  | nil => exact calls
  | cons entry rest inductionHypothesis =>
      cases elsewhere : Elsewhere entry with
      | true =>
          rw [List.filter_cons_of_neg (by simp [elsewhere])] at calls
          refine .cons ⟨quietHost, fun _ => [], ?_⟩ (inductionHypothesis calls)
          cases entry <;> first | rfl | cases elsewhere
      | false =>
          rw [List.filter_cons_of_pos (by simp [elsewhere])] at calls
          cases calls with
          | cons serves calls => exact .cons serves (inductionHypothesis calls)

/-- A backend that numbers a service as the node does, and brings one request. -/
def asking : Environment := { Environment.steady with
  service := fun _ _ _ => .ok 1
  poll := fun log => .ok (if log.arrived = [] then [.request 1 1 (.obj [])] else []) }

/-- A connection advertises a service, and a request comes. -/
def requested : Machine :=
  (((Machine.new {} 5).next asking (.connect 0)).next asking addServer).next asking .tick

/-- The connection answers it. -/
def replied : Machine := requested.next asking (.command 0 addResponse)

theorem requested_reachable : Reachable asking {} 5 requested :=
  .step _ (.step _ (.step _ .here (by decide +kernel) trivial) (by decide +kernel) trivial)
    (by decide +kernel) trivial

theorem replied_reachable : Reachable asking {} 5 replied :=
  .step _ requested_reachable (by decide +kernel) trivial

/-- One service and one request, and the answer if it was given. -/
def servesOne (answered : Bool) : List Entry → Bool
  | [.service "/add" _ (.ok 1), .poll (.ok [.request 1 1 _])] => !answered
  | [.service "/add" _ (.ok 1), .poll (.ok [.request 1 1 _]), .respond 1 1 _ (.ok ())] => answered
  | _ => false

/-- The node of one service. -/
def serviceNode (typ : String) (requests : Finset (Entity × Nat)) (count : Nat) (trace : Trace) :
    Native :=
  ⟨{}, { handles := (∅ : Table Entity Handle).insert 1 ⟨.service, "/add", typ⟩, next := 1, requests,
         nextRequest := count }, trace⟩

theorem serves_one {answered : Bool}
    (serves : servesOne answered (log.filter fun entry => !Elsewhere entry) = true) :
    ∃ typ, Hosted false false log
      (serviceNode typ (if answered then ∅ else {(1, 1)}) 1 [.order 0]) := by
  unfold servesOne at serves
  have begun (typ : String) : Serves false (.service "/add" typ (.ok 1)) ⟨{}, {}, []⟩
      (serviceNode typ ∅ 0 []) := ⟨quietHost, fun _ => [], rfl⟩
  have brought (typ : String) (args : Json) : Serves false (.poll (.ok [.request 1 1 args]))
      (serviceNode typ ∅ 0 []) (serviceNode typ {(1, 1)} 1 [.order 0]) :=
    ⟨quietHost, fun _ => [{ values := .ok (args, .null) }], rfl⟩
  have given (typ : String) (values : Json) : Serves false (.respond 1 1 values (.ok ()))
      (serviceNode typ {(1, 1)} 1 [.order 0]) (serviceNode typ ∅ 1 [.order 0]) :=
    ⟨quietHost, fun _ => [], rfl⟩
  have starts : Starts false false ⟨{}, {}, []⟩ := ⟨quiet, {}, 0, rfl⟩
  split at serves
  · next typ args calls =>
      cases answered with
      | false =>
          refine ⟨typ, _, starts, trail_of_calls ?_⟩
          rw [calls]
          exact .cons (begun typ) (.single (brought typ args))
      | true => cases serves
  · next typ args values calls =>
      cases answered with
      | false => cases serves
      | true =>
          refine ⟨typ, _, starts, trail_of_calls ?_⟩
          rw [calls]
          exact .cons (begun typ) (.cons (brought typ args) (.single (given typ values)))
  · cases serves

/-! ### What the bridge relies on -/

/-- An entity is there when it is destroyed. -/
theorem destroyed_live (balanced : Balanced m) (distinct : m.log.created.Nodup) {entity : Entity}
    (split : m.log = earlier ++ .destroy entity :: later) :
    entity ∈ earlier.created ∧ entity ∉ earlier.destroyed := by
  have acts : m.log.acts = earlier.acts ++ .release entity :: later.acts := by
    rw [split, History.acts, List.filterMap_append]
    rfl
  rw [← m.log.acts_acquired, acts, List.filterMap_append] at distinct
  unfold Balanced at balanced
  rw [acts] at balanced
  obtain ⟨middle, first, second⟩ := Ledger.split balanced
  cases second with
  | release _ =>
      have live := (first.live_iff (List.nodup_append.mp distinct).1).mp (Multiset.mem_cons_self _ _)
      rwa [earlier.acts_acquired, earlier.acts_released] at live

theorem disciplined_of_balanced (balanced : Balanced m) (distinct : m.log.created.Nodup) :
    Disciplined m.log := fun _ _ _ split => (destroyed_live balanced distinct split).1

/-- The node when an entry was made. -/
theorem Hosted.at (hosted : Hosted simulated serving log s) (split : log = earlier ++ entry :: later) :
    ∃ before next, Home serving earlier before ∧ Serves serving entry before next := by
  obtain ⟨start, starts, run⟩ := hosted
  rw [split] at run
  obtain ⟨before, first, rest⟩ := run.split
  cases rest with
  | cons serves _ => exact ⟨before, _, starts.home.trail first, serves⟩

theorem Disciplined.kept_live (disciplined : Disciplined log) (distinct : log.created.Nodup)
    {entity : Entity} {h : Handle} (found : (kept log).lookup entity = some h) :
    entity ∈ log.created ∧ entity ∉ log.destroyed :=
  (disciplined.kept_iff distinct entity).mp ⟨h, found⟩

/-- A service that is kept was created as one. -/
theorem kept_service {entity : Entity} {h : Handle} (found : (kept log).lookup entity = some h)
    (role : h.role = .service) : entity ∈ log.services := by
  obtain ⟨entry, member, opens⟩ := kept_made found
  refine List.mem_filterMap.mpr ⟨entry, member, ?_⟩
  cases entry with
  | publisher name typ qos reply => cases reply <;> cases opens; cases role
  | subscription name typ qos reply => cases reply <;> cases opens; cases role
  | client name typ reply => cases reply <;> cases opens; cases role
  | service name typ reply => cases reply <;> cases opens; rfl
  | _ => cases opens

theorem Hosted.asked (hosted : Hosted simulated serving log s) (disciplined : Disciplined log) :
    Asked log := by
  refine ⟨hosted.home.once, fun index pair member => ?_⟩
  have split : log = log.take index ++ log.get index :: log.drop (index + 1) := by
    rw [List.get_eq_getElem, ← List.drop_eq_getElem_cons, List.take_append_drop]
  obtain ⟨before, next, home, host, inbox, served⟩ := hosted.at split
  have known : ∃ events, log.get index = .poll (.ok events) ∧
      pair ∈ events.filterMap Event.asked? := by
    cases same : log.get index with
    | poll reply =>
        rw [same] at member
        cases reply with
        | error cause => cases member
        | ok events => exact ⟨events, rfl, member⟩
    | _ =>
        rw [same] at member
        cases member
  obtain ⟨events, same, brought⟩ := known
  rw [same] at served
  obtain ⟨-, h, found, role⟩ := home.reported ((poll_reports home.idle served).2 pair brought)
  rw [split] at disciplined
  exact ⟨kept_service found role, (disciplined.left.kept_live home.distinct found).2⟩

/-- Every entity that a node hands out is new, and every request that it reports comes once, to a
service that was created and is there. Whatever clients do, however ROS answers, and whether rosapi
is served or not, the bridge on the node gets what it relies on. -/
theorem node_promises (reached : Reachable env access timeout m)
    (hosted : Hosted simulated serving m.log s) (uuids : (m.log.filterMap Entry.drawn?).Nodup)
    (connections : m.log.ConnectsOnce) : Fresh m.log ∧ Asked m.log := by
  have fresh : Fresh m.log := ⟨hosted.home.distinct, uuids, connections⟩
  have balanced := ReachableBy.balanced reached fresh
  exact ⟨fresh, hosted.asked (disciplined_of_balanced balanced fresh.entities)⟩

/-- The request comes once, to the service. -/
theorem node_promises_service : Asked replied.log ∧ replied.log.arrived = [(1, 1)] := by
  obtain ⟨typ, hosted⟩ := @serves_one replied.log true (by decide +kernel)
  exact ⟨(node_promises replied_reachable hosted (by decide +kernel) (by decide +kernel)).2,
    by decide +kernel⟩

/-! ### Handles -/

/-- What was made and not destroyed has its handle. -/
theorem Home.found (home : Home serving log s) (disciplined : Disciplined log) {entity : Entity}
    {h : Handle} (member : entry ∈ log) (opens : opened? entry = some (entity, h))
    (lasts : entity ∉ log.destroyed) : s.node.handles.lookup entity = some h := by
  have created : entity ∈ log.created := by
    refine List.mem_filterMap.mpr ⟨entry, member, ?_⟩
    rw [← opened?_created, opens]
    rfl
  obtain ⟨other, found⟩ := (disciplined.kept_iff home.distinct entity).mpr ⟨created, lasts⟩
  obtain ⟨maker, there, makes⟩ := kept_made found
  rw [home.handles entity created, found, opened_once home.distinct there member makes opens]

/-- The handles that the tables of a bridge stand for. -/
structure Matched (b : Bridge) (handles : Table Entity Handle) : Prop where
  held : ∀ entity ∈ b.held, ∃ h, handles.lookup entity = some h
  publishers : ∀ topic publisher, b.publishers.lookup topic = some publisher →
    ∃ typ, handles.lookup publisher.entity = some ⟨.publisher, topic, typ⟩
  subscriptions : ∀ topic subscription, b.subscriptions.lookup topic = some subscription →
    ∃ typ, handles.lookup subscription.entity = some ⟨.subscription, topic, typ⟩
  services : ∀ name service, b.services.lookup name = some service →
    ∃ typ, handles.lookup service.entity = some ⟨.service, name, typ⟩
  goals : ∀ key goal, b.goals.lookup key = some goal →
    (∀ entity ∈ [goal.result, goal.cancel],
      ∃ name typ, handles.lookup entity = some ⟨.client, name, typ⟩) ∧
    ∃ typ, handles.lookup goal.feedbackSub =
      some ⟨.subscription, goal.action ++ "/_action/feedback", typ⟩
  servers : ∀ action server, b.actionServers.lookup action = some server →
    (∀ entity ∈ [server.feedback, server.status],
      ∃ name typ, handles.lookup entity = some ⟨.publisher, name, typ⟩) ∧
    ∀ entity ∈ [server.send, server.result, server.cancel],
      ∃ name typ, handles.lookup entity = some ⟨.service, name, typ⟩

theorem Home.matched (home : Home serving m.log s) (disciplined : Disciplined m.log)
    (sprung : Sprung m.bridge m.log)
    (live : ∀ entity, entity ∈ m.bridge.held ↔ entity ∈ m.log.created ∧ entity ∉ m.log.destroyed) :
    Matched m.bridge s.node.handles := by
  have finds {entry : Entry} {entity : Entity} {h : Handle} (holds : entity ∈ m.bridge.held)
      (member : entry ∈ m.log) (opens : opened? entry = some (entity, h)) :
      s.node.handles.lookup entity = some h :=
    home.found disciplined member opens ((live entity).mp holds).2
  constructor
  · intro entity holds
    obtain ⟨created, lasts⟩ := (live entity).mp holds
    rw [home.handles entity created]
    exact (disciplined.kept_iff home.distinct entity).mpr ⟨created, lasts⟩
  · intro topic publisher found
    obtain ⟨typ, qos, member⟩ := sprung.publishers topic publisher found
    exact ⟨typ, finds (Bridge.mem_held.mpr (.inl ⟨topic, publisher, found, rfl⟩)) member rfl⟩
  · intro topic subscription found
    obtain ⟨typ, qos, member⟩ := sprung.subscriptions topic subscription found
    exact ⟨typ, finds (Bridge.mem_held.mpr (.inr (.inl ⟨topic, subscription, found, rfl⟩))) member rfl⟩
  · intro name service found
    obtain ⟨typ, member⟩ := sprung.services name service found
    exact ⟨typ, finds (Bridge.mem_held.mpr (.inr (.inr (.inl ⟨name, service, found, rfl⟩)))) member
      rfl⟩
  · intro key goal found
    have holds {entity : Entity} (member : entity ∈ goal.entities) : entity ∈ m.bridge.held :=
      Bridge.mem_held.mpr (.inr (.inr (.inr (.inr (.inl ⟨key, goal, found, member⟩)))))
    have sprung := sprung.goals key goal found
    constructor
    · intro entity member
      rcases List.mem_pair.mp member with rfl | rfl
      · obtain ⟨name, typ, made, -⟩ := sprung.result
        exact ⟨name, typ, finds (holds (by simp [ClientGoal.entities])) made rfl⟩
      · obtain ⟨name, typ, made, -⟩ := sprung.cancel
        exact ⟨name, typ, finds (holds (by simp [ClientGoal.entities])) made rfl⟩
    · obtain ⟨typ, qos, made⟩ := sprung.feedback
      exact ⟨typ, finds (holds (by simp [ClientGoal.entities])) made rfl⟩
  · intro action server found
    have holds {entity : Entity} (member : entity ∈ server.entities) : entity ∈ m.bridge.held :=
      Bridge.mem_held.mpr (.inr (.inr (.inr (.inr (.inr ⟨action, server, found, member⟩)))))
    have sprung := sprung.servers action server found
    constructor
    · intro entity member
      obtain ⟨name, typ, qos, made⟩ := sprung.publishers entity member
      refine ⟨name, typ, finds (holds ?_) made rfl⟩
      rcases List.mem_pair.mp member with rfl | rfl <;> simp [ActionServer.entities]
    · intro entity member
      obtain ⟨name, typ, made⟩ := sprung.services entity member
      refine ⟨name, typ, finds (holds ?_) made rfl⟩
      simp only [List.mem_cons, List.not_mem_nil, or_false] at member
      rcases member with rfl | rfl | rfl <;> simp [ActionServer.entities]

/-- Between two operations of a bridge on a node: what the tables stand for has a handle of the
right kind under the right name; every handle is one of these, the clock's, a service of rosapi's or
one with a pending call of rosapi's; and every request that the tables keep can be answered. -/
theorem handles_accounted (reached : Reachable env access timeout m)
    (hosted : Hosted simulated serving m.log s) (uuids : (m.log.filterMap Entry.drawn?).Nodup)
    (connections : m.log.ConnectsOnce) :
    Matched m.bridge s.node.handles ∧
    (∀ entity h, s.node.handles.lookup entity = some h →
      entity ∈ m.bridge.held ∨ s.node.clockSubscription = some entity ∨
      (∃ op, s.api.operations.lookup entity = some op) ∨
      ∃ sequence p, s.api.pending.lookup (entity, sequence) = some p) ∧
    ∀ pair ∈ m.bridge.waiting, pair ∈ s.node.requests := by
  have home := hosted.home
  have fresh : Fresh m.log := ⟨home.distinct, uuids, connections⟩
  have balanced := ReachableBy.balanced reached fresh
  have disciplined := disciplined_of_balanced balanced fresh.entities
  obtain ⟨live, -, -⟩ := balanced.lifecycle fresh
  refine ⟨home.matched disciplined (Onward.vetted reached).sprung live, ?_, ?_⟩
  · intro entity h found
    by_cases created : entity ∈ m.log.created
    · rw [home.handles entity created] at found
      exact .inl ((live entity).mpr (disciplined.kept_live home.distinct found))
    · rcases home.others entity h created found with ⟨clock, -⟩ | served | ⟨-, name, typ, member⟩
      · exact .inr (.inl clock)
      · exact .inr (.inr (.inl served))
      · rcases home.sound.coherent.clients name typ entity member with gone | ⟨sequence, p, waits⟩
        · cases (home.clear.destroyed entity gone).2.symm.trans found
        · exact .inr (.inr (.inr ⟨sequence, p, waits⟩))
  · have accounted := Reachable.accounted reached ⟨fresh, hosted.asked disciplined⟩
    have same := accounted.conserved.pool.eq_foldl
    rw [add_zero] at same
    rw [same]
    exact home.opens

/-- The request is kept, and can be answered. -/
theorem handles_accounted_service : ∃ s, Hosted false false requested.log s ∧
    requested.bridge.waiting = {(1, 1)} ∧ Matched requested.bridge s.node.handles ∧
    ∀ pair ∈ requested.bridge.waiting, pair ∈ s.node.requests := by
  obtain ⟨typ, hosted⟩ := @serves_one requested.log false (by decide +kernel)
  obtain ⟨matched, -, opens⟩ := handles_accounted requested_reachable hosted (by decide +kernel)
    (by decide +kernel)
  exact ⟨_, hosted, by decide +kernel, matched, opens⟩

/-! ### Calls -/

/-- The handle that an entry is about is there, and of the right kind. -/
def Finds (n : Node) : Entry → Prop
  | .publish entity _ _ => ∃ name typ, n.handles.lookup entity = some ⟨.publisher, name, typ⟩
  | .request entity _ _ => ∃ name typ, n.handles.lookup entity = some ⟨.client, name, typ⟩
  | .respond entity _ _ _ => ∃ name typ, n.handles.lookup entity = some ⟨.service, name, typ⟩
  | .destroy entity => ∃ h, n.handles.lookup entity = some h
  | _ => True

/-- No call of the bridge misses its handle: whatever it publishes, requests, answers or destroys,
and however far a command gets, the node that the earlier calls lead to has the handle, and it is of
the right kind. -/
theorem calls_find_handles (reached : Reachable env access timeout m)
    (hosted : Hosted simulated serving m.log s) (uuids : (m.log.filterMap Entry.drawn?).Nodup)
    (connections : m.log.ConnectsOnce) (split : m.log = earlier ++ entry :: later)
    (starts : Starts simulated serving start) (run : Trail (Serves serving) earlier start before) :
    Finds before.node entry := by
  have home : Home serving earlier before := starts.home.trail run
  have fresh : Fresh m.log := ⟨hosted.home.distinct, uuids, connections⟩
  have balanced := ReachableBy.balanced reached fresh
  have disciplined : Disciplined earlier := by
    have whole := disciplined_of_balanced balanced fresh.entities
    rw [split] at whole
    exact whole.left
  have through := ((Onward.vetted reached).threads.at split).2
  rw [List.nil_append] at through
  cases entry with
  | publish entity message reply =>
      obtain ⟨name, typ, qos, member⟩ := through
      exact ⟨name, typ, home.found disciplined member rfl (balanced.used_live fresh split rfl).2⟩
  | request entity args reply =>
      obtain ⟨name, typ, member, -⟩ := through
      exact ⟨name, typ, home.found disciplined member rfl (balanced.used_live fresh split rfl).2⟩
  | respond entity id values reply =>
      obtain ⟨name, typ, member⟩ := through
      exact ⟨name, typ, home.found disciplined member rfl (balanced.used_live fresh split rfl).2⟩
  | destroy entity =>
      obtain ⟨created, lasts⟩ := destroyed_live balanced fresh.entities split
      obtain ⟨h, found⟩ := (disciplined.kept_iff home.distinct entity).mpr ⟨created, lasts⟩
      exact ⟨h, (home.handles entity created).trans found⟩
  | _ => trivial

/-- The answer finds the service. -/
theorem calls_find_handles_service : ∃ (earlier : History) (entry : Entry) (later : History)
    (before : Native),
    replied.log = earlier ++ entry :: later ∧ entry.used? = some 1 ∧ Finds before.node entry := by
  obtain ⟨typ, hosted⟩ := @serves_one replied.log true (by decide +kernel)
  have used : replied.log[17]?.bind Entry.used? = some 1 := by decide +kernel
  obtain ⟨entry, found, uses⟩ := Option.bind_eq_some_iff.mp used
  obtain ⟨inside, same⟩ := List.getElem?_eq_some_iff.mp found
  have split : replied.log = replied.log.take 17 ++ entry :: replied.log.drop 18 := by
    rw [← same, ← List.drop_eq_getElem_cons inside, List.take_append_drop]
  obtain ⟨start, starts, run⟩ := id hosted
  rw [split] at run
  obtain ⟨before, first, -⟩ := run.split
  exact ⟨_, entry, _, before, split, uses, calls_find_handles replied_reachable hosted
    (by decide +kernel) (by decide +kernel) split starts first⟩

end Rosbridge.Ros
