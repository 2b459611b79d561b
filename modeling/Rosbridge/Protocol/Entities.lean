import Mathlib.Tactic.Abel
import Rosbridge.Foundation.Ledger
import Rosbridge.Protocol.Shape

/-!
The entities of the backend over time.

Owns: what an entry means for the entities; `Fresh`, the promise that identifiers
handed out from outside are new; and that every move balances the entities it
creates and destroys against the tables.
-/

set_option autoImplicit false

namespace Rosbridge

open Foundation

/-! ### Identifiers in the history -/

namespace Entry

/-- What an entry does to an entity. -/
def act? : Entry → Option (Act Entity)
  | publisher _ _ _ (.ok entity) => some (.acquire entity)
  | subscription _ _ _ (.ok entity) => some (.acquire entity)
  | client _ _ (.ok entity) => some (.acquire entity)
  | service _ _ (.ok entity) => some (.acquire entity)
  | destroy entity => some (.release entity)
  | publish entity _ _ => some (.use entity)
  | request entity _ _ => some (.use entity)
  | respond entity _ _ _ => some (.use entity)
  | _ => none

/-- The goal identifier that was drawn. -/
def drawn? : Entry → Option Uuid
  | uuid fresh => some fresh
  | _ => none

/-- The connection that registered. -/
def connected? : Entry → Option Connection
  | connected connection => some connection
  | _ => none

theorem act?_acquired (entry : Entry) : entry.act?.bind Act.acquired? = entry.created? := by
  cases entry with
  | publisher name typ qos reply => cases reply <;> rfl
  | subscription name typ qos reply => cases reply <;> rfl
  | client name typ reply => cases reply <;> rfl
  | service name typ reply => cases reply <;> rfl
  | _ => rfl

theorem act?_released (entry : Entry) : entry.act?.bind Act.released? = entry.destroyed? := by
  cases entry with
  | publisher name typ qos reply => cases reply <;> rfl
  | subscription name typ qos reply => cases reply <;> rfl
  | client name typ reply => cases reply <;> rfl
  | service name typ reply => cases reply <;> rfl
  | _ => rfl

theorem act?_used {entry : Entry} {entity : Entity} (used : entry.used? = some entity) :
    entry.act? = some (.use entity) := by
  cases entry <;> cases used <;> rfl

theorem Inert.act? {entry : Entry} (inert : entry.Inert) : entry.act? = none := by
  cases entry <;> first | rfl | exact inert.elim

theorem Vain.act? {entry : Entry} (vain : entry.Vain) : entry.act? = none := by
  cases entry with
  | publisher name typ qos reply => cases reply <;> first | rfl | exact vain.elim
  | subscription name typ qos reply => cases reply <;> first | rfl | exact vain.elim
  | client name typ reply => cases reply <;> first | rfl | exact vain.elim
  | service name typ reply => cases reply <;> first | rfl | exact vain.elim
  | _ => exact vain.elim

end Entry

namespace History

variable (log : History)

/-- The entities created so far. -/
def created : List Entity := log.filterMap Entry.created?

/-- The entities destroyed so far. -/
def destroyed : List Entity := log.filterMap Entry.destroyed?

/-- The acts on entities. -/
def acts : List (Act Entity) := log.filterMap Entry.act?

theorem acts_acquired : log.acts.filterMap Act.acquired? = log.created := by
  unfold acts created
  rw [List.filterMap_filterMap]
  exact congrArg (fun pick => log.filterMap pick) (funext Entry.act?_acquired)

/-- No connection has registered twice. -/
def ConnectsOnce : Prop := (log.filterMap Entry.connected?).Nodup

instance : Decidable log.ConnectsOnce := inferInstanceAs (Decidable (List.Nodup _))

theorem acts_released : log.acts.filterMap Act.released? = log.destroyed := by
  unfold acts destroyed
  rw [List.filterMap_filterMap]
  exact congrArg (fun pick => log.filterMap pick) (funext Entry.act?_released)

end History

theorem History.ConnectsOnce.inherit {before after : History} (grown : before <+: after)
    (once : after.ConnectsOnce) : before.ConnectsOnce :=
  List.Nodup.sublist (grown.sublist.filterMap _) once

/-- Identifiers that come from outside are new: entities, goal identifiers and
connections. -/
structure Fresh (log : History) : Prop where
  entities : log.created.Nodup
  uuids : (log.filterMap Entry.drawn?).Nodup
  connections : log.ConnectsOnce

theorem Fresh.inherit {before after : History} (grown : before <+: after) (fresh : Fresh after) :
    Fresh before where
  entities := fresh.entities.sublist (grown.sublist.filterMap _)
  uuids := fresh.uuids.sublist (grown.sublist.filterMap _)
  connections := fresh.connections.inherit grown

theorem Fresh.drawn_once {log entries : History} {uuid : Uuid} (fresh : Fresh (log ++ entries))
    (before : .uuid uuid ∈ log) (added : .uuid uuid ∈ entries) : False := by
  have distinct := fresh.uuids
  rw [List.filterMap_append, List.nodup_append] at distinct
  exact distinct.2.2 uuid (List.mem_filterMap.mpr ⟨_, before, rfl⟩) uuid
    (List.mem_filterMap.mpr ⟨_, added, rfl⟩) rfl

theorem Fresh.created_once {log entries : History} {entity : Entity}
    (fresh : Fresh (log ++ entries)) (before : entity ∈ log.created)
    (added : entity ∈ History.created entries) : False := by
  have distinct := fresh.entities
  unfold History.created at distinct
  rw [List.filterMap_append, List.nodup_append] at distinct
  exact distinct.2.2 entity before entity added rfl

/-! ### The ledger -/

/-- The acts so far are on live entities, and leave the ones the tables stand for. -/
def Balanced (m : Machine) : Prop := Ledger 0 m.log.acts m.bridge.held

theorem Balanced.created {m : Machine} (balanced : Balanced m) {entity : Entity}
    (held : entity ∈ m.bridge.held) : entity ∈ m.log.created := by
  have balance := Ledger.balance balanced
  rw [zero_add, m.log.acts_acquired] at balance
  rw [← Multiset.mem_coe, balance]
  exact Multiset.mem_add.mpr (.inr held)

/-! ### What the tables hold -/

section Held

variable {b : Bridge}

theorem held_insert_publisher {topic : String} {publisher : Publisher}
    (absent : topic ∉ b.publishers) :
    { b with publishers := b.publishers.insert topic publisher }.held =
      publisher.entity ::ₘ b.held := by
  simp only [Bridge.held, AList.total_insert _ absent, ← Multiset.singleton_add]
  abel

theorem held_alter_publisher {topic : String} {change : Publisher → Publisher}
    (kept : ∀ publisher, (change publisher).entity = publisher.entity) :
    { b with publishers := b.publishers.alter topic change }.held = b.held := by
  unfold Bridge.held
  rw [AList.total_alter _ fun publisher _ => by rw [kept]]

theorem held_erase_publisher {topic : String} {publisher : Publisher}
    (found : b.publishers.lookup topic = some publisher) :
    b.held = publisher.entity ::ₘ { b with publishers := b.publishers.erase topic }.held := by
  simp only [Bridge.held, AList.total_erase _ found, ← Multiset.singleton_add]
  abel

theorem held_insert_subscription {topic : String} {subscription : Subscription}
    (absent : topic ∉ b.subscriptions) :
    { b with subscriptions := b.subscriptions.insert topic subscription }.held =
      subscription.entity ::ₘ b.held := by
  simp only [Bridge.held, AList.total_insert _ absent, ← Multiset.singleton_add]
  abel

theorem held_alter_subscription {topic : String} {change : Subscription → Subscription}
    (kept : ∀ subscription, (change subscription).entity = subscription.entity) :
    { b with subscriptions := b.subscriptions.alter topic change }.held = b.held := by
  unfold Bridge.held
  rw [AList.total_alter _ fun subscription _ => by rw [kept]]

theorem held_erase_subscription {topic : String} {subscription : Subscription}
    (found : b.subscriptions.lookup topic = some subscription) :
    b.held =
      subscription.entity ::ₘ { b with subscriptions := b.subscriptions.erase topic }.held := by
  simp only [Bridge.held, AList.total_erase _ found, ← Multiset.singleton_add]
  abel

theorem held_insert_service {name : String} {service : Service} (absent : name ∉ b.services) :
    { b with services := b.services.insert name service }.held = service.entity ::ₘ b.held := by
  simp only [Bridge.held, AList.total_insert _ absent, ← Multiset.singleton_add]
  abel

theorem held_alter_service {name : String} {change : Service → Service}
    (kept : ∀ service, (change service).entity = service.entity) :
    { b with services := b.services.alter name change }.held = b.held := by
  unfold Bridge.held
  rw [AList.total_alter _ fun service _ => by rw [kept]]

theorem held_erase_service {name : String} {service : Service}
    (found : b.services.lookup name = some service) :
    b.held = service.entity ::ₘ { b with services := b.services.erase name }.held := by
  simp only [Bridge.held, AList.total_erase _ found, ← Multiset.singleton_add]
  abel

theorem held_insert_call {key : Entity × Int} {call : Call} (absent : key ∉ b.calls) :
    { b with calls := b.calls.insert key call }.held = key.1 ::ₘ b.held := by
  simp only [Bridge.held, AList.total_insert _ absent, ← Multiset.singleton_add]
  abel

theorem held_erase_call {key : Entity × Int} {call : Call}
    (found : b.calls.lookup key = some call) :
    b.held = key.1 ::ₘ { b with calls := b.calls.erase key }.held := by
  simp only [Bridge.held, AList.total_erase _ found, ← Multiset.singleton_add]
  abel

theorem held_insert_goal {key : String} {goal : ClientGoal} (absent : key ∉ b.goals) :
    { b with goals := b.goals.insert key goal }.held =
      (goal.entities : Multiset Entity) + b.held := by
  simp only [Bridge.held, AList.total_insert _ absent]
  abel

theorem held_alter_goal {key : String} {change : ClientGoal → ClientGoal}
    (kept : ∀ goal, (change goal).entities = goal.entities) :
    { b with goals := b.goals.alter key change }.held = b.held := by
  unfold Bridge.held
  rw [AList.total_alter _ fun goal _ => by rw [kept]]

theorem held_erase_goal {key : String} {goal : ClientGoal}
    (found : b.goals.lookup key = some goal) :
    b.held = (goal.entities : Multiset Entity) + { b with goals := b.goals.erase key }.held := by
  simp only [Bridge.held, AList.total_erase _ found]
  abel

theorem held_insert_server {action : String} {server : ActionServer}
    (absent : action ∉ b.actionServers) :
    { b with actionServers := b.actionServers.insert action server }.held =
      (server.entities : Multiset Entity) + b.held := by
  simp only [Bridge.held, AList.total_insert _ absent]
  abel

theorem held_erase_server {action : String} {server : ActionServer}
    (found : b.actionServers.lookup action = some server) :
    b.held = (server.entities : Multiset Entity) +
      { b with actionServers := b.actionServers.erase action }.held := by
  simp only [Bridge.held, AList.total_erase _ found]
  abel

end Held

section Step

variable {env : Environment} {m : Machine}

/-- Every entity that the tables name is held. -/
theorem Shaped.held_of_names (shaped : Shaped m) {entity : Entity}
    (named : m.bridge.Names entity) : entity ∈ m.bridge.held := by
  cases named with
  | held member => exact member
  | external found =>
      obtain ⟨service, number, present, -, same, -⟩ := shaped.external _ _ found
      exact Bridge.mem_held.mpr (.inr (.inr (.inl ⟨_, service, present, same.symm⟩)))
  | @parked key goal request found member =>
      obtain ⟨server, serves, -, waiting⟩ := shaped.served key goal found
      refine Bridge.mem_held.mpr (.inr (.inr (.inr (.inr (.inr ⟨_, server, serves, ?_⟩)))))
      rw [← waiting request member]
      simp [ActionServer.entities]

theorem acts_of_inert {entries : List Entry} (inert : ∀ entry ∈ entries, entry.Inert) :
    History.acts entries = [] :=
  List.filterMap_eq_nil_iff.mpr fun entry member => (inert entry member).act?

/-- Entities that did not survive a failure. -/
theorem aborted_balances (creations : List Entry) (refusal : Option (Entity × Json × Error))
    (creates : ∀ entry ∈ creations, entry.Inert ∨ entry.Vain ∨ entry.created?.isSome)
    (refused : ∀ refused ∈ refusal, refused.1 ∈ creations.filterMap Entry.created?)
    (live : Multiset Entity) :
    Ledger live (History.acts (Move.aborted creations refusal).entries) live := by
  have acquired : creations.filterMap Entry.act? =
      (creations.filterMap Entry.created?).map .acquire := by
    clear refused
    induction creations with
    | nil => rfl
    | cons entry rest inductionHypothesis =>
        have others := inductionHypothesis fun other member =>
          creates other (List.mem_cons_of_mem _ member)
        rcases or_assoc.mpr (creates entry List.mem_cons_self) with idle | created
        · have silent := idle.elim Entry.Inert.act? Entry.Vain.act?
          have none : entry.created? = none := by
            rw [← entry.act?_acquired, silent]
            rfl
          rw [List.filterMap_cons_none silent, List.filterMap_cons_none none, others]
        · obtain ⟨entity, made⟩ := Option.isSome_iff_exists.mp created
          have acquire : entry.act? = some (.acquire entity) := by
            cases entry with
            | publisher name typ qos reply =>
                cases reply
                · cases made
                · cases made
                  rfl
            | subscription name typ qos reply =>
                cases reply
                · cases made
                · cases made
                  rfl
            | client name typ reply =>
                cases reply
                · cases made
                · cases made
                  rfl
            | service name typ reply =>
                cases reply
                · cases made
                · cases made
                  rfl
            | _ => cases made
          rw [List.filterMap_cons_some acquire, List.filterMap_cons_some made, others,
            List.map_cons]
  have used : (refusal.toList.map fun refused =>
      Entry.request refused.1 refused.2.1 (.error refused.2.2)).filterMap Entry.act? =
      (refusal.toList.map Prod.fst).map .use := by
    cases refusal <;> rfl
  have released : ((creations.filterMap Entry.created?).map Entry.destroy).filterMap Entry.act? =
      (creations.filterMap Entry.created?).map .release := by
    rw [List.filterMap_map, ← List.filterMap_eq_map]
    rfl
  unfold Move.entries History.acts
  rw [List.filterMap_append, List.filterMap_append, acquired, used, released]
  refine ((Ledger.acquires _ live).append (Ledger.uses _ ?_)).append (Ledger.releases _ live)
  intro entity member
  obtain ⟨pair, listed, rfl⟩ := List.mem_map.mp member
  exact Multiset.mem_add.mpr (.inl (Multiset.mem_coe.mpr
    (refused pair (Option.mem_toList.mp listed))))

theorem acts_destroy (entities : List Entity) :
    History.acts (entities.map .destroy) = entities.map .release := by
  unfold History.acts
  rw [List.filterMap_map, ← List.filterMap_eq_map]
  rfl

/-- A key that holds an entity made just now is new to its table. -/
theorem Balanced.call_absent {move : Move} (balanced : Balanced m)
    (fresh : Fresh (m.log ++ move.entries)) {key : Entity × Int}
    (added : key.1 ∈ History.created move.entries) : key ∉ m.bridge.calls := by
  intro present
  obtain ⟨call, found⟩ := (AList.mem_iff_lookup _ _).mp present
  exact fresh.created_once (balanced.created
    (Bridge.mem_held.mpr (.inr (.inr (.inr (.inl ⟨key, call, found, rfl⟩)))))) added

theorem Uuid.hex_injective {left right : Uuid}
    (same : String.ofList (left.bytes.flatMap hexByte) =
      String.ofList (right.bytes.flatMap hexByte)) : left = right := by
  have bytes := flatMap_hexByte_injective _ _ (String.ofList_injective same)
  cases left
  cases right
  cases bytes
  rfl

theorem Shaped.goal_absent {move : Move} (shaped : Shaped m)
    (fresh : Fresh (m.log ++ move.entries)) (drawn : Uuid)
    (added : .uuid drawn ∈ move.entries) :
    String.ofList (drawn.bytes.flatMap hexByte) ∉ m.bridge.goals := by
  intro present
  obtain ⟨goal, found⟩ := (AList.mem_iff_lookup _ _).mp present
  obtain ⟨other, before, same, -⟩ := shaped.drawn _ goal found
  exact fresh.drawn_once before (Uuid.hex_injective same ▸ added)

theorem Move.balances {move : Move} (shaped : Shaped m) (balanced : Balanced m)
    (fresh : Fresh (m.log ++ move.entries)) (enabled : move.Enabled env m) :
    Ledger m.bridge.held (History.acts move.entries) (move.effect m.bridge).held := by
  cases move
  case observed entries =>
    show Ledger m.bridge.held (History.acts entries) m.bridge.held
    rw [acts_of_inert enabled]
    exact .nil _
  case aborted creations refusal =>
    exact aborted_balances creations refusal enabled.1 enabled.2.1 _
  case used entry =>
    obtain ⟨entity, used, named⟩ := enabled.names
    have act : History.acts [entry] = [entity].map .use := by
      unfold History.acts
      rw [List.filterMap_cons_some (Entry.act?_used used)]
      rfl
    show Ledger m.bridge.held (History.acts [entry]) m.bridge.held
    rw [act]
    exact Ledger.uses _ (by simpa using shaped.held_of_names named)
  case probed readings =>
    refine Ledger.same rfl |> fun kept => (?_ : History.acts _ = []) ▸ kept
    refine List.filterMap_eq_nil_iff.mpr fun entry member => ?_
    obtain ⟨reading, -, rfl⟩ := List.mem_map.mp member
    rfl
  case advertised topic owner id entity typ qos => exact .gain (held_insert_publisher enabled.1)
  case registered topic owner id => exact .same (held_alter_publisher fun _ => rfl)
  case withdrawn topic owner id => exact .same (held_alter_publisher fun _ => rfl)
  case unadvertised topic owner id publisher => exact .lose (held_erase_publisher enabled.1)
  case subscribed topic owner id options entity typ qos =>
    refine .gain ((held_insert_subscription enabled.1).trans ?_)
    rw [Subscription.enroll_entity]
  case joined topic owner id options =>
    exact .same (held_alter_subscription (Subscription.enroll_entity owner id options))
  case sampled topic owner change => exact .same (held_alter_subscription fun _ => rfl)
  case retained topic sample => exact .same (held_alter_subscription fun _ => rfl)
  case parted topic owner id => exact .same (held_alter_subscription fun _ => rfl)
  case unsubscribed topic owner id subscription =>
    exact .lose (held_erase_subscription enabled.1)
  case called key call typ args reading =>
    have absent : key ∉ m.bridge.calls :=
      balanced.call_absent fresh (by simp [History.created, Move.entries, Entry.created?])
    have gained : { m.bridge with calls := m.bridge.calls.insert key call }.held =
        key.1 ::ₘ m.bridge.held := held_insert_call absent
    exact .acquire (.touch (Multiset.mem_cons_self _ _) gained)
  case replied key call values => exact .lose (held_erase_call enabled)
  case expired key call now => exact .lose (held_erase_call enabled.1)
  case abandoned key call => exact .lose (held_erase_call enabled.1)
  case serviceOpened name service => exact .gain (held_insert_service enabled.1)
  case serviceRemoved name service => exact .lose (held_erase_service enabled)
  case forwarded number request reading => exact .same (held_alter_service fun _ => rfl)
  case answered id request values =>
    exact .touch (shaped.held_of_names (.external enabled)) rfl
  case answerRefused id request values cause =>
    exact .touch (shaped.held_of_names (.external enabled)) rfl
  case goalOpened key goal drawn sequence typ args reading =>
    have absent := shaped.goal_absent fresh drawn (by simp [Move.entries])
    rw [← enabled.2.2.1] at absent
    have asked : Ledger ((goal.entities : Multiset Entity) + m.bridge.held) [.use goal.send]
        ((goal.entities : Multiset Entity) + m.bridge.held) :=
      .touch (by simp [ClientGoal.entities]) rfl
    have opened := (Ledger.acquires goal.entities m.bridge.held).append asked
    rw [← held_insert_goal absent] at opened
    exact opened
  case goalAccepted pending key goal sequence =>
    refine .touch (shaped.held_of_names (Bridge.names_goal enabled.2 ?_))
      (held_alter_goal fun _ => rfl)
    simp [ClientGoal.entities]
  case goalStranded pending key goal cause =>
    refine .touch (shaped.held_of_names (Bridge.names_goal enabled.2.1 ?_))
      (held_alter_goal fun _ => rfl)
    simp [ClientGoal.entities]
  case cancelSent key goal sequence =>
    refine .touch (shaped.held_of_names (Bridge.names_goal enabled.1 ?_))
      (held_alter_goal fun _ => rfl)
    simp [ClientGoal.entities]
  case cancelRejected pending key goal => exact .same (held_alter_goal fun _ => rfl)
  case goalFinished key goal values status success =>
    have finished := Ledger.releases goal.entities { m.bridge with goals := m.bridge.goals.erase key }.held
    rw [← held_erase_goal enabled, ← acts_destroy] at finished
    exact finished
  case actionOpened action server =>
    have opened := Ledger.acquires server.entities m.bridge.held
    rw [← held_insert_server enabled.1] at opened
    exact opened
  case actionRemoved action server closed replies =>
    obtain ⟨found, -, listed, same⟩ := enabled
    have waiting : ∀ entity ∈ replies.map fun reply => reply.1, entity ∈ m.bridge.held := by
      intro entity member
      obtain ⟨reply, replied, rfl⟩ := List.mem_map.mp member
      have pair : (reply.1, reply.2.1) ∈ replies.map fun reply => (reply.1, reply.2.1) :=
        List.mem_map.mpr ⟨reply, replied, rfl⟩
      rw [same] at pair
      obtain ⟨⟨key, goal⟩, isClosed, parked⟩ := List.mem_flatMap.mp pair
      exact shaped.held_of_names (.parked ((listed key goal).mp isClosed).1 parked)
    have answered : (replies.map fun reply =>
        Entry.respond reply.1 reply.2.1 (resultReply 6 (.obj [])) reply.2.2).filterMap
          Entry.act? = (replies.map fun reply => reply.1).map .use := by
      rw [List.filterMap_map, List.map_map, ← List.filterMap_eq_map]
      rfl
    have removed := Ledger.releases server.entities
      { m.bridge with actionServers := m.bridge.actionServers.erase action }.held
    rw [← held_erase_server found, ← acts_destroy] at removed
    have ledger := (Ledger.uses _ waiting).append removed
    rw [← answered] at ledger
    unfold Move.entries History.acts
    rw [List.filterMap_append]
    exact ledger
  case requestAnswered entity request values =>
    obtain ⟨action, server, found, member⟩ := enabled
    refine .touch (shaped.held_of_names (Bridge.names_server found ?_)) rfl
    simp only [List.mem_cons, List.not_mem_nil, or_false] at member
    rcases member with rfl | rfl | rfl <;> simp [ActionServer.entities]
  case resultRepeated key goal stored entity request =>
    obtain ⟨-, -, action, server, found, same⟩ := enabled
    refine .touch (shaped.held_of_names (Bridge.names_server found ?_)) rfl
    simp [ActionServer.entities, same]
  case goalAdmitted key goal entity request =>
    obtain ⟨-, -, -, -, -, server, found, -, same⟩ := enabled
    refine .touch (shaped.held_of_names (Bridge.names_server found ?_)) rfl
    simp [ActionServer.entities, same]
  case parkedAnswered key goal request values =>
    exact .touch (shaped.held_of_names (.parked enabled.1 (List.mem_of_getLast? enabled.2))) rfl
  case parkedRefused key goal request values cause =>
    exact .touch (shaped.held_of_names (.parked enabled.1 (List.mem_of_getLast? enabled.2))) rfl
  all_goals exact .nil _

end Step

/-! ### Runs -/

section Runs

variable {env : Environment} {move : Move} {before after : Machine}

/-- Handing a message over does nothing to an entity. -/
theorem Sent.acts {message : Option Message} (sent : Sent message before after) :
    after.log.acts = before.log.acts := by
  cases sent with
  | silent => rfl
  | muted _ => exact List.filterMap_append.trans (List.append_nil _)
  | unrouted _ => exact List.filterMap_append.trans (List.append_nil _)
  | queued _ _ _ _ _ =>
      exact (List.filterMap_append.trans (List.append_nil _)).trans
        (List.filterMap_append.trans (List.append_nil _))
  | rejected _ _ _ _ _ _ =>
      exact (List.filterMap_append.trans (List.append_nil _)).trans
        (List.filterMap_append.trans (List.append_nil _))

theorem Sent.balanced {message : Option Message} (sent : Sent message before after)
    (balanced : Balanced before) : Balanced after := by
  obtain ⟨next, failed, tables⟩ := sent.tables
  unfold Balanced
  rw [sent.acts, tables]
  exact balanced

theorem Transition.balanced (taken : Transition env move before after) (shaped : Shaped before)
    (fresh : Fresh after.log) (balanced : Balanced before) : Balanced after := by
  obtain ⟨middle, sent, enabled, rfl⟩ := taken
  have balanced' := sent.balanced balanced
  have step := Move.balances (sent.shaped shaped) balanced' fresh enabled
  unfold Balanced History.acts
  rw [List.filterMap_append]
  exact Ledger.append balanced' step

theorem balanced_new (access : Access) (timeout : Duration) :
    Balanced (Machine.new access timeout) := .nil 0

end Runs

end Rosbridge
