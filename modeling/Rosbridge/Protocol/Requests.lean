import Rosbridge.Foundation.Pool
import Rosbridge.Protocol.Entities

/-!
Native requests over time.

Owns: what an entry means for the requests that wait for an answer; `Asked`, the
promise that requests arrive once and on live services; and that every move answers
or drops the requests that it takes out of the tables.
-/

set_option autoImplicit false

namespace Rosbridge

open Foundation

/-! ### Requests in the history -/

/-- The native request that an event brings. -/
def Event.asked? : Event → Option (Entity × Nat)
  | .request entity number _ => some (entity, number)
  | _ => none

namespace Entry

/-- The native requests that a poll brings. -/
def asked : Entry → List (Entity × Nat)
  | poll (.ok events) => events.filterMap Event.asked?
  | _ => []

/-- The entity of a new service. -/
def service? : Entry → Option Entity
  | service _ _ (.ok entity) => some entity
  | _ => none

/-- What an entry does to the requests that are neither answered nor dropped. -/
def change? : Entry → Option (Change (Entity × Nat))
  | poll (.ok events) => some (.issue (events.filterMap Event.asked?))
  | respond entity number _ (.ok _) => some (.redeem (entity, number))
  | discardRequest entity number => some (.withdraw fun pair => pair = (entity, number))
  | destroy entity => some (.withdraw fun pair => pair.1 = entity)
  | _ => none

end Entry

namespace History

variable (log : History)

def changes : List (Change (Entity × Nat)) := log.filterMap Entry.change?

/-- The requests that arrived, in order. -/
def arrived : List (Entity × Nat) := log.changes.flatMap Change.issued

/-- The requests that were answered successfully, in order. -/
def answered : List (Entity × Nat) := log.changes.filterMap Change.redeemed?

/-- The requests that are neither answered, discarded nor gone with their service. -/
def outstanding : Multiset (Entity × Nat) := log.changes.foldl Change.after 0

/-- The service entities created so far. -/
def services : List Entity := log.filterMap Entry.service?

end History

/-- Every native request arrives once, on a service that was created and not destroyed. -/
structure Asked (log : History) : Prop where
  once : log.arrived.Nodup
  live : ∀ index : Fin log.length, ∀ pair ∈ (log.get index).asked,
    pair.1 ∈ History.services (log.take index) ∧ pair.1 ∉ History.destroyed (log.take index)

theorem Asked.inherit {before after : History} (grown : before <+: after) (asked : Asked after) :
    Asked before := by
  obtain ⟨rest, rfl⟩ := grown
  constructor
  · have once := asked.once
    unfold History.arrived History.changes at once
    rw [List.filterMap_append, List.flatMap_append] at once
    exact once.sublist (List.sublist_append_left _ _)
  · intro index pair member
    have within : index.1 < (before ++ rest).length := by
      rw [List.length_append]
      omega
    have same : (before ++ rest).get ⟨index, within⟩ = before.get index :=
      List.getElem_append_left index.2
    have found := asked.live ⟨index, within⟩ pair (by rw [same]; exact member)
    rwa [List.take_append_of_le_length index.2.le] at found

theorem Asked.last {log : History} {entry : Entry} (asked : Asked (log ++ [entry]))
    {pair : Entity × Nat} (member : pair ∈ entry.asked) :
    pair.1 ∈ log.services ∧ pair.1 ∉ log.destroyed := by
  have within : log.length < (log ++ [entry]).length := by
    rw [List.length_append, List.length_singleton]
    omega
  have here : (log ++ [entry]).get ⟨log.length, within⟩ = entry := List.getElem_concat_length rfl _
  have found := asked.live ⟨log.length, within⟩ pair (by rw [here]; exact member)
  rwa [List.take_left] at found

/-! ### Requests in the tables -/

/-- The native requests that the tables keep. -/
def Bridge.waiting (b : Bridge) : Multiset (Entity × Nat) :=
  b.external.total (fun _ request => {(request.entity, request.request)}) +
    b.serverGoals.total (fun _ goal => (goal.requests : Multiset (Entity × Nat)))

/-- A service or an action server of some client listens on the entity. -/
def Bridge.Offers (b : Bridge) (entity : Entity) : Prop :=
  (∃ action server, b.actionServers.lookup action = some server ∧
    entity ∈ [server.send, server.cancel, server.result]) ∨
  ∃ name service, b.services.lookup name = some service ∧ service.entity = entity

section Tables

variable {env : Environment} {move : Move} {m : Machine} {entity : Entity}

theorem Bridge.mem_waiting {b : Bridge} {pair : Entity × Nat} : pair ∈ b.waiting ↔
    (∃ id request, b.external.lookup id = some request ∧
      pair = (request.entity, request.request)) ∨
    ∃ key goal, b.serverGoals.lookup key = some goal ∧ pair ∈ goal.requests := by
  simp only [Bridge.waiting, Multiset.mem_add, AList.mem_total, Multiset.mem_singleton,
    Multiset.mem_coe]

theorem Bridge.Offers.held {b : Bridge} (offers : b.Offers entity) : entity ∈ b.held := by
  rcases offers with ⟨action, server, found, member⟩ | ⟨name, service, found, rfl⟩
  · refine Bridge.mem_held.mpr (.inr (.inr (.inr (.inr (.inr ⟨action, server, found, ?_⟩)))))
    simp only [List.mem_cons, List.not_mem_nil, or_false] at member
    rcases member with rfl | rfl | rfl <;> simp [ActionServer.entities]
  · exact Bridge.mem_held.mpr (.inr (.inr (.inl ⟨name, service, found, rfl⟩)))

theorem Shaped.offers_of_waiting (shaped : Shaped m) {pair : Entity × Nat}
    (member : pair ∈ m.bridge.waiting) : m.bridge.Offers pair.1 := by
  rcases Bridge.mem_waiting.mp member with ⟨id, request, found, rfl⟩ | ⟨key, goal, found, parked⟩
  · obtain ⟨service, number, present, -, same, -⟩ := shaped.external id request found
    exact .inr ⟨_, service, present, same⟩
  · obtain ⟨server, serves, -, result⟩ := shaped.served key goal found
    exact .inl ⟨_, server, serves, by simp [result pair parked]⟩

/-- Moves that stop no service. -/
def Move.Lasting : Move → Prop
  | .serviceRemoved _ _ | .actionRemoved _ _ _ _ => False
  | _ => True

theorem Move.Lasting.keeps_offers (lasting : move.Lasting) (enabled : move.Enabled env m)
    (offers : m.bridge.Offers entity) : (move.effect m.bridge).Offers entity := by
  cases move
  case serviceRemoved | actionRemoved => exact lasting.elim
  case serviceOpened name service =>
    refine offers.imp id ?_
    rintro ⟨other, current, found, same⟩
    have apart : other ≠ name := by
      rintro rfl
      exact enabled.1 ((AList.mem_iff_lookup _ _).mpr ⟨current, found⟩)
    exact ⟨other, current, (AList.lookup_insert_ne apart).trans found, same⟩
  case forwarded number request reading =>
    refine offers.imp id ?_
    rintro ⟨name, service, found, same⟩
    by_cases here : name = request.service
    · refine ⟨name, { service with nextRequest := service.nextRequest + 1 }, ?_, same⟩
      rw [Move.effect, AList.lookup_alter, if_pos here, ← here, found]
      rfl
    · exact ⟨name, service, by rw [Move.effect, AList.lookup_alter, if_neg here, found], same⟩
  case actionOpened action server =>
    refine offers.imp ?_ id
    rintro ⟨other, current, found, member⟩
    have apart : other ≠ action := by
      rintro rfl
      exact enabled.1 ((AList.mem_iff_lookup _ _).mpr ⟨current, found⟩)
    exact ⟨other, current, (AList.lookup_insert_ne apart).trans found, member⟩
  all_goals exact offers

/-- A service stops only when its entity is destroyed. -/
theorem Move.keeps_offers (enabled : move.Enabled env m) (offers : m.bridge.Offers entity) :
    (move.effect m.bridge).Offers entity ∨ entity ∈ History.destroyed move.entries := by
  cases move
  case serviceRemoved name service =>
    rcases offers with server | ⟨other, current, found, same⟩
    · exact .inl (.inl server)
    · by_cases here : other = name
      · subst here
        cases enabled.symm.trans found
        exact .inr (by simp [History.destroyed, Move.entries, Entry.destroyed?, same])
      · exact .inl (.inr ⟨other, current, (AList.lookup_erase_ne here).trans found, same⟩)
  case actionRemoved action server closed replies =>
    rcases offers with ⟨other, current, found, member⟩ | service
    · by_cases here : other = action
      · subst here
        cases enabled.1.symm.trans found
        refine .inr (List.mem_filterMap.mpr ⟨.destroy entity, ?_, rfl⟩)
        refine List.mem_append_right _ (List.mem_map.mpr ⟨entity, ?_, rfl⟩)
        simp only [List.mem_cons, List.not_mem_nil, or_false] at member
        rcases member with rfl | rfl | rfl <;> simp [ActionServer.entities]
      · exact .inl (.inl ⟨other, current, (AList.lookup_erase_ne here).trans found, member⟩)
    · exact .inl (.inr service)
  all_goals exact .inl (Move.Lasting.keeps_offers trivial enabled offers)

/-- A new service is on offer, unless its construction failed later. -/
theorem Move.offers_created (enabled : move.Enabled env m)
    (created : entity ∈ History.services move.entries) :
    (move.effect m.bridge).Offers entity ∨ entity ∈ History.destroyed move.entries := by
  obtain ⟨entry, listed, isService⟩ := List.mem_filterMap.mp created
  have made : entry.created? = some entity := by
    cases entry with
    | service name typ reply =>
        cases reply
        · cases isService
        · exact isService
    | _ => cases isService
  cases move
  case observed entries =>
    have inert := enabled entry listed
    cases entry with
    | service name typ reply => exact inert.elim
    | _ => cases isService
  case aborted creations refusal =>
    rcases List.mem_append.mp listed with before | gone
    · rcases List.mem_append.mp before with inside | refused
      · refine .inr (List.mem_filterMap.mpr ⟨.destroy entity, ?_, rfl⟩)
        exact List.mem_append_right _ (List.mem_map.mpr
          ⟨entity, List.mem_filterMap.mpr ⟨entry, inside, made⟩, rfl⟩)
      · obtain ⟨pair, -, rfl⟩ := List.mem_map.mp refused
        cases isService
    · obtain ⟨other, -, rfl⟩ := List.mem_map.mp gone
      cases isService
  case used used =>
    obtain rfl := List.mem_singleton.mp listed
    cases entry with
    | service name typ reply => exact enabled.idle.elim
    | _ => cases isService
  case serviceOpened name service =>
    obtain rfl := List.mem_singleton.mp listed
    cases isService
    exact .inl (.inr ⟨name, service, AList.lookup_insert _, rfl⟩)
  case actionOpened action server =>
    refine .inl (.inl ⟨action, server, AList.lookup_insert _, ?_⟩)
    simp only [Move.entries, List.mem_cons, List.not_mem_nil, or_false] at listed
    rcases listed with rfl | rfl | rfl | rfl | rfl <;> cases isService <;> simp
  case goalFinished key goal values status success =>
    obtain ⟨other, -, rfl⟩ := List.mem_map.mp listed
    cases isService
  case actionRemoved action server closed replies =>
    rcases List.mem_append.mp listed with answered | gone
    · obtain ⟨reply, -, rfl⟩ := List.mem_map.mp answered
      cases isService
    · obtain ⟨other, -, rfl⟩ := List.mem_map.mp gone
      cases isService
  case probed readings =>
    obtain ⟨reading, -, rfl⟩ := List.mem_map.mp listed
    cases isService
  all_goals try exact (List.not_mem_nil listed).elim
  all_goals
    simp only [Move.entries, List.mem_cons, List.not_mem_nil, or_false] at listed
    rcases listed with rfl | rfl | rfl | rfl | rfl | rfl | rfl | rfl <;> cases isService

end Tables

/-! ### One move -/

section Step

variable {env : Environment} {move : Move} {m : Machine} {pending : Multiset (Entity × Nat)}

theorem changes_destroy (entities : List Entity) :
    History.changes (entities.map .destroy) =
      (entities.map fun entity (pair : Entity × Nat) => decide (pair.1 = entity)).map .withdraw := by
  unfold History.changes
  rw [List.filterMap_map, List.map_map, ← List.filterMap_eq_map]
  rfl

theorem Entry.Inert.change? {entry : Entry} (inert : entry.Inert) : entry.change? = none := by
  cases entry with
  | poll reply => cases reply <;> first | rfl | exact inert.elim
  | _ => first | rfl | exact inert.elim

/-- The entities that are destroyed take their requests with them. -/
theorem drops {dropped live : Multiset (Entity × Nat)} (entities : List Entity)
    (gone : ∀ pair ∈ dropped, pair.1 ∈ entities) (kept : ∀ pair ∈ live, pair.1 ∉ entities) :
    Pool (dropped + live) (History.changes (entities.map .destroy)) live := by
  rw [changes_destroy]
  refine Pool.withdraws _ dropped live (fun pair member => ?_) fun pair member about listed => ?_
  · exact ⟨_, List.mem_map_of_mem (gone pair member), decide_eq_true rfl⟩
  · obtain ⟨entity, isGone, rfl⟩ := List.mem_map.mp listed
    exact decide_eq_false fun same => kept pair member (same ▸ isGone)

theorem drops_none {live final : Multiset (Entity × Nat)} (entities : List Entity)
    (same : final = live) (kept : ∀ pair ∈ live, pair.1 ∉ entities) :
    Pool live (History.changes (entities.map .destroy)) final := by
  subst same
  have empty := drops entities (show ∀ pair ∈ (0 : Multiset (Entity × Nat)), pair.1 ∈ entities by simp) kept
  rwa [zero_add] at empty

theorem waiting_alter_goal {b : Bridge} {key : String} {change : ServerGoal → ServerGoal}
    (kept : ∀ goal, (change goal).requests = goal.requests) :
    { b with serverGoals := b.serverGoals.alter key change }.waiting = b.waiting := by
  unfold Bridge.waiting
  rw [AList.total_alter _ fun goal _ => by rw [kept]]

theorem waiting_erase_external {b : Bridge} {id : String} {request : ExternalRequest}
    (found : b.external.lookup id = some request) :
    b.waiting = (request.entity, request.request) ::ₘ
      { b with external := b.external.erase id }.waiting := by
  simp only [Bridge.waiting, AList.total_erase _ found, ← Multiset.singleton_add]
  abel

theorem waiting_retain_external (b : Bridge) (keep : String → ExternalRequest → Bool) :
    b.waiting =
      (b.external.retain fun id request => !keep id request).total
          (fun _ request => {(request.entity, request.request)}) +
        { b with external := b.external.retain keep }.waiting := by
  simp only [Bridge.waiting, AList.total_retain _ keep b.external]
  abel

/-- The requests that a goal gains or loses. -/
theorem waiting_change_goal {b : Bridge} {key : String} {goal : ServerGoal}
    (change : ServerGoal → ServerGoal) (found : b.serverGoals.lookup key = some goal) :
    ∃ others, b.waiting = (goal.requests : Multiset (Entity × Nat)) + others ∧
      { b with serverGoals := b.serverGoals.alter key change }.waiting =
        ((change goal).requests : Multiset (Entity × Nat)) + others := by
  refine ⟨b.external.total (fun _ request => {(request.entity, request.request)}) +
    (b.serverGoals.erase key).total (fun _ goal => (goal.requests : Multiset (Entity × Nat))), ?_, ?_⟩
  · simp only [Bridge.waiting, AList.total_erase _ found]
    abel
  · simp only [Bridge.waiting, AList.total_alter_some _ found]
    abel

/-- A request that is forwarded is new to the table. -/
theorem Shaped.external_absent (shaped : Shaped m) {number : Nat} {request : ExternalRequest}
    {reading : Instant} (enabled : (Move.forwarded number request reading).Enabled env m) :
    externalId request.service number ∉ m.bridge.external := by
  intro present
  obtain ⟨waiting, found⟩ := (AList.mem_iff_lookup _ _).mp present
  obtain ⟨service, other, known, -, -, same, within⟩ := shaped.external _ waiting found
  obtain ⟨current, known', -, -, counted⟩ := enabled
  obtain ⟨services, numbers⟩ := externalId_injective same
  rw [← services, known'] at known
  cases known
  omega

/-- The request that a reply answered. -/
def replied? : Entity × Nat × Except Error Unit → Option (Entity × Nat)
  | (entity, number, .ok _) => some (entity, number)
  | _ => none

/-- The request that a reply did not reach. -/
def unreplied? : Entity × Nat × Except Error Unit → Option (Entity × Nat)
  | (entity, number, .error _) => some (entity, number)
  | _ => none

theorem replies_split (replies : List (Entity × Nat × Except Error Unit)) :
    (replies.map fun reply => (reply.1, reply.2.1) : Multiset (Entity × Nat)) =
      (replies.filterMap replied? : Multiset (Entity × Nat)) +
        (replies.filterMap unreplied? : Multiset (Entity × Nat)) := by
  induction replies with
  | nil => rfl
  | cons reply rest inductionHypothesis =>
      rw [List.map_cons, ← Multiset.cons_coe, inductionHypothesis]
      obtain ⟨entity, number, cause | value⟩ := reply
      · have lost : unreplied? (entity, number, .error cause) = some (entity, number) := rfl
        rw [List.filterMap_cons_some lost, ← Multiset.cons_coe, Multiset.add_cons]
        rfl
      · have answered : replied? (entity, number, .ok value) = some (entity, number) := rfl
        rw [List.filterMap_cons_some answered, ← Multiset.cons_coe, Multiset.cons_add]
        rfl

theorem sum_map_coe {ι β : Type} (items : List ι) (parts : ι → List β) :
    (items.map fun item => (parts item : Multiset β)).sum = (items.flatMap parts : Multiset β) := by
  induction items with
  | nil => rfl
  | cons item rest inductionHypothesis =>
      rw [List.map_cons, List.sum_cons, inductionHypothesis, List.flatMap_cons, Multiset.coe_add]

/-- An action server answers or drops the requests of its goals when it goes. -/
theorem removal_conserves (shaped : Shaped m) {action : String} {server : ActionServer}
    {closed : List (String × ServerGoal)} {replies : List (Entity × Nat × Except Error Unit)}
    (enabled : (Move.actionRemoved action server closed replies).Enabled env m)
    (apart : ∀ pair ∈ ((Move.actionRemoved action server closed replies).effect m.bridge).waiting +
      pending, pair.1 ∉ History.destroyed (Move.actionRemoved action server closed replies).entries) :
    Pool (m.bridge.waiting + pending)
      (History.changes (Move.actionRemoved action server closed replies).entries)
      (((Move.actionRemoved action server closed replies).effect m.bridge).waiting + pending) := by
  obtain ⟨serves, distinct, listed, same⟩ := enabled
  have parted : m.bridge.waiting = (replies.filterMap replied? : Multiset (Entity × Nat)) +
      ((replies.filterMap unreplied? : Multiset (Entity × Nat)) +
        ((Move.actionRemoved action server closed replies).effect m.bridge).waiting) := by
    have goals := AList.total_eraseAll
      (fun _ (goal : ServerGoal) => (goal.requests : Multiset (Entity × Nat))) closed distinct
      fun entry member => ((listed entry.1 entry.2).mp member).1
    rw [sum_map_coe closed fun entry => entry.2.requests, ← same, replies_split] at goals
    simp only [Bridge.waiting, Move.effect, goals]
    abel
  have answers : History.changes (Move.actionRemoved action server closed replies).entries =
      (replies.filterMap replied?).map .redeem ++
        History.changes (server.entities.map .destroy) := by
    show List.filterMap _ (_ ++ _) = _
    rw [List.filterMap_append, List.filterMap_map, List.map_filterMap]
    refine congrArg (· ++ _) (congrArg (List.filterMap · replies) (funext fun reply => ?_))
    obtain ⟨entity, number, cause | value⟩ := reply <;> rfl
  rw [parted, answers, add_assoc, add_assoc]
  refine (Pool.redeems _ _).append (drops server.entities (fun pair member => ?_)
    fun pair member gone => apart pair member ?_)
  · obtain ⟨reply, listedReply, unreplied⟩ := List.mem_filterMap.mp (Multiset.mem_coe.mp member)
    have isPair : pair = (reply.1, reply.2.1) := by
      obtain ⟨entity, number, cause | value⟩ := reply <;> cases unreplied
      rfl
    have parked : pair ∈ replies.map fun reply => (reply.1, reply.2.1) :=
      List.mem_map.mpr ⟨reply, listedReply, isPair.symm⟩
    rw [same] at parked
    obtain ⟨⟨key, goal⟩, isClosed, waits⟩ := List.mem_flatMap.mp parked
    obtain ⟨found, here⟩ := (listed key goal).mp isClosed
    obtain ⟨current, serves', -, result⟩ := shaped.served key goal found
    rw [here, serves] at serves'
    cases serves'
    simp [ActionServer.entities, result pair waits]
  · exact List.mem_filterMap.mpr
      ⟨.destroy pair.1, List.mem_append_right _ (List.mem_map_of_mem gone), rfl⟩

/-- Moves that no poll brings and that discard no request in the middle of its handler. -/
def Move.Keeping : Move → Prop
  | .polled _ | .discarded _ _ => False
  | _ => True

/-- A move answers or drops the requests it takes out of the tables, and puts the one it
settles in a table or answers it. -/
theorem Move.conserves (shaped : Shaped m) (enabled : move.Enabled env m)
    (keeping : move.Keeping)
    (distinct : (m.bridge.waiting + ((move.settles.toList : Multiset _) + pending)).Nodup)
    (apart : ∀ pair ∈ (move.effect m.bridge).waiting + pending,
      pair.1 ∉ History.destroyed move.entries) :
    Pool (m.bridge.waiting + ((move.settles.toList : Multiset _) + pending))
      (History.changes move.entries) ((move.effect m.bridge).waiting + pending) := by
  have unsettled (none : move.settles = none) :
      m.bridge.waiting + ((move.settles.toList : Multiset _) + pending) =
        m.bridge.waiting + pending := by
    rw [none, Option.toList_none, Multiset.coe_nil, zero_add]
  have settled {pair : Entity × Nat} (some : move.settles = some pair) :
      m.bridge.waiting + ((move.settles.toList : Multiset _) + pending) =
        pair ::ₘ (m.bridge.waiting + pending) := by
    rw [some, Option.toList_some, Multiset.coe_singleton, Multiset.singleton_add,
      Multiset.add_cons]
  cases move
  case polled | discarded => exact keeping.elim
  case observed entries =>
    rw [unsettled rfl]
    have silent : History.changes entries = [] :=
      List.filterMap_eq_nil_iff.mpr fun entry member => (enabled entry member).change?
    exact silent ▸ Pool.same rfl
  case probed readings =>
    rw [unsettled rfl]
    have silent : History.changes (Move.probed readings).entries = [] := by
      refine List.filterMap_eq_nil_iff.mpr fun entry member => ?_
      obtain ⟨reading, -, rfl⟩ := List.mem_map.mp member
      rfl
    exact silent ▸ Pool.same rfl
  case used entry =>
    rw [unsettled rfl]
    have silent : History.changes [entry] = [] := by
      refine List.filterMap_eq_nil_iff.mpr fun other member => ?_
      obtain rfl := List.mem_singleton.mp member
      have idle := enabled.idle
      cases other with
      | respond entity number values reply => cases reply <;> first | rfl | exact idle.elim
      | _ => first | rfl | exact idle.elim
    exact silent ▸ Pool.same rfl
  case unadvertised topic owner id publisher =>
    rw [unsettled rfl]
    exact drops_none [publisher.entity] rfl apart
  case unsubscribed topic owner id subscription =>
    rw [unsettled rfl]
    exact drops_none [subscription.entity] rfl apart
  case replied key call values =>
    rw [unsettled rfl]
    exact drops_none [key.1] rfl apart
  case expired key call now =>
    rw [unsettled rfl]
    exact drops_none [key.1] rfl apart
  case abandoned key call =>
    rw [unsettled rfl]
    exact drops_none [key.1] rfl apart
  case aborted creations refusal =>
    rw [unsettled rfl]
    have silent : History.changes (creations ++ refusal.toList.map fun refused =>
        .request refused.1 refused.2.1 (.error refused.2.2)) = [] := by
      refine List.filterMap_eq_nil_iff.mpr fun entry member => ?_
      rcases List.mem_append.mp member with made | refused
      · rcases enabled.1 entry made with inert | vain | created
        · exact inert.change?
        · cases entry <;> first | rfl | exact vain.elim
        · cases entry <;> first | rfl | cases created
      · obtain ⟨pair, -, rfl⟩ := List.mem_map.mp refused
        rfl
    have split : History.changes (Move.aborted creations refusal).entries =
        History.changes ((creations.filterMap Entry.created?).map .destroy) := by
      show List.filterMap _ (_ ++ _) = _
      rw [List.filterMap_append]
      exact congrArg (· ++ _) silent
    rw [split]
    refine drops_none _ rfl fun pair member gone => apart pair member ?_
    exact List.mem_filterMap.mpr
      ⟨.destroy pair.1, List.mem_append_right _ (List.mem_map_of_mem gone), rfl⟩
  case goalFinished key goal values status success =>
    rw [unsettled rfl]
    refine drops_none goal.entities rfl fun pair member gone => apart pair member ?_
    exact List.mem_filterMap.mpr ⟨.destroy pair.1, List.mem_map_of_mem gone, rfl⟩
  case serviceRemoved name service =>
    rw [unsettled rfl, waiting_retain_external, add_assoc]
    refine drops [service.entity] (fun pair member => ?_) apart
    obtain ⟨id, request, found, here⟩ := (AList.mem_total _).mp member
    rw [AList.lookup_retain, Option.filter_eq_some_iff] at found
    obtain rfl := Multiset.mem_singleton.mp here
    simpa using found.2
  case forwarded number request reading =>
    rw [settled rfl]
    refine Pool.same ?_
    simp only [Move.effect, Bridge.waiting, AList.total_insert _ (shaped.external_absent enabled),
      ← Multiset.singleton_add]
    abel
  case answered id request values =>
    rw [unsettled rfl, waiting_erase_external enabled, Multiset.cons_add]
    exact .redeem (.nil _)
  case requestExpired id request =>
    rw [unsettled rfl] at distinct ⊢
    rw [waiting_erase_external enabled, Multiset.cons_add] at distinct ⊢
    obtain ⟨absent, -⟩ := Multiset.nodup_cons.mp distinct
    rw [← Multiset.singleton_add]
    refine Pool.withdraws [fun pair => decide (pair = (request.entity, request.request))] _ _
      (by simp) fun pair member about listed => ?_
    obtain rfl := List.mem_singleton.mp listed
    exact decide_eq_false fun same => absent (same ▸ member)
  case requestsDropped owner =>
    rw [unsettled rfl]
    refine Pool.same (congrArg (· + pending) ?_)
    rw [waiting_retain_external m.bridge fun _ request => request.owner ≠ owner]
    refine right_eq_add.mpr (Multiset.eq_zero_of_forall_notMem fun pair member => ?_)
    obtain ⟨id, request, found, -⟩ := (AList.mem_total _).mp member
    rw [AList.lookup_retain, Option.filter_eq_some_iff] at found
    obtain ⟨service, number, present, own, -⟩ := shaped.external id request found.1
    exact enabled _ service present (own.trans (by simpa using found.2))
  case actionRemoved action server closed replies =>
    rw [unsettled rfl]
    exact removal_conserves shaped enabled apart
  case requestAnswered entity request values =>
    rw [settled rfl]
    exact .redeem (.nil _)
  case resultRepeated key goal stored entity request =>
    rw [settled rfl]
    exact .redeem (.nil _)
  case goalAdmitted key goal entity request =>
    rw [settled rfl]
    refine .redeem (Pool.same ?_)
    simp only [Move.effect, Bridge.waiting, AList.total_insert _ enabled.1, enabled.2.1,
      Multiset.coe_nil, zero_add]
  case goalMarked key =>
    rw [unsettled rfl]
    exact Pool.same (congrArg (· + pending) (waiting_alter_goal fun _ => rfl))
  case requestParked key request =>
    rw [settled rfl]
    refine Pool.same ?_
    obtain ⟨⟨goal, found, -⟩, -⟩ := enabled
    obtain ⟨others, before, after⟩ := waiting_change_goal
      (fun goal => { goal with requests := goal.requests ++ [request] }) found
    rw [Move.effect, after, before, ← Multiset.coe_add, Multiset.coe_singleton,
      ← Multiset.singleton_add]
    abel
  case parkedAnswered key goal request values =>
    rw [unsettled rfl]
    obtain ⟨others, before, after⟩ := waiting_change_goal
      (fun goal => { goal with requests := goal.requests.dropLast }) enabled.1
    have last : (goal.requests : Multiset (Entity × Nat)) =
        request ::ₘ (goal.requests.dropLast : Multiset (Entity × Nat)) := by
      rw [← Multiset.singleton_add, add_comm, ← Multiset.coe_singleton, Multiset.coe_add,
        List.dropLast_append_getLast? request enabled.2]
    rw [Move.effect, after, before, last, Multiset.cons_add, Multiset.cons_add]
    exact .redeem (.nil _)
  case goalCompleted key goal status values reading =>
    rw [unsettled rfl]
    exact Pool.same (congrArg (· + pending) (waiting_alter_goal fun _ => rfl))
  case goalForgotten key goal =>
    rw [unsettled rfl]
    obtain ⟨finished, alone⟩ := shaped.delivered key goal enabled.1
    refine Pool.same (congrArg (· + pending) ?_)
    simp only [Move.effect, Bridge.waiting, AList.total_erase _ enabled.1,
      alone (finished enabled.2), Multiset.coe_nil, zero_add]
  all_goals
    rw [unsettled rfl]
    exact Pool.same rfl

end Step

end Rosbridge
