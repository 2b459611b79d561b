import Rosbridge.Protocol.Shape

/-!
Who owns what.

Owns: `Bridge.Mentions`, the places where a table names a connection as an owner;
that a move makes only registered connections owners; and that no publisher and no
subscription is left without owners.
-/

set_option autoImplicit false

namespace Rosbridge

open Foundation

/-- A table names the connection as an owner. -/
inductive Bridge.Mentions (b : Bridge) (owner : Connection) : Prop where
  | publisher {topic : String} {publisher : Publisher}
      (found : b.publishers.lookup topic = some publisher) (owns : owner ∈ publisher.owners)
  | subscription {topic : String} {subscription : Subscription}
      (found : b.subscriptions.lookup topic = some subscription)
      (owns : owner ∈ subscription.clients)
  | service {name : String} {service : Service} (found : b.services.lookup name = some service)
      (owns : service.owner = owner)
  | call {key : Entity × Int} {call : Call} (found : b.calls.lookup key = some call)
      (owns : call.owner = owner)
  | external {id : String} {request : ExternalRequest}
      (found : b.external.lookup id = some request) (owns : request.owner = owner)
  | goal {key : String} {goal : ClientGoal} (found : b.goals.lookup key = some goal)
      (owns : goal.owner = owner)
  | server {action : String} {server : ActionServer}
      (found : b.actionServers.lookup action = some server) (owns : server.owner = owner)
  | serverGoal {key : String} {goal : ServerGoal} (found : b.serverGoals.lookup key = some goal)
      (owns : goal.owner = owner)

/-! ### Owners after a move -/

section Step

variable {env : Environment} {move : Move} {m : Machine} {owner : Connection}

theorem Publisher.mem_release {publisher : Publisher} {other : Connection} {id : Option String}
    (member : owner ∈ (publisher.release other id).owners) : owner ∈ publisher.owners := by
  unfold Publisher.release at member
  cases found : publisher.owners.lookup other with
  | none => simpa only [found] using member
  | some ids =>
      simp only [found] at member
      generalize (if id.isSome = true then ids.erase id else ∅) = remaining at member
      split at member
      · exact (AList.mem_erase.mp member).2
      · exact (AList.mem_alter _ _ _ _).mp member

theorem Publisher.mem_register {publisher : Publisher} {other : Connection} {id : Option String}
    (member : owner ∈ (publisher.register other id).owners) :
    owner = other ∨ owner ∈ publisher.owners := by
  unfold Publisher.register at member
  dsimp only at member
  split at member
  · exact .inr ((AList.mem_alter _ _ _ _).mp member)
  · exact (AList.mem_insert _).mp member

theorem Subscription.mem_release {subscription : Subscription} {other : Connection}
    {id : Option String} (member : owner ∈ (subscription.release other id).clients) :
    owner ∈ subscription.clients := by
  unfold Subscription.release at member
  cases found : subscription.clients.lookup other with
  | none => simpa only [found] using member
  | some client =>
      simp only [found] at member
      generalize (if id.isSome = true then client.registrations.erase id else ∅) = remaining
        at member
      split at member
      · exact (AList.mem_erase.mp member).2
      · exact (AList.mem_alter _ _ _ _).mp member

theorem Subscription.mem_enroll {subscription : Subscription} {other : Connection}
    {id : Option String} {options : Options}
    (member : owner ∈ (subscription.enroll other id options).clients) :
    owner = other ∨ owner ∈ subscription.clients := by
  unfold Subscription.enroll Subscription.join at member
  rw [AList.mem_alter] at member
  split at member
  · exact .inr member
  · exact (AList.mem_insert _).mp member

/-- A publisher's owners after a move owned it before, or are registered. -/
theorem Move.publisher_owner (enabled : move.Enabled env m) {topic : String}
    {publisher : Publisher}
    (found : (move.effect m.bridge).publishers.lookup topic = some publisher)
    (owns : owner ∈ publisher.owners) :
    m.bridge.Mentions owner ∨ owner ∈ m.bridge.outputs := by
  cases move
  case advertised opened other id entity typ qos =>
    rw [Move.effect, AList.lookup_insert_if] at found
    split at found
    · cases found
      rw [List.mem_singleton.mp (owns : owner ∈ [other])]
      exact .inr enabled.2.1
    · exact .inl (.publisher found owns)
  case registered changed other id =>
    rw [Move.effect, AList.lookup_alter] at found
    split at found
    · obtain ⟨old, present, rfl⟩ := Option.map_eq_some_iff.mp found
      rcases Publisher.mem_register owns with rfl | before
      · exact .inr enabled.2
      · exact .inl (.publisher present before)
    · exact .inl (.publisher found owns)
  case withdrawn changed other id =>
    rw [Move.effect, AList.lookup_alter] at found
    split at found
    · obtain ⟨old, present, rfl⟩ := Option.map_eq_some_iff.mp found
      exact .inl (.publisher present (Publisher.mem_release owns))
    · exact .inl (.publisher found owns)
  case unadvertised gone other id old =>
    rw [Move.effect, AList.lookup_erase_if] at found
    split at found
    · cases found
    · exact .inl (.publisher found owns)
  all_goals exact .inl (.publisher found owns)

/-- A subscription's clients after a move were clients before, or are registered. -/
theorem Move.subscription_owner (enabled : move.Enabled env m) {topic : String}
    {subscription : Subscription}
    (found : (move.effect m.bridge).subscriptions.lookup topic = some subscription)
    (owns : owner ∈ subscription.clients) :
    m.bridge.Mentions owner ∨ owner ∈ m.bridge.outputs := by
  cases move
  case subscribed opened other id options entity typ qos =>
    rw [Move.effect, AList.lookup_insert_if] at found
    split at found
    · cases found
      rcases Subscription.mem_enroll owns with rfl | none
      · exact .inr enabled.2.1
      · exact absurd none (AList.notMem_empty _)
    · exact .inl (.subscription found owns)
  case joined changed other id options =>
    rw [Move.effect, AList.lookup_alter] at found
    split at found
    · obtain ⟨old, present, rfl⟩ := Option.map_eq_some_iff.mp found
      rcases Subscription.mem_enroll owns with rfl | before
      · exact .inr enabled.2
      · exact .inl (.subscription present before)
    · exact .inl (.subscription found owns)
  case sampled changed other change =>
    rw [Move.effect, Bridge.alterClient, AList.lookup_alter] at found
    split at found
    · obtain ⟨old, present, rfl⟩ := Option.map_eq_some_iff.mp found
      exact .inl (.subscription present ((AList.mem_alter _ _ _ _).mp owns))
    · exact .inl (.subscription found owns)
  case retained changed sample =>
    rw [Move.effect, AList.lookup_alter] at found
    split at found
    · obtain ⟨old, present, rfl⟩ := Option.map_eq_some_iff.mp found
      exact .inl (.subscription present owns)
    · exact .inl (.subscription found owns)
  case parted changed other id =>
    rw [Move.effect, AList.lookup_alter] at found
    split at found
    · obtain ⟨old, present, rfl⟩ := Option.map_eq_some_iff.mp found
      exact .inl (.subscription present (Subscription.mem_release owns))
    · exact .inl (.subscription found owns)
  case unsubscribed gone other id old =>
    rw [Move.effect, AList.lookup_erase_if] at found
    split at found
    · cases found
    · exact .inl (.subscription found owns)
  all_goals exact .inl (.subscription found owns)

/-- An owner after a move owned something before, or is registered. -/
theorem Move.mentions (enabled : move.Enabled env m)
    (mention : (move.effect m.bridge).Mentions owner) :
    m.bridge.Mentions owner ∨ owner ∈ m.bridge.outputs := by
  cases mention with
  | publisher found owns => exact Move.publisher_owner enabled found owns
  | subscription found owns => exact Move.subscription_owner enabled found owns
  | @service name service found owns => 
    cases move
    case serviceOpened opened fresh =>
      rw [Move.effect, AList.lookup_insert_if] at found
      split at found
      · cases found
        exact .inr (owns ▸ enabled.2.1)
      · exact .inl (.service found owns)
    case serviceRemoved gone old =>
      rw [Move.effect, AList.lookup_erase_if] at found
      split at found
      · cases found
      · exact .inl (.service found owns)
    case forwarded number request reading =>
      rw [Move.effect, AList.lookup_alter] at found
      split at found
      · obtain ⟨old, present, rfl⟩ := Option.map_eq_some_iff.mp found
        exact .inl (.service present owns)
      · exact .inl (.service found owns)
    all_goals exact .inl (.service found owns)
  | @call key call found owns =>
    cases move
    case called added fresh typ args reading =>
      rw [Move.effect, AList.lookup_insert_if] at found
      split at found
      · cases found
        exact .inr (owns ▸ enabled.1)
      · exact .inl (.call found owns)
    case replied gone old values =>
      rw [Move.effect, AList.lookup_erase_if] at found
      split at found
      · cases found
      · exact .inl (.call found owns)
    case expired gone old now =>
      rw [Move.effect, AList.lookup_erase_if] at found
      split at found
      · cases found
      · exact .inl (.call found owns)
    case abandoned gone old =>
      rw [Move.effect, AList.lookup_erase_if] at found
      split at found
      · cases found
      · exact .inl (.call found owns)
    all_goals exact .inl (.call found owns)
  | @external id request found owns =>
    cases move
    case serviceRemoved name service =>
      rw [Move.effect, AList.lookup_retain, Option.filter_eq_some_iff] at found
      exact .inl (.external found.1 owns)
    case forwarded number fresh reading =>
      obtain ⟨service, present, same, -⟩ := enabled
      rw [Move.effect, AList.lookup_insert_if] at found
      split at found
      · cases found
        exact .inl (.service present (same.trans owns))
      · exact .inl (.external found owns)
    case answered gone old values =>
      rw [Move.effect, AList.lookup_erase_if] at found
      split at found
      · cases found
      · exact .inl (.external found owns)
    case requestExpired gone old =>
      rw [Move.effect, AList.lookup_erase_if] at found
      split at found
      · cases found
      · exact .inl (.external found owns)
    case requestsDropped other =>
      rw [Move.effect, AList.lookup_retain, Option.filter_eq_some_iff] at found
      exact .inl (.external found.1 owns)
    all_goals exact .inl (.external found owns)
  | @goal key goal found owns =>
    rcases Move.goal_origin found with ⟨fresh, sequence, typ, args, reading, rfl⟩ | ⟨old, present, same⟩
    · exact .inr (owns ▸ enabled.1)
    · rw [same] at owns
      exact .inl (.goal present owns)
  | @server action server found owns =>
    cases move
    case actionOpened opened fresh =>
      rw [Move.effect, AList.lookup_insert_if] at found
      split at found
      · cases found
        exact .inr (owns ▸ enabled.2.1)
      · exact .inl (.server found owns)
    case actionRemoved gone old closed replies =>
      rw [Move.effect, AList.lookup_erase_if] at found
      split at found
      · cases found
      · exact .inl (.server found owns)
    all_goals exact .inl (.server found owns)
  | @serverGoal key goal found owns =>
    rcases Move.serverGoal_history enabled found with ⟨entity, request, rfl⟩ | ⟨old, present, alters⟩
    · obtain ⟨-, -, -, -, -, server, serves, own, -⟩ := enabled
      exact .inl (.server serves (own.trans owns))
    · exact .inl (.serverGoal present (alters.same.2.1.symm.trans owns))

end Step

/-! ### Nobody is left without owners -/

/-- A publisher that somebody uses. -/
structure Publisher.Owned (publisher : Publisher) : Prop where
  owners : publisher.owners ≠ ∅
  registrations : ∀ owner ids, publisher.owners.lookup owner = some ids → ids ≠ ∅

/-- A subscription that somebody uses. -/
structure Subscription.Owned (subscription : Subscription) : Prop where
  clients : subscription.clients ≠ ∅
  registrations : ∀ owner client, subscription.clients.lookup owner = some client →
    client.registrations ≠ ∅

/-- Every publisher and every subscription is used. -/
structure Bridge.Used (b : Bridge) : Prop where
  publishers : ∀ topic publisher, b.publishers.lookup topic = some publisher → publisher.Owned
  subscriptions : ∀ topic subscription, b.subscriptions.lookup topic = some subscription →
    subscription.Owned

theorem Publisher.Owned.register {publisher : Publisher} (owned : publisher.Owned)
    (owner : Connection) (id : Option String) : (publisher.register owner id).Owned := by
  unfold Publisher.register
  split
  · next present =>
      obtain ⟨ids, found⟩ := (AList.mem_iff_lookup _ _).mp present
      have mine : (publisher.owners.alter owner (insert id)).lookup owner = some (insert id ids) := by
        rw [AList.lookup_alter, if_pos rfl, found]
        rfl
      refine ⟨AList.ne_empty_of_lookup mine, fun other others found' => ?_⟩
      dsimp only at found'
      rw [AList.lookup_alter] at found'
      split at found'
      · obtain ⟨before, -, rfl⟩ := Option.map_eq_some_iff.mp found'
        exact Finset.insert_ne_empty id before
      · exact owned.registrations other others found'
  · refine ⟨AList.ne_empty_of_lookup (AList.lookup_insert _), fun other others found' => ?_⟩
    dsimp only at found'
    rw [AList.lookup_insert_if] at found'
    split at found'
    · cases found'
      exact Finset.singleton_ne_empty id
    · exact owned.registrations other others found'

theorem Publisher.Owned.release {publisher : Publisher} (owned : publisher.Owned)
    {owner : Connection} {id : Option String} (left : (publisher.release owner id).owners ≠ ∅) :
    (publisher.release owner id).Owned := by
  refine ⟨left, fun other others found' => ?_⟩
  unfold Publisher.release at found'
  cases found : publisher.owners.lookup owner with
  | none =>
      simp only [found] at found'
      exact owned.registrations other others found'
  | some ids =>
      simp only [found] at found'
      generalize (if id.isSome = true then ids.erase id else ∅) = remaining at found'
      split at found'
      · rw [AList.lookup_erase_if] at found'
        split at found'
        · cases found'
        · exact owned.registrations other others found'
      · next some =>
          rw [AList.lookup_alter] at found'
          split at found'
          · obtain ⟨before, -, rfl⟩ := Option.map_eq_some_iff.mp found'
            exact some
          · exact owned.registrations other others found'

theorem Subscription.enroll_owned {subscription : Subscription}
    (registered : ∀ owner client, subscription.clients.lookup owner = some client →
      client.registrations ≠ ∅)
    (owner : Connection) (id : Option String) (options : Options) :
    (subscription.enroll owner id options).Owned := by
  have joined : ∃ client, (subscription.join owner).clients.lookup owner = some client := by
    unfold Subscription.join
    split
    · next present => exact (AList.mem_iff_lookup _ _).mp present
    · exact ⟨_, AList.lookup_insert _⟩
  have others : ∀ other, other ≠ owner →
      (subscription.join owner).clients.lookup other = subscription.clients.lookup other := by
    intro other apart
    unfold Subscription.join
    split
    · rfl
    · exact AList.lookup_insert_ne apart
  obtain ⟨client, found⟩ := joined
  have mine : (subscription.enroll owner id options).clients.lookup owner =
      some (client.register id options) := by
    unfold Subscription.enroll
    dsimp only
    rw [AList.lookup_alter, if_pos rfl, found]
    rfl
  refine ⟨AList.ne_empty_of_lookup mine, fun other member found' => ?_⟩
  by_cases same : other = owner
  · subst same
    cases mine.symm.trans found'
    exact AList.ne_empty_of_lookup (AList.lookup_insert _)
  · unfold Subscription.enroll at found'
    dsimp only at found'
    rw [AList.lookup_alter, if_neg same, others other same] at found'
    exact registered other member found'

theorem Subscription.Owned.release {subscription : Subscription} (owned : subscription.Owned)
    {owner : Connection} {id : Option String}
    (left : (subscription.release owner id).clients ≠ ∅) :
    (subscription.release owner id).Owned := by
  refine ⟨left, fun other member found' => ?_⟩
  unfold Subscription.release at found'
  cases found : subscription.clients.lookup owner with
  | none =>
      simp only [found] at found'
      exact owned.registrations other member found'
  | some client =>
      simp only [found] at found'
      generalize (if id.isSome = true then client.registrations.erase id else ∅) = remaining
        at found'
      split at found'
      · rw [AList.lookup_erase_if] at found'
        split at found'
        · cases found'
        · exact owned.registrations other member found'
      · next some =>
          rw [AList.lookup_alter] at found'
          split at found'
          · obtain ⟨before, -, rfl⟩ := Option.map_eq_some_iff.mp found'
            exact fun empty => some (AList.isEmpty_iff.mpr empty)
          · exact owned.registrations other member found'

section Step

variable {env : Environment} {move : Move} {m : Machine}

theorem Move.keeps_used (enabled : move.Enabled env m) (used : m.bridge.Used) :
    (move.effect m.bridge).Used := by
  constructor
  · intro topic publisher found
    cases move
    case advertised opened owner id entity typ qos =>
      rw [Move.effect, AList.lookup_insert_if] at found
      split at found
      · cases found
        rw [← AList.insert_empty]
        refine ⟨AList.ne_empty_of_lookup (AList.lookup_insert _), fun other ids found' => ?_⟩
        dsimp only at found'
        rw [AList.lookup_insert_if] at found'
        split at found'
        · cases found'
          exact Finset.singleton_ne_empty id
        · cases found'
      · exact used.publishers topic publisher found
    case registered changed owner id =>
      rw [Move.effect, AList.lookup_alter] at found
      split at found
      · obtain ⟨old, present, rfl⟩ := Option.map_eq_some_iff.mp found
        exact (used.publishers _ old present).register owner id
      · exact used.publishers topic publisher found
    case withdrawn changed owner id =>
      obtain ⟨current, present, -, -, left⟩ := enabled
      rw [Move.effect, AList.lookup_alter] at found
      split at found
      · rw [present] at found
        cases found
        exact (used.publishers _ current present).release left
      · exact used.publishers topic publisher found
    case unadvertised gone owner id old =>
      rw [Move.effect, AList.lookup_erase_if] at found
      split at found
      · cases found
      · exact used.publishers topic publisher found
    all_goals exact used.publishers topic publisher found
  · intro topic subscription found
    cases move
    case subscribed opened owner id options entity typ qos =>
      rw [Move.effect, AList.lookup_insert_if] at found
      split at found
      · cases found
        exact Subscription.enroll_owned (by rintro other client ⟨⟩) owner id options
      · exact used.subscriptions topic subscription found
    case joined changed owner id options =>
      rw [Move.effect, AList.lookup_alter] at found
      split at found
      · obtain ⟨old, present, rfl⟩ := Option.map_eq_some_iff.mp found
        exact Subscription.enroll_owned (used.subscriptions _ old present).registrations owner id
          options
      · exact used.subscriptions topic subscription found
    case sampled changed owner change =>
      rw [Move.effect, Bridge.alterClient, AList.lookup_alter] at found
      split at found
      · obtain ⟨old, present, rfl⟩ := Option.map_eq_some_iff.mp found
        obtain ⟨clients, registrations⟩ := used.subscriptions _ old present
        refine ⟨fun none => clients ((AList.alter_eq_empty_iff _ _ _).mp none),
          fun other client found' => ?_⟩
        dsimp only at found'
        rw [AList.lookup_alter] at found'
        split at found'
        · obtain ⟨before, present', rfl⟩ := Option.map_eq_some_iff.mp found'
          rw [enabled before]
          exact registrations _ before present'
        · exact registrations other client found'
      · exact used.subscriptions topic subscription found
    case retained changed sample =>
      rw [Move.effect, AList.lookup_alter] at found
      split at found
      · obtain ⟨old, present, rfl⟩ := Option.map_eq_some_iff.mp found
        obtain ⟨clients, registrations⟩ := used.subscriptions _ old present
        exact ⟨clients, registrations⟩
      · exact used.subscriptions topic subscription found
    case parted changed owner id =>
      obtain ⟨current, present, -, -, left⟩ := enabled
      rw [Move.effect, AList.lookup_alter] at found
      split at found
      · rw [present] at found
        cases found
        exact (used.subscriptions _ current present).release left
      · exact used.subscriptions topic subscription found
    case unsubscribed gone owner id old =>
      rw [Move.effect, AList.lookup_erase_if] at found
      split at found
      · cases found
      · exact used.subscriptions topic subscription found
    all_goals exact used.subscriptions topic subscription found

end Step

end Rosbridge
