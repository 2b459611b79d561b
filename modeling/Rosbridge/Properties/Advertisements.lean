import Mathlib.Data.Finset.Option
import Rosbridge.Properties.Isolation
import Rosbridge.Properties.Cleanup
import Rosbridge.Properties.Panics

/-!
Advertisements and publishing.

Owns: `Bridge.registrations`, the identifiers a connection holds on a topic; when a
publish leaves them as they are; and that in runs of such publishes a connection holds
only identifiers it advertised, and gives the topic up with them.
-/

set_option autoImplicit false

namespace Rosbridge

open Foundation Program

/-- The identifiers that an owner holds on a publisher. -/
def Publisher.ids (owner : Connection) (publisher : Publisher) : Finset (Option String) :=
  (publisher.owners.lookup owner).getD ∅

/-- The identifiers with which a connection advertises a topic. -/
def Bridge.registrations (b : Bridge) (topic : String) (owner : Connection) :
    Finset (Option String) :=
  (b.publishers.lookup topic).elim ∅ (Publisher.ids owner)

/-- A publish passes every check before its identifier is recorded. -/
structure Bridge.Accepts (b : Bridge) (v : Json) (topic : String) (publisher : Publisher)
    (id : Option String) : Prop where
  identified : requestId v = .ok id
  allowed : b.access.topic topic true = .ok ()
  object : (v.index "msg").isObject = true
  typed : publisherTypeMatches v publisher = .ok ()

/-- The request publishes on the topic. -/
def Json.Publishes (v : Json) (topic : String) : Prop :=
  required v "op" = .ok "publish" ∧ name v "topic" = .ok topic

/-- A publish of the connection on the topic comes while it advertises the topic, and
it is rejected before its identifier is recorded or the identifier is already held. -/
def Operation.KeepsIds (owner : Connection) (topic : String) : Operation → Machine → Prop
  | .command other v, m => other = owner → (Json.obj v).Publishes topic →
      ∃ publisher ids, m.bridge.publishers.lookup topic = some publisher ∧
        publisher.owners.lookup owner = some ids ∧
        ∀ id, m.bridge.Accepts (.obj v) topic publisher id → id ∈ ids
  | _, _ => True

/-- The identifier with which an operation advertises the topic for the connection. -/
def Operation.advertises? (owner : Connection) (topic : String) : Operation → Option (Option String)
  | .command other v =>
      if other = owner ∧ required (.obj v) "op" = .ok "advertise" ∧
          name (.obj v) "topic" = .ok topic then
        (requestId (.obj v)).toOption
      else none
  | _ => none

/-- The identifiers with which the connection advertises the topic in a run. -/
def advertisedIds (owner : Connection) (topic : String) (ops : List Operation) :
    Finset (Option String) :=
  (ops.filterMap (Operation.advertises? owner topic)).toFinset

/-- The operation gives up one identifier of the connection on the topic. -/
def Operation.Unadvertises (owner : Connection) (topic : String) (id : Option String)
    (op : Operation) : Prop :=
  ∃ v, op = .command owner v ∧ required (.obj v) "op" = .ok "unadvertise" ∧
    name (.obj v) "topic" = .ok topic ∧ requestId (.obj v) = .ok id

section Publish

variable {env : Environment} {owner : Connection} {topic : String} {v : Json} {m : Machine}
  {publisher : Publisher}

/-- What a publish does to the publishers when the topic has one. -/
def Published (b : Bridge) (owner : Connection) (topic : String) (v : Json)
    (publisher : Publisher) (after : Machine) : Prop :=
  (∃ id, b.Accepts v topic publisher id ∧
    after.bridge.publishers = b.publishers.alter topic (Publisher.register owner id)) ∨
  (after.bridge.publishers = b.publishers ∧ ∀ id, ¬ b.Accepts v topic publisher id)

theorem publish_spec (found : m.bridge.publishers.lookup topic = some publisher)
    (named : name v "topic" = .ok topic) (allowed : m.bridge.access.topic topic true = .ok ()) :
    wp (publish env owner v) (fun _ after => Published m.bridge owner topic v publisher after) m := by
  unfold publish advertise
  refine wp_bind_lift (fun cause refused => ?_) fun _ same => ?_
  · rw [named] at refused
    cases refused
  cases named.symm.trans same
  refine wp_bind_ensure (fun flat => ?_) fun object => ?_
  · refine .inr ⟨rfl, fun id accepts => ?_⟩
    rw [accepts.object] at flat
    cases flat
  rw [wp_bind]
  refine wp_bind_lift (fun cause refused => ?_) fun _ same => ?_
  · rw [named] at refused
    cases refused
  cases named.symm.trans same
  refine wp_bind_lift (fun cause refused => ?_) fun id identified => ?_
  · refine .inr ⟨rfl, fun id accepts => ?_⟩
    rw [accepts.identified] at refused
    cases refused
  refine wp_bind_tables ?_
  rw [found]
  refine wp_bind_lift (fun cause refused => ?_) fun _ typed => ?_
  · refine .inr ⟨rfl, fun id accepts => ?_⟩
    rw [accepts.typed] at refused
    cases refused
  have recorded (after : Machine) (same : after.bridge.publishers =
      m.bridge.publishers.alter topic (Publisher.register owner id)) :
      Published m.bridge owner topic v publisher after :=
    .inl ⟨id, ⟨identified, allowed, object, typed⟩, same⟩
  rw [wp_update, andThen_ok]
  refine wp_bind_tables ?_
  refine wp_bind_unwrap (fun _ => recorded _ rfl) fun current _ => ?_
  exact wp_call_last (fun _ _ => recorded _ rfl) fun _ _ => recorded _ rfl

theorem publish_command (found : m.bridge.publishers.lookup topic = some publisher)
    (publishes : v.Publishes topic) (connected : owner ∈ m.bridge.outputs) :
    wp (command env owner v) (fun _ after => Published m.bridge owner topic v publisher after) m := by
  obtain ⟨operation, named⟩ := publishes
  have executed : wp (execute env owner v)
      (fun _ after => Published m.bridge owner topic v publisher after) m := by
    unfold execute
    refine wp_bind_lift (fun cause refused => ?_) fun id _ => ?_
    · refine .inr ⟨rfl, fun id accepts => ?_⟩
      rw [accepts.identified] at refused
      cases refused
    refine wp_bind_lift (fun cause refused => ?_) fun op same => ?_
    · rw [operation] at refused
      cases refused
    cases operation.symm.trans same
    refine wp_bind_tables ?_
    have checks : checkAccess m.bridge.access "publish" v = m.bridge.access.topic topic true := by
      show (name v "topic" >>= fun topic => m.bridge.access.topic topic true) = _
      rw [named]
      rfl
    rw [checks]
    refine wp_bind_lift (fun cause refused => ?_) fun _ allowed => publish_spec found named allowed
    refine .inr ⟨rfl, fun id accepts => ?_⟩
    rw [accepts.allowed] at refused
    cases refused
  unfold command
  refine wp_bind_tables ?_
  rw [wp_ite, if_pos connected, wp_bind, wp_attempt]
  refine wp_mono executed ?_
  rintro (value | cause | site) after published
  · exact published
  · show wp (error env owner v cause)
      (fun _ after => Published m.bridge owner topic v publisher after) after
    refine wp_send env fun last sent => ?_
    obtain ⟨next, failed, tables⟩ := sent.tables
    unfold Published
    rw [tables]
    exact published
  · exact published

/-- A publish leaves the publishers as they are if and only if its identifier is held or
it is rejected before. -/
theorem publish_same_iff {ids : Finset (Option String)}
    (found : m.bridge.publishers.lookup topic = some publisher)
    (holds : publisher.owners.lookup owner = some ids) (publishes : v.Publishes topic)
    (connected : owner ∈ m.bridge.outputs) :
    (command env owner v m).2.bridge.publishers = m.bridge.publishers ↔
      ∀ id, m.bridge.Accepts v topic publisher id → id ∈ ids := by
  have published : wp (command env owner v) _ m := publish_command found publishes connected
  rw [wp_iff] at published
  rcases published with ⟨id, accepts, changed⟩ | ⟨same, rejects⟩
  · rw [changed]
    have member : owner ∈ publisher.owners := (AList.mem_iff_lookup _ _).mpr ⟨ids, holds⟩
    have registered : (publisher.register owner id).owners.lookup owner = some (insert id ids) := by
      unfold Publisher.register
      rw [if_pos member, AList.lookup_alter, if_pos rfl, holds]
      rfl
    constructor
    · intro same other accepts'
      cases accepts.identified.symm.trans accepts'.identified
      have after := AList.lookup_alter topic topic (Publisher.register owner id) m.bridge.publishers
      rw [same, if_pos rfl, found] at after
      have kept : publisher = publisher.register owner id := Option.some.inj after
      rw [← kept, holds] at registered
      rw [Option.some.inj registered]
      exact Finset.mem_insert_self id ids
    · intro held
      refine AList.alter_eq_self fun value present => ?_
      cases found.symm.trans present
      unfold Publisher.register
      rw [if_pos member, AList.alter_eq_self fun value present => ?_]
      cases holds.symm.trans present
      exact Finset.insert_eq_of_mem (held id accepts)
  · exact ⟨fun _ id accepts => absurd accepts (rejects id), fun _ => same⟩

end Publish

/-! ### Registrations over time -/

section Registrations

variable {env : Environment} {owner other : Connection} {topic : String} {m before after : Machine}
  {move : Move} {publisher : Publisher}

/-- The identifiers left when one is given up, or all of them. -/
def remaining (id : Option String) (ids : Finset (Option String)) : Finset (Option String) :=
  if id.isSome then ids.erase id else ∅

theorem mem_remaining {id other : Option String} {ids : Finset (Option String)}
    (member : other ∈ remaining id ids) : other ∈ ids ∧ other ≠ id := by
  unfold remaining at member
  split at member
  · exact (Finset.mem_erase.mp member).symm
  · exact absurd member (Finset.notMem_empty other)

theorem Publisher.ids_release {id : Option String} :
    (publisher.release owner id).ids owner = remaining id (publisher.ids owner) := by
  unfold Publisher.release Publisher.ids
  dsimp only
  cases found : publisher.owners.lookup owner with
  | none =>
      rw [found]
      show ∅ = remaining id ∅
      unfold remaining
      split <;> rfl
  | some ids =>
      show (AList.lookup owner (if remaining id ids = ∅ then publisher.owners.erase owner
        else publisher.owners.alter owner fun _ => remaining id ids)).getD ∅ = remaining id ids
      split
      · next empty =>
          rw [AList.lookup_erase, empty]
          rfl
      · rw [AList.lookup_alter, if_pos rfl, found]
        rfl

theorem Publisher.ids_of_share (owner : Connection) (publisher : Publisher) :
    publisher.ids owner = ((publisher.share owner).map fun share => share.2.2).getD ∅ := by
  unfold Publisher.ids Publisher.share
  cases publisher.owners.lookup owner <;> rfl

theorem Publisher.ids_release_other {id : Option String} (apart : owner ≠ other) :
    (publisher.release other id).ids owner = publisher.ids owner := by
  rw [ids_of_share, ids_of_share, Publisher.share_release apart]

theorem Publisher.ids_register {id : Option String} :
    (publisher.register owner id).ids owner ⊆ insert id (publisher.ids owner) := by
  unfold Publisher.register Publisher.ids
  dsimp only
  split
  · rw [AList.lookup_alter, if_pos rfl]
    cases publisher.owners.lookup owner with
    | none => exact Finset.empty_subset _
    | some ids => exact subset_rfl
  · rw [AList.lookup_insert]
    exact Finset.singleton_subset_iff.mpr (Finset.mem_insert_self _ _)

theorem Publisher.ids_register_other {id : Option String} (apart : owner ≠ other) :
    (publisher.register other id).ids owner = publisher.ids owner := by
  rw [ids_of_share, ids_of_share, Publisher.share_register apart]

theorem Publisher.ids_singleton {entity : Entity} {typ : String} {id : Option String} :
    Publisher.ids owner { entity, typ, owners := AList.singleton other {id} } =
      if owner = other then {id} else ∅ := by
  unfold Publisher.ids
  dsimp only
  rw [← AList.insert_empty, AList.lookup_insert_if]
  split <;> rfl

/-- The identifier that a move records for the connection on the topic. -/
def Move.records? (topic : String) (owner : Connection) : Move → Option (Option String)
  | advertised opened other id _ _ _ | registered opened other id =>
      if opened = topic ∧ other = owner then some id else none
  | _ => none

/-- A move gives a connection no identifier but the one it records. -/
theorem Move.registrations_subset (enabled : move.Enabled env m) :
    (move.effect m.bridge).registrations topic owner ⊆
      (move.records? topic owner).toFinset ∪ m.bridge.registrations topic owner := by
  unfold Bridge.registrations
  cases move
  case advertised opened other id entity typ qos =>
    rw [Move.effect, AList.lookup_insert_if]
    split
    · next here =>
        by_cases mine : owner = other
        · subst here mine
          have recorded : (Move.advertised topic owner id entity typ qos).records? topic owner =
              some id := if_pos ⟨rfl, rfl⟩
          rw [recorded, Option.elim_some, Publisher.ids_singleton, if_pos rfl]
          exact Finset.subset_union_left
        · rw [Option.elim_some, Publisher.ids_singleton, if_neg mine]
          exact Finset.empty_subset _
    · exact Finset.subset_union_right
  case registered opened other id =>
    rw [Move.effect, AList.lookup_alter]
    split
    · next here =>
        subst here
        cases m.bridge.publishers.lookup topic with
        | none => exact Finset.empty_subset _
        | some publisher =>
            by_cases mine : owner = other
            · subst mine
              have recorded : (Move.registered topic owner id).records? topic owner = some id :=
                if_pos ⟨rfl, rfl⟩
              rw [recorded]
              exact Publisher.ids_register
            · refine Finset.Subset.trans (le_of_eq ?_) Finset.subset_union_right
              exact Publisher.ids_register_other mine
    · exact Finset.subset_union_right
  case withdrawn opened other id =>
    refine Finset.Subset.trans ?_ Finset.subset_union_right
    rw [Move.effect, AList.lookup_alter]
    split
    · next here =>
        subst here
        cases m.bridge.publishers.lookup topic with
        | none => exact Finset.empty_subset _
        | some publisher =>
            by_cases mine : owner = other
            · subst mine
              refine Finset.Subset.trans (le_of_eq Publisher.ids_release) fun id member => ?_
              exact (mem_remaining member).1
            · exact le_of_eq (Publisher.ids_release_other mine)
    · exact subset_rfl
  case unadvertised opened other id publisher =>
    refine Finset.Subset.trans ?_ Finset.subset_union_right
    rw [Move.effect, AList.lookup_erase_if]
    split
    · exact Finset.empty_subset _
    · exact subset_rfl
  all_goals exact Finset.subset_union_right

theorem Follows.registrations_subset {passes : Move → Prop} {allowed : Finset (Option String)}
    (reach : Follows (Transition env) passes before after)
    (records : ∀ move, passes move → (move.records? topic owner).toFinset ⊆ allowed) :
    after.bridge.registrations topic owner ⊆ allowed ∪ before.bridge.registrations topic owner := by
  refine reach.invariant (fun m => m.bridge.registrations topic owner ⊆
    allowed ∪ before.bridge.registrations topic owner) ?_ Finset.subset_union_right
  intro move start last pass taken held
  obtain ⟨middle, sent, enabled, rfl⟩ := taken
  obtain ⟨next, failed, tables⟩ := sent.tables
  refine (Move.registrations_subset enabled).trans (Finset.union_subset ?_ ?_)
  · exact (records move pass).trans Finset.subset_union_left
  · rw [tables]
    exact held

theorem Move.records_commanded (free : ¬ move.Commanded) : move.records? topic owner = none := by
  cases move <;> first | rfl | exact absurd trivial free

theorem Move.Beside.records (beside : move.Beside other) : move.records? topic owner = none := by
  cases move <;> first | rfl | exact beside.elim

/-- An operation gives a connection no identifier but the one it advertises. -/
theorem next_registrations {op : Operation} (shaped : Shaped m)
    (returns : ¬ (perform env op m).1.IsPanic) (keeps : op.KeepsIds owner topic m) :
    (m.next env op).bridge.registrations topic owner ⊆
      (op.advertises? owner topic).toFinset ∪ m.bridge.registrations topic owner := by
  by_cases commanded : ∃ other v, op = .command other v
  · obtain ⟨other, v, rfl⟩ := commanded
    by_cases publishing : other = owner ∧ (Json.obj v).Publishes topic
    · obtain ⟨rfl, publishes⟩ := publishing
      refine Finset.Subset.trans (le_of_eq ?_) Finset.subset_union_right
      unfold Bridge.registrations
      obtain ⟨publisher, ids, found, holds, held⟩ := keeps rfl publishes
      by_cases connected : other ∈ m.bridge.outputs
      · have same : (m.next env (.command other v)).bridge.publishers = m.bridge.publishers :=
          (publish_same_iff found holds publishes connected).mpr held
        rw [same]
      · unfold Machine.next
        rw [command_of_absent connected]
    · refine Follows.registrations_subset (command_next shaped returns) fun move under => ?_
      rcases under with beside | ⟨cause, rfl⟩ | ⟨operation, advertises⟩ | ⟨-, responds⟩ |
        ⟨-, completes⟩
      · rw [beside.records]
        exact Finset.empty_subset _
      · exact Finset.empty_subset _
      · have named {opened : String} {who : Connection} {id : Option String}
            (own : who = other ∧ name (.obj v) "topic" = .ok opened ∧ requestId (.obj v) = .ok id) :
            (if opened = topic ∧ who = owner then some id else none).toFinset ⊆
              ((Operation.command other v).advertises? owner topic).toFinset := by
          split
          · next here =>
              obtain ⟨rfl, rfl⟩ := here
              obtain ⟨rfl, named, identified⟩ := own
              rcases operation with advertise | publish
              · rw [Operation.advertises?, if_pos ⟨rfl, advertise, named⟩, identified]
                exact subset_rfl
              · exact absurd ⟨rfl, publish, named⟩ publishing
          · exact Finset.empty_subset _
        cases move <;> first
          | exact Finset.empty_subset _
          | exact advertises.elim
          | exact named advertises
      · cases move <;> first | exact Finset.empty_subset _ | exact responds.elim
      · cases move <;> first | exact Finset.empty_subset _ | exact completes.elim
  · have performed := performed_next op shaped returns
    refine Follows.registrations_subset performed.during fun move during => ?_
    rw [Move.records_commanded (during.uncommanded fun who v same => commanded ⟨who, v, same⟩)]
    exact Finset.empty_subset _

end Registrations

/-! ### Giving a topic up -/

section Unadvertise

variable {env : Environment} {owner : Connection} {topic : String} {m : Machine}
  {id : Option String} {v : Json}

/-- How a connection gives up an identifier: it leaves the publisher, maybe as the last
one, or it held no such identifier. -/
def GivenUp (env : Environment) (topic : String) (owner : Connection) (id : Option String)
    (before after : Machine) : Prop :=
  (∃ publisher, before.bridge.publishers.lookup topic = some publisher ∧
    (Transition env (.unadvertised topic owner id publisher) before after ∨
      Transition env (.withdrawn topic owner id) before after)) ∨
  ((∀ publisher, before.bridge.publishers.lookup topic = some publisher →
      owner ∈ publisher.owners → publisher.holds owner id = false) ∧
    ∃ message, Sent message before after)

/-- What `unadvertise` leaves behind: the identifier is given up, or was not held. -/
def Unadvertised (env : Environment) (topic : String) (owner : Connection) (id : Option String)
    (before : Machine) : Outcome Error Unit → Machine → Prop
  | .ok _, after => GivenUp env topic owner id before after
  | .error _, after => after = before ∧ ∀ publisher,
      before.bridge.publishers.lookup topic = some publisher → owner ∈ publisher.owners →
        publisher.holds owner id = false
  | .panic _, _ => False

theorem unadvertise_command (operation : required v "op" = .ok "unadvertise")
    (named : name v "topic" = .ok topic) (identified : requestId v = .ok id)
    (connected : owner ∈ m.bridge.outputs) :
    wp (command env owner v)
      (fun outcome after => ¬ outcome.IsPanic ∧ GivenUp env topic owner id m after) m := by
  have executed : wp (execute env owner v) (Unadvertised env topic owner id m) m := by
    unfold execute
    refine wp_bind_lift (fun cause refused => ?_) fun other same => ?_
    · rw [identified] at refused
      cases refused
    refine wp_bind_lift (fun cause refused => ?_) fun op same => ?_
    · rw [operation] at refused
      cases refused
    cases operation.symm.trans same
    refine wp_bind_tables ?_
    refine wp_bind_lift (fun cause refused => by cases refused) fun _ _ => ?_
    show wp (liftM (name v "topic") >>= fun topic =>
      liftM (requestId v) >>= fun id => unadvertise owner topic id) _ m
    rw [named, identified]
    refine wp_mono (unadvertise_spec env) ?_
    rintro (value | cause | site) after spec
    · exact .inl spec
    · exact spec
    · exact spec
  unfold command
  refine wp_bind_tables ?_
  rw [wp_ite, if_pos connected, wp_bind, wp_attempt]
  refine wp_mono executed ?_
  rintro (value | cause | site) after spec
  · exact ⟨Outcome.isPanic_ok (), spec⟩
  · obtain ⟨rfl, unheld⟩ := spec
    show wp (error env owner v cause)
      (fun outcome last => ¬ outcome.IsPanic ∧ GivenUp env topic owner id after last) after
    exact wp_send env fun last sent => ⟨Outcome.isPanic_ok (), .inr ⟨unheld, _, sent⟩⟩
  · exact spec.elim

theorem GivenUp.registrations {after : Machine} (given : GivenUp env topic owner id m after) :
    after.bridge.registrations topic owner ⊆ remaining id (m.bridge.registrations topic owner) := by
  unfold Bridge.registrations
  rcases given with ⟨publisher, found, taken | taken⟩ | ⟨unheld, message, sent⟩
  · obtain ⟨next, failed, tables⟩ := taken.bridge
    rw [tables, Move.effect, AList.lookup_erase]
    exact Finset.empty_subset _
  · obtain ⟨next, failed, tables⟩ := taken.bridge
    rw [tables, Move.effect, AList.lookup_alter, if_pos rfl]
    dsimp only
    rw [found]
    exact le_of_eq Publisher.ids_release
  · obtain ⟨next, failed, tables⟩ := sent.tables
    rw [tables]
    dsimp only
    cases found : m.bridge.publishers.lookup topic with
    | none => exact Finset.empty_subset _
    | some publisher =>
        show publisher.ids owner ⊆ remaining id (publisher.ids owner)
        unfold Publisher.ids
        cases holds : publisher.owners.lookup owner with
        | none => exact Finset.empty_subset _
        | some ids =>
            have refused := unheld publisher found ((AList.mem_iff_lookup _ _).mpr ⟨ids, holds⟩)
            unfold Publisher.holds at refused
            rw [holds, Bool.or_eq_false_iff] at refused
            have named : id.isSome = true := by
              cases id with
              | none => cases refused.1
              | some text => rfl
            rw [remaining, if_pos named]
            exact Finset.subset_erase.mpr ⟨subset_rfl, by simpa using refused.2⟩

/-- The connection is the only owner of the topic's publisher, or the publisher is gone. -/
def LastOwner (topic : String) (owner : Connection) (entity : Entity) (m : Machine) : Prop :=
  (∃ publisher, m.bridge.publishers.lookup topic = some publisher ∧ publisher.entity = entity ∧
    ∀ other ∈ publisher.owners, other = owner) ∨
  (m.bridge.publishers.lookup topic = none ∧ entity ∈ m.log.destroyed)

theorem Sent.destroyed {message : Option Message} {before after : Machine}
    (sent : Sent message before after) : after.log.destroyed = before.log.destroyed := by
  unfold History.destroyed
  cases sent <;> simp [Message.entry, Entry.destroyed?]

theorem GivenUp.lastOwner {after : Machine} {entity : Entity}
    (given : GivenUp env topic owner id m after) (last : LastOwner topic owner entity m) :
    LastOwner topic owner entity after := by
  have here {publisher : Publisher} (found : m.bridge.publishers.lookup topic = some publisher) :
      publisher.entity = entity ∧ ∀ other ∈ publisher.owners, other = owner := by
    rcases last with ⟨current, present, own⟩ | ⟨absent, -⟩
    · cases found.symm.trans present
      exact own
    · cases found.symm.trans absent
  rcases given with ⟨publisher, found, taken | taken⟩ | ⟨-, message, sent⟩
  · obtain ⟨middle, sent, enabled, rfl⟩ := taken
    refine .inr ⟨AList.lookup_erase _ _, List.mem_filterMap.mpr ⟨.destroy publisher.entity, ?_, ?_⟩⟩
    · exact List.mem_append_right _ (List.mem_singleton_self _)
    · exact congrArg some (here found).1
  · obtain ⟨next, failed, tables⟩ := taken.bridge
    obtain ⟨same, alone⟩ := here found
    refine .inl ⟨publisher.release owner id, ?_, same, fun other member => ?_⟩
    · rw [tables, Move.effect, AList.lookup_alter, if_pos rfl]
      exact congrArg (Option.map _) found
    · exact alone other (Publisher.mem_release member)
  · obtain ⟨next, failed, tables⟩ := sent.tables
    unfold LastOwner
    rw [tables, sent.destroyed]
    exact last

theorem GivenUp.outputs {after : Machine} (given : GivenUp env topic owner id m after) :
    after.bridge.outputs = m.bridge.outputs := by
  rcases given with ⟨publisher, -, taken | taken⟩ | ⟨-, message, sent⟩
  · exact taken.keeps Bridge.outputs (fun _ _ _ => rfl) fun _ => rfl
  · exact taken.keeps Bridge.outputs (fun _ _ _ => rfl) fun _ => rfl
  · obtain ⟨next, failed, tables⟩ := sent.tables
    rw [tables]

theorem Operation.Unadvertises.next {op : Operation} (unadvertises : op.Unadvertises owner topic id)
    (connected : owner ∈ m.bridge.outputs) :
    ¬ (perform env op m).1.IsPanic ∧ GivenUp env topic owner id m (m.next env op) := by
  obtain ⟨v, rfl, operation, named, identified⟩ := unadvertises
  exact unadvertise_command operation named identified connected

end Unadvertise

/-! ### Runs -/

/-- The operations of a run return, and meet a condition in the states they start from. -/
def Machine.Meets (env : Environment) (condition : Operation → Machine → Prop) :
    Machine → List Operation → Prop
  | _, [] => True
  | m, op :: rest =>
      ¬ (perform env op m).1.IsPanic ∧ condition op m ∧ Meets env condition (m.next env op) rest

section Runs

variable {env : Environment} {access : Access} {timeout : Duration} {owner : Connection}
  {topic : String} {m : Machine}

theorem Machine.Meets.reachable {condition : Operation → Machine → Prop} {ops : List Operation}
    (meets : m.Meets env condition ops) (reached : Reachable env access timeout m) :
    Reachable env access timeout (m.run env ops) := by
  induction ops generalizing m with
  | nil => exact reached
  | cons op rest inductionHypothesis =>
      obtain ⟨returns, -, meets⟩ := meets
      exact inductionHypothesis meets (.step op reached returns trivial)

/-- A connection holds only what it held before and what it advertises. -/
theorem run_registrations {ops : List Operation}
    (meets : m.Meets env (Operation.KeepsIds owner topic) ops) (shaped : Shaped m) :
    (m.run env ops).bridge.registrations topic owner ⊆
      advertisedIds owner topic ops ∪ m.bridge.registrations topic owner := by
  induction ops generalizing m with
  | nil => exact Finset.subset_union_right
  | cons op rest inductionHypothesis =>
      obtain ⟨returns, keeps, meets⟩ := meets
      have later := inductionHypothesis meets
        (Follows.shaped (performed_next op shaped returns).follows shaped)
      have split : advertisedIds owner topic (op :: rest) =
          (op.advertises? owner topic).toFinset ∪ advertisedIds owner topic rest := by
        unfold advertisedIds
        rw [List.filterMap_cons]
        cases op.advertises? owner topic with
        | none => exact (Finset.empty_union _).symm
        | some id => exact List.toFinset_cons
      rw [split]
      refine later.trans (Finset.union_subset ?_ ((next_registrations shaped returns keeps).trans ?_))
      · exact Finset.subset_union_right.trans Finset.subset_union_left
      · exact Finset.union_subset_union_left Finset.subset_union_left

/-- What is left after several identifiers have been given up is none of them. -/
theorem run_unadvertised {ends : List Operation} (entity : Entity)
    (connected : owner ∈ m.bridge.outputs) (reached : Reachable env access timeout m)
    (unadvertises : ∀ op ∈ ends, ∃ id, op.Unadvertises owner topic id) :
    Reachable env access timeout (m.run env ends) ∧
      (∀ id ∈ (m.run env ends).bridge.registrations topic owner,
        id ∈ m.bridge.registrations topic owner ∧ ∀ op ∈ ends, ¬ op.Unadvertises owner topic id) ∧
      (LastOwner topic owner entity m → LastOwner topic owner entity (m.run env ends)) := by
  induction ends generalizing m with
  | nil => exact ⟨reached, fun id member => ⟨member, by simp⟩, fun last => last⟩
  | cons op rest inductionHypothesis =>
      obtain ⟨id, gives⟩ := unadvertises op List.mem_cons_self
      obtain ⟨returns, given⟩ : _ ∧ GivenUp env topic owner id m (m.next env op) :=
        gives.next connected
      obtain ⟨reached', left, last⟩ := inductionHypothesis (by rw [given.outputs]; exact connected)
        (.step op reached returns trivial)
        fun other member => unadvertises other (List.mem_cons_of_mem _ member)
      refine ⟨reached', fun other member => ?_, last ∘ given.lastOwner⟩
      obtain ⟨held, spared⟩ := left other member
      obtain ⟨before, apart⟩ := mem_remaining (given.registrations held)
      refine ⟨before, fun further listed gives' => ?_⟩
      rcases List.mem_cons.mp listed with rfl | listed
      · obtain ⟨v, rfl, -, -, identified⟩ := gives
        obtain ⟨w, same, -, -, identified'⟩ := gives'
        cases same
        exact apart (Except.ok.inj (identified'.symm.trans identified))
      · exact spared further listed gives'

end Runs

/-- A publish of a connection that advertises the topic leaves the publishers as they are
if and only if it is rejected before its identifier is recorded or the identifier is
held. In runs of such publishes a connection holds only identifiers it advertised; and
giving those up takes it off the publisher, which is destroyed with its last owner. -/
theorem publish_keeps_advertisements {env : Environment} {access : Access} {timeout : Duration}
    (owner : Connection) (topic : String) :
    (∀ m, Reachable env access timeout m → ∀ publisher ids v,
      m.bridge.publishers.lookup topic = some publisher →
      publisher.owners.lookup owner = some ids → (Json.obj v).Publishes topic →
      ((m.next env (.command owner v)).bridge.publishers = m.bridge.publishers ↔
        ∀ id, m.bridge.Accepts (.obj v) topic publisher id → id ∈ ids)) ∧
    ∀ ops, (Machine.new access timeout).Meets env (Operation.KeepsIds owner topic) ops →
      let m := (Machine.new access timeout).run env ops
      m.bridge.registrations topic owner ⊆ advertisedIds owner topic ops ∧
      (m.bridge.registrations topic owner).card ≤ (advertisedIds owner topic ops).card ∧
      ∀ ends, (∀ op ∈ ends, ∃ id ∈ advertisedIds owner topic ops, op.Unadvertises owner topic id) →
        (∀ id ∈ advertisedIds owner topic ops, ∃ op ∈ ends, op.Unadvertises owner topic id) →
        ∀ publisher, m.bridge.publishers.lookup topic = some publisher →
          owner ∈ publisher.owners →
          (∀ left, (m.run env ends).bridge.publishers.lookup topic = some left →
            owner ∉ left.owners) ∧
          ((∀ other ∈ publisher.owners, other = owner) →
            (m.run env ends).bridge.publishers.lookup topic = none ∧
              publisher.entity ∈ (m.run env ends).log.destroyed) := by
  constructor
  · intro m reached publisher ids v found holds publishes
    have owns : owner ∈ publisher.owners := (AList.mem_iff_lookup _ _).mpr ⟨ids, holds⟩
    exact publish_same_iff found holds publishes
      (Reachable.registered reached owner (.publisher found owns))
  · intro ops meets m
    have subset : m.bridge.registrations topic owner ⊆ advertisedIds owner topic ops := by
      have held := run_registrations meets (shaped_new access timeout)
      have nothing : (Machine.new access timeout).bridge.registrations topic owner = ∅ := rfl
      rwa [nothing, Finset.union_empty] at held
    refine ⟨subset, Finset.card_le_card subset, fun ends gives covers publisher found owns => ?_⟩
    have reached : Reachable env access timeout m := meets.reachable .here
    obtain ⟨reached', left, last⟩ := run_unadvertised publisher.entity
      (Reachable.registered reached owner (.publisher found owns)) reached
      fun op member => (gives op member).imp fun _ => And.right
    have used := Reachable.used reached'
    have gone : ∀ left, (m.run env ends).bridge.publishers.lookup topic = some left →
        owner ∉ left.owners := by
      intro remains found' owns'
      obtain ⟨ids, holds⟩ := (AList.mem_iff_lookup _ _).mp owns'
      obtain ⟨id, member⟩ := Finset.nonempty_iff_ne_empty.mpr
        ((used.publishers topic remains found').registrations owner ids holds)
      have registered : id ∈ (m.run env ends).bridge.registrations topic owner := by
        unfold Bridge.registrations Publisher.ids
        rw [found', Option.elim_some, holds]
        exact member
      obtain ⟨held, spared⟩ := left id registered
      obtain ⟨op, listed, unadvertises⟩ := covers id (subset held)
      exact spared op listed unadvertises
    refine ⟨gone, fun alone => ?_⟩
    rcases last (.inl ⟨publisher, found, rfl, alone⟩) with ⟨remains, found', -, own⟩ | destroyed
    · refine absurd ?_ (used.publishers topic remains found').owners
      refine (AList.eq_empty_iff _).mpr fun other => ?_
      refine Option.eq_none_iff_forall_ne_some.mpr fun ids holds => ?_
      have member : other ∈ remains.owners := (AList.mem_iff_lookup _ _).mpr ⟨ids, holds⟩
      exact gone remains found' (own other member ▸ member)
    · exact destroyed

/-! ### A publish with an identifier of its own -/

/-- Advertise a topic under an identifier. -/
def advertiseChatter (id : String) : Operation :=
  .command 0 [("op", .str "advertise"), ("topic", .str "/chatter"),
    ("type", .str "std_msgs/msg/String"), ("id", .str id)]

/-- Publish on the topic under an identifier. -/
def publishChatter (id : String) : Object :=
  [("op", .str "publish"), ("topic", .str "/chatter"), ("msg", .obj []), ("id", .str id)]

/-- Give up an identifier of the topic. -/
def unadvertiseChatter (id : String) : Object :=
  [("op", .str "unadvertise"), ("topic", .str "/chatter"), ("id", .str id)]

/-- A publish under a new identifier is recorded, and keeps the publisher after the
connection has given up all it advertised. -/
theorem publish_keeps_advertisements_recorded :
    let m := ((Machine.new {} 5).next .steady (.connect 0)).next .steady (advertiseChatter "a")
    let after := m.next .steady (.command 0 (publishChatter "b"))
    Reachable .steady {} 5 m ∧ m.bridge.registrations "/chatter" 0 = {some "a"} ∧
      after.bridge.registrations "/chatter" 0 = {some "a", some "b"} ∧
      after.bridge.publishers ≠ m.bridge.publishers ∧
      (after.next .steady (.command 0 (unadvertiseChatter "a"))).bridge.registrations
        "/chatter" 0 = {some "b"} := by
  intro m after
  have before : m.bridge.registrations "/chatter" 0 = {some "a"} := by decide +kernel
  have recorded : after.bridge.registrations "/chatter" 0 = {some "a", some "b"} := by
    decide +kernel
  refine ⟨.step _ (.step _ .here (by decide +kernel) trivial) (by decide +kernel) trivial, before,
    recorded, fun same => ?_, by decide +kernel⟩
  unfold Bridge.registrations at before recorded
  rw [same, before] at recorded
  exact absurd recorded (by decide)

/-- A publish under the advertised identifier changes nothing, and the topic goes with
that identifier. -/
theorem publish_keeps_advertisements_steady :
    let m := ((Machine.new {} 5).next .steady (.connect 0)).next .steady (advertiseChatter "a")
    (m.next .steady (.command 0 (publishChatter "a"))).bridge.publishers = m.bridge.publishers := by
  intro m
  have reached : Reachable .steady {} 5 m :=
    .step _ (.step _ .here (by decide +kernel) trivial) (by decide +kernel) trivial
  have registered : (m.bridge.publishers.lookup "/chatter").map (fun publisher =>
      publisher.owners.lookup 0) = some (some {some "a"}) := by decide +kernel
  obtain ⟨publisher, found, holds⟩ := Option.map_eq_some_iff.mp registered
  refine ((publish_keeps_advertisements 0 "/chatter").1 m reached publisher _ _ found holds
    ⟨by decide, by decide⟩).mpr fun id accepts => ?_
  have identified : requestId (.obj (publishChatter "a")) = .ok (some "a") := by decide
  cases identified.symm.trans accepts.identified
  decide

end Rosbridge
