import Rosbridge.Refine.Samples

/-!
Readers that come, stay and leave.

Owns: `Joined`, the start of a membership; what `subscribe`, `unsubscribe` and the cleanup of a
connection do to a reader; and that a command, a tick and the end of a connection are stretches
of its membership.
-/

set_option autoImplicit false

namespace Rosbridge

open Foundation Program

/-- The sample that a topic keeps for clients that join later. -/
def Bridge.retainedOf (topic : String) (b : Bridge) : Option RosMessage :=
  (b.subscriptions.lookup topic).bind Subscription.retained

/-- The entity that the samples of a topic come from. -/
def Bridge.sourceOf (topic : String) (b : Bridge) : Option Entity :=
  (b.subscriptions.lookup topic).map Subscription.entity

/-- A client of which nothing is known yet but its registrations. -/
def ClientSubscription.fresh (client : ClientSubscription) : ClientSubscription :=
  { client with last := none, pending := [] }

/-- The connection becomes a reader of the topic. The retained sample is all that its new feed is
offered, and is delivered at once. The topic keeps it. -/
def Joined (connection : Connection) (topic : String) (before after : Machine) : Prop :=
  ∃ entity acts added current, after.log = before.log ++ added ∧ added.events = [] ∧
    after.bridge.reader connection topic = some (entity, current) ∧
    (∀ source, before.bridge.sourceOf topic = some source → source = entity) ∧
    after.bridge.retainedOf topic = before.bridge.retainedOf topic ∧
    Taking acts current.fresh current after.log ∧
    Feed.offered acts = (before.bridge.retainedOf topic).toList ∧
    (Feed.delivered acts).map Prod.fst = Feed.offered acts ∧
    (added.publishedTo connection topic).map Message.value =
      (Feed.delivered acts).map fun delivery => sampleValue topic delivery.1

variable {env : Environment} {connection owner : Connection} {topic other : String}
  {before middle after m : Machine} {v : Json} {α : Type}

/-! ### Leaving -/

/-- A registration that goes takes at most its own client along. -/
theorem Subscription.release_client (id : Option String) (subscription : Subscription)
    {client : ClientSubscription}
    (present : (subscription.release owner id).clients.lookup connection = some client) :
    ∃ old, subscription.clients.lookup connection = some old ∧ client.last = old.last ∧
      client.pending = old.pending := by
  unfold release at present
  dsimp only at present
  cases found : subscription.clients.lookup owner with
  | none =>
      rw [found] at present
      exact ⟨client, present, rfl, rfl⟩
  | some record =>
      rw [found] at present
      dsimp only at present
      generalize (if id.isSome = true then record.registrations.erase id else ∅) = left at present
      split at present
      · rw [AList.lookup_erase_if] at present
        split at present
        · cases present
        · exact ⟨client, present, rfl, rfl⟩
      · rw [AList.lookup_alter] at present
        split at present
        · next same =>
            obtain ⟨old, known, rfl⟩ := Option.map_eq_some_iff.mp present
            exact ⟨old, same ▸ known, rfl, rfl⟩
        · exact ⟨client, present, rfl, rfl⟩

/-- A change of the subscriptions that hands nothing over. -/
theorem Parted.of_reader {added : History} {b : Bridge} (quiet : added.publishedTo connection topic = [])
    (still : added.events = [])
    (reader : ∀ entity current, b.reader connection topic = some (entity, current) →
      ∃ client, m.bridge.reader connection topic = some (entity, client) ∧
        current.last = client.last ∧ current.pending = client.pending) :
    Parted connection topic m { bridge := b, log := m.log ++ added } :=
  ⟨⟨added, rfl, quiet, still⟩, reader⟩

theorem unsubscribe_parted (connection : Connection) (topic : String) (id : Option String) :
    wp (unsubscribe owner other id) (fun _ after => Parted connection topic m after) m := by
  have stay : Parted connection topic m m := (Unread.refl m).parted
  unfold unsubscribe
  refine wp_bind_tables ?_
  cases found : m.bridge.subscriptions.lookup other with
  | none => exact stay
  | some subscription =>
      refine wp_bind_ensure (fun _ => stay) fun _ => wp_bind_ensure (fun _ => stay) fun _ => ?_
      rw [wp_ite]
      split
      · show Parted connection topic m { log := m.log ++ [.destroy subscription.entity], .. }
        refine Parted.of_reader rfl rfl ?_
        intro entity current reads
        obtain ⟨known, present, same, joined⟩ := Bridge.reader_entity reads
        rw [AList.lookup_erase_if] at present
        split at present
        · cases present
        · refine ⟨current, ?_, rfl, rfl⟩
          rw [Bridge.reader_of_lookup present, joined, same]
          rfl
      · have altered : Parted connection topic m
            { bridge :=
                { m.bridge with
                  subscriptions :=
                    m.bridge.subscriptions.alter other (Subscription.release owner id) }
              log := m.log ++ [] } := by
          refine Parted.of_reader rfl rfl ?_
          intro entity current reads
          obtain ⟨known, present, same, joined⟩ := Bridge.reader_entity reads
          rw [AList.lookup_alter] at present
          split at present
          · next here =>
              subst here
              obtain ⟨old, stored, rfl⟩ := Option.map_eq_some_iff.mp present
              obtain ⟨client, held, last, pending⟩ := old.release_client id joined
              refine ⟨client, ?_, last, pending⟩
              rw [Bridge.reader_of_lookup stored, held, ← same]
              rfl
          · refine ⟨current, ?_, rfl, rfl⟩
            rw [Bridge.reader_of_lookup present, joined, same]
            rfl
        rwa [List.append_nil] at altered

/-! ### Joining -/

/-- The topic has a subscription afterwards. A new one has no reader and has kept no sample. -/
theorem shareSubscription_shares (connection : Connection) (topic typ : String) :
    wp (shareSubscription env other typ v)
      (fun outcome after => Unread connection topic m after ∧
        (after = m ∨ m.bridge.subscriptions.lookup other = none ∧
          ∀ subscription, after.bridge.subscriptions.lookup other = some subscription →
            subscription.retained = none ∧ subscription.clients = ∅) ∧
        (outcome = .ok () → ∃ subscription,
          after.bridge.subscriptions.lookup other = some subscription)) m := by
  unfold shareSubscription
  refine wp_bind_tables ?_
  cases found : m.bridge.subscriptions.lookup other with
  | some subscription =>
      rw [wp_ensure]
      split
      · exact ⟨.refl m, .inl rfl, fun _ => ⟨subscription, found⟩⟩
      · exact ⟨.refl m, .inl rfl, fun ended => by cases ended⟩
  | none =>
      have bystands : Bystands (newSubscriptionQos env other v) := by
        unfold newSubscriptionQos
        cases v.get "qos" with
        | some value => exact .ofExcept _
        | none => exact .bind (.call fun _ => ⟨rfl, rfl⟩) fun _ => .pure _
      have vacant {after : Machine} (aloof : Aloof m after) :
          after.bridge.subscriptions.lookup other = none := by
        rw [aloof.subscriptions]
        exact found
      have without {after : Machine} (aloof : Aloof m after) :
          ∀ subscription, after.bridge.subscriptions.lookup other = some subscription →
            subscription.retained = none ∧ subscription.clients = ∅ := by
        intro subscription present
        rw [vacant aloof] at present
        cases present
      refine wp_bind_of bystands.wp (fun qos m₁ aloof => ?_) (fun cause m₁ aloof => ?_)
        fun site m₁ aloof => ?_
      · have called (reply : Except Error Entity) :
            Aloof m { m₁ with log := m₁.log ++ [.subscription other typ qos reply] } :=
          aloof.trans ⟨⟨_, rfl, rfl, rfl⟩, rfl⟩
        refine wp_bind_call (fun cause _ => ?_) fun entity _ => ?_
        · exact ⟨(called _).unread connection topic, .inr ⟨rfl, without (called _)⟩, fun ended => by cases ended⟩
        · have before := (called (.ok entity)).unread connection topic
          refine ⟨⟨before.grown, ?_⟩, .inr ⟨rfl, fun subscription present => ?_⟩,
            fun _ => ⟨_, AList.lookup_insert _⟩⟩
          · rw [← before.reader]
            show ((m₁.bridge.subscriptions.insert other _).lookup topic).bind _ = _
            rw [AList.lookup_insert_if]
            split
            · next here =>
                subst here
                rw [Bridge.reader, vacant (called (.ok entity))]
                rfl
            · rfl
          · obtain rfl := Option.some.inj ((AList.lookup_insert _).symm.trans present)
            exact ⟨rfl, rfl⟩
      · exact ⟨aloof.unread connection topic, .inr ⟨rfl, without aloof⟩, fun ended => by cases ended⟩
      · exact ⟨aloof.unread connection topic, .inr ⟨rfl, without aloof⟩, fun ended => by cases ended⟩

/-- The bridge after a connection was made a client of a topic. -/
def Bridge.enroll (topic : String) (owner : Connection) (b : Bridge) : Bridge :=
  { b with subscriptions := b.subscriptions.alter topic (Subscription.join owner) }

/-- Nobody but the new client notices. -/
theorem Bridge.reader_enroll {b : Bridge}
    (known : ¬ (owner = connection ∧ other = topic) ∨ (b.reader connection topic).isSome) :
    (b.enroll other owner).reader connection topic = b.reader connection topic := by
  unfold reader enroll
  rw [AList.lookup_alter]
  split
  · next here =>
      subst here
      cases found : b.subscriptions.lookup topic with
      | none => rfl
      | some subscription =>
          rw [Option.map_some, Option.bind_some, Option.bind_some]
          unfold Subscription.join
          split
          · rfl
          · next absent =>
              have apart : connection ≠ owner := by
                rintro rfl
                rcases known with elsewhere | member
                · exact elsewhere ⟨rfl, rfl⟩
                · rw [Bridge.reader_of_lookup found, AList.lookup_eq_none.mpr absent] at member
                  cases member
              rw [AList.lookup_insert_ne apart]
  · rfl

/-- A change of one subscription that is about its clients. -/
theorem Bridge.retainedOf_alter (b : Bridge) {change : Subscription → Subscription}
    (same : ∀ subscription, (change subscription).retained = subscription.retained) :
    Bridge.retainedOf topic { b with subscriptions := b.subscriptions.alter other change } =
      b.retainedOf topic := by
  unfold retainedOf
  rw [AList.lookup_alter]
  split
  · next here =>
      rw [← here]
      cases b.subscriptions.lookup topic with
      | none => rfl
      | some subscription => exact same subscription
  · rfl

theorem Bridge.retainedOf_enroll (b : Bridge) :
    (b.enroll other owner).retainedOf topic = b.retainedOf topic :=
  b.retainedOf_alter fun subscription => by
    unfold Subscription.join
    split <;> rfl

theorem Bridge.retainedOf_alterClient (b : Bridge)
    (change : ClientSubscription → ClientSubscription) :
    (b.alterClient other owner change).retainedOf topic = b.retainedOf topic :=
  b.retainedOf_alter fun _ => rfl

/-- A new client has heard nothing yet. -/
theorem Bridge.reader_enrolled {b : Bridge} {subscription : Subscription}
    (found : b.subscriptions.lookup topic = some subscription)
    (absent : owner ∉ subscription.clients) :
    (b.enroll topic owner).reader owner topic =
      some (subscription.entity, { registrations := ∅, last := none, pending := [] }) := by
  unfold reader enroll
  rw [AList.lookup_alter, if_pos rfl, found, Option.map_some, Option.bind_some]
  unfold Subscription.join
  rw [if_neg absent, AList.lookup_insert]
  rfl

variable {options : Options} {subscription : Subscription}

/-- Whoever else joins, or joins elsewhere. -/
theorem joinSubscription_unread (apart : ¬ (owner = connection ∧ other = topic)) :
    wp (joinSubscription env owner other options v)
      (fun _ after => Unread connection topic m after) m := by
  have admitted : Unread connection topic m { m with bridge := m.bridge.enroll other owner } :=
    ⟨(Unread.refl m).grown, Bridge.reader_enroll (.inl apart)⟩
  unfold joinSubscription
  refine wp_bind_tables (wp_bind_unwrap (fun _ => .refl m) fun subscription _ => ?_)
  refine wp_bind_update (wp_bind_lift (fun _ _ => admitted) fun registration _ => ?_)
  have enrolled := admitted.trans (.alterClient (ClientSubscription.register registration options)
    apart)
  refine wp_bind_update ?_
  cases if owner ∈ subscription.clients then none else subscription.retained with
  | none => exact enrolled
  | some sample =>
      show wp (instant env >>= _) _ _
      rw [wp_bind, instant, wp_ask, andThen_ok]
      refine wp_bind_update ?_
      refine wp_mono (deliverTopic_delivers other sample options) ?_
      rintro outcome after ⟨-, handed⟩
      have none : [Delivery.mk owner other sample options].filter
          (Delivery.reaches connection topic) = [] := by
        simpa [Delivery.reaches] using fun same here => apart ⟨same, here⟩
      exact Unvisited.unread
        ⟨(enrolled.trans Unread.instant).trans (.alterClient _ apart), none⟩ handed

/-- A reader that registers again hears nothing. -/
theorem joinSubscription_parted (member : (m.bridge.reader owner topic).isSome) :
    wp (joinSubscription env owner topic options v) (fun _ after => Parted owner topic m after) m := by
  obtain ⟨⟨entity, client⟩, reads⟩ := Option.isSome_iff_exists.mp member
  obtain ⟨subscription, found, rfl, joined⟩ := Bridge.reader_entity reads
  have admitted : Unread owner topic m { m with bridge := m.bridge.enroll topic owner } :=
    ⟨(Unread.refl m).grown, Bridge.reader_enroll (.inr member)⟩
  unfold joinSubscription
  refine wp_bind_tables (wp_bind_unwrap (fun _ => (Unread.refl m).parted) fun current same => ?_)
  rw [found] at same
  cases same
  refine wp_bind_update (wp_bind_lift (fun _ _ => admitted.parted) fun registration _ => ?_)
  refine wp_bind_update ?_
  rw [if_pos ((AList.mem_iff_lookup _ _).mpr ⟨client, joined⟩)]
  refine ⟨⟨[], (List.append_nil _).symm, rfl, rfl⟩, fun entity current reads' => ?_⟩
  have altered : ((m.bridge.enroll topic owner).alterClient topic owner
      (ClientSubscription.register registration options)).reader owner topic =
        some (entity, current) := reads'
  rw [Bridge.reader_alterClient, if_pos ⟨rfl, rfl⟩, admitted.reader, reads] at altered
  cases altered
  exact ⟨client, reads, rfl, rfl⟩

/-- A new reader is offered what the topic has kept. -/
theorem joinSubscription_joined {id : Option String} (identified : requestId v = .ok id)
    (found : m.bridge.subscriptions.lookup topic = some subscription)
    (absent : owner ∉ subscription.clients) :
    wp (joinSubscription env owner topic options v) (fun _ after => Joined owner topic m after) m := by
  have source : ∀ source, m.bridge.sourceOf topic = some source → source = subscription.entity := by
    intro source known
    rw [Bridge.sourceOf, found] at known
    exact (Option.some.inj known).symm
  have kept : m.bridge.retainedOf topic = subscription.retained := by
    rw [Bridge.retainedOf, found]
    rfl
  unfold joinSubscription
  refine wp_bind_tables (wp_bind_unwrap (fun none => ?_) fun current same => ?_)
  · rw [found] at none
    cases none
  rw [found] at same
  cases same
  refine wp_bind_update (wp_bind_lift (fun cause refused => ?_) fun registration _ => ?_)
  · rw [identified] at refused
    cases refused
  refine wp_bind_update ?_
  rw [if_neg absent]
  have enrolled : ((m.bridge.enroll topic owner).alterClient topic owner
      (ClientSubscription.register registration options)).reader owner topic =
        some (subscription.entity, ClientSubscription.register registration options
          { registrations := ∅, last := none, pending := [] }) := by
    rw [Bridge.reader_alterClient, if_pos ⟨rfl, rfl⟩, Bridge.reader_enrolled found absent]
    rfl
  cases retained : subscription.retained with
  | none =>
      refine ⟨subscription.entity, [], [], _, (List.append_nil _).symm, rfl, enrolled, source,
        ?_, .none _ _, ?_, rfl, rfl⟩
      · show ((m.bridge.enroll topic owner).alterClient topic owner _).retainedOf topic = _
        rw [Bridge.retainedOf_alterClient, Bridge.retainedOf_enroll]
      · rw [kept, retained]
        rfl
  | some sample =>
      show wp (instant env >>= _) _ _
      rw [wp_bind, instant, wp_ask, andThen_ok]
      refine wp_bind_update ?_
      refine wp_mono (deliverTopic_delivers topic sample options) ?_
      rintro outcome after ⟨-, handed⟩
      obtain ⟨added, grown, published, still⟩ := handed.grown
      generalize env.instant m.log = now at grown handed
      refine ⟨subscription.entity, [.direct sample now], .instant now :: added,
        { registrations := (∅ : Table _ _).insert registration options, last := some now,
          pending := [] }, ?_, ?_, ?_, source, ?_, ⟨.single ?_, rfl, by simp, ?_⟩, ?_, rfl, ?_⟩
      · rw [grown, List.append_assoc]
        rfl
      · exact still
      · rw [handed.reader]
        show (((m.bridge.enroll topic owner).alterClient topic owner _).alterClient topic owner
          _).reader owner topic = _
        rw [Bridge.reader_alterClient, if_pos ⟨rfl, rfl⟩, enrolled]
        rfl
      · obtain ⟨next, failed, tables⟩ := handed.tables
        rw [tables]
        show (((m.bridge.enroll topic owner).alterClient topic owner _).alterClient topic owner
          _).retainedOf topic = _
        rw [Bridge.retainedOf_alterClient, Bridge.retainedOf_alterClient, Bridge.retainedOf_enroll]
      · exact Feed.Step.direct rfl fun _ => nofun
      · intro delivery member
        obtain rfl := List.mem_singleton.mp member
        rw [grown]
        simp
      · rw [kept, retained]
        rfl
      · have values := @publishedTo_deliveries owner topic added
          [⟨owner, topic, sample, options⟩] published
        show (added.publishedTo owner topic).map Message.value = _
        rw [values]
        simp [Delivery.reaches, Feed.delivered, Feed.Act.delivered?]

/-- What happens before a membership begins. -/
theorem Joined.earlier (joined : Joined connection topic middle after)
    (unread : Unread connection topic before middle)
    (source : ∀ source, before.bridge.sourceOf topic = some source →
      middle.bridge.sourceOf topic = some source)
    (kept : before.bridge.retainedOf topic = middle.bridge.retainedOf topic) :
    Joined connection topic before after := by
  obtain ⟨entity, acts, added, current, grown, still, reads, same, keeps, taking, offered,
    delivered, handed⟩ := joined
  obtain ⟨earlier, grown', quiet, still'⟩ := unread.grown
  refine ⟨entity, acts, earlier ++ added, current, ?_, ?_, reads,
    fun origin known => same origin (source origin known), keeps.trans kept.symm, taking, ?_,
    delivered, ?_⟩
  · rw [grown, grown', List.append_assoc]
  · rw [History.events_append, still', still, List.append_nil]
  · rw [kept, offered]
  · rw [History.publishedTo_append, quiet, List.nil_append, handed]

/-- What `subscribe` is to a reader: nothing, if it is about another one; else the beginning of
its membership, or a change of its registrations. -/
theorem subscribe_reads (connection : Connection) (topic : String) {id : Option String}
    (identified : requestId v = .ok id) :
    wp (subscribe env owner v)
      (fun _ after => Parted connection topic m after ∨
        (owner = connection ∧ name v "topic" = .ok topic) ∧
          m.bridge.reader connection topic = none ∧ Joined connection topic m after) m := by
  have stay : Parted connection topic m m := (Unread.refl m).parted
  unfold subscribe
  refine wp_bind_lift (fun _ _ => .inl stay) fun other named => ?_
  refine wp_bind_lift (fun _ _ => .inl stay) fun options _ => ?_
  refine wp_bind_of (resolve_bystands env v _ _).wp (fun typ m₁ aloof => ?_)
    (fun _ m₁ aloof => .inl (aloof.unread connection topic).parted)
    fun _ m₁ aloof => .inl (aloof.unread connection topic).parted
  have resolved := aloof.unread connection topic
  refine wp_bind_of (shareSubscription_shares connection topic typ) ?_ ?_ ?_
  · rintro _ m₂ ⟨shares, origin, shared⟩
    have sofar := resolved.trans shares
    by_cases own : owner = connection ∧ other = topic
    · obtain ⟨rfl, rfl⟩ := own
      obtain ⟨subscription, found⟩ := shared rfl
      cases known : m.bridge.reader owner other with
      | some entry =>
          have member : (m₂.bridge.reader owner other).isSome := by
            rw [sofar.reader, known]
            rfl
          refine wp_mono (joinSubscription_parted member) ?_
          exact fun _ after parted => .inl (sofar.parted.trans parted)
      | none =>
          have absent : owner ∉ subscription.clients := by
            rw [← AList.lookup_eq_none]
            have none := sofar.reader.trans known
            rw [Bridge.reader_of_lookup found] at none
            exact Option.map_eq_none_iff.mp none
          refine wp_mono (joinSubscription_joined identified found absent) ?_
          intro _ after joined
          refine .inr ⟨⟨rfl, named⟩, rfl, joined.earlier sofar ?_ ?_⟩
          · intro source before
            rw [Bridge.sourceOf, ← aloof.subscriptions] at before
            rcases origin with rfl | ⟨vacant, -⟩
            · exact before
            · rw [vacant] at before
              cases before
          · rw [Bridge.retainedOf, Bridge.retainedOf, ← aloof.subscriptions]
            rcases origin with rfl | ⟨vacant, fresh⟩
            · rfl
            · rw [vacant, found]
              exact (fresh subscription found).1.symm
    · refine wp_mono (joinSubscription_unread own) ?_
      exact fun _ after unread => .inl (sofar.trans unread).parted
  · rintro cause m₂ ⟨shares, -⟩
    exact .inl (resolved.trans shares).parted
  · rintro site m₂ ⟨shares, -⟩
    exact .inl (resolved.trans shares).parted

/-- What happens after a membership began. -/
theorem Joined.later (joined : Joined connection topic before middle) (aloof : Aloof middle after) :
    Joined connection topic before after := by
  obtain ⟨entity, acts, added, current, grown, still, reads, same, keeps, taking, offered,
    delivered, handed⟩ := joined
  have unread := aloof.unread connection topic
  obtain ⟨further, grown', quiet', still'⟩ := unread.grown
  have longer : middle.log ⊆ after.log := by
    rw [grown']
    exact List.subset_append_left _ _
  have kept : after.bridge.retainedOf topic = before.bridge.retainedOf topic := by
    rw [← keeps, Bridge.retainedOf, aloof.subscriptions]
    rfl
  refine ⟨entity, acts, added ++ further, current, ?_, ?_, unread.reader.trans reads, same, kept,
    taking.grow longer, offered, delivered, ?_⟩
  · rw [grown', grown, List.append_assoc]
  · rw [History.events_append, still, still', List.append_nil]
  · rw [History.publishedTo_append, quiet', List.append_nil, handed]

/-! ### Commands and cleanup -/

instance : Std.Refl (Parted connection topic) := ⟨fun m => (Unread.refl m).parted⟩

instance : IsTrans Machine (Parted connection topic) := ⟨fun _ _ _ => Parted.trans⟩

theorem Aloof.parted (connection : Connection) (topic : String) (aloof : Aloof before after) :
    Parted connection topic before after := (aloof.unread connection topic).parted

theorem Parted.of_bystands {program : Step α} (bystands : Bystands program) :
    Within (Parted connection topic) program :=
  bystands.mono fun _ _ aloof => aloof.parted connection topic

section Handlers

variable (env connection topic)

theorem unsubscribe_parts (owner : Connection) (other : String) (id : Option String) :
    Within (Parted connection topic) (unsubscribe owner other id) :=
  fun _ => unsubscribe_parted connection topic id

/-- A command is no more to a reader than a change of its registrations or its end, or it is a
subscription that begins its membership. -/
theorem command_reads (owner : Connection) (v : Json) :
    wp (command env owner v)
      (fun _ after => Parted connection topic m after ∨
        (owner = connection ∧ name v "topic" = .ok topic) ∧
          m.bridge.reader connection topic = none ∧ Joined connection topic m after) m := by
  have stay : Parted connection topic m m := (Unread.refl m).parted
  by_cases connected : owner ∈ m.bridge.outputs
  · apply wp_command_connected connected
    have answered {middle : Machine} (cause : Error)
        (sofar : Parted connection topic m middle ∨
          (owner = connection ∧ name v "topic" = .ok topic) ∧
            m.bridge.reader connection topic = none ∧ Joined connection topic m middle) :
        wp (error env owner v cause) (fun _ after => Parted connection topic m after ∨
          (owner = connection ∧ name v "topic" = .ok topic) ∧
            m.bridge.reader connection topic = none ∧ Joined connection topic m after) middle := by
      refine wp_mono (error_bystands env owner v cause).wp ?_
      intro _ after aloof
      rcases sofar with parted | ⟨own, outside, joined⟩
      · exact .inl (parted.trans (aloof.parted connection topic))
      · exact .inr ⟨own, outside, joined.later aloof⟩
    have executes : wp (execute env owner v) (fun _ after => Parted connection topic m after ∨
        (owner = connection ∧ name v "topic" = .ok topic) ∧
          m.bridge.reader connection topic = none ∧ Joined connection topic m after) m := by
      unfold execute
      refine wp_bind_lift (fun _ _ => .inl stay) fun id identified => ?_
      refine wp_bind_lift (fun _ _ => .inl stay) fun op _ => ?_
      refine wp_bind_tables (wp_bind_lift (fun _ _ => .inl stay) fun _ _ => ?_)
      by_cases subscribes : op = "subscribe"
      · subst subscribes
        exact subscribe_reads connection topic identified
      · have operates : Within (Parted connection topic) (operate env owner op v) :=
          operate_within env (fun _ _ aloof => aloof.parted connection topic) (absurd · subscribes)
            (unsubscribe_parts connection topic owner)
        refine wp_mono operates.wp ?_
        exact fun _ after parted => .inl parted
    refine wp_mono executes ?_
    rintro (value | cause | site) after sofar
    · exact sofar
    · exact answered cause sofar
    · exact sofar
  · unfold command
    refine wp_bind_tables ?_
    rw [wp_ite, if_neg connected]
    exact .inl stay

end Handlers

/-! ### Ticks -/

/-- One operation, as a reader that was there before it sees it: the samples of its entity that
were polled are offered to its feed, and what the feed delivers is handed over. -/
def Attended (connection : Connection) (topic : String) (before after : Machine) : Prop :=
  ∀ entity client, before.bridge.reader connection topic = some (entity, client) →
    ∃ acts added current, after.log = before.log ++ added ∧
      Taking acts client current after.log ∧
      Feed.offered acts = samplesOf entity added.events ∧
      (added.publishedTo connection topic).map Message.value =
        (Feed.delivered acts).map (fun delivery => sampleValue topic delivery.1) ∧
      ∀ source last, after.bridge.reader connection topic = some (source, last) →
        source = entity ∧ last.last = current.last ∧ last.pending = current.pending

theorem Parted.attended (parted : Parted connection topic before after) :
    Attended connection topic before after := by
  intro entity client reads
  obtain ⟨added, grown, quiet, still⟩ := parted.grown
  refine ⟨[], added, client, grown, .none client _, ?_, ?_, fun source last reads' => ?_⟩
  · rw [still]
    rfl
  · rw [quiet]
    rfl
  · obtain ⟨old, reads'', kept⟩ := parted.reader source last reads'
    rw [reads] at reads''
    cases reads''
    exact ⟨rfl, kept⟩

/-- A poll, the events it brought, and the end of the tick. -/
theorem Attended.of_tick {polled : History} {events : List Event}
    (brought : History.events polled = events) (quiet : History.published polled = [])
    (fed : Fed connection topic events { before with log := before.log ++ polled } middle)
    (parted : Parted connection topic middle after) : Attended connection topic before after := by
  intro entity client reads
  obtain ⟨acts, added, current, grown, still, reads', taking, offered, handed⟩ :=
    fed entity client reads
  obtain ⟨further, grown', quiet', still'⟩ := parted.grown
  have longer : middle.log ⊆ after.log := by
    rw [grown']
    exact List.subset_append_left _ _
  refine ⟨acts, polled ++ added ++ further, current, ?_, taking.grow longer, ?_, ?_,
    fun source last reads'' => ?_⟩
  · rw [grown', grown]
    simp only [List.append_assoc]
  · rw [History.events_append, History.events_append, brought, still, still', List.append_nil,
      List.append_nil, offered]
  · rw [History.publishedTo_append, History.publishedTo_append, quiet', List.append_nil,
      History.publishedTo_of_published quiet, List.nil_append, handed]
  · obtain ⟨old, here, kept⟩ := parted.reader source last reads''
    rw [reads'] at here
    cases here
    exact ⟨rfl, kept⟩

section Ticks

theorem Balanced.distinct (balanced : Balanced m) (fresh : Fresh m.log) : m.bridge.held.Nodup := by
  have acquired : (m.log.acts.filterMap Act.acquired?).Nodup := by
    rw [m.log.acts_acquired]
    exact fresh.entities
  exact (Ledger.nodup balanced acquired).2

theorem handleEvent_fed (connection : Connection) (topic : String) {event : Event}
    (monotone : env.Monotone) (distinct : m.bridge.held.Nodup) :
    wp (handleEvent env event) (fun _ after => Fed connection topic [event] m after) m := by
  have aside {after : Machine} (aloof : Aloof m after)
      (none : ∀ entity, samplesOf entity [event] = []) : Fed connection topic [event] m after :=
    (aloof.unread connection topic).fed fun entity _ _ => none entity
  cases event with
  | message entity sample =>
      show wp (attempt (topicMessage env entity sample) >>= fun _ => pure ()) _ m
      rw [wp_bind, wp_attempt]
      refine wp_mono (topicMessage_fed connection topic monotone distinct) ?_
      rintro (value | cause | site) after fed
      · exact fed
      · exact fed
      · exact fed
  | response entity sequence values =>
      have bystands : Bystands (handleEvent env (.response entity sequence values)) :=
        .bind (.attempt (response_bystands env entity sequence values)) fun _ => .pure ()
      exact wp_mono bystands.wp fun _ after aloof => aside aloof fun _ => rfl
  | request entity request args =>
      have bystands := requestEvent_bystands env entity request args
      exact wp_mono bystands.wp fun _ after aloof => aside aloof fun _ => rfl

/-- The events of a poll, one after the other. -/
theorem events_fed (connection : Connection) (topic : String) (monotone : env.Monotone)
    (shaped : Shaped m) (balanced : Fresh m.log → Balanced m) (events : List Event) :
    wp (forEach events (handleEvent env)) (fun outcome after => ¬ outcome.IsPanic →
      outcome = .ok () ∧ m.log <+: after.log ∧
        (Fresh after.log → Fed connection topic events m after)) m := by
  induction events generalizing m with
  | nil => exact fun _ => ⟨rfl, List.prefix_rfl, fun _ => (Unread.refl m).nothing⟩
  | cons event rest inductionHypothesis =>
      have first : wp (handleEvent env event) (fun _ after =>
          m.bridge.held.Nodup → Fed connection topic [event] m after) m := by
        by_cases distinct : m.bridge.held.Nodup
        · exact wp_mono (handleEvent_fed connection topic monotone distinct) fun _ _ fed _ => fed
        · exact fun held => absurd held distinct
      rw [wp_forEach_cons]
      refine wp_mono (wp_and handleEvent_spec first) ?_
      rintro (value | cause | site) middle ⟨ends, fed⟩
      · have run := EventDone.follows ends
        have grown := reach_log_grows run
        have carried : Fresh middle.log → Balanced middle := fun fresh =>
          Follows.carry run (fun _ _ _ taken => taken.balanced) shaped fresh
            (balanced (fresh.inherit grown))
        rw [andThen_ok]
        refine wp_mono (inductionHypothesis (Follows.shaped run shaped) carried) ?_
        intro outcome after later returned
        obtain ⟨ended, grown', fed'⟩ := later returned
        refine ⟨ended, grown.trans grown', fun fresh => ?_⟩
        have early : Fresh m.log := fresh.inherit (grown.trans grown')
        exact (fed (Balanced.distinct (balanced early) early)).trans (fed' fresh)
      · exact ends.elim
      · exact fun panics => absurd trivial panics

/-- The part of a tick that follows its events. -/
theorem settleTick_reads (connection : Connection) (topic : String) :
    wp (settleTick env) (fun _ after => ∃ middle, m.log <+: middle.log ∧
      Fed connection topic [] m middle ∧ Parted connection topic middle after) m := by
  have lengthens {before after : Machine} (aloof : Aloof before after) :
      before.log <+: after.log := by
    obtain ⟨added, grown, -⟩ := aloof.grown
    exact ⟨added, grown.symm⟩
  have early {after : Machine} (aloof : Aloof m after) : ∃ middle, m.log <+: middle.log ∧
      Fed connection topic [] m middle ∧ Parted connection topic middle after :=
    ⟨after, lengthens aloof, (aloof.unread connection topic).nothing, (Unread.refl after).parted⟩
  unfold settleTick
  rw [wp_bind, instant, wp_ask, andThen_ok]
  generalize env.instant m.log = now
  have looked : Aloof m { m with log := m.log ++ [.instant now] } := ⟨⟨_, rfl, rfl, rfl⟩, rfl⟩
  refine wp_bind_of (expireGoals_bystands env now).wp (fun _ m₁ aloof => ?_)
    (fun _ m₁ aloof => early (looked.trans aloof)) fun _ m₁ aloof => early (looked.trans aloof)
  have noted : .instant now ∈ m₁.log := by
    obtain ⟨added, grown, -⟩ := aloof.grown
    rw [grown]
    simp
  have sofar := ((looked.trans aloof).unread connection topic).nothing
  have delivered : wp (deliverPending env now) (fun outcome after => outcome = .ok () ∧
      Fed connection topic [] m₁ after ∧ m₁.log <+: after.log) m₁ := by
    refine wp_mono (wp_and (deliverPending_fed connection topic noted)
      (deliverPending_returns (.refl m₁))) ?_
    rintro _ after ⟨⟨rfl, fed⟩, reach⟩
    exact ⟨rfl, fed, reach_log_grows reach⟩
  refine wp_bind_returns delivered fun m₂ spec => ?_
  obtain ⟨fed, grown⟩ := spec
  have rest : Within (Parted connection topic) (do
      expireCalls env now
      expireExternal env now
      forgetGoals env
      dropFailed env
      dropClosed env) :=
    endTick_within env (fun _ _ aloof => aloof.parted connection topic)
      (unsubscribe_parts connection topic) now
  have longer := (lengthens (looked.trans aloof)).trans grown
  exact wp_mono rest.wp fun _ after parted => ⟨m₂, longer, sofar.trans fed, parted⟩

/-- A tick, as a reader sees it. -/
theorem tick_attended (connection : Connection) (topic : String) (monotone : env.Monotone)
    (shaped : Shaped m) (balanced : Fresh m.log → Balanced m) :
    wp (tick env) (fun outcome after => ¬ outcome.IsPanic → Fresh after.log →
      Attended connection topic m after) m := by
  unfold tick Backend.poll
  refine wp_bind_call (fun cause _ _ _ => ?_) fun events _ => ?_
  · have noted : Aloof m { m with log := m.log ++ [.poll (.error cause)] } := ⟨⟨_, rfl, rfl, rfl⟩, rfl⟩
    exact (noted.parted connection topic).attended
  have polled : Transition env (.polled events) m { m with log := m.log ++ [.poll (.ok events)] } :=
    Move.transition (.polled events) rfl trivial
  have begun : Fresh (m.log ++ [.poll (.ok events)]) →
      Balanced { m with log := m.log ++ [.poll (.ok events)] } := fun fresh =>
    polled.balanced shaped fresh (balanced (fresh.inherit (List.prefix_append _ _)))
  refine wp_bind_of (events_fed connection topic monotone (polled.shaped shaped) begun events)
    ?_ ?_ ?_
  · intro _ m₁ handled
    obtain ⟨-, -, fed⟩ := handled (by simp)
    refine wp_mono (settleTick_reads connection topic) ?_
    rintro outcome after ⟨middle, grown, idle, parted⟩ - fresh
    obtain ⟨further, grown', -⟩ := parted.grown
    have earlier : Fresh m₁.log := fresh.inherit (grown.trans ⟨further, grown'.symm⟩)
    have heard := (fed earlier).trans idle
    rw [List.append_nil] at heard
    have brought : History.events [.poll (.ok events)] = events := List.append_nil events
    exact Attended.of_tick brought rfl heard parted
  · intro cause m₁ handled
    obtain ⟨ended, -⟩ := handled (by simp)
    cases ended
  · exact fun site m₁ _ panics => absurd trivial panics

end Ticks

/-- Every operation, as a reader sees it. -/
theorem operation_attended (connection : Connection) (topic : String) (op : Operation)
    (monotone : env.Monotone) (shaped : Shaped m) (balanced : Fresh m.log → Balanced m)
    (returns : ¬ (perform env op m).1.IsPanic) (fresh : Fresh (m.next env op).log) :
    Attended connection topic m (m.next env op) := by
  have of_parts {program : Step Unit} (parts : Within (Parted connection topic) program) :
      Attended connection topic m (program m).2 := (parts m).attended
  have stands (before after : Machine) (aloof : Aloof before after) :
      Parted connection topic before after := aloof.parted connection topic
  cases op with
  | connect owner => exact of_parts (.of_bystands (connect_bystands owner))
  | command owner v =>
      have reads := command_reads env connection topic owner (.obj v) (m := m)
      rw [wp_iff] at reads
      rcases reads with parted | ⟨-, outside, -⟩
      · exact parted.attended
      · intro entity client reads
        rw [outside] at reads
        cases reads
  | tick =>
      have attended := tick_attended connection topic monotone shaped balanced
      rw [wp_iff] at attended
      exact attended returns fresh
  | disconnect owner =>
      apply of_parts
      exact disconnect_within env stands (unsubscribe_parts connection topic) owner
  | shutdown => exact of_parts (shutdown_within env stands (unsubscribe_parts connection topic))

end Rosbridge
