import Rosbridge.Foundation.Feed
import Rosbridge.Refine.Bystanders

/-!
Samples on their way to one reader.

Owns: the reader of a topic as a feed; `Fed`, a stretch of its membership in which samples are
offered and delivered; `Parted`, one in which it may leave; and that every handler of an
operation is one of these.
-/

set_option autoImplicit false

namespace Rosbridge

open Foundation Program

/-! ### Readers -/

/-- A client of a topic's subscription, with the entity its samples come from. -/
def Bridge.reader (connection : Connection) (topic : String) (b : Bridge) :
    Option (Entity × ClientSubscription) :=
  (b.subscriptions.lookup topic).bind fun subscription =>
    (subscription.clients.lookup connection).map fun client => (subscription.entity, client)

/-- A client with the limits that its registrations give it together. -/
def ClientSubscription.feed (client : ClientSubscription) : Feed RosMessage where
  last := client.last
  pending := client.pending
  throttle := client.options.throttle
  queue := client.options.queue

/-- What a sample looks like to a client. -/
def sampleValue (topic : String) (sample : RosMessage) : Object :=
  [("op", .str "publish"), ("topic", .str topic), ("msg", sample.json)]

/-- The topic that a message names. -/
def Message.topic (message : Message) : Option String :=
  (message.value.lookup "topic").bind Json.asStr

/-- The message of a delivery. -/
def Delivery.message (delivery : Delivery) : Message :=
  ⟨delivery.owner, sampleValue delivery.topic delivery.sample, delivery.options⟩

/-- The messages that carry a sample of a topic to a connection. -/
def History.publishedTo (connection : Connection) (topic : String) (log : History) :
    List Message :=
  log.published.filter fun message =>
    decide (message.owner = connection) && decide (message.topic = some topic)

/-- The sample that an event brings from an entity. -/
def Event.sampleOf? (entity : Entity) : Event → Option RosMessage
  | .message other sample => if other = entity then some sample else none
  | _ => none

/-- The samples that events bring from an entity. -/
def samplesOf (entity : Entity) (events : List Event) : List RosMessage :=
  events.filterMap (Event.sampleOf? entity)

@[simp]
theorem History.publishedTo_append {connection : Connection} {topic : String}
    (log more : History) : (log ++ more).publishedTo connection topic =
      log.publishedTo connection topic ++ more.publishedTo connection topic := by
  simp [History.publishedTo]

theorem History.publishedTo_of_published {log : History} (quiet : log.published = [])
    (connection : Connection) (topic : String) : log.publishedTo connection topic = [] := by
  rw [History.publishedTo, quiet, List.filter_nil]

theorem samplesOf_append (entity : Entity) (events more : List Event) :
    samplesOf entity (events ++ more) = samplesOf entity events ++ samplesOf entity more :=
  List.filterMap_append

/-- Whether a delivery goes to a connection on a topic. -/
def Delivery.reaches (connection : Connection) (topic : String) (delivery : Delivery) : Bool :=
  decide (delivery.owner = connection) && decide (delivery.topic = topic)

variable {env : Environment} {connection owner : Connection} {topic other : String}
  {before middle after m : Machine} {events more : List Event} {α β : Type}

/-! ### Stretches of a membership -/

/-- Nothing is handed to the reader, no event comes in, and its registration stays. -/
structure Unread (connection : Connection) (topic : String) (before after : Machine) : Prop where
  grown : ∃ added : History, after.log = before.log ++ added ∧
    added.publishedTo connection topic = [] ∧ added.events = []
  reader : after.bridge.reader connection topic = before.bridge.reader connection topic

/-- A feed takes these acts, at times that were read off the clock. The limits stay. -/
structure Taking (acts : List (Feed.Act RosMessage)) (client current : ClientSubscription)
    (log : History) : Prop where
  run : Trail Feed.Step acts client.feed current.feed
  registrations : current.registrations = client.registrations
  untuned : ∀ throttle queue, .retuned throttle queue ∉ acts
  timed : ∀ delivery ∈ Feed.delivered acts, .instant delivery.2 ∈ log

/-- While the reader stays, each sample of the entity that the events bring is offered to its
feed, and what the feed delivers is handed over. -/
def Fed (connection : Connection) (topic : String) (events : List Event)
    (before after : Machine) : Prop :=
  ∀ entity client, before.bridge.reader connection topic = some (entity, client) →
    ∃ acts added current, after.log = before.log ++ added ∧ added.events = [] ∧
      after.bridge.reader connection topic = some (entity, current) ∧
      Taking acts client current after.log ∧
      Feed.offered acts = samplesOf entity events ∧
      (added.publishedTo connection topic).map Message.value =
        (Feed.delivered acts).map fun delivery => sampleValue topic delivery.1

/-- Nothing is handed to the reader and no event comes in. It may change its registrations or
leave. -/
structure Parted (connection : Connection) (topic : String) (before after : Machine) : Prop where
  grown : ∃ added : History, after.log = before.log ++ added ∧
    added.publishedTo connection topic = [] ∧ added.events = []
  reader : ∀ entity current, after.bridge.reader connection topic = some (entity, current) →
    ∃ client, before.bridge.reader connection topic = some (entity, client) ∧
      current.last = client.last ∧ current.pending = client.pending

theorem Aloof.unread (aloof : Aloof before after) (connection : Connection) (topic : String) :
    Unread connection topic before after := by
  obtain ⟨added, grown, quiet, still⟩ := aloof.grown
  refine ⟨⟨added, grown, added.publishedTo_of_published quiet connection topic, still⟩, ?_⟩
  rw [Bridge.reader, Bridge.reader, aloof.subscriptions]

theorem Unread.refl (m : Machine) : Unread connection topic m m :=
  ⟨⟨[], (List.append_nil _).symm, rfl, rfl⟩, rfl⟩

theorem Unread.trans (first : Unread connection topic before middle)
    (rest : Unread connection topic middle after) : Unread connection topic before after := by
  obtain ⟨added, grown, quiet, still⟩ := first.grown
  obtain ⟨further, grown', quiet', still'⟩ := rest.grown
  refine ⟨⟨added ++ further, ?_, ?_, ?_⟩, rest.reader.trans first.reader⟩
  · rw [grown', grown, List.append_assoc]
  · rw [History.publishedTo_append, quiet, quiet', List.append_nil]
  · rw [History.events_append, still, still', List.append_nil]

theorem Taking.none (client : ClientSubscription) (log : History) :
    Taking [] client client log :=
  ⟨.nil _, rfl, fun _ _ => List.not_mem_nil, fun _ member => nomatch member⟩

theorem Taking.grow {acts : List (Feed.Act RosMessage)} {client current : ClientSubscription}
    {log later : History} (taking : Taking acts client current log) (grown : log ⊆ later) :
    Taking acts client current later :=
  ⟨taking.run, taking.registrations, taking.untuned,
    fun delivery member => grown (taking.timed delivery member)⟩

theorem Taking.trans {acts further : List (Feed.Act RosMessage)}
    {client between current : ClientSubscription} {log later : History}
    (first : Taking acts client between log) (rest : Taking further between current later)
    (grown : log ⊆ later) : Taking (acts ++ further) client current later := by
  refine ⟨first.run.append rest.run, rest.registrations.trans first.registrations, ?_, ?_⟩
  · intro throttle queue member
    rcases List.mem_append.mp member with early | late
    · exact first.untuned throttle queue early
    · exact rest.untuned throttle queue late
  · intro delivery member
    rw [Feed.delivered_append] at member
    rcases List.mem_append.mp member with early | late
    · exact grown (first.timed delivery early)
    · exact rest.timed delivery late

/-- Events that bring nothing to the reader. -/
theorem Unread.fed (unread : Unread connection topic before after)
    (others : ∀ entity client, before.bridge.reader connection topic = some (entity, client) →
      samplesOf entity events = []) : Fed connection topic events before after := by
  intro entity client reads
  obtain ⟨added, grown, quiet, still⟩ := unread.grown
  refine ⟨[], added, client, grown, still, unread.reader.trans reads, .none client _, ?_, ?_⟩
  · rw [others entity client reads]
    rfl
  · rw [quiet]
    rfl

theorem Unread.nothing (unread : Unread connection topic before after) :
    Fed connection topic [] before after := unread.fed fun _ _ _ => rfl

theorem Unread.parted (unread : Unread connection topic before after) :
    Parted connection topic before after := by
  refine ⟨unread.grown, fun entity current reads => ?_⟩
  rw [unread.reader] at reads
  exact ⟨current, reads, rfl, rfl⟩

theorem Fed.trans (first : Fed connection topic events before middle)
    (rest : Fed connection topic more middle after) :
    Fed connection topic (events ++ more) before after := by
  intro entity client reads
  obtain ⟨acts, added, between, grown, still, reads', taking, offered, handed⟩ :=
    first entity client reads
  obtain ⟨acts', added', current, grown', still', reads'', taking', offered', handed'⟩ :=
    rest entity between reads'
  have further : middle.log ⊆ after.log := by
    rw [grown']
    exact List.subset_append_left _ _
  refine ⟨acts ++ acts', added ++ added', current, ?_, ?_, reads'', taking.trans taking' further,
    ?_, ?_⟩
  · rw [grown', grown, List.append_assoc]
  · rw [History.events_append, still, still', List.append_nil]
  · rw [Feed.offered_append, offered, offered', samplesOf_append]
  · rw [History.publishedTo_append, List.map_append, handed, handed', Feed.delivered_append,
      List.map_append]

theorem Parted.trans (first : Parted connection topic before middle)
    (rest : Parted connection topic middle after) : Parted connection topic before after := by
  obtain ⟨added, grown, quiet, still⟩ := first.grown
  obtain ⟨further, grown', quiet', still'⟩ := rest.grown
  refine ⟨⟨added ++ further, ?_, ?_, ?_⟩, fun entity current reads => ?_⟩
  · rw [grown', grown, List.append_assoc]
  · rw [History.publishedTo_append, quiet, quiet', List.append_nil]
  · rw [History.events_append, still, still', List.append_nil]
  · obtain ⟨between, reads', last, pending⟩ := rest.reader entity current reads
    obtain ⟨client, reads'', last', pending'⟩ := first.reader entity between reads'
    exact ⟨client, reads'', last.trans last', pending.trans pending'⟩

/-! ### Delivery -/

/-- These messages are handed over, no event comes in, and the tables stay. -/
structure HandsOut (before after : Machine) (messages : List Message) : Prop where
  grown : ∃ added : History, after.log = before.log ++ added ∧ added.published = messages ∧
    added.events = []
  tables : before.SameTables after

theorem deliverTopic_delivers (topic : String) (sample : RosMessage) (options : Options) :
    wp (deliverTopic env owner topic sample options)
      (fun outcome after => outcome = .ok () ∧
        HandsOut m after [⟨owner, sampleValue topic sample, options⟩]) m := by
  have handed (binary : Option Cbor) :
      wp (send env owner (sampleValue topic sample) none options binary)
        (fun outcome after => outcome = .ok () ∧
          HandsOut m after [⟨owner, sampleValue topic sample, options⟩]) m := by
    apply wp_send env
    intro after sent
    obtain ⟨said, grown, messages, still⟩ := sent.adds
    refine ⟨rfl, ⟨said, grown, ?_, still⟩, sent.tables⟩
    rw [History.published, messages]
    rfl
  unfold deliverTopic
  rw [wp_ite]
  split
  · exact handed _
  · exact handed none

theorem deliverAll_delivers (deliveries : List Delivery) :
    wp (deliverAll env deliveries)
      (fun outcome after => outcome = .ok () ∧
        HandsOut m after (deliveries.map Delivery.message)) m := by
  induction deliveries generalizing m with
  | nil => exact ⟨rfl, ⟨[], (List.append_nil _).symm, rfl, rfl⟩, .of_eq rfl⟩
  | cons delivery rest inductionHypothesis =>
      apply wp_bind_returns (deliverTopic_delivers delivery.topic delivery.sample delivery.options)
      intro middle first
      refine wp_mono inductionHypothesis ?_
      rintro outcome after ⟨rfl, later⟩
      obtain ⟨added, grown, messages, still⟩ := first.grown
      obtain ⟨further, grown', messages', still'⟩ := later.grown
      refine ⟨rfl, ⟨added ++ further, ?_, ?_, ?_⟩, first.tables.trans later.tables⟩
      · rw [grown', grown, List.append_assoc]
      · rw [History.published_append, messages, messages']
        rfl
      · rw [History.events_append, still, still', List.append_nil]

theorem HandsOut.reader {messages : List Message} (delivers : HandsOut before after messages)
    (connection : Connection) (topic : String) :
    after.bridge.reader connection topic = before.bridge.reader connection topic := by
  obtain ⟨next, failed, tables⟩ := delivers.tables
  rw [tables]
  rfl

/-- The deliveries that reach a connection on a topic are its messages. -/
theorem publishedTo_deliveries {added : History} {deliveries : List Delivery}
    (published : added.published = deliveries.map Delivery.message) :
    (added.publishedTo connection topic).map Message.value =
      (deliveries.filter (Delivery.reaches connection topic)).map fun delivery =>
        sampleValue topic delivery.sample := by
  rw [History.publishedTo, published, List.filter_map, List.map_map]
  have same : (fun message : Message => decide (message.owner = connection) &&
      decide (message.topic = some topic)) ∘ Delivery.message =
        Delivery.reaches connection topic := by
    funext delivery
    have named : delivery.message.topic = some delivery.topic := rfl
    simp only [Function.comp_apply, named, Option.some.injEq]
    rfl
  rw [same]
  apply List.map_congr_left
  intro delivery member
  have reaches := (List.mem_filter.mp member).2
  rw [Delivery.reaches, Bool.and_eq_true] at reaches
  rw [← of_decide_eq_true reaches.2]
  rfl

/-! ### Rounds over clients -/

/-- A change of one client is seen by that reader only. -/
theorem Bridge.reader_alterClient (b : Bridge) (change : ClientSubscription → ClientSubscription) :
    (b.alterClient other owner change).reader connection topic =
      if owner = connection ∧ other = topic then
        (b.reader connection topic).map fun entry => (entry.1, change entry.2)
      else b.reader connection topic := by
  unfold reader alterClient
  rw [AList.lookup_alter]
  by_cases here : topic = other
  · subst here
    rw [if_pos rfl]
    cases b.subscriptions.lookup topic with
    | none => split <;> rfl
    | some subscription =>
        simp only [Option.map_some, Option.bind_some, AList.lookup_alter, and_true]
        by_cases same : connection = owner
        · subst same
          rw [if_pos rfl, if_pos rfl]
          cases subscription.clients.lookup connection <;> rfl
        · rw [if_neg same, if_neg (Ne.symm same)]
  · rw [if_neg here, if_neg fun both => here both.2.symm]

/-- A change of another client. -/
theorem Unread.alterClient (change : ClientSubscription → ClientSubscription)
    (apart : ¬ (owner = connection ∧ other = topic)) : Unread connection topic m
      { m with bridge := m.bridge.alterClient other owner change } :=
  ⟨⟨[], (List.append_nil _).symm, rfl, rfl⟩, by rw [Bridge.reader_alterClient, if_neg apart]⟩

theorem Unread.instant : Unread connection topic m
    { m with log := m.log ++ [.instant (env.instant m.log)] } :=
  ⟨⟨_, rfl, rfl, rfl⟩, rfl⟩

/-- A clock that never goes back. -/
def Environment.Monotone (env : Environment) : Prop :=
  ∀ log more : History, env.instant log ≤ env.instant (log ++ more)

/-- Nothing is handed over, no event comes in and the tables stay. -/
structure Looked (before after : Machine) : Prop where
  grown : ∃ added : History, after.log = before.log ++ added ∧ added.published = [] ∧
    added.events = []
  tables : after.bridge = before.bridge

theorem Looked.unread (looked : Looked before after) (connection : Connection) (topic : String) :
    Unread connection topic before after :=
  Aloof.unread ⟨looked.grown, by rw [looked.tables]⟩ connection topic

/-- What keeps a sample from being delivered at once. -/
theorem dueNow_spec (client : ClientSubscription) :
    wp (dueNow env client client.options)
      (fun outcome after => Looked m after ∧ ∃ due, outcome = .ok due ∧
        (due = true → client.pending = [] ∧ ∀ last, client.last = some last →
          ∃ log, m.log <+: log ∧ log <+: after.log ∧
            client.options.throttle ≤ env.instant log - last) ∧
        (due = false → client.feed.Busy)) m := by
  have still : Looked m m := ⟨⟨[], (List.append_nil _).symm, rfl, rfl⟩, rfl⟩
  unfold dueNow
  cases waiting : client.pending with
  | cons sample rest =>
      refine ⟨still, false, rfl, nofun, fun _ => .inl ?_⟩
      show client.pending ≠ []
      rw [waiting]
      exact List.cons_ne_nil _ _
  | nil =>
      rw [List.isEmpty_nil, if_pos rfl]
      cases latest : client.last with
      | none => exact ⟨still, true, rfl, fun _ => ⟨rfl, nofun⟩, nofun⟩
      | some last =>
          refine ⟨⟨⟨[.instant (env.instant m.log)], rfl, rfl, rfl⟩, rfl⟩,
            decide (Instant.since (env.instant m.log) last ≥ client.options.throttle), rfl,
            fun due => ⟨rfl, ?_⟩, fun early => .inr ?_⟩
          · rintro _ ⟨⟩
            exact ⟨m.log, List.prefix_rfl, List.prefix_append _ _, of_decide_eq_true due⟩
          · have short : ¬ env.instant m.log - last ≥ client.options.throttle :=
              of_decide_eq_false early
            apply Nat.pos_of_ne_zero
            intro none
            apply short
            rw [show client.options.throttle = 0 from none]
            exact Nat.zero_le _

theorem makeRoom_suffix (queue : Nat) (pending : List RosMessage) :
    makeRoom queue pending <:+ pending := by
  induction pending with
  | nil => exact List.suffix_rfl
  | cons oldest rest inductionHypothesis =>
      unfold makeRoom
      split
      · exact inductionHypothesis.trans (List.suffix_cons oldest rest)
      · exact List.suffix_rfl

theorem makeRoom_length {queue : Nat} (positive : 0 < queue) (pending : List RosMessage) :
    (makeRoom queue pending).length < queue := by
  induction pending with
  | nil => exact positive
  | cons oldest rest inductionHypothesis =>
      unfold makeRoom
      split
      · exact inductionHypothesis
      · next fits =>
          rw [List.length_cons]
          omega

/-! ### The rounds of a fold -/

/-- Deliveries are being collected; so far the reader's feed took these acts, and what it
delivered is among them. -/
structure Collected (connection : Connection) (topic : String) (entity : Entity)
    (client : ClientSubscription) (acts : List (Feed.Act RosMessage)) (origin : Machine)
    (deliveries : List Delivery) (m : Machine) : Prop where
  grown : ∃ added : History, m.log = origin.log ++ added ∧
    added.publishedTo connection topic = [] ∧ added.events = []
  reader : ∃ current, m.bridge.reader connection topic = some (entity, current) ∧
    Taking acts client current m.log
  handed : (deliveries.filter (Delivery.reaches connection topic)).map Delivery.sample =
    (Feed.delivered acts).map Prod.fst

/-- The reader was not visited yet. -/
def Unvisited (connection : Connection) (topic : String) (origin : Machine)
    (deliveries : List Delivery) (m : Machine) : Prop :=
  Unread connection topic origin m ∧ deliveries.filter (Delivery.reaches connection topic) = []

section Rounds

variable {entity : Entity} {client : ClientSubscription} {acts : List (Feed.Act RosMessage)}
  {origin : Machine} {deliveries next : List Delivery} {sample : RosMessage}

/-- A round that leaves the reader and what is collected for it alone. -/
structure Skipped (connection : Connection) (topic : String) (deliveries next : List Delivery)
    (before after : Machine) : Prop where
  unread : Unread connection topic before after
  same : next.filter (Delivery.reaches connection topic) =
    deliveries.filter (Delivery.reaches connection topic)

theorem Unvisited.skip (held : Unvisited connection topic origin deliveries before)
    (skipped : Skipped connection topic deliveries next before after) :
    Unvisited connection topic origin next after :=
  ⟨held.1.trans skipped.unread, skipped.same.trans held.2⟩

theorem Collected.skip
    (held : Collected connection topic entity client acts origin deliveries before)
    (skipped : Skipped connection topic deliveries next before after) :
    Collected connection topic entity client acts origin next after := by
  obtain ⟨added, grown, quiet, still⟩ := held.grown
  obtain ⟨further, grown', quiet', still'⟩ := skipped.unread.grown
  obtain ⟨current, reads, taking⟩ := held.reader
  have later : before.log ⊆ after.log := by
    rw [grown']
    exact List.subset_append_left _ _
  refine ⟨⟨added ++ further, ?_, ?_, ?_⟩, ⟨current, ?_, taking.grow later⟩, ?_⟩
  · rw [grown', grown, List.append_assoc]
  · rw [History.publishedTo_append, quiet, quiet', List.append_nil]
  · rw [History.events_append, still, still', List.append_nil]
  · rw [skipped.unread.reader, reads]
  · rw [skipped.same, held.handed]

/-- A round of another client, or for another topic. -/
theorem routeSample_skips (apart : ¬ (owner = connection ∧ other = topic))
    (deliveries : List Delivery) :
    wp (routeSample env other sample deliveries (owner, client))
      (fun outcome after => ∃ next, outcome = .ok next ∧
        Skipped connection topic deliveries next m after) m := by
  unfold routeSample
  refine wp_bind_of (dueNow_spec client) ?_ ?_ ?_
  · rintro due m₁ ⟨looked, -⟩
    have unread := looked.unread connection topic
    have dropped : [Delivery.mk owner other sample client.options].filter
        (Delivery.reaches connection topic) = [] := by
      simpa [Delivery.reaches] using fun same here => apart ⟨same, here⟩
    rw [wp_ite]
    split
    · refine ⟨_, rfl, (unread.trans Unread.instant).trans (.alterClient _ apart), ?_⟩
      rw [List.filter_append, dropped, List.append_nil]
    · rw [wp_ite]
      split
      · exact ⟨_, rfl, unread.trans (.alterClient _ apart), rfl⟩
      · exact ⟨_, rfl, unread, rfl⟩
  · rintro cause m₁ ⟨-, due, ⟨⟩, -⟩
  · rintro site m₁ ⟨-, due, ⟨⟩, -⟩

/-- The round of the reader offers it the sample. -/
theorem routeSample_offers (monotone : env.Monotone)
    (reads : origin.bridge.reader connection topic = some (entity, client))
    (unvisited : Unvisited connection topic origin deliveries m) :
    wp (routeSample env topic sample deliveries (connection, client))
      (fun outcome after => ∃ next, outcome = .ok next ∧ ∃ acts, Feed.offered acts = [sample] ∧
        Collected connection topic entity client acts origin next after) m := by
  obtain ⟨unread, none⟩ := unvisited
  have here := unread.reader.trans reads
  -- A change of the reader's own record.
  have altered (change : ClientSubscription → ClientSubscription) (b : Bridge)
      (known : b.reader connection topic = some (entity, client)) :
      (b.alterClient topic connection change).reader connection topic =
        some (entity, change client) := by
    rw [Bridge.reader_alterClient, if_pos ⟨rfl, rfl⟩, known]
    rfl
  unfold routeSample
  refine wp_bind_of (dueNow_spec client) ?_ ?_ ?_
  · rintro due m₁ ⟨looked, verdict, ⟨⟩, direct, busy⟩
    have sofar := unread.trans (looked.unread connection topic)
    have here₁ : m₁.bridge.reader connection topic = some (entity, client) :=
      sofar.reader.trans reads
    rw [wp_ite]
    split
    · next isDue =>
        obtain ⟨idle, spaced⟩ := direct isDue
        obtain ⟨added, grown, quiet, still⟩ := (sofar.trans (@Unread.instant env _ _ m₁)).grown
        refine ⟨_, rfl, [.direct sample (env.instant m₁.log)], rfl,
          ⟨added, grown, quiet, still⟩,
          ⟨_, altered _ m₁.bridge here₁, .single ?_, rfl, by simp, ?_⟩, ?_⟩
        · refine Feed.Step.direct idle fun last known => ?_
          obtain ⟨log, -, ⟨more, later⟩, passed⟩ := spaced last known
          have ordered := monotone log more
          rw [later] at ordered
          exact passed.trans (Nat.sub_le_sub_right ordered last)
        · intro delivery member
          obtain rfl := List.mem_singleton.mp member
          exact List.mem_append_right _ (List.mem_singleton_self _)
        · rw [List.filter_append, none]
          simp [Delivery.reaches, Feed.delivered, Feed.Act.delivered?]
    · next notDue =>
        have waits := busy (by simpa using notDue)
        rw [wp_ite]
        split
        · next room =>
            obtain ⟨added, grown, quiet, still⟩ := sofar.grown
            refine ⟨_, rfl, [.queued sample], rfl, ⟨added, grown, quiet, still⟩,
              ⟨_, altered _ m₁.bridge here₁, .single ?_, rfl, by simp, fun _ member => absurd member List.not_mem_nil⟩,
              by rw [none]; rfl⟩
            exact Feed.Step.queued waits (makeRoom_suffix _ _) (makeRoom_length room _)
        · obtain ⟨added, grown, quiet, still⟩ := sofar.grown
          exact ⟨_, rfl, [.skipped sample], rfl, ⟨added, grown, quiet, still⟩,
            ⟨client, here₁, .single (.skipped waits), rfl, by simp,
              fun _ member => absurd member List.not_mem_nil⟩, by rw [none]; rfl⟩
  · rintro cause m₁ ⟨-, due, ⟨⟩, -⟩
  · rintro site m₁ ⟨-, due, ⟨⟩, -⟩

end Rounds

/-! ### Samples -/

section Samples

variable {entity : Entity} {sample : RosMessage} {subscription : Subscription}

/-- What was collected is handed over. -/
theorem Collected.fed {client : ClientSubscription} {acts : List (Feed.Act RosMessage)}
    {deliveries : List Delivery}
    (collected : Collected connection topic entity client acts before deliveries middle)
    (handed : HandsOut middle after (deliveries.map Delivery.message))
    (offered : Feed.offered acts = samplesOf entity events)
    (reads : before.bridge.reader connection topic = some (entity, client)) :
    Fed connection topic events before after := by
  intro other holder reads'
  rw [reads] at reads'
  cases reads'
  obtain ⟨added, grown, quiet, still⟩ := collected.grown
  obtain ⟨further, grown', published, still'⟩ := handed.grown
  obtain ⟨current, here, taking⟩ := collected.reader
  have later : middle.log ⊆ after.log := by
    rw [grown']
    exact List.subset_append_left _ _
  refine ⟨acts, added ++ further, current, ?_, ?_, ?_, taking.grow later, offered, ?_⟩
  · rw [grown', grown, List.append_assoc]
  · rw [History.events_append, still, still', List.append_nil]
  · rw [handed.reader, here]
  · rw [History.publishedTo_append, quiet, List.nil_append, publishedTo_deliveries published]
    have values := congrArg (List.map (sampleValue topic)) collected.handed
    rwa [List.map_map, List.map_map] at values

/-- What was collected for others is handed over. -/
theorem Unvisited.unread {deliveries : List Delivery}
    (unvisited : Unvisited connection topic before deliveries middle)
    (handed : HandsOut middle after (deliveries.map Delivery.message)) :
    Unread connection topic before after := by
  obtain ⟨unread, none⟩ := unvisited
  obtain ⟨added, grown, published, still⟩ := handed.grown
  refine unread.trans ⟨⟨added, grown, ?_, still⟩, handed.reader connection topic⟩
  have values := @publishedTo_deliveries connection topic _ _ published
  rw [none] at values
  exact List.map_eq_nil_iff.mp values

/-- The readers of a subscription. -/
theorem Bridge.reader_of_lookup {b : Bridge}
    (known : b.subscriptions.lookup topic = some subscription) :
    b.reader connection topic =
      (subscription.clients.lookup connection).map fun client => (subscription.entity, client) := by
  rw [reader, known]
  rfl

/-- To retain a sample changes no reader. -/
theorem Unread.retained : Unread connection topic m
    { m with
      bridge :=
        { m.bridge with
          subscriptions := (m.bridge.subscriptions.alter other fun subscription =>
            { subscription with retained := some sample }) } } := by
  refine ⟨⟨[], (List.append_nil _).symm, rfl, rfl⟩, ?_⟩
  show ((m.bridge.subscriptions.alter other _).lookup topic).bind _ = _
  rw [AList.lookup_alter]
  split
  · next here =>
      rw [Bridge.reader, here]
      cases m.bridge.subscriptions.lookup other <;> rfl
  · rfl

/-- A visit, and that it touches nothing. -/
theorem wp_bind_looked {κ ν : Type} [DecidableEq κ] {next : List (κ × ν) → Step β}
    {post : Outcome Error β → Machine → Prop} (table : Table κ ν)
    (continues : ∀ items after, Looked m after → (items.map Prod.fst).Nodup →
      (∀ key value, (key, value) ∈ items ↔ table.lookup key = some value) →
      wp (next items) post after) : wp (visit env table >>= next) post m := by
  have visited : visit env table m =
      (.ok (permute (env.order m.log) (table.entries.map fun entry => (entry.1, entry.2))),
        { m with log := m.log ++ [.order (env.order m.log)] }) := rfl
  obtain ⟨listed, distinct⟩ := mem_visit env visited
  rw [wp_bind, wp_iff, visited]
  exact continues _ _ ⟨⟨_, rfl, rfl, rfl⟩, rfl⟩ distinct listed

/-- A sample is shared among the clients of its topic. -/
theorem shareSample_fed (connection : Connection) (monotone : env.Monotone)
    (known : m.bridge.subscriptions.lookup topic = some subscription) :
    wp (shareSample env topic subscription sample)
      (fun outcome after => outcome = .ok () ∧
        Fed connection topic [.message subscription.entity sample] m after) m := by
  have only : samplesOf subscription.entity [.message subscription.entity sample] = [sample] := by
    simp [samplesOf, Event.sampleOf?]
  unfold shareSample
  have retains : wp (whenever subscription.transientLocal (update fun b =>
      { b with
        subscriptions := (b.subscriptions.alter topic fun subscription =>
          { subscription with retained := some sample }) }))
      (fun outcome after => outcome = .ok () ∧ Unread connection topic m after) m := by
    rw [wp_whenever]
    split
    · exact ⟨rfl, .retained⟩
    · exact ⟨rfl, .refl m⟩
  refine wp_bind_returns retains fun m₁ kept => ?_
  refine wp_bind_looked subscription.clients fun clients m₂ looked distinct listed => ?_
  have start : Unvisited connection topic m [] m₂ :=
    ⟨kept.trans (looked.unread connection topic), rfl⟩
  cases joined : subscription.clients.lookup connection with
  | none =>
      have rounds : wp (foldEach clients [] (routeSample env topic sample)) _ m₂ :=
        wp_foldEach_lands clients [] start fun entry member deliveries before held => by
          have apart : ¬ (entry.1 = connection ∧ topic = topic) := by
            rintro ⟨same, -⟩
            have present := (listed entry.1 entry.2).mp member
            rw [same, joined] at present
            cases present
          refine wp_mono (routeSample_skips apart deliveries) ?_
          rintro outcome after ⟨next, rfl, skipped⟩
          exact ⟨next, rfl, held.skip skipped⟩
      refine wp_bind_of rounds ?_ ?_ ?_
      · rintro deliveries m₃ ⟨_, ⟨⟩, unvisited⟩
        refine wp_mono (deliverAll_delivers deliveries) ?_
        rintro outcome after ⟨rfl, handed⟩
        refine ⟨rfl, (unvisited.unread handed).fed fun entity client reads => ?_⟩
        rw [Bridge.reader_of_lookup known, joined] at reads
        cases reads
      · rintro cause after ⟨_, ⟨⟩, _⟩
      · rintro site after ⟨_, ⟨⟩, _⟩
  | some client =>
      have reads : m.bridge.reader connection topic = some (subscription.entity, client) := by
        rw [Bridge.reader_of_lookup known, joined]
        rfl
      have rounds : wp (foldEach clients [] (routeSample env topic sample))
          (fun outcome after => ∃ deliveries, outcome = .ok deliveries ∧ ∃ acts,
            Feed.offered acts = [sample] ∧ Collected connection topic subscription.entity client
              acts m deliveries after) m₂ := by
        refine wp_foldEach_once clients [] distinct ((listed connection client).mpr joined) start
          ?_ fun deliveries before => routeSample_offers monotone reads
        rintro holds either entry - apart deliveries before held
        have elsewhere : ¬ (entry.1 = connection ∧ topic = topic) := fun both => apart both.1
        refine wp_mono (routeSample_skips elsewhere deliveries) ?_
        rintro outcome after ⟨next, rfl, skipped⟩
        rcases either with rfl | rfl
        · exact ⟨next, rfl, Unvisited.skip held skipped⟩
        · obtain ⟨acts, offered, collected⟩ := held
          exact ⟨next, rfl, acts, offered, collected.skip skipped⟩
      refine wp_bind_of rounds ?_ ?_ ?_
      · rintro deliveries m₃ ⟨_, ⟨⟩, acts, offered, collected⟩
        refine wp_mono (deliverAll_delivers deliveries) ?_
        rintro outcome after ⟨rfl, handed⟩
        exact ⟨rfl, collected.fed handed (offered.trans only.symm) reads⟩
      · rintro cause after ⟨_, ⟨⟩, _⟩
      · rintro site after ⟨_, ⟨⟩, _⟩

/-- A sample of another topic. -/
theorem shareSample_unread (connection : Connection) (apart : other ≠ topic) :
    wp (shareSample env other subscription sample)
      (fun outcome after => outcome = .ok () ∧ Unread connection topic m after) m := by
  unfold shareSample
  have retains : wp (whenever subscription.transientLocal (update fun b =>
      { b with
        subscriptions := (b.subscriptions.alter other fun subscription =>
          { subscription with retained := some sample }) }))
      (fun outcome after => outcome = .ok () ∧ Unread connection topic m after) m := by
    rw [wp_whenever]
    split
    · exact ⟨rfl, .retained⟩
    · exact ⟨rfl, .refl m⟩
  refine wp_bind_returns retains fun m₁ kept => ?_
  refine wp_bind_looked subscription.clients fun clients m₂ looked _ _ => ?_
  have start : Unvisited connection topic m [] m₂ :=
    ⟨kept.trans (looked.unread connection topic), rfl⟩
  have rounds : wp (foldEach clients [] (routeSample env other sample)) _ m₂ :=
    wp_foldEach_lands clients [] start fun entry _ deliveries before held => by
      have elsewhere : ¬ (entry.1 = connection ∧ other = topic) := fun both => apart both.2
      refine wp_mono (routeSample_skips elsewhere deliveries) ?_
      rintro outcome after ⟨next, rfl, skipped⟩
      exact ⟨next, rfl, held.skip skipped⟩
  refine wp_bind_of rounds ?_ ?_ ?_
  · rintro deliveries m₃ ⟨_, ⟨⟩, unvisited⟩
    refine wp_mono (deliverAll_delivers deliveries) ?_
    rintro outcome after ⟨rfl, handed⟩
    exact ⟨rfl, unvisited.unread handed⟩
  · rintro cause after ⟨_, ⟨⟩, _⟩
  · rintro site after ⟨_, ⟨⟩, _⟩

/-- No two subscriptions share an entity. -/
theorem subscription_unique {b : Bridge} {further : Subscription} (distinct : b.held.Nodup)
    (found : b.subscriptions.lookup topic = some subscription)
    (found' : b.subscriptions.lookup other = some further)
    (same : further.entity = subscription.entity) : other = topic := by
  by_contra different
  rw [held_erase_subscription found, Multiset.nodup_cons] at distinct
  apply distinct.1
  apply Bridge.mem_held.mpr
  refine .inr (.inl ⟨other, further, ?_, same.symm⟩)
  rwa [AList.lookup_erase_ne different]

/-- No goal hears its feedback through the entity of a subscription. -/
theorem feedback_apart {b : Bridge} {key : String} {goal : ClientGoal} (distinct : b.held.Nodup)
    (found : b.subscriptions.lookup topic = some subscription)
    (active : b.goals.lookup key = some goal) : goal.feedbackSub ≠ subscription.entity := by
  intro same
  rw [held_erase_subscription found, Multiset.nodup_cons] at distinct
  apply distinct.1
  apply Bridge.mem_held.mpr
  exact .inr (.inr (.inr (.inr (.inl ⟨key, goal, active, by simp [← same, ClientGoal.entities]⟩))))

theorem Bridge.reader_entity {b : Bridge} {reads : Entity} {client : ClientSubscription}
    (known : b.reader connection topic = some (reads, client)) :
    ∃ subscription, b.subscriptions.lookup topic = some subscription ∧
      subscription.entity = reads ∧ subscription.clients.lookup connection = some client := by
  obtain ⟨subscription, found, joined⟩ := Option.bind_eq_some_iff.mp known
  obtain ⟨holder, present, same⟩ := Option.map_eq_some_iff.mp joined
  cases same
  exact ⟨subscription, found, rfl, present⟩

theorem feedGoal_bystands (env : Environment) (goal : ClientGoal) (sample : RosMessage) :
    Bystands (feedGoal env goal sample) := by
  refine .ite (.bind (.lift _) fun own => .bind (.lift _) fun far => ?_) (.pure ())
  unfold whenever
  split
  · exact send_bystands env _ _ _ (by simp [feedbackMessage, Json.asStr])
  · exact .pure ()

/-- A sample is offered to the reader whose entity it comes from. -/
theorem topicMessage_fed (connection : Connection) (topic : String) (monotone : env.Monotone)
    (distinct : m.bridge.held.Nodup) :
    wp (topicMessage env entity sample)
      (fun _ after => Fed connection topic [.message entity sample] m after) m := by
  have elsewhere {after : Machine} (unread : Unread connection topic m after)
      (far : ∀ subscription, m.bridge.subscriptions.lookup topic = some subscription →
        subscription.entity ≠ entity) :
      Fed connection topic [.message entity sample] m after := by
    apply unread.fed
    intro source client reads
    obtain ⟨subscription, found, rfl, -⟩ := Bridge.reader_entity reads
    simp [samplesOf, Event.sampleOf?, (far subscription found).symm]
  unfold topicMessage
  refine wp_bind_tables (wp_bind_looked m.bridge.goals fun goals m₁ looked _ listed => ?_)
  cases fed : goals.find? fun entry => entry.2.feedbackSub == entity with
  | some entry =>
      have active := (listed entry.1 entry.2).mp (List.mem_of_find?_eq_some fed)
      have hears : entry.2.feedbackSub = entity := by simpa using List.find?_some fed
      refine wp_mono (feedGoal_bystands env entry.2 sample).wp ?_
      intro outcome after aloof
      apply elsewhere ((looked.unread connection topic).trans (aloof.unread connection topic))
      intro subscription found same
      exact feedback_apart distinct found active (hears.trans same.symm)
  | none =>
      refine wp_bind_tables (wp_bind_looked m₁.bridge.subscriptions
        fun topics m₂ looked₂ _ listed₂ => ?_)
      have unread := (looked.unread connection topic).trans (looked₂.unread connection topic)
      rw [looked.tables] at listed₂
      have tables : m₂.bridge = m.bridge := looked₂.tables.trans looked.tables
      cases owns : topics.find? fun entry => entry.2.entity == entity with
      | none =>
          refine elsewhere unread fun subscription found same => ?_
          have member := (listed₂ topic subscription).mpr found
          have differs := List.find?_eq_none.mp owns _ member
          exact differs (beq_iff_eq.mpr same)
      | some entry =>
          obtain ⟨name, subscription⟩ := entry
          have found := (listed₂ name subscription).mp (List.mem_of_find?_eq_some owns)
          obtain rfl : subscription.entity = entity := by simpa using List.find?_some owns
          by_cases here : name = topic
          · subst here
            have found₂ : m₂.bridge.subscriptions.lookup name = some subscription := by
              rw [tables]
              exact found
            refine wp_mono (shareSample_fed connection monotone found₂) ?_
            rintro outcome after ⟨-, rest⟩
            exact unread.nothing.trans rest
          · refine wp_mono (shareSample_unread connection here) ?_
            rintro outcome after ⟨-, rest⟩
            refine elsewhere (unread.trans rest) fun further found' same => ?_
            exact here (subscription_unique distinct found' found same.symm)

end Samples

/-! ### Queued samples -/

section Queued

variable {entity : Entity} {client : ClientSubscription} {now : Instant} {origin : Machine}

theorem Skipped.refl (deliveries : List Delivery) :
    Skipped connection topic deliveries deliveries m m := ⟨.refl m, rfl⟩

theorem Skipped.trans {deliveries next last : List Delivery}
    (first : Skipped connection topic deliveries next before middle)
    (rest : Skipped connection topic next last middle after) :
    Skipped connection topic deliveries last before after :=
  ⟨first.unread.trans rest.unread, rest.same.trans first.same⟩

theorem Unvisited.noted {deliveries : List Delivery} {entry : Entry}
    (unvisited : Unvisited connection topic origin deliveries m) (noted : entry ∈ origin.log) :
    entry ∈ m.log := by
  obtain ⟨added, grown, -, -⟩ := unvisited.1.grown
  rw [grown]
  exact List.mem_append_left _ noted

theorem popPending_skips (apart : ¬ (owner = connection ∧ other = topic))
    (deliveries : List Delivery) :
    wp (popPending now other deliveries (owner, client))
      (fun outcome after => ∃ next, outcome = .ok next ∧
        Skipped connection topic deliveries next m after) m := by
  unfold popPending
  dsimp only
  cases if client.last.all fun last => decide (Instant.since now last ≥ client.options.throttle)
      then client.pending else [] with
  | nil => exact ⟨deliveries, rfl, .refl deliveries⟩
  | cons sample rest =>
      refine ⟨_, rfl, .alterClient _ apart, ?_⟩
      have dropped : [Delivery.mk owner other sample client.options].filter
          (Delivery.reaches connection topic) = [] := by
        simpa [Delivery.reaches] using fun same here => apart ⟨same, here⟩
      rw [List.filter_append, dropped, List.append_nil]

/-- The round of the reader delivers its oldest sample, or nothing. -/
theorem popPending_delivers (noted : .instant now ∈ m.log)
    (reads : origin.bridge.reader connection topic = some (entity, client))
    {deliveries : List Delivery} (unvisited : Unvisited connection topic origin deliveries m) :
    wp (popPending now topic deliveries (connection, client))
      (fun outcome after => ∃ next, outcome = .ok next ∧ ∃ acts, Feed.offered acts = [] ∧
        Collected connection topic entity client acts origin next after) m := by
  obtain ⟨unread, none⟩ := unvisited
  have here := unread.reader.trans reads
  have idle : Collected connection topic entity client [] origin deliveries m :=
    ⟨unread.grown, ⟨client, here, .none client _⟩, by rw [none]; rfl⟩
  unfold popPending
  dsimp only
  cases passed : client.last.all fun last =>
      decide (Instant.since now last ≥ client.options.throttle) with
  | false => exact ⟨deliveries, rfl, [], rfl, idle⟩
  | true =>
      cases queued : client.pending with
      | nil => exact ⟨deliveries, rfl, [], rfl, idle⟩
      | cons sample rest =>
          refine ⟨_, rfl, [.late sample now], rfl, unread.grown,
            ⟨{ client with pending := rest, last := some now }, ?_, .single ?_, rfl, by simp, ?_⟩, ?_⟩
          · show (m.bridge.alterClient topic connection _).reader connection topic = _
            rw [Bridge.reader_alterClient, if_pos ⟨rfl, rfl⟩, here]
            rfl
          · refine Feed.Step.late queued fun last known => ?_
            have latest : client.last = some last := known
            rw [latest] at passed
            exact of_decide_eq_true passed
          · intro delivery member
            obtain rfl := List.mem_singleton.mp member
            exact noted
          · rw [List.filter_append, none]
            simp [Delivery.reaches, Feed.delivered, Feed.Act.delivered?]

/-- A topic of which the connection is no client. -/
theorem popTopic_skips {subscription : Subscription}
    (absent : other = topic → subscription.clients.lookup connection = none)
    (deliveries : List Delivery) :
    wp (popTopic env now deliveries (other, subscription))
      (fun outcome after => ∃ next, outcome = .ok next ∧
        Skipped connection topic deliveries next m after) m := by
  unfold popTopic
  refine wp_bind_looked subscription.clients fun clients m₁ looked _ listed => ?_
  have start : Skipped connection topic deliveries deliveries m m₁ :=
    ⟨looked.unread connection topic, rfl⟩
  refine wp_foldEach_lands clients deliveries start fun entry member current before held => ?_
  have apart : ¬ (entry.1 = connection ∧ other = topic) := by
    rintro ⟨same, here⟩
    have present := (listed entry.1 entry.2).mp member
    rw [same, absent here] at present
    cases present
  refine wp_mono (popPending_skips apart current) ?_
  rintro outcome after ⟨next, rfl, skipped⟩
  exact ⟨next, rfl, held.trans skipped⟩

/-- The topic of the reader. -/
theorem popTopic_delivers {subscription : Subscription} (noted : .instant now ∈ origin.log)
    (joined : subscription.clients.lookup connection = some client)
    (reads : origin.bridge.reader connection topic = some (entity, client))
    {deliveries : List Delivery} (unvisited : Unvisited connection topic origin deliveries m) :
    wp (popTopic env now deliveries (topic, subscription))
      (fun outcome after => ∃ next, outcome = .ok next ∧ ∃ acts, Feed.offered acts = [] ∧
        Collected connection topic entity client acts origin next after) m := by
  unfold popTopic
  refine wp_bind_looked subscription.clients fun clients m₁ looked distinct listed => ?_
  have start : Unvisited connection topic origin deliveries m₁ :=
    ⟨unvisited.1.trans (looked.unread connection topic), unvisited.2⟩
  refine wp_foldEach_once clients deliveries distinct ((listed connection client).mpr joined) start
    ?_ fun current before unvisited => popPending_delivers (unvisited.noted noted) reads unvisited
  rintro holds either entry - apart current before held
  have elsewhere : ¬ (entry.1 = connection ∧ topic = topic) := fun both => apart both.1
  refine wp_mono (popPending_skips elsewhere current) ?_
  rintro outcome after ⟨next, rfl, skipped⟩
  rcases either with rfl | rfl
  · exact ⟨next, rfl, Unvisited.skip held skipped⟩
  · obtain ⟨acts, offered, collected⟩ := held
    exact ⟨next, rfl, acts, offered, collected.skip skipped⟩

/-- What waits and is due is delivered. -/
theorem deliverPending_fed (connection : Connection) (topic : String)
    (noted : .instant now ∈ m.log) :
    wp (deliverPending env now)
      (fun outcome after => outcome = .ok () ∧ Fed connection topic [] m after) m := by
  unfold deliverPending
  refine wp_bind_tables (wp_bind_looked m.bridge.subscriptions
    fun topics m₁ looked distinct listed => ?_)
  have start : Unvisited connection topic m [] m₁ := ⟨looked.unread connection topic, rfl⟩
  cases known : m.bridge.reader connection topic with
  | none =>
      have rounds : wp (foldEach topics [] (popTopic env now)) _ m₁ :=
        wp_foldEach_lands topics [] start fun entry member current before held => by
          have absent : entry.1 = topic → entry.2.clients.lookup connection = none := by
            intro here
            have found := (listed entry.1 entry.2).mp member
            rw [here] at found
            rw [Bridge.reader_of_lookup found] at known
            exact Option.map_eq_none_iff.mp known
          refine wp_mono (popTopic_skips absent current) ?_
          rintro outcome after ⟨next, rfl, skipped⟩
          exact ⟨next, rfl, held.skip skipped⟩
      refine wp_bind_of rounds ?_ ?_ ?_
      · rintro deliveries m₂ ⟨_, ⟨⟩, unvisited⟩
        refine wp_mono (deliverAll_delivers deliveries) ?_
        rintro outcome after ⟨rfl, handed⟩
        exact ⟨rfl, (unvisited.unread handed).nothing⟩
      · rintro cause after ⟨_, ⟨⟩, _⟩
      · rintro site after ⟨_, ⟨⟩, _⟩
  | some entry =>
      obtain ⟨entity, client⟩ := entry
      obtain ⟨subscription, found, rfl, joined⟩ := Bridge.reader_entity known
      have rounds : wp (foldEach topics [] (popTopic env now))
          (fun outcome after => ∃ deliveries, outcome = .ok deliveries ∧ ∃ acts,
            Feed.offered acts = [] ∧ Collected connection topic subscription.entity client acts m
              deliveries after) m₁ := by
        refine wp_foldEach_once topics [] distinct ((listed topic subscription).mpr found) start
          ?_ fun current before => popTopic_delivers noted joined known
        rintro holds either entry - apart current before held
        have absent : entry.1 = topic → entry.2.clients.lookup connection = none :=
          fun here => absurd here apart
        refine wp_mono (popTopic_skips absent current) ?_
        rintro outcome after ⟨next, rfl, skipped⟩
        rcases either with rfl | rfl
        · exact ⟨next, rfl, Unvisited.skip held skipped⟩
        · obtain ⟨acts, offered, collected⟩ := held
          exact ⟨next, rfl, acts, offered, collected.skip skipped⟩
      refine wp_bind_of rounds ?_ ?_ ?_
      · rintro deliveries m₂ ⟨_, ⟨⟩, acts, offered, collected⟩
        refine wp_mono (deliverAll_delivers deliveries) ?_
        rintro outcome after ⟨rfl, handed⟩
        exact ⟨rfl, collected.fed handed offered known⟩
      · rintro cause after ⟨_, ⟨⟩, _⟩
      · rintro site after ⟨_, ⟨⟩, _⟩

end Queued

end Rosbridge
