import Mathlib.Data.Finset.Erase
import Rosbridge.Bridge.Common

/-!
Topic registrations, shared subscriptions and delivery (`bridge/topics.rs`).
-/

set_option autoImplicit false

namespace Rosbridge

open Foundation

/-- Record one registration of a publisher's owner. -/
def Publisher.register (owner : Connection) (registration : Option String)
    (publisher : Publisher) : Publisher :=
  { publisher with
    owners :=
      if owner ∈ publisher.owners then publisher.owners.alter owner (insert registration)
      else publisher.owners.insert owner {registration} }

/-- A request that names a type must name the publisher's. -/
def publisherTypeMatches (v : Json) (publisher : Publisher) : Except Error Unit :=
  match v.get "type" with
  | none => .ok ()
  | some value =>
      match value.asStr with
      | none => .error ⟨"invalid type"⟩
      | some text => do
          let typ ← typeName text "msg"
          if typ = publisher.typ then .ok () else .error ⟨"topic type mismatch"⟩

/-- The quality of service of a new publisher. -/
def publisherQos (v : Json) : Except Error Qos :=
  match v.get "qos" with
  | some value => Qos.parse value
  | none => do
      let depth ← match v.get "queue_size" with
        | none => .ok Qos.publisher.depth
        | some value =>
            match value.asU64 with
            | some depth => .ok depth
            | none => .error ⟨"queue_size must be nonnegative"⟩
      let durability ← match v.get "latch" with
        | none => .ok Qos.publisher.durability
        | some value =>
            match value.asBool with
            | some latch => .ok (if latch then 1 else 2)
            | none => .error ⟨"latch must be a boolean"⟩
      return { Qos.publisher with depth := depth, durability := durability }

/-- The quality of service of a new subscription that names none. -/
def subscriberQos (publishers : List Qos) : Qos :=
  if publishers.isEmpty then Qos.subscriber
  else
    let reliability := if publishers.any fun qos => qos.reliability == 2 then 2 else 1
    if publishers.all fun qos => qos.durability == 1 then
      { Qos.subscriber with durability := 1, reliability := 1 }
    else { Qos.subscriber with reliability := reliability }

/-- Whether an owner holds the registration it names, or all of them. -/
def Publisher.holds (owner : Connection) (id : Option String) (publisher : Publisher) : Bool :=
  id.isNone || (publisher.owners.lookup owner).any fun ids => id ∈ ids

/-- Drop one registration of an owner, or all of them. -/
def Publisher.release (owner : Connection) (id : Option String) (publisher : Publisher) :
    Publisher :=
  { publisher with
    owners :=
      match publisher.owners.lookup owner with
      | none => publisher.owners
      | some ids =>
          let remaining := if id.isSome then ids.erase id else ∅
          if remaining = ∅ then publisher.owners.erase owner
          else publisher.owners.alter owner fun _ => remaining }

/-- `entry(owner).or_insert_with(..)` on the clients of a subscription. -/
def Subscription.join (owner : Connection) (subscription : Subscription) : Subscription :=
  if owner ∈ subscription.clients then subscription
  else
    { subscription with
      clients := (subscription.clients.insert owner
        { registrations := ∅, last := none, pending := [] }) }

/-- Record one registration of a client. -/
def ClientSubscription.register (id : Option String) (options : Options)
    (client : ClientSubscription) : ClientSubscription :=
  { client with registrations := client.registrations.insert id options }

/-- Record one registration of an owner, who becomes a client if need be. -/
def Subscription.enroll (owner : Connection) (id : Option String) (options : Options)
    (subscription : Subscription) : Subscription :=
  let joined := subscription.join owner
  { joined with
    clients := joined.clients.alter owner (ClientSubscription.register id options) }

theorem Subscription.enroll_entity (owner : Connection) (id : Option String) (options : Options)
    (subscription : Subscription) :
    (subscription.enroll owner id options).entity = subscription.entity := by
  unfold enroll join
  split <;> rfl

/-- Whether a client holds the registration it names, or all of them. -/
def Subscription.holds (owner : Connection) (id : Option String)
    (subscription : Subscription) : Bool :=
  id.isNone || (subscription.clients.lookup owner).any fun client => id ∈ client.registrations

/-- Drop one registration of a client, or all of them. -/
def Subscription.release (owner : Connection) (id : Option String)
    (subscription : Subscription) : Subscription :=
  { subscription with
    clients :=
      match subscription.clients.lookup owner with
      | none => subscription.clients
      | some client =>
          let registrations := if id.isSome then client.registrations.erase id else ∅
          if registrations.isEmpty then subscription.clients.erase owner
          else subscription.clients.alter owner fun client => { client with registrations } }

/-- Change one client of one subscription. -/
def Bridge.alterClient (topic : String) (owner : Connection)
    (change : ClientSubscription → ClientSubscription) (b : Bridge) : Bridge :=
  { b with
    subscriptions := (b.subscriptions.alter topic fun subscription =>
      { subscription with clients := subscription.clients.alter owner change }) }

/-- Drop the oldest samples until one more fits. -/
def makeRoom {α : Type} (queue : Nat) : List α → List α
  | [] => []
  | oldest :: rest =>
      if rest.length + 1 ≥ queue then makeRoom queue rest else oldest :: rest

variable (env : Environment)

/-- `Bridge::advertise`. -/
def advertise (owner : Connection) (v : Json) : Step Unit := do
  let topic ← name v "topic"
  let registration ← requestId v
  match (← tables).publishers.lookup topic with
  | some publisher => do
      publisherTypeMatches v publisher
      update fun b =>
        { b with publishers := b.publishers.alter topic (Publisher.register owner registration) }
  | none => do
      let typ ← resolve env v "topic" "msg"
      let qos ← publisherQos v
      let entity ← Backend.publisher env topic typ qos
      update fun b =>
        { b with
          publishers := (b.publishers.insert topic
            { entity, typ, owners := AList.singleton owner {registration} }) }

/-- `Bridge::unadvertise`. -/
def unadvertise (owner : Connection) (topic : String) (id : Option String) : Step Unit := do
  match (← tables).publishers.lookup topic with
  | none => Program.fail ⟨"topic is not advertised"⟩
  | some publisher => do
      Program.ensure (owner ∈ publisher.owners) ⟨"topic is not advertised by this client"⟩
      Program.ensure (publisher.holds owner id) ⟨"unknown advertisement id"⟩
      if (publisher.release owner id).owners.isEmpty then do
        update fun b => { b with publishers := b.publishers.erase topic }
        Backend.destroy publisher.entity
      else update fun b =>
        { b with publishers := b.publishers.alter topic (Publisher.release owner id) }

/-- `Bridge::deliver_topic`. -/
def deliverTopic (owner : Connection) (topic : String) (sample : RosMessage)
    (options : Options) : Step Unit :=
  let value : Object := [("op", .str "publish"), ("topic", .str topic), ("msg", sample.json)]
  if options.compression = .cbor ∨ options.compression = .raw then
    let body :=
      if options.compression = .raw then
        Cbor.map [ (.text "bytes", .bytes sample.raw),
          (.text "secs", .integer sample.stamp.1), (.text "nsecs", .integer sample.stamp.2) ]
      else sample.cbor
    let binary := Cbor.map [ (.text "op", .text "publish"), (.text "topic", .text topic),
      (.text "msg", body) ]
    send env owner value none options (some binary)
  else send env owner value none options none

/-- The quality of service of a new subscription. -/
def newSubscriptionQos (topic : String) (v : Json) : Step Qos :=
  match v.get "qos" with
  | some value => Program.ofExcept (Qos.parse value)
  | none => do return subscriberQos (← Backend.publisherQos env topic)

/-- Make sure that the topic has a subscription of the given type. -/
def shareSubscription (topic typ : String) (v : Json) : Step Unit := do
  match (← tables).subscriptions.lookup topic with
  | some subscription => Program.ensure (subscription.typ = typ) ⟨"topic type mismatch"⟩
  | none => do
      let qos ← newSubscriptionQos env topic v
      let entity ← Backend.subscription env topic typ qos
      update fun b =>
        { b with
          subscriptions := (b.subscriptions.insert topic
            { transientLocal := qos.durability = 1
              retained := none
              entity
              typ
              clients := ∅ }) }

/-- Register a client of the topic's subscription. A new client receives the retained
sample. -/
def joinSubscription (owner : Connection) (topic : String) (options : Options) (v : Json) :
    Step Unit := do
  let subscription ← Program.unwrap "subscription" ((← tables).subscriptions.lookup topic)
  update fun b =>
    { b with subscriptions := b.subscriptions.alter topic (Subscription.join owner) }
  let registration ← requestId v
  update (Bridge.alterClient topic owner (ClientSubscription.register registration options))
  match if owner ∈ subscription.clients then none else subscription.retained with
  | none => return ()
  | some sample => do
      let now ← instant env
      update (Bridge.alterClient topic owner fun client => { client with last := some now })
      deliverTopic env owner topic sample options

/-- `Bridge::subscribe`. -/
def subscribe (owner : Connection) (v : Json) : Step Unit := do
  let topic ← name v "topic"
  let options ← Options.parse v
  let typ ← resolve env v "topic" "msg"
  shareSubscription env topic typ v
  joinSubscription env owner topic options v

/-- `Bridge::unsubscribe`. -/
def unsubscribe (owner : Connection) (topic : String) (id : Option String) : Step Unit := do
  match (← tables).subscriptions.lookup topic with
  | none => Program.fail ⟨"topic is not subscribed"⟩
  | some subscription => do
      Program.ensure (owner ∈ subscription.clients) ⟨"topic is not subscribed by this client"⟩
      Program.ensure (subscription.holds owner id) ⟨"unknown subscription id"⟩
      if (subscription.release owner id).clients.isEmpty then do
        update fun b => { b with subscriptions := b.subscriptions.erase topic }
        Backend.destroy subscription.entity
      else update fun b =>
        { b with subscriptions := b.subscriptions.alter topic (Subscription.release owner id) }

/-- Whether a client may receive a sample now: nothing is queued before it and its
throttle has passed. -/
def dueNow (client : ClientSubscription) (options : Options) : Step Bool :=
  if client.pending.isEmpty then
    match client.last with
    | none => return true
    | some last => do return decide (Instant.since (← instant env) last ≥ options.throttle)
  else return false

/-- A sample about to be delivered. -/
structure Delivery where
  owner : Connection
  topic : String
  sample : RosMessage
  options : Options

/-- Route one sample to one client: deliver it, queue it or drop it. -/
def routeSample (topic : String) (sample : RosMessage) (deliveries : List Delivery)
    (entry : Connection × ClientSubscription) : Step (List Delivery) := do
  let (owner, client) := entry
  let options := client.options
  if ← dueNow env client options then do
    let now ← instant env
    update (Bridge.alterClient topic owner fun client => { client with last := some now })
    return deliveries ++ [{ owner, topic, sample, options }]
  else if options.queue > 0 then do
    update (Bridge.alterClient topic owner fun client =>
      { client with pending := makeRoom options.queue client.pending ++ [sample] })
    return deliveries
  else return deliveries

/-- Hand out the collected samples. -/
def deliverAll (deliveries : List Delivery) : Step Unit :=
  Program.forEach deliveries fun delivery =>
    deliverTopic env delivery.owner delivery.topic delivery.sample delivery.options

/-- The feedback message of a client goal. -/
def feedbackMessage (goal : ClientGoal) (sample : RosMessage) : Object :=
  [("op", .str "action_feedback"), ("action", .str goal.action),
    ("values", sample.json.index "feedback")]

/-- Pass a feedback sample on if its goal is the client's. -/
def feedGoal (goal : ClientGoal) (sample : RosMessage) : Step Unit :=
  if goal.feedback then do
    let own ← uuidKey env goal.uuid
    let other ← uuidKey env (sample.json.index "goal_id")
    Program.whenever (own = other)
      (send env goal.owner (feedbackMessage goal sample) goal.id goal.options none)
  else pure ()

/-- Offer a sample to the clients of a topic. -/
def shareSample (topic : String) (subscription : Subscription) (sample : RosMessage) :
    Step Unit := do
  -- Shared native subscriptions receive DDS history only once. The latest
  -- transient-local sample is kept for clients that join later.
  Program.whenever subscription.transientLocal
    (update fun b =>
      { b with
        subscriptions := (b.subscriptions.alter topic fun subscription =>
          { subscription with retained := some sample }) })
  let clients ← visit env subscription.clients
  let deliveries ← Program.foldEach clients [] (routeSample env topic sample)
  deliverAll env deliveries

/-- `Bridge::topic_message`. -/
def topicMessage (entity : Entity) (sample : RosMessage) : Step Unit := do
  let goals ← visit env (← tables).goals
  match goals.find? fun entry => entry.2.feedbackSub == entity with
  | some (_, goal) => feedGoal env goal sample
  | none => do
      let subscriptions ← visit env (← tables).subscriptions
      match subscriptions.find? fun entry => entry.2.entity == entity with
      | none => pure ()
      | some (topic, subscription) => shareSample env topic subscription sample

end Rosbridge
