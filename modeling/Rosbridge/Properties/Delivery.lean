import Rosbridge.Properties.Lifecycle
import Rosbridge.Refine.Retention

/-!
Topic delivery to one subscriber.

Owns: that over every stretch of a membership the bridge is a throttled feed for its reader; the
order, the spacing and the bound that follow; that nothing is left out without a throttle; and how
a membership begins.
-/

set_option autoImplicit false

namespace Rosbridge

open Foundation Program

variable {env : Environment} {access : Access} {timeout : Duration} {connection : Connection}
  {topic : String} {joined m : Machine} {entity : Entity} {client : ClientSubscription}

/-! ### A stretch of a run -/

/-- The connection reads the topic, and its limits pass a test. -/
def Machine.Reads (connection : Connection) (topic : String) (limits : Duration → Nat → Prop)
    (m : Machine) : Prop :=
  ∃ entity client, m.bridge.reader connection topic = some (entity, client) ∧
    limits client.options.throttle client.options.queue

/-- What a reader was offered and given since it was in the state `client`. -/
structure Served (connection : Connection) (topic : String) (entity : Entity)
    (client : ClientSubscription) (limits : Duration → Nat → Prop) (joined m : Machine)
    (acts : List (Feed.Act RosMessage)) (added : History) (feed : Feed RosMessage) : Prop where
  grown : m.log = joined.log ++ added
  run : Trail Feed.Step acts client.feed feed
  tuned : ∀ throttle queue, .retuned throttle queue ∈ acts → limits throttle queue
  timed : ∀ delivery ∈ Feed.delivered acts, .instant delivery.2 ∈ m.log
  offered : Feed.offered acts = samplesOf entity added.events
  handed : (added.publishedTo connection topic).map Message.value =
    (Feed.delivered acts).map fun delivery => sampleValue topic delivery.1
  reader : ∀ source current, m.bridge.reader connection topic = some (source, current) →
    source = entity ∧ current.last = feed.last ∧ current.pending = feed.pending

theorem ClientSubscription.feed_of {current : ClientSubscription} {feed : Feed RosMessage}
    (last : current.last = feed.last) (pending : current.pending = feed.pending) :
    current.feed =
      { feed with throttle := current.options.throttle, queue := current.options.queue } := by
  unfold ClientSubscription.feed
  rw [last, pending]

/-- One more operation. -/
theorem Served.step {limits : Duration → Nat → Prop} {acts : List (Feed.Act RosMessage)}
    {added : History} {feed : Feed RosMessage} {after : Machine}
    (served : Served connection topic entity client limits joined m acts added feed)
    (reads : m.Reads connection topic limits) (attended : Attended connection topic m after) :
    ∃ acts' added' feed',
      Served connection topic entity client limits joined after acts' added' feed' := by
  obtain ⟨source, current, here, within⟩ := reads
  obtain ⟨rfl, last, pending⟩ := served.reader source current here
  obtain ⟨more, further, next, grown, taking, offered, handed, reader⟩ :=
    attended source current here
  have tuning : Trail Feed.Step [.retuned current.options.throttle current.options.queue] feed
      current.feed := by
    rw [current.feed_of last pending]
    exact .single (.retuned _ _)
  have longer : m.log ⊆ after.log := by
    rw [grown]
    exact List.subset_append_left _ _
  refine ⟨acts ++ .retuned current.options.throttle current.options.queue :: more,
    added ++ further, next.feed, ?_, served.run.append (tuning.append taking.run), ?_, ?_, ?_, ?_,
    fun source last reads => ?_⟩
  · rw [grown, served.grown, List.append_assoc]
  · intro throttle queue member
    rcases List.mem_append.mp member with early | later
    · exact served.tuned throttle queue early
    · rcases List.mem_cons.mp later with same | late
      · cases same
        exact within
      · exact absurd late (taking.untuned throttle queue)
  · intro delivery member
    rw [Feed.delivered_append] at member
    rcases List.mem_append.mp member with early | late
    · exact longer (served.timed delivery early)
    · exact taking.timed delivery late
  · rw [Feed.offered_append, served.offered, History.events_append, samplesOf_append, ← offered]
    rfl
  · rw [History.publishedTo_append, List.map_append, served.handed, handed, Feed.delivered_append,
      List.map_append]
    rfl
  · obtain ⟨same, last', pending'⟩ := reader source last reads
    exact ⟨same, last', pending'⟩

/-- A whole run in which the connection reads the topic before every step. -/
theorem Onward.served {limits : Duration → Nat → Prop} (monotone : env.Monotone)
    (shaped : Shaped joined) (balanced : Fresh joined.log → Balanced joined)
    (reads : joined.bridge.reader connection topic = some (entity, client))
    (run : Onward env (fun _ => Machine.Reads connection topic limits) joined m)
    (fresh : Fresh m.log) :
    ∃ acts added feed, Served connection topic entity client limits joined m acts added feed := by
  induction run with
  | here =>
      refine ⟨[], [], client.feed, (List.append_nil _).symm, .nil _, ?_, ?_, rfl, rfl, ?_⟩
      · exact fun _ _ member => absurd member List.not_mem_nil
      · exact fun _ member => absurd member List.not_mem_nil
      · intro source current here
        rw [reads] at here
        cases here
        exact ⟨rfl, rfl, rfl⟩
  | @step before op earlier returns admitted inductionHypothesis =>
      have kept := Onward.shaped earlier shaped
      have grown := reach_log_grows (performed_next op kept returns).follows
      have fresh' : Fresh before.log := fresh.inherit grown
      obtain ⟨acts, added, feed, served⟩ := inductionHypothesis fresh'
      have still : Fresh before.log → Balanced before := fun fresh =>
        earlier.carry fresh (fun _ _ _ taken shaped fresh => taken.balanced shaped fresh) shaped
          (balanced (fresh.inherit (by rw [served.grown]; exact List.prefix_append _ _)))
      exact served.step admitted
        (operation_attended connection topic op monotone kept still returns fresh)

/-! ### Order, spacing and bound -/

/-- While a connection reads a topic, whoever else subscribes, unsubscribes or fails: what it is
sent are samples of the topic's entity that were polled since (or waited before), in their order
and each at most once, and those that wait come after them; two deliveries are at least the least merged
throttle of that time apart; and no more samples wait than the longest merged queue holds. -/
theorem topic_delivery {least most : Nat} (monotone : env.Monotone)
    (reached : Reachable env access timeout joined)
    (reads : joined.bridge.reader connection topic = some (entity, client))
    (throttled : least ≤ client.options.throttle) (limited : client.options.queue ≤ most)
    (run : Onward env (fun _ => Machine.Reads connection topic fun throttle queue =>
      least ≤ throttle ∧ queue ≤ most) joined m) (fresh : Fresh m.log) :
    ∃ (deliveries : List (RosMessage × Instant)) (waiting : List RosMessage) (added : History),
      m.log = joined.log ++ added ∧
      (added.publishedTo connection topic).map Message.value =
        deliveries.map (fun delivery => sampleValue topic delivery.1) ∧
      (∀ delivery ∈ deliveries, .instant delivery.2 ∈ m.log) ∧
      (deliveries.map Prod.fst ++ waiting).Sublist
        (client.pending ++ samplesOf entity added.events) ∧
      (client.last.toList ++ deliveries.map Prod.snd).IsChain
        (fun early late => least ≤ late - early) ∧
      (client.pending.length ≤ most → waiting.length ≤ most) ∧
      ∀ source current, m.bridge.reader connection topic = some (source, current) →
        source = entity ∧ current.pending = waiting ∧
          current.last = (deliveries.map Prod.snd).getLast?.or client.last := by
  obtain ⟨acts, added, feed, served⟩ := Onward.served monotone
    (Onward.shaped reached (shaped_new access timeout)) (ReachableBy.balanced reached) reads run fresh
  refine ⟨Feed.delivered acts, feed.pending, added, served.grown, served.handed, served.timed, ?_,
    Feed.run_spaced served.run throttled served.tuned, ?_, ?_⟩
  · rw [← served.offered]
    exact Feed.run_order served.run
  · intro fits
    exact Feed.run_bounded served.run limited fits served.tuned
  · intro source current here
    obtain ⟨same, last, pending⟩ := served.reader source current here
    exact ⟨same, pending, last.trans (Feed.run_last served.run)⟩

/-- A topic that brings a sample on every poll. The clock reads a millisecond for each entry. -/
def Environment.sampling : Environment :=
  { Environment.steady with
    subscription := fun _ _ _ _ => .ok 1
    poll := fun log => .ok [.message 1
      { json := .obj [("data", .int log.length)], cbor := .null, raw := [], stamp := (0, 0) }]
    instant := fun log => log.length * 1000000 }

theorem Environment.sampling_monotone : Environment.sampling.Monotone := by
  intro log more
  show log.length * 1000000 ≤ (log ++ more).length * 1000000
  rw [List.length_append]
  exact Nat.mul_le_mul_right _ (Nat.le_add_right _ _)

/-- The command that subscribes to the topic with a throttle in milliseconds. -/
def subscribeChatter (connection : Connection) (throttle : Int) : Operation :=
  .command connection [("op", .str "subscribe"), ("topic", .str "/chatter"),
    ("type", .str "std_msgs/msg/String"), ("throttle_rate", .int throttle),
    ("queue_length", .int 2),
    ("qos", .obj [("durability", .str "transient_local"), ("depth", .int 1)])]

theorem Machine.reads_of_any {limits : Duration → Nat → Prop}
    [∀ throttle, DecidablePred (limits throttle)]
    (passes : ((m.bridge.reader connection topic).any fun entry =>
      decide (limits entry.2.options.throttle entry.2.options.queue)) = true) :
    m.Reads connection topic limits := by
  cases reads : m.bridge.reader connection topic with
  | none =>
      rw [reads] at passes
      cases passes
  | some entry =>
      rw [reads] at passes
      exact ⟨entry.1, entry.2, reads, of_decide_eq_true passes⟩

/-- The first sample is sent at once and the second one waits for 50 milliseconds to pass. -/
theorem topic_delivery_sampling :
    let joined := ((Machine.new {} 5).next .sampling (.connect 0)).next .sampling
      (subscribeChatter 0 50)
    let m := (joined.next .sampling .tick).next .sampling .tick
    (m.bridge.reader 0 "/chatter").map (fun entry => entry.2.pending.length) = some 1 ∧
      ∃ (deliveries : List (RosMessage × Instant)) (added : History),
        m.log = joined.log ++ added ∧ deliveries ≠ [] ∧
        (added.publishedTo 0 "/chatter").map Message.value =
          deliveries.map (fun delivery => sampleValue "/chatter" delivery.1) ∧
        (deliveries.map Prod.snd).IsChain fun early late => 50000000 ≤ late - early := by
  intro joined m
  have reached : Reachable .sampling {} 5 joined :=
    .step _ (.step _ .here (by decide +kernel) trivial) (by decide +kernel) trivial
  have limits : joined.Reads 0 "/chatter" fun throttle queue => 50000000 ≤ throttle ∧ queue ≤ 2 :=
    Machine.reads_of_any (by decide +kernel)
  obtain ⟨entity, client, reads, throttled, limited⟩ := limits
  have run : Onward .sampling (fun _ => Machine.Reads 0 "/chatter" fun throttle queue =>
      50000000 ≤ throttle ∧ queue ≤ 2) joined m :=
    .step _ (.step _ .here (by decide +kernel) (Machine.reads_of_any (by decide +kernel)))
      (by decide +kernel) (Machine.reads_of_any (by decide +kernel))
  have fresh : Fresh m.log := ⟨by decide +kernel, by decide +kernel, by decide +kernel⟩
  have idle : (joined.bridge.reader 0 "/chatter").map (fun entry => entry.2.last) = some none := by
    decide +kernel
  rw [reads] at idle
  have unheard : client.last = none := Option.some.inj idle
  obtain ⟨deliveries, waiting, added, grown, handed, -, -, spaced, -, -⟩ :=
    topic_delivery Environment.sampling_monotone reached reads throttled limited run fresh
  rw [unheard] at spaced
  refine ⟨by decide +kernel, deliveries, added, grown, ?_, handed, spaced⟩
  rintro rfl
  have sent : (History.publishedTo 0 "/chatter" (m.log.drop joined.log.length)).length = 1 := by
    decide +kernel
  rw [grown, List.drop_left, ← List.length_map Message.value, handed] at sent
  cases sent

/-- A connection that becomes a reader is sent the latest sample that was polled from the topic's
entity since the subscription was created, if that subscription is transient-local, and nothing
otherwise. Nothing waits, and the throttle runs from that sample on. -/
theorem late_joiner {v : Object} (reached : Reachable env access timeout m)
    (outside : m.bridge.reader connection topic = none)
    (returns : ¬ (perform env (.command connection v) m).1.IsPanic)
    (fresh : Fresh (m.next env (.command connection v)).log)
    (reads : (m.next env (.command connection v)).bridge.reader connection topic =
      some (entity, client)) :
    ∃ (added earlier later : History) (typ : String) (qos : Qos) (kept : Option RosMessage),
      (m.next env (.command connection v)).log = m.log ++ added ∧
      (m.next env (.command connection v)).log =
        earlier ++ Entry.subscription topic typ qos (.ok entity) :: later ∧
      kept = (if qos.durability = 1 then (samplesOf entity later.events).getLast? else none) ∧
      (added.publishedTo connection topic).map Message.value =
        kept.toList.map (sampleValue topic) ∧
      client.pending = [] ∧ client.last.isSome = kept.isSome ∧
      ∀ last, client.last = some last → .instant last ∈ (m.next env (.command connection v)).log := by
  have retains := ReachableBy.retains (.step (.command connection v) reached returns trivial) fresh
    topic
  have joins := command_reads env connection topic connection (.obj v) (m := m)
  rw [wp_iff] at joins
  rcases joins with parted | ⟨-, -, joined⟩
  · obtain ⟨old, here, -⟩ := parted.reader entity client reads
    rw [outside] at here
    cases here
  obtain ⟨source, acts, added, current, grown, -, reads', -, keeps, taking, offered, delivered,
    handed⟩ := joined
  obtain ⟨rfl, rfl⟩ : source = entity ∧ current = client := by
    have same := reads'.symm.trans reads
    cases same
    exact ⟨rfl, rfl⟩
  obtain ⟨subscription, found, rfl, -⟩ := Bridge.reader_entity reads
  obtain ⟨earlier, later, typ, qos, heard, split, durable, events, kept⟩ :=
    retains subscription.core (by rw [Bridge.core, found]; rfl)
  have known : (m.next env (.command connection v)).bridge.retainedOf topic =
      subscription.retained := by
    rw [Bridge.retainedOf, found]
    rfl
  have offers : Feed.offered acts = subscription.retained.toList := by
    rw [offered, ← known]
    exact congrArg Option.toList keeps.symm
  have order := Feed.run_order taking.run
  have latest : current.last = (Feed.times acts).getLast?.or none := Feed.run_last taking.run
  rw [delivered] at order
  have fits : (Feed.offered acts ++ current.pending).length ≤ (Feed.offered acts).length :=
    order.length_le
  rw [List.append_nil] at events
  refine ⟨added, earlier, later, typ, qos, subscription.retained, grown, split, ?_, ?_, ?_, ?_, ?_⟩
  · rw [events, show subscription.retained = _ from kept, durable]
    simp only [decide_eq_true_eq]
    rfl
  · rw [handed, ← offers, ← delivered, List.map_map]
    rfl
  · rw [List.length_append] at fits
    exact List.length_eq_zero_iff.mp (by omega)
  · have same := congrArg List.length (delivered.trans offers)
    rw [List.length_map] at same
    rw [latest, Option.or_none, Bool.eq_iff_iff, List.getLast?_isSome, Feed.times, Ne,
      List.map_eq_nil_iff, ← List.length_eq_zero_iff, same]
    cases subscription.retained <;> simp
  · intro last known
    rw [latest, Option.or_none] at known
    obtain ⟨delivery, member, rfl⟩ := List.mem_map.mp (List.mem_of_getLast? known)
    exact taking.timed delivery member

/-- The second client of the topic is sent the sample that the first one got. -/
theorem late_joiner_sampling :
    let m := ((((Machine.new {} 5).next .sampling (.connect 0)).next .sampling (.connect 1)).next
      .sampling (subscribeChatter 0 0)).next .sampling .tick
    let last := m.next .sampling (subscribeChatter 1 0)
    ∃ (added : History) (sample : RosMessage), last.log = m.log ++ added ∧
      (added.publishedTo 1 "/chatter").map Message.value = [sampleValue "/chatter" sample] := by
  intro m last
  have reached : Reachable .sampling {} 5 m :=
    .step _ (.step _ (.step _ (.step _ .here (by decide +kernel) trivial) (by decide +kernel)
      trivial) (by decide +kernel) trivial) (by decide +kernel) trivial
  have outside : m.bridge.reader 1 "/chatter" = none := by
    rw [← Option.isNone_iff_eq_none]
    decide +kernel
  have inside : (last.bridge.reader 1 "/chatter").isSome := by decide +kernel
  obtain ⟨⟨entity, client⟩, reads⟩ := Option.isSome_iff_exists.mp inside
  have fresh : Fresh last.log := ⟨by decide +kernel, by decide +kernel, by decide +kernel⟩
  obtain ⟨added, -, -, -, -, kept, grown, -, -, handed, -⟩ :=
    late_joiner reached outside (by decide +kernel) fresh reads
  have sent : (History.publishedTo 1 "/chatter" (last.log.drop m.log.length)).length = 1 := by
    decide +kernel
  have drops : last.log.drop m.log.length = added :=
    (congrArg (List.drop m.log.length) grown).trans List.drop_left
  rw [drops, ← List.length_map Message.value, handed] at sent
  cases kept with
  | none => cases sent
  | some sample => exact ⟨added, sample, grown, handed⟩

end Rosbridge
