import Rosbridge.Refine.Readers

/-!
The sample that a topic keeps.

Owns: `Bridge.core`, a subscription without its clients; `Fading`, a stretch in which it stays or
goes; `Retains`, that a transient-local subscription keeps the latest sample it was handed since
its creation and any other keeps none; and that every operation keeps this.
-/

set_option autoImplicit false

namespace Rosbridge

open Foundation Program

/-- A subscription without its clients. -/
structure SubscriptionCore where
  entity : Entity
  transientLocal : Bool
  retained : Option RosMessage

def Subscription.core (subscription : Subscription) : SubscriptionCore where
  entity := subscription.entity
  transientLocal := subscription.transientLocal
  retained := subscription.retained

def Bridge.core (topic : String) (b : Bridge) : Option SubscriptionCore :=
  (b.subscriptions.lookup topic).map Subscription.core

/-- The latest of these samples, if the subscription keeps one. -/
def SubscriptionCore.Keeps (core : SubscriptionCore) (heard : List Event) : Prop :=
  core.retained =
    if core.transientLocal then (samplesOf core.entity heard).getLast? else none

/-- Each subscription was created, and keeps what it should of the events since. The events
`waiting` were polled and are still to be handled. -/
def Retains (topic : String) (waiting : List Event) (m : Machine) : Prop :=
  ∀ core, m.bridge.core topic = some core → ∃ (earlier later : History) (typ : String) (qos : Qos)
    (heard : List Event),
    m.log = earlier ++ Entry.subscription topic typ qos (.ok core.entity) :: later ∧
    core.transientLocal = decide (qos.durability = 1) ∧
    later.events = heard ++ waiting ∧ core.Keeps heard

/-- No event comes in, and the subscription stays or goes. -/
structure Fading (topic : String) (before after : Machine) : Prop where
  grown : ∃ added : History, after.log = before.log ++ added ∧ added.events = []
  core : ∀ core, after.bridge.core topic = some core → before.bridge.core topic = some core

variable {env : Environment} {connection owner : Connection} {topic other : String}
  {before middle after m : Machine} {waiting : List Event} {v : Json} {α : Type}

theorem Fading.refl (m : Machine) : Fading topic m m :=
  ⟨⟨[], (List.append_nil _).symm, rfl⟩, fun _ => id⟩

theorem Fading.trans (first : Fading topic before middle) (rest : Fading topic middle after) :
    Fading topic before after := by
  obtain ⟨added, grown, still⟩ := first.grown
  obtain ⟨further, grown', still'⟩ := rest.grown
  refine ⟨⟨added ++ further, ?_, ?_⟩, fun core known => first.core core (rest.core core known)⟩
  · rw [grown', grown, List.append_assoc]
  · rw [History.events_append, still, still', List.append_nil]

instance : Std.Refl (Fading topic) := ⟨Fading.refl⟩

instance : IsTrans Machine (Fading topic) := ⟨fun _ _ _ => Fading.trans⟩

theorem Aloof.fading (topic : String) (aloof : Aloof before after) : Fading topic before after := by
  obtain ⟨added, grown, -, still⟩ := aloof.grown
  refine ⟨⟨added, grown, still⟩, fun core known => ?_⟩
  rwa [Bridge.core, aloof.subscriptions] at known

theorem Fading.of_bystands {program : Step α} (bystands : Bystands program) :
    Within (Fading topic) program := bystands.mono fun _ _ aloof => aloof.fading topic

/-- A change of one subscription that is about its clients. -/
theorem Fading.update {change : Subscription → Subscription}
    (same : ∀ subscription, (change subscription).core = subscription.core) :
    Within (Fading topic) (Rosbridge.update fun b =>
      { b with subscriptions := b.subscriptions.alter other change }) := by
  refine fun m => ⟨⟨[], (List.append_nil _).symm, rfl⟩, fun core known => ?_⟩
  have altered : ((m.bridge.subscriptions.alter other change).lookup topic).map
      Subscription.core = some core := known
  rw [AList.lookup_alter] at altered
  split at altered
  · next here =>
      rw [Bridge.core, here]
      cases found : m.bridge.subscriptions.lookup other with
      | none =>
          rw [found] at altered
          cases altered
      | some subscription =>
          rw [found, Option.map_some, Option.map_some, same] at altered
          exact altered
  · exact altered

theorem Retains.fade (retains : Retains topic waiting before) (fading : Fading topic before after) :
    Retains topic waiting after := by
  intro core known
  obtain ⟨earlier, later, typ, qos, heard, split, durable, events, keeps⟩ :=
    retains core (fading.core core known)
  obtain ⟨added, grown, still⟩ := fading.grown
  refine ⟨earlier, later ++ added, typ, qos, heard, ?_, durable, ?_, keeps⟩
  · rw [grown, split, List.append_assoc, List.cons_append]
  · rw [History.events_append, still, List.append_nil, events]

/-! ### Clients -/

section Clients

variable (env)

theorem deliverTopic_fades (owner : Connection) (other : String) (sample : RosMessage)
    (options : Options) : Within (Fading topic) (deliverTopic env owner other sample options) := by
  intro m
  have delivers : wp (deliverTopic env owner other sample options) _ m :=
    deliverTopic_delivers other sample options
  rw [wp_iff] at delivers
  obtain ⟨-, handed⟩ := delivers
  obtain ⟨added, grown, -, still⟩ := handed.grown
  obtain ⟨next, failed, tables⟩ := handed.tables
  refine ⟨⟨added, grown, still⟩, fun core known => ?_⟩
  rwa [tables] at known

theorem alterClient_fades (owner : Connection) (other : String)
    (change : ClientSubscription → ClientSubscription) :
    Within (Fading topic) (update (Bridge.alterClient other owner change)) :=
  .update fun _ => rfl

theorem dueNow_bystands (client : ClientSubscription) (options : Options) :
    Bystands (dueNow env client options) := by
  refine .ite ?_ (.pure false)
  cases client.last with
  | none => exact .pure true
  | some last => exact .bind (instant_bystands env) fun _ => .pure _

theorem routeSample_fades (other : String) (sample : RosMessage) (deliveries : List Delivery)
    (entry : Connection × ClientSubscription) :
    Within (Fading topic) (routeSample env other sample deliveries entry) := by
  refine .bind (.of_bystands (dueNow_bystands env _ _)) fun due => .ite ?_ (.ite ?_ (.pure _))
  · refine .bind (.of_bystands (instant_bystands env)) fun now => ?_
    exact .bind (alterClient_fades _ _ _) fun _ => .pure _
  · exact .bind (alterClient_fades _ _ _) fun _ => .pure _

theorem deliverAll_fades (deliveries : List Delivery) :
    Within (Fading topic) (deliverAll env deliveries) :=
  .forEach fun _ => deliverTopic_fades env _ _ _ _

theorem deliverPending_fades (now : Instant) : Within (Fading topic) (deliverPending env now) := by
  refine .bind (.of_bystands .tables) fun b => .bind (.of_bystands (visit_bystands env _)) ?_
  refine fun topics => .bind (.foldEach (fun deliveries entry => ?_) _) fun deliveries =>
    deliverAll_fades env deliveries
  refine .bind (.of_bystands (visit_bystands env _)) fun clients => .foldEach (fun taken item => ?_) _
  unfold popPending
  dsimp only
  split
  · exact .pure _
  · exact .bind (alterClient_fades _ _ _) fun _ => .pure _

theorem joinSubscription_fades (owner : Connection) (other : String) (options : Options) (v : Json) :
    Within (Fading topic) (joinSubscription env owner other options v) := by
  refine .bind (.of_bystands .tables) fun b => .bind (.unwrap _ _) fun subscription => ?_
  refine .bind (.update fun subscription => ?_) fun _ => .bind (.lift _) fun id => ?_
  · unfold Subscription.join
    split <;> rfl
  refine .bind (alterClient_fades _ _ _) fun _ => ?_
  cases if owner ∈ subscription.clients then none else subscription.retained with
  | none => exact .pure ()
  | some sample =>
      refine .bind (.of_bystands (instant_bystands env)) fun now => ?_
      exact .bind (alterClient_fades _ _ _) fun _ => deliverTopic_fades env _ _ _ _

theorem unsubscribe_fades (owner : Connection) (other : String) (id : Option String) :
    Within (Fading topic) (unsubscribe owner other id) := by
  refine .bind (.of_bystands .tables) fun b => ?_
  cases b.subscriptions.lookup other with
  | none => exact .fail _
  | some subscription =>
      refine .bind (.ensure _ _) fun _ => .bind (.ensure _ _) fun _ => .ite ?_ (.update fun _ => rfl)
      refine .bind (fun m => ⟨⟨[], (List.append_nil _).symm, rfl⟩, fun core known => ?_⟩) fun _ =>
        .of_bystands (.ask fun _ => ⟨rfl, rfl⟩)
      have erased : ((m.bridge.subscriptions.erase other).lookup topic).map Subscription.core =
          some core := known
      rw [AList.lookup_erase_if] at erased
      split at erased
      · cases erased
      · exact erased

end Clients

/-! ### Samples -/

/-- A subscription after an event. -/
def SubscriptionCore.heed (event : Event) (core : SubscriptionCore) : SubscriptionCore :=
  if core.transientLocal then
    { core with retained := (event.sampleOf? core.entity).or core.retained }
  else core

/-- No further event comes in, and the subscription heeds this one. -/
structure Heeded (topic : String) (event : Event) (before after : Machine) : Prop where
  grown : ∃ added : History, after.log = before.log ++ added ∧ added.events = []
  core : ∀ core, after.bridge.core topic = some core →
    ∃ old, before.bridge.core topic = some old ∧ core = old.heed event

theorem Heeded.fade {event : Event} (heeded : Heeded topic event before middle)
    (fading : Fading topic middle after) : Heeded topic event before after := by
  obtain ⟨added, grown, still⟩ := heeded.grown
  obtain ⟨further, grown', still'⟩ := fading.grown
  refine ⟨⟨added ++ further, ?_, ?_⟩, fun core known => heeded.core core (fading.core core known)⟩
  · rw [grown', grown, List.append_assoc]
  · rw [History.events_append, still, still', List.append_nil]

/-- An event that brings the subscription nothing. -/
theorem Fading.heeded {event : Event} (fading : Fading topic before after)
    (far : ∀ core, before.bridge.core topic = some core → event.sampleOf? core.entity = none) :
    Heeded topic event before after := by
  refine ⟨fading.grown, fun core known => ⟨core, fading.core core known, ?_⟩⟩
  unfold SubscriptionCore.heed
  split
  · rw [far core (fading.core core known), Option.none_or]
  · rfl

/-- The event is no longer waiting. -/
theorem Retains.heed {event : Event} (retains : Retains topic (event :: waiting) before)
    (heeded : Heeded topic event before after) : Retains topic waiting after := by
  intro core known
  obtain ⟨old, present, rfl⟩ := heeded.core core known
  obtain ⟨earlier, later, typ, qos, heard, split, durable, events, keeps⟩ := retains old present
  obtain ⟨added, grown, still⟩ := heeded.grown
  have same : (old.heed event).entity = old.entity ∧
      (old.heed event).transientLocal = old.transientLocal := by
    unfold SubscriptionCore.heed
    split <;> exact ⟨rfl, rfl⟩
  refine ⟨earlier, later ++ added, typ, qos, heard ++ [event], ?_, ?_, ?_, ?_⟩
  · rw [grown, split, List.append_assoc, List.cons_append, same.1]
  · rw [same.2, durable]
  · rw [History.events_append, still, List.append_nil, events, List.append_assoc]
    rfl
  · unfold SubscriptionCore.Keeps at keeps ⊢
    rw [same.1, same.2, samplesOf_append, List.getLast?_append]
    unfold SubscriptionCore.heed
    cases durability : old.transientLocal with
    | false =>
        rw [durability] at keeps
        exact keeps
    | true =>
        rw [durability] at keeps
        rw [if_pos rfl, if_pos rfl]
        show (event.sampleOf? old.entity).or old.retained = _
        rw [keeps, if_pos rfl]
        cases brings : event.sampleOf? old.entity <;> simp [samplesOf, brings]

section Samples

variable {entity : Entity} {sample : RosMessage} {subscription : Subscription}

/-- The rounds of the clients and what follows them. -/
theorem shareSample_rounds_fade (other : String) (subscription : Subscription) :
    Within (Fading topic) (do
      let clients ← visit env subscription.clients
      let deliveries ← foldEach clients [] (routeSample env other sample)
      deliverAll env deliveries) := by
  refine .bind (.of_bystands (visit_bystands env _)) fun clients => ?_
  refine .bind (.foldEach (fun deliveries entry => ?_) _) fun deliveries => deliverAll_fades env _
  exact routeSample_fades env other sample deliveries entry

/-- A sample of another topic. -/
theorem shareSample_fades (apart : other ≠ topic) :
    Within (Fading topic) (shareSample env other subscription sample) := by
  refine .bind (.whenever fun m => ⟨⟨[], (List.append_nil _).symm, rfl⟩, fun core known => ?_⟩)
    fun _ => shareSample_rounds_fade other subscription
  have altered : ((m.bridge.subscriptions.alter other _).lookup topic).map Subscription.core =
      some core := known
  rwa [AList.lookup_alter, if_neg (Ne.symm apart)] at altered

/-- A sample of the topic. -/
theorem shareSample_heeds (found : m.bridge.subscriptions.lookup topic = some subscription) :
    wp (shareSample env topic subscription sample)
      (fun _ after => Heeded topic (.message subscription.entity sample) m after) m := by
  have present : m.bridge.core topic = some subscription.core := by
    rw [Bridge.core, found]
    rfl
  have retains : wp (whenever subscription.transientLocal (update fun b =>
      { b with
        subscriptions := (b.subscriptions.alter topic fun subscription =>
          { subscription with retained := some sample }) }))
      (fun outcome after => outcome = .ok () ∧
        Heeded topic (.message subscription.entity sample) m after) m := by
    rw [wp_whenever]
    split
    · next durable =>
        refine ⟨rfl, ⟨[], (List.append_nil _).symm, rfl⟩, fun core known => ⟨_, present, ?_⟩⟩
        have altered : ((m.bridge.subscriptions.alter topic _).lookup topic).map
            Subscription.core = some core := known
        rw [AList.lookup_alter, if_pos rfl, found] at altered
        cases altered
        unfold SubscriptionCore.heed
        have kept : subscription.core.transientLocal = true := durable
        rw [if_pos kept]
        simp [Event.sampleOf?, Subscription.core]
    · next volatile =>
        refine ⟨rfl, ⟨[], (List.append_nil _).symm, rfl⟩, fun core known => ⟨core, known, ?_⟩⟩
        rw [present] at known
        cases known
        unfold SubscriptionCore.heed
        exact (if_neg volatile).symm
  unfold shareSample
  refine wp_bind_returns retains fun m₁ heeded => ?_
  exact wp_mono (shareSample_rounds_fade topic subscription).wp fun _ after => heeded.fade

theorem Bridge.core_lookup {b : Bridge} {core : SubscriptionCore} (known : b.core topic = some core) :
    ∃ subscription, b.subscriptions.lookup topic = some subscription ∧
      core = subscription.core := by
  obtain ⟨subscription, found, rfl⟩ := Option.map_eq_some_iff.mp known
  exact ⟨subscription, found, rfl⟩

/-- A sample is heeded by the subscription whose entity it comes from. -/
theorem topicMessage_heeded (topic : String) (distinct : m.bridge.held.Nodup) :
    wp (topicMessage env entity sample)
      (fun _ after => Heeded topic (.message entity sample) m after) m := by
  have elsewhere {after : Machine} (fading : Fading topic m after)
      (far : ∀ subscription, m.bridge.subscriptions.lookup topic = some subscription →
        subscription.entity ≠ entity) : Heeded topic (.message entity sample) m after := by
    apply fading.heeded
    intro core known
    obtain ⟨subscription, found, rfl⟩ := Bridge.core_lookup known
    exact if_neg (far subscription found).symm
  have looks {before after : Machine} (looked : Looked before after) : Fading topic before after := by
    obtain ⟨added, grown, -, still⟩ := looked.grown
    refine ⟨⟨added, grown, still⟩, fun core known => ?_⟩
    rwa [looked.tables] at known
  unfold topicMessage
  refine wp_bind_tables (wp_bind_looked m.bridge.goals fun goals m₁ looked _ listed => ?_)
  cases fed : goals.find? fun entry => entry.2.feedbackSub == entity with
  | some entry =>
      have active := (listed entry.1 entry.2).mp (List.mem_of_find?_eq_some fed)
      have hears : entry.2.feedbackSub = entity := by simpa using List.find?_some fed
      have fades : Within (Fading topic) (feedGoal env entry.2 sample) :=
        .of_bystands (feedGoal_bystands env entry.2 sample)
      refine wp_mono fades.wp ?_
      intro outcome after rest
      apply elsewhere ((looks looked).trans rest)
      intro subscription found same
      exact feedback_apart distinct found active (hears.trans same.symm)
  | none =>
      refine wp_bind_tables (wp_bind_looked m₁.bridge.subscriptions
        fun topics m₂ looked₂ _ listed₂ => ?_)
      have sofar := (looks looked).trans (looks looked₂)
      rw [looked.tables] at listed₂
      have tables : m₂.bridge = m.bridge := looked₂.tables.trans looked.tables
      cases owns : topics.find? fun entry => entry.2.entity == entity with
      | none =>
          refine elsewhere sofar fun subscription found same => ?_
          have member := (listed₂ topic subscription).mpr found
          have differs := List.find?_eq_none.mp owns _ member
          exact differs (beq_iff_eq.mpr same)
      | some entry =>
          obtain ⟨name, subscription⟩ := entry
          have found := (listed₂ name subscription).mp (List.mem_of_find?_eq_some owns)
          obtain rfl : subscription.entity = entity := by simpa using List.find?_some owns
          by_cases here : name = topic
          · subst here
            have found₂ : m₂.bridge.subscriptions.lookup name = some subscription := by
              rw [tables]
              exact found
            refine wp_mono (shareSample_heeds found₂) ?_
            intro outcome after heeded
            obtain ⟨added, grown, still⟩ := sofar.grown
            obtain ⟨further, grown', still'⟩ := heeded.grown
            refine ⟨⟨added ++ further, ?_, ?_⟩, fun core known => ?_⟩
            · rw [grown', grown, List.append_assoc]
            · rw [History.events_append, still, still', List.append_nil]
            · obtain ⟨old, present, same⟩ := heeded.core core known
              rw [tables] at present
              exact ⟨old, present, same⟩
          · have fades : Within (Fading topic) (shareSample env name subscription sample) :=
              shareSample_fades here
            refine wp_mono fades.wp ?_
            intro outcome after rest
            refine elsewhere (sofar.trans rest) fun further found' same => ?_
            exact here (subscription_unique distinct found' found same.symm)

end Samples

/-! ### Operations -/

theorem handleEvent_heeded (topic : String) {event : Event} (distinct : m.bridge.held.Nodup) :
    wp (handleEvent env event) (fun _ after => Heeded topic event m after) m := by
  have aside {program : Step Unit} (bystands : Bystands program)
      (none : ∀ entity, event.sampleOf? entity = none) :
      wp program (fun _ after => Heeded topic event m after) m := by
    refine wp_mono bystands.wp fun _ after aloof => ?_
    exact (aloof.fading topic).heeded fun core _ => none core.entity
  cases event with
  | message entity sample =>
      show wp (attempt (topicMessage env entity sample) >>= fun _ => pure ()) _ m
      rw [wp_bind, wp_attempt]
      refine wp_mono (topicMessage_heeded topic distinct) ?_
      rintro (value | cause | site) after heeded
      · exact heeded
      · exact heeded
      · exact heeded
  | response entity sequence values =>
      exact aside (.bind (.attempt (response_bystands env entity sequence values)) fun _ => .pure ())
        fun _ => rfl
  | request entity request args =>
      exact aside (requestEvent_bystands env entity request args) fun _ => rfl

/-- The events of a poll, one after the other. -/
theorem events_retain (topic : String) (shaped : Shaped m) (balanced : Fresh m.log → Balanced m)
    (events : List Event) :
    wp (forEach events (handleEvent env)) (fun outcome after => ¬ outcome.IsPanic →
      outcome = .ok () ∧ m.log <+: after.log ∧
        (Fresh after.log → Retains topic events m → Retains topic [] after)) m := by
  induction events generalizing m with
  | nil => exact fun _ => ⟨rfl, List.prefix_rfl, fun _ => id⟩
  | cons event rest inductionHypothesis =>
      have first : wp (handleEvent env event) (fun _ after =>
          m.bridge.held.Nodup → Heeded topic event m after) m := by
        by_cases distinct : m.bridge.held.Nodup
        · exact wp_mono (handleEvent_heeded topic distinct) fun _ _ heeded _ => heeded
        · exact fun held => absurd held distinct
      rw [wp_forEach_cons]
      refine wp_mono (wp_and handleEvent_spec first) ?_
      rintro (value | cause | site) middle ⟨ends, heeded⟩
      · have run := EventDone.follows ends
        have grown := reach_log_grows run
        have carried : Fresh middle.log → Balanced middle := fun fresh =>
          Follows.carry run (fun _ _ _ taken => taken.balanced) shaped fresh
            (balanced (fresh.inherit grown))
        rw [andThen_ok]
        refine wp_mono (inductionHypothesis (Follows.shaped run shaped) carried) ?_
        intro outcome after later returned
        obtain ⟨ended, grown', retained⟩ := later returned
        refine ⟨ended, grown.trans grown', fun fresh retains => ?_⟩
        have early : Fresh m.log := fresh.inherit (grown.trans grown')
        exact retained fresh (retains.heed (heeded (Balanced.distinct (balanced early) early)))
      · exact ends.elim
      · exact fun panics => absurd trivial panics

/-- Every subscription still keeps what it should. -/
structure Retaining (topic : String) (before after : Machine) : Prop where
  grown : before.log <+: after.log
  retains : Retains topic [] before → Retains topic [] after

instance : Std.Refl (Retaining topic) := ⟨fun _ => ⟨List.prefix_rfl, id⟩⟩

instance : IsTrans Machine (Retaining topic) :=
  ⟨fun _ _ _ first rest => ⟨first.grown.trans rest.grown, rest.retains ∘ first.retains⟩⟩

theorem Fading.retaining (fading : Fading topic before after) : Retaining topic before after := by
  obtain ⟨added, grown, -⟩ := fading.grown
  exact ⟨⟨added, grown.symm⟩, fun retains => retains.fade fading⟩

theorem Retaining.of_fades {program : Step α} (fades : Within (Fading topic) program) :
    Within (Retaining topic) program := fades.mono fun _ _ => Fading.retaining

theorem Aloof.retaining (topic : String) (aloof : Aloof before after) : Retaining topic before after :=
  (aloof.fading topic).retaining

theorem Retaining.of_bystands {program : Step α} (bystands : Bystands program) :
    Within (Retaining topic) program := .of_fades (.of_bystands bystands)

section Operations

variable (env topic)

/-- A new subscription has kept nothing yet. -/
theorem shareSubscription_settles (other typ : String) (v : Json) :
    Within (Retaining topic) (shareSubscription env other typ v) := by
  refine .bind (.of_bystands .tables) fun b => ?_
  cases b.subscriptions.lookup other with
  | some subscription => exact .of_bystands (.ensure _ _)
  | none =>
      have bystands : Bystands (newSubscriptionQos env other v) := by
        unfold newSubscriptionQos
        cases v.get "qos" with
        | some value => exact .ofExcept _
        | none => exact .bind (.call fun _ => ⟨rfl, rfl⟩) fun _ => .pure _
      refine .bind (.of_bystands bystands) fun qos m => ?_
      have called (reply : Except Error Entity) : Fading topic m
          { m with log := m.log ++ [.subscription other typ qos reply] } :=
        ⟨⟨_, rfl, rfl⟩, fun _ => id⟩
      suffices settles : wp (Backend.subscription env other typ qos >>= fun entity => update fun b =>
          { b with
            subscriptions := (b.subscriptions.insert other
              { transientLocal := qos.durability = 1
                retained := none
                entity
                typ
                clients := ∅ }) }) (fun _ after => Retaining topic m after) m by
        rwa [wp_iff] at settles
      refine wp_bind_call (fun cause _ => (called _).retaining) fun entity _ => ?_
      refine ⟨List.prefix_append _ _, fun retains core known => ?_⟩
      have inserted : ((m.bridge.subscriptions.insert other _).lookup topic).map
          Subscription.core = some core := known
      rw [AList.lookup_insert_if] at inserted
      split at inserted
      · next here =>
          cases inserted
          rw [here]
          exact ⟨m.log, [], typ, qos, [], rfl, rfl, rfl, by simp [SubscriptionCore.Keeps, samplesOf,
            Subscription.core]⟩
      · exact retains.fade (called (.ok entity)) core inserted

theorem subscribe_settles (owner : Connection) (v : Json) :
    Within (Retaining topic) (subscribe env owner v) := by
  refine .bind (.lift _) fun name => .bind (.lift _) fun options => ?_
  refine .bind (.of_bystands (resolve_bystands env v _ _)) fun typ => ?_
  refine .bind (shareSubscription_settles env topic name typ v) fun _ => ?_
  exact .of_fades (joinSubscription_fades env owner name options v)

theorem unsubscribe_settles (owner : Connection) (other : String) (id : Option String) :
    Within (Retaining topic) (unsubscribe owner other id) :=
  .of_fades (unsubscribe_fades owner other id)

theorem settleTick_settles : Within (Retaining topic) (settleTick env) := by
  refine .bind (.of_bystands (instant_bystands env)) fun now => ?_
  refine .bind (.of_bystands (expireGoals_bystands env now)) fun _ => ?_
  refine .bind (.of_fades (deliverPending_fades env now)) fun _ => ?_
  exact endTick_within env (fun _ _ aloof => aloof.retaining topic) (unsubscribe_settles topic) now

end Operations

theorem tick_settles (topic : String) (shaped : Shaped m) (balanced : Fresh m.log → Balanced m) :
    wp (tick env) (fun outcome after => ¬ outcome.IsPanic → Fresh after.log →
      Retaining topic m after) m := by
  unfold tick Backend.poll
  refine wp_bind_call (fun cause _ _ _ => ?_) fun events _ => ?_
  · have noted : Aloof m { m with log := m.log ++ [.poll (.error cause)] } := ⟨⟨_, rfl, rfl, rfl⟩, rfl⟩
    exact noted.retaining topic
  have polled : Transition env (.polled events) m { m with log := m.log ++ [.poll (.ok events)] } :=
    Move.transition (.polled events) rfl trivial
  have begun : Fresh (m.log ++ [.poll (.ok events)]) →
      Balanced { m with log := m.log ++ [.poll (.ok events)] } := fun fresh =>
    polled.balanced shaped fresh (balanced (fresh.inherit (List.prefix_append _ _)))
  refine wp_bind_of (events_retain topic (polled.shaped shaped) begun events) ?_ ?_ ?_
  · intro _ m₁ handled
    obtain ⟨-, begins, retained⟩ := handled (by simp)
    refine wp_mono (settleTick_settles env topic).wp ?_
    rintro outcome after retaining - fresh
    refine ⟨(List.prefix_append _ _).trans (begins.trans retaining.grown), fun retains => ?_⟩
    apply retaining.retains
    apply retained (fresh.inherit retaining.grown)
    intro core known
    obtain ⟨earlier, later, typ, qos, heard, split, durable, events', keeps⟩ := retains core known
    refine ⟨earlier, later ++ [.poll (.ok events)], typ, qos, heard, ?_, durable, ?_, keeps⟩
    · rw [split, List.append_assoc, List.cons_append]
    · rw [History.events_append, events', List.append_nil]
      exact congrArg _ (List.append_nil events)
  · intro cause m₁ handled
    obtain ⟨ended, -⟩ := handled (by simp)
    cases ended
  · exact fun site m₁ _ panics => absurd trivial panics

/-- Every operation lets each subscription keep the latest sample, if it is to keep any. -/
theorem operation_settles (topic : String) (op : Operation) (shaped : Shaped m)
    (balanced : Fresh m.log → Balanced m) (returns : ¬ (perform env op m).1.IsPanic)
    (fresh : Fresh (m.next env op).log) : Retaining topic m (m.next env op) := by
  have stands (before after : Machine) (aloof : Aloof before after) : Retaining topic before after :=
    aloof.retaining topic
  cases op with
  | connect owner => exact Retaining.of_bystands (connect_bystands owner) m
  | command owner v =>
      exact command_within env stands (subscribe_settles env topic owner (.obj v))
        (unsubscribe_settles topic owner) m
  | tick =>
      have settles : wp (tick env) (fun outcome after => ¬ outcome.IsPanic → Fresh after.log →
          Retaining topic m after) m := tick_settles topic shaped balanced
      rw [wp_iff] at settles
      exact settles returns fresh
  | disconnect owner => exact disconnect_within env stands (unsubscribe_settles topic) owner m
  | shutdown => exact shutdown_within env stands (unsubscribe_settles topic) m

/-- A subscription of a running bridge keeps the latest sample that was polled from its entity
since its creation if it is transient-local, and none otherwise. -/
theorem ReachableBy.retains {admits : Operation → Machine → Prop} {access : Access}
    {timeout : Duration} (reached : ReachableBy env admits access timeout m) (fresh : Fresh m.log)
    (topic : String) : Retains topic [] m := by
  induction reached with
  | here => exact fun core known => nomatch known
  | @step before op earlier returns admitted inductionHypothesis =>
      have shaped := Onward.shaped earlier (shaped_new access timeout)
      have retaining (still : Fresh before.log → Balanced before) := operation_settles topic op shaped
        still returns fresh
      have grown := (retaining (ReachableBy.balanced earlier)).grown
      exact (retaining (ReachableBy.balanced earlier)).retains (inductionHypothesis (fresh.inherit grown))

end Rosbridge
