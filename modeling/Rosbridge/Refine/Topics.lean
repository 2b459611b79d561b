import Rosbridge.Refine.Rules

/-!
The topic handlers take moves.
-/

set_option autoImplicit false

namespace Rosbridge

open Foundation Program

variable {env : Environment} {owner : Connection} {v : Json} {m : Machine}

/-! ### Publishers -/

/-- After a successful `advertise` the topic has a publisher. -/
theorem advertise_spec (connected : owner ∈ m.bridge.outputs)
    (listed : ∀ topic, name v "topic" = .ok topic →
      onList m.bridge.access.pubTopics topic = true) :
    wp (advertise env owner v)
      (fun outcome after =>
        Ends env (Move.Advertises owner v) Never m outcome after ∧
          (outcome = .ok () → ∀ topic, name v "topic" = .ok topic →
            topic ∈ after.bridge.publishers)) m := by
  have start : Follows (Transition env) (Move.Advertises owner v) m m := .refl m
  unfold advertise
  refine wp_bind_lift (fun _ _ => ⟨start, by simp⟩) fun topic named => ?_
  refine wp_bind_lift (fun _ _ => ⟨start, by simp⟩) fun id identified => ?_
  refine wp_bind_tables ?_
  cases found : m.bridge.publishers.lookup topic with
  | some publisher =>
      refine wp_bind_lift (fun _ _ => ⟨start, by simp⟩) fun _ _ => ?_
      have member : topic ∈ m.bridge.publishers :=
        (AList.mem_iff_lookup _ _).mpr ⟨publisher, found⟩
      refine ⟨Move.change (.registered topic owner id) start ⟨rfl, named, identified⟩ rfl ⟨member, connected⟩ rfl, ?_⟩
      rintro - other same
      cases named.symm.trans same
      exact (AList.mem_alter _ _ _ _).mpr member
  | none =>
      refine (reads_resolve env v _ _).wp_bind start (fun _ => trivial)
        (fun _ _ _ reach => ⟨reach, by simp⟩) fun typ m₁ _ same reach => ?_
      refine wp_bind_lift (fun _ _ => ⟨reach, by simp⟩) fun qos _ => ?_
      refine wp_bind_call (fun cause _ => ⟨?_, by simp⟩) fun entity _ => ⟨?_, ?_⟩
      · refine Move.refuse reach trivial trivial ?_
        rw [same]
        exact listed topic named
      · refine Move.take (.advertised topic owner id entity typ qos) reach
          ⟨rfl, named, identified⟩ rfl ?_
        rw [Move.Enabled, same]
        exact ⟨AList.lookup_eq_none.mp found, connected, listed topic named⟩
      · rintro - other otherNamed
        cases named.symm.trans otherNamed
        exact (AList.mem_insert _).mpr (Or.inl rfl)

theorem advertise_ends (connected : owner ∈ m.bridge.outputs)
    (listed : ∀ topic, name v "topic" = .ok topic →
      onList m.bridge.access.pubTopics topic = true) :
    wp (advertise env owner v) (Ends env (Move.Advertises owner v) Never m) m :=
  wp_mono (advertise_spec connected listed) fun _ _ holds => holds.1

/-- A successful `unadvertise` drops what it names; a failed one changes nothing. -/
theorem unadvertise_spec (env : Environment) {topic : String} {id : Option String} :
    wp (unadvertise owner topic id)
      (fun outcome after =>
        match outcome with
        | .ok _ =>
            ∃ publisher, m.bridge.publishers.lookup topic = some publisher ∧
              (Transition env (.unadvertised topic owner id publisher) m after ∨
                Transition env (.withdrawn topic owner id) m after)
        | .error _ =>
            after = m ∧ ∀ publisher, m.bridge.publishers.lookup topic = some publisher →
              owner ∈ publisher.owners → publisher.holds owner id = false
        | .panic _ => False) m := by
  unfold unadvertise
  refine wp_bind_tables ?_
  cases found : m.bridge.publishers.lookup topic with
  | none => exact ⟨rfl, by simp⟩
  | some publisher =>
      refine wp_bind_ensure (fun foreign => ⟨rfl, ?_⟩) fun owned => ?_
      · rintro other ⟨⟩ owned
        exact absurd owned (of_decide_eq_false foreign)
      refine wp_bind_ensure (fun unknown => ⟨rfl, ?_⟩) fun holds => ?_
      · rintro other ⟨⟩ -
        exact unknown
      rw [wp_ite]
      split
      · next last =>
          exact ⟨publisher, rfl, .inl (Move.transition (.unadvertised topic owner id publisher)
            rfl ⟨found, of_decide_eq_true owned, holds, AList.isEmpty_iff.mp last⟩)⟩
      · next shared =>
          exact ⟨publisher, rfl, .inr (Move.transition_change (.withdrawn topic owner id) rfl
            ⟨publisher, found, of_decide_eq_true owned, holds,
              fun none => shared (AList.isEmpty_iff.mpr none)⟩ rfl)⟩

theorem unadvertise_ends {topic : String} {id : Option String} :
    wp (unadvertise owner topic id) (Ends env (Move.Beside owner) Never m) m := by
  refine wp_mono (unadvertise_spec env) ?_
  rintro (value | cause | site) after spec
  · obtain ⟨publisher, -, taken | taken⟩ := spec
    · exact .single taken rfl
    · exact .single taken rfl
  · rw [spec.1]
    exact .refl m
  · exact spec

theorem publish_ends (connected : owner ∈ m.bridge.outputs)
    (listed : ∀ topic, name v "topic" = .ok topic →
      onList m.bridge.access.pubTopics topic = true) :
    wp (publish env owner v) (Ends env (Move.Advertises owner v) Never m) m := by
  have start : Follows (Transition env) (Move.Advertises owner v) m m := .refl m
  unfold publish
  refine wp_bind_lift (fun _ _ => start) fun topic named => ?_
  refine wp_bind_ensure (fun _ => start) fun _ => ?_
  refine wp_bind_of (advertise_spec connected listed) ?_ (fun _ _ ends => ends.1)
    fun _ _ ends => ends.1
  rintro _ m₁ ⟨reach, recorded⟩
  refine wp_bind_tables ?_
  refine wp_bind_unwrap (fun absent => ?_) fun publisher found => ?_
  · exact absurd (recorded rfl topic named) (AList.lookup_eq_none.mp absent)
  refine wp_call_last (fun cause _ => ?_) fun _ _ => ?_
  · exact Move.use reach trivial (.publisher found)
  · exact Move.use reach trivial (.publisher found)

/-! ### Subscriptions -/

theorem reads_newSubscriptionQos {topic : String} : Reads (newSubscriptionQos env topic v) := by
  unfold newSubscriptionQos
  cases v.get "qos" with
  | some value => exact Reads.ofExcept _
  | none => exact Reads.bind (Reads.call fun _ => trivial) fun _ => Reads.pure _

theorem deliverTopic_hands {topic : String} {sample : RosMessage} {options : Options}
    {passes : Move → Prop} {origin : Machine} (reach : Follows (Transition env) passes origin m)
    (pass : ∀ message : Message, message.owner = owner → message.op = some "publish" →
      passes (.told message)) :
    wp (deliverTopic env owner topic sample options) (Returns env passes origin) m := by
  unfold deliverTopic
  simp only [wp_ite]
  split
  · refine wp_send env fun after sent => ?_
    exact Move.say reach (pass _ rfl rfl) (Or.inl rfl) sent
  · refine wp_send env fun after sent => ?_
    exact Move.say reach (pass _ rfl rfl) (Or.inl rfl) sent

theorem shareSubscription_spec {topic typ : String} {passes : Move → Prop} {origin : Machine}
    (reach : Follows (Transition env) passes origin m)
    (pass : ∀ entries, passes (.observed entries))
    (undoes : ∀ creations, passes (.aborted creations none))
    (listed : onList m.bridge.access.subTopics topic = true) :
    wp (shareSubscription env topic typ v)
      (fun outcome after =>
        match outcome with
        | .ok _ =>
            (topic ∈ m.bridge.subscriptions ∧ after = m) ∨
            (topic ∉ m.bridge.subscriptions ∧ ∃ middle entity qos,
              middle.bridge = m.bridge ∧ Follows (Transition env) passes origin middle ∧
              after =
                { bridge :=
                    { middle.bridge with
                      subscriptions := (middle.bridge.subscriptions.insert topic
                        { transientLocal := qos.durability = 1
                          retained := none
                          entity
                          typ
                          clients := ∅ }) }
                  log := middle.log ++ [.subscription topic typ qos (.ok entity)] })
        | .error _ => Follows (Transition env) passes origin after
        | .panic _ => False) m := by
  unfold shareSubscription
  refine wp_bind_tables ?_
  cases found : m.bridge.subscriptions.lookup topic with
  | some subscription =>
      have member : topic ∈ m.bridge.subscriptions :=
        (AList.mem_iff_lookup _ _).mpr ⟨subscription, found⟩
      rw [wp_ensure]
      split
      · exact Or.inl ⟨member, rfl⟩
      · exact reach
  | none =>
      refine reads_newSubscriptionQos.wp_bind reach pass (fun _ _ _ reach => reach)
        fun qos m₁ _ same reach₁ => ?_
      refine wp_bind_call (fun cause _ => ?_) fun entity _ => ?_
      · refine Move.refuse reach₁ (undoes _) trivial ?_
        rw [same]
        exact listed
      · exact Or.inr ⟨AList.lookup_eq_none.mp found, m₁, entity, qos, same, reach₁, rfl⟩

theorem joinSubscription_ends {topic : String} {options : Options} {id : Option String}
    {origin : Machine} (identified : requestId v = .ok id)
    (exists' : topic ∈ m.bridge.subscriptions)
    (enrolled : Follows (Transition env) (Move.Beside owner) origin
      { m with
        bridge :=
          { m.bridge with
            subscriptions :=
              m.bridge.subscriptions.alter topic (Subscription.enroll owner id options) } }) :
    wp (joinSubscription env owner topic options v) (Ends env (Move.Beside owner) Never origin) m := by
  unfold joinSubscription
  refine wp_bind_tables ?_
  refine wp_bind_unwrap (fun absent => ?_) fun subscription _ => ?_
  · exact absurd exists' (AList.lookup_eq_none.mp absent)
  refine wp_bind_update ?_
  refine wp_bind_lift (fun cause refused => ?_) fun registration same => ?_
  · rw [identified] at refused
    cases refused
  cases identified.symm.trans same
  refine wp_bind_update ?_
  simp only [Bridge.alterClient, AList.alter_alter]
  cases if owner ∈ subscription.clients then none else subscription.retained with
  | none => exact enrolled
  | some sample =>
      refine (reads_instant env).wp_bind enrolled (fun _ => trivial) (fun _ _ _ reach => reach)
        fun now m₁ _ _ reach => ?_
      refine wp_bind_update ?_
      refine Returns.ends (deliverTopic_hands ?_ fun _ owned published => ⟨owned, published⟩)
      exact Move.change (.sampled topic owner fun client => { client with last := some now })
        reach rfl rfl (fun _ => rfl) rfl

theorem subscribe_ends {id : Option String} (connected : owner ∈ m.bridge.outputs)
    (identified : requestId v = .ok id) (listed : ∀ topic, name v "topic" = .ok topic →
      onList m.bridge.access.subTopics topic = true) :
    wp (subscribe env owner v) (Ends env (Move.Beside owner) Never m) m := by
  have start : Follows (Transition env) (Move.Beside owner) m m := .refl m
  unfold subscribe
  refine wp_bind_lift (fun _ _ => start) fun topic named => ?_
  refine wp_bind_lift (fun _ _ => start) fun options _ => ?_
  refine (reads_resolve env v _ _).wp_bind start (fun _ => trivial)
    (fun _ _ _ reach => reach) fun typ m₁ _ same reach => ?_
  have listed₁ : onList m₁.bridge.access.subTopics topic = true := by
    rw [same]
    exact listed topic named
  refine wp_bind_of (shareSubscription_spec reach (fun _ => trivial) (fun _ => trivial) listed₁)
    ?_ (fun _ _ reach => reach) fun _ _ never => never
  rintro _ m₂ (⟨shared, rfl⟩ | ⟨absent, m₃, entity, qos, same₃, reach₃, rfl⟩)
  · refine joinSubscription_ends identified shared ?_
    exact Move.change (.joined topic owner id options) reach rfl rfl
      ⟨shared, by rw [same]; exact connected⟩ rfl
  · refine joinSubscription_ends identified ((AList.mem_insert _).mpr (Or.inl rfl)) ?_
    simp only [AList.alter_insert]
    refine Move.take (.subscribed topic owner id options entity typ qos) reach₃ rfl rfl ?_
    rw [Move.Enabled, same₃]
    refine ⟨absent, ?_, listed₁⟩
    rw [same]
    exact connected

/-- A successful `unsubscribe` drops what it names; a failed one changes nothing. -/
theorem unsubscribe_spec (env : Environment) {topic : String} {id : Option String} :
    wp (unsubscribe owner topic id)
      (fun outcome after =>
        match outcome with
        | .ok _ =>
            ∃ subscription, m.bridge.subscriptions.lookup topic = some subscription ∧
              (Transition env (.unsubscribed topic owner id subscription) m after ∨
                Transition env (.parted topic owner id) m after)
        | .error _ =>
            after = m ∧ ∀ subscription,
              m.bridge.subscriptions.lookup topic = some subscription →
              owner ∈ subscription.clients → subscription.holds owner id = false
        | .panic _ => False) m := by
  unfold unsubscribe
  refine wp_bind_tables ?_
  cases found : m.bridge.subscriptions.lookup topic with
  | none => exact ⟨rfl, by simp⟩
  | some subscription =>
      refine wp_bind_ensure (fun foreign => ⟨rfl, ?_⟩) fun joined => ?_
      · rintro other ⟨⟩ joined
        exact absurd joined (of_decide_eq_false foreign)
      refine wp_bind_ensure (fun unknown => ⟨rfl, ?_⟩) fun holds => ?_
      · rintro other ⟨⟩ -
        exact unknown
      rw [wp_ite]
      split
      · next last =>
          exact ⟨subscription, rfl, .inl (Move.transition
            (.unsubscribed topic owner id subscription) rfl
            ⟨found, of_decide_eq_true joined, holds, AList.isEmpty_iff.mp last⟩)⟩
      · next shared =>
          exact ⟨subscription, rfl, .inr (Move.transition_change (.parted topic owner id) rfl
            ⟨subscription, found, of_decide_eq_true joined, holds,
              fun none => shared (AList.isEmpty_iff.mpr none)⟩ rfl)⟩

theorem unsubscribe_ends {topic : String} {id : Option String} :
    wp (unsubscribe owner topic id) (Ends env (Move.Beside owner) Never m) m := by
  refine wp_mono (unsubscribe_spec env) ?_
  rintro (value | cause | site) after spec
  · obtain ⟨subscription, -, taken | taken⟩ := spec
    · exact .single taken rfl
    · exact .single taken rfl
  · rw [spec.1]
    exact .refl m
  · exact spec

/-! ### Samples -/

section Samples

variable {passes : Move → Prop} {origin : Machine} {topic : String} {sample : RosMessage}
  {entity : Entity}

theorem deliverAll_returns (deliveries : List Delivery)
    (reach : Follows (Transition env) passes origin m)
    (pass : ∀ message : Message, message.op = some "publish" → passes (.told message)) :
    wp (deliverAll env deliveries) (Returns env passes origin) m :=
  forEach_returns reach fun _ _ reach => deliverTopic_hands reach fun message _ => pass message

theorem reads_dueNow (client : ClientSubscription) (options : Options) :
    Reads (dueNow env client options) := by
  unfold dueNow
  refine Reads.ite ?_ (Reads.pure _)
  cases client.last with
  | none => exact Reads.pure _
  | some last => exact Reads.bind (reads_instant env) fun _ => Reads.pure _

theorem Move.Carries.onSample {move : Move} (carries : move.Carries entity sample) :
    move.OnSample := by
  cases move <;> trivial

theorem routeSample_ends (deliveries : List Delivery) (client : Connection × ClientSubscription)
    (reach : Follows (Transition env) (Move.Carries entity sample) origin m) :
    wp (routeSample env topic sample deliveries client)
      (Ends env (Move.Carries entity sample) Never origin) m := by
  obtain ⟨owner, client⟩ := client
  unfold routeSample
  refine (reads_dueNow client _).wp_bind reach (fun _ => trivial) (fun _ _ _ reach => reach)
    fun due m₁ _ _ reach => ?_
  rw [wp_ite]
  split
  · refine (reads_instant env).wp_bind reach (fun _ => trivial) (fun _ _ _ reach => reach)
      fun now m₂ _ _ reach => ?_
    exact Move.change (.sampled topic owner fun client => { client with last := some now })
      reach trivial rfl (fun _ => rfl) rfl
  · rw [wp_ite]
    split
    · exact Move.change (.sampled topic owner fun target =>
        { target with pending := makeRoom client.options.queue target.pending ++ [sample] })
        reach trivial rfl (fun _ => rfl) rfl
    · exact reach

theorem shareSample_ends (subscription : Subscription)
    (reach : Follows (Transition env) (Move.Carries entity sample) origin m) :
    wp (shareSample env topic subscription sample)
      (Ends env (Move.Carries entity sample) Never origin) m := by
  unfold shareSample
  refine Ends.bind ?_ fun _ m₁ reach => ?_
  · rw [wp_whenever]
    split
    · exact Move.change (.retained topic sample) reach rfl rfl trivial rfl
    · exact reach
  refine (reads_visit env _).wp_bind reach (fun _ => trivial) (fun _ _ _ reach => reach)
    fun clients m₂ _ _ reach => ?_
  refine Ends.bind ?_ fun deliveries after reach =>
    Returns.ends (deliverAll_returns deliveries reach fun _ _ => trivial)
  exact foldEach_ends reach fun entry _ deliveries _ reach =>
    routeSample_ends deliveries entry reach

theorem feedGoal_ends {key : String} {goal : ClientGoal}
    (found : m.bridge.goals.lookup key = some goal) (fed : goal.feedbackSub = entity)
    (reach : Follows (Transition env) (Move.Carries entity sample) origin m) :
    wp (feedGoal env goal sample) (Ends env (Move.Carries entity sample) Never origin) m := by
  unfold feedGoal
  rw [wp_ite]
  split
  · next wanted =>
      refine wp_bind_lift (fun _ _ => reach) fun own ownKey => ?_
      refine wp_bind_lift (fun _ _ => reach) fun other otherKey => ?_
      rw [wp_whenever]
      split
      · next same =>
          refine wp_send env fun after sent => ?_
          obtain ⟨next, failed, tables⟩ := sent.tables
          have own_eq : own = other := of_decide_eq_true same
          exact Move.speak (.goalFed key goal sample) reach ⟨fed, rfl⟩ sent
            ⟨by rw [tables]; exact found, wanted, own, ownKey, own_eq ▸ otherKey⟩ rfl rfl
      · exact reach
  · exact reach

theorem topicMessage_ends (reach : Follows (Transition env) (Move.Carries entity sample) origin m) :
    wp (topicMessage env entity sample) (Ends env (Move.Carries entity sample) Never origin) m := by
  unfold topicMessage
  refine wp_bind_tables ?_
  refine (reads_visit env _).wp_bind reach (fun _ => trivial) (fun _ _ _ reach => reach)
    fun goals m₁ visited same reach => ?_
  cases fed : goals.find? fun entry => entry.2.feedbackSub == entity with
  | some entry =>
      obtain ⟨key, goal⟩ := entry
      have found : m₁.bridge.goals.lookup key = some goal := by
        rw [same]
        exact ((mem_visit env visited).1 key goal).mp (List.mem_of_find?_eq_some fed)
      exact feedGoal_ends found (by simpa using List.find?_some fed) reach
  | none =>
      refine wp_bind_tables ?_
      refine (reads_visit env _).wp_bind reach (fun _ => trivial) (fun _ _ _ reach => reach)
        fun subscriptions m₂ _ _ reach => ?_
      cases subscriptions.find? fun entry => entry.2.entity == entity with
      | none => exact reach
      | some entry => exact shareSample_ends entry.2 reach

end Samples

end Rosbridge
