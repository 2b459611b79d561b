import Rosbridge.Refine.Tick

/-!
The timed work of a bridge and how a tick settles it.

Owns: `Duty`, one piece of timed work; the duties a bridge has and those due at a time;
and that the timed part of a tick settles exactly the duties that are due.
-/

set_option autoImplicit false

namespace Rosbridge

open Foundation Program

/-! ### Duties -/

/-- One piece of timed work: a call or a native request to give up, a goal that must be
accepted, a sample to deliver. -/
inductive Duty where
  | call (key : Entity × Int)
  | request (id : String)
  | goal (key : String)
  | sample (topic : String) (owner : Connection) (sample : RosMessage)

def ClientSubscription.duties (topic : String) (owner : Connection)
    (client : ClientSubscription) : Multiset Duty :=
  ↑(client.pending.map (Duty.sample topic owner))

def Subscription.duties (topic : String) (subscription : Subscription) : Multiset Duty :=
  subscription.clients.total (ClientSubscription.duties topic)

def Bridge.duties (b : Bridge) : Multiset Duty :=
  b.calls.total (fun key _ => {.call key}) + b.external.total (fun id _ => {.request id}) +
    b.goals.total (fun key goal => if goal.accepted then 0 else {.goal key}) +
    b.subscriptions.total Subscription.duties

/-- The oldest sample is due once the throttle has passed. -/
def ClientSubscription.due (now : Instant) (topic : String) (owner : Connection)
    (client : ClientSubscription) : Multiset Duty :=
  if client.last.all fun last => Instant.since now last ≥ client.options.throttle then
    ↑((client.pending.take 1).map (Duty.sample topic owner))
  else 0

def Subscription.due (now : Instant) (topic : String) (subscription : Subscription) :
    Multiset Duty :=
  subscription.clients.total (ClientSubscription.due now topic)

section Due

variable (b : Bridge) (now : Instant)

def Bridge.dueCalls : Multiset Duty :=
  b.calls.total fun key call => if call.expires ≤ now then {.call key} else 0

def Bridge.dueRequests : Multiset Duty :=
  b.external.total fun id request => if request.expires ≤ now then {.request id} else 0

def Bridge.dueGoals : Multiset Duty :=
  b.goals.total fun key goal =>
    if !goal.accepted && goal.acceptanceDeadline ≤ now then {.goal key} else 0

def Bridge.dueSamples : Multiset Duty := b.subscriptions.total (Subscription.due now)

/-- The duties that are due. -/
def Bridge.due : Multiset Duty :=
  b.dueCalls now + b.dueRequests now + b.dueGoals now + b.dueSamples now

end Due

/-! ### Loops that settle -/

section Loops

variable {σ ε α β : Type}

theorem forEach_eq_foldEach (items : List α) (body : α → Program σ ε Unit) :
    forEach items body = foldEach items () fun _ => body := by
  induction items with
  | nil => rfl
  | cons head tail inductionHypothesis =>
      rw [forEach, inductionHypothesis]
      rfl

theorem sum_map_filter (chosen : α → Bool) (weight : α → Multiset β) (items : List α) :
    ((items.filter chosen).map weight).sum =
      (items.map fun item => if chosen item then weight item else 0).sum := by
  induction items with
  | nil => rfl
  | cons item rest inductionHypothesis =>
      cases picked : chosen item <;> simp [picked, inductionHypothesis]

variable {env : Environment} {m : Machine} {κ ν : Type} [DecidableEq κ]

/-- Visit the entries of a table that pass a test, and settle what each stands for. -/
theorem wp_settle_chosen (table : Bridge → Table κ ν) (chosen : ν → Bool)
    (body : κ × ν → Step Unit) (weight : κ → Multiset Duty) (invariant : Machine → Prop)
    (start : ∀ after, after.bridge = m.bridge → m.log <+: after.log → invariant after)
    (iterate : ∀ entry before, invariant before →
      (table before.bridge).lookup entry.1 = some entry.2 → chosen entry.2 = true →
      wp (body entry) (fun outcome after =>
        outcome = .ok () ∧ invariant after ∧
          after.bridge.duties + weight entry.1 = before.bridge.duties ∧
          ∀ other, other ≠ entry.1 →
            (table after.bridge).lookup other = (table before.bridge).lookup other) before) :
    wp (do
      let items ← visit env (table m.bridge)
      forEach (items.filter fun entry => chosen entry.2) body)
      (fun outcome after =>
        outcome = .ok () ∧ invariant after ∧
          after.bridge.duties +
            (table m.bridge).total (fun key value => if chosen value then weight key else 0) =
              m.bridge.duties) m := by
  have looked : Follows (Transition env) Move.Reading m m := .refl m
  refine wp_bind_visit env looked (fun _ => trivial) fun items m₁ listed distinct same reach => ?_
  rw [forEach_eq_foldEach]
  refine wp_mono (wp_settle (fun machine => table machine.bridge) invariant
    (fun machine => machine.bridge.duties) (fun entry => weight entry.1)
    (items.filter fun entry => chosen entry.2) ()
    (distinct.sublist (List.filter_sublist.map _)) ?_ (start m₁ same (reach_log_grows reach)) ?_) ?_
  · rintro ⟨key, value⟩ member
    rw [same]
    exact (listed key value).mp (List.mem_of_mem_filter member)
  · rintro entry member value before held found
    refine wp_mono (iterate entry before held found (List.mem_filter.mp member).2) ?_
    rintro outcome after ⟨rfl, round⟩
    exact ⟨⟨(), rfl⟩, round⟩
  · rintro outcome after ⟨⟨value, rfl⟩, held, settled, -⟩
    refine ⟨rfl, held, ?_⟩
    rw [sum_map_filter, same] at settled
    rw [← settled, ← AList.total_of_listed _ distinct listed]

end Loops

/-! ### The phases of a tick -/

section Phases

variable {env : Environment} {m : Machine} {now : Instant}

theorem expireGoals_settles :
    wp (expireGoals env now)
      (fun outcome after =>
        outcome = .ok () ∧
          (after.bridge.calls = m.bridge.calls ∧ after.bridge.external = m.bridge.external ∧
            after.bridge.subscriptions = m.bridge.subscriptions ∧ m.log <+: after.log) ∧
          after.bridge.duties + m.bridge.dueGoals now = m.bridge.duties) m := by
  unfold expireGoals
  refine wp_bind_tables ?_
  refine wp_settle_chosen Bridge.goals
    (fun goal => !goal.accepted && goal.acceptanceDeadline ≤ now) _ (fun key => {.goal key})
    (fun after => after.bridge.calls = m.bridge.calls ∧ after.bridge.external = m.bridge.external ∧
      after.bridge.subscriptions = m.bridge.subscriptions ∧ m.log <+: after.log)
    (fun after same grown => by rw [same]; exact ⟨rfl, rfl, rfl, grown⟩) ?_
  rintro entry before ⟨calls, external, subscriptions, grown⟩ found late
  have unaccepted : entry.2.accepted = false := by
    rw [Bool.and_eq_true, Bool.not_eq_true'] at late
    exact late.1
  refine wp_mono finishGoal_spec ?_
  rintro outcome after ⟨rfl, ⟨absent, -⟩ | ⟨goal, found', taken⟩⟩
  · rw [found] at absent
    cases absent
  cases found.symm.trans found'
  obtain ⟨next, failed, tables⟩ := taken.bridge
  refine ⟨rfl, ⟨?_, ?_, ?_, grown.trans taken.log_grows⟩, ?_, fun other apart => ?_⟩
  · rw [tables]
    exact calls
  · rw [tables]
    exact external
  · rw [tables]
    exact subscriptions
  · rw [tables]
    simp only [Bridge.duties, Move.effect, AList.total_erase _ found, unaccepted,
      Bool.false_eq_true, if_false]
    abel
  · rw [tables]
    exact AList.lookup_erase_ne apart

theorem expireCalls_settles (noted : .instant now ∈ m.log) :
    wp (expireCalls env now)
      (fun outcome after =>
        outcome = .ok () ∧ after.bridge.external = m.bridge.external ∧
          after.bridge.duties + m.bridge.dueCalls now = m.bridge.duties) m := by
  unfold expireCalls
  refine wp_bind_tables ?_
  refine wp_mono (wp_settle_chosen Bridge.calls (fun call => decide (call.expires ≤ now))
    (expireCall env) (fun key => {.call key})
    (fun after => after.bridge.external = m.bridge.external ∧ m.log <+: after.log)
    (fun after same grown => by rw [same]; exact ⟨rfl, grown⟩) ?_) ?_
  · rintro entry before ⟨external, grown⟩ found due
    refine wp_mono (expireCall_spec found (of_decide_eq_true due) (grown.subset noted)) ?_
    rintro outcome after ⟨rfl, taken⟩
    obtain ⟨next, failed, tables⟩ := taken.bridge
    refine ⟨rfl, ⟨?_, grown.trans taken.log_grows⟩, ?_, fun other apart => ?_⟩
    · rw [tables]
      exact external
    · rw [tables]
      simp only [Bridge.duties, Move.effect, AList.total_erase _ found]
      abel
    · rw [tables]
      exact AList.lookup_erase_ne apart
  · rintro outcome after ⟨rfl, ⟨external, -⟩, settled⟩
    simp only [decide_eq_true_eq] at settled
    exact ⟨rfl, external, settled⟩

theorem expireExternal_settles :
    wp (expireExternal env now)
      (fun outcome after =>
        outcome = .ok () ∧ after.bridge.duties + m.bridge.dueRequests now = m.bridge.duties)
      m := by
  unfold expireExternal
  refine wp_bind_tables ?_
  refine wp_mono (wp_settle_chosen Bridge.external
    (fun request => decide (request.expires ≤ now)) expireRequest (fun id => {.request id})
    (fun _ => True) (fun _ _ _ => trivial) ?_) ?_
  · rintro entry before - found due
    refine wp_mono (expireRequest_spec env found) ?_
    rintro outcome after ⟨rfl, taken⟩
    obtain ⟨next, failed, tables⟩ := taken.bridge
    refine ⟨rfl, trivial, ?_, fun other apart => ?_⟩
    · rw [tables]
      simp only [Bridge.duties, Move.effect, AList.total_erase _ found]
      abel
    · rw [tables]
      exact AList.lookup_erase_ne apart
  · rintro outcome after ⟨rfl, -, settled⟩
    simp only [decide_eq_true_eq] at settled
    exact ⟨rfl, settled⟩

/-- The tables that the delivery of samples leaves alone. -/
def Bridge.undelivered (b : Bridge) :
    Table (Entity × Int) Call × Table String ExternalRequest × Table String ClientGoal :=
  (b.calls, b.external, b.goals)

theorem Bridge.duties_of_undelivered (b : Bridge) : b.duties =
    b.undelivered.1.total (fun key _ => {.call key}) +
      b.undelivered.2.1.total (fun id _ => {.request id}) +
      b.undelivered.2.2.total (fun key goal => if goal.accepted then 0 else {.goal key}) +
      b.subscriptions.total Subscription.duties := rfl

/-- The clients of a topic. -/
def Bridge.clientsOf (topic : String) (b : Bridge) : Table Connection ClientSubscription :=
  ((b.subscriptions.lookup topic).map Subscription.clients).getD ∅

theorem duties_pop {topic : String} {subscription : Subscription}
    (found : m.bridge.subscriptions.lookup topic = some subscription) {owner : Connection}
    {client : ClientSubscription} (listed : subscription.clients.lookup owner = some client)
    {sample : RosMessage} {rest : List RosMessage} (queued : client.pending = sample :: rest) :
    (m.bridge.alterClient topic owner fun client =>
      { client with pending := rest, last := some now }).duties +
        ↑(((sample :: rest).take 1).map (Duty.sample topic owner)) = m.bridge.duties := by
  simp only [Bridge.duties, Bridge.alterClient, AList.total_alter_some _ found,
    AList.total_erase _ found, Subscription.duties, AList.total_alter_some _ listed,
    AList.total_erase _ listed, ClientSubscription.duties, queued, List.take_succ_cons,
    List.take_zero, List.map_cons, List.map_nil, ← Multiset.cons_coe,
    ← Multiset.singleton_add, Multiset.coe_nil]
  abel

/-- One client's oldest sample is taken if it is due. -/
theorem popPending_settles {topic : String} {subscription : Subscription}
    (found : m.bridge.subscriptions.lookup topic = some subscription) {owner : Connection}
    {client : ClientSubscription} (listed : subscription.clients.lookup owner = some client)
    (deliveries : List Delivery) :
    wp (popPending now topic deliveries (owner, client))
      (fun outcome after =>
        (∃ next, outcome = .ok next) ∧ m.log <+: after.log ∧
          after.bridge.undelivered = m.bridge.undelivered ∧
          (∃ changed, after.bridge.subscriptions.lookup topic = some changed ∧
            ∀ other, other ≠ owner →
              changed.clients.lookup other = subscription.clients.lookup other) ∧
          (∀ other, other ≠ topic →
            after.bridge.subscriptions.lookup other = m.bridge.subscriptions.lookup other) ∧
          after.bridge.duties + client.due now topic owner = m.bridge.duties) m := by
  unfold popPending ClientSubscription.due
  dsimp only
  cases passed : client.last.all fun last =>
    decide (Instant.since now last ≥ client.options.throttle) with
  | false =>
      exact ⟨⟨deliveries, rfl⟩, List.prefix_rfl, rfl, ⟨subscription, found, fun _ _ => rfl⟩,
        fun _ _ => rfl, add_zero _⟩
  | true =>
      cases queued : client.pending with
      | nil =>
          exact ⟨⟨deliveries, rfl⟩, List.prefix_rfl, rfl, ⟨subscription, found, fun _ _ => rfl⟩,
            fun _ _ => rfl, add_zero _⟩
      | cons sample rest =>
          let take (client : ClientSubscription) : ClientSubscription :=
            { client with pending := rest, last := some now }
          refine ⟨⟨_, rfl⟩, List.prefix_rfl, rfl,
            ⟨{ subscription with clients := subscription.clients.alter owner take }, ?_,
              fun other apart => ?_⟩, fun other apart => ?_, ?_⟩
          · show AList.lookup topic (m.bridge.subscriptions.alter topic _) = _
            rw [AList.lookup_alter, if_pos rfl, found]
            rfl
          · show AList.lookup other (subscription.clients.alter owner _) = _
            rw [AList.lookup_alter, if_neg apart]
          · show AList.lookup other (m.bridge.subscriptions.alter topic _) = _
            rw [AList.lookup_alter, if_neg apart]
          · exact duties_pop found listed queued

theorem popTopic_settles {topic : String} {subscription : Subscription}
    (found : m.bridge.subscriptions.lookup topic = some subscription)
    (deliveries : List Delivery) :
    wp (popTopic env now deliveries (topic, subscription))
      (fun outcome after =>
        (∃ next, outcome = .ok next) ∧
          (m.log <+: after.log ∧ after.bridge.undelivered = m.bridge.undelivered) ∧
          after.bridge.duties + subscription.due now topic = m.bridge.duties ∧
          ∀ other, other ≠ topic →
            after.bridge.subscriptions.lookup other = m.bridge.subscriptions.lookup other) m := by
  unfold popTopic
  have looked : Follows (Transition env) Move.Reading m m := .refl m
  refine wp_bind_visit env looked (fun _ => trivial) fun clients m₁ listed distinct same reach => ?_
  have clientsEq : m₁.bridge.clientsOf topic = subscription.clients := by
    unfold Bridge.clientsOf
    rw [same, found]
    rfl
  refine wp_mono (wp_settle (fun machine => machine.bridge.clientsOf topic)
    (fun after => m.log <+: after.log ∧ after.bridge.undelivered = m.bridge.undelivered ∧
      (∃ current, after.bridge.subscriptions.lookup topic = some current) ∧
      ∀ other, other ≠ topic →
        after.bridge.subscriptions.lookup other = m.bridge.subscriptions.lookup other)
    (fun machine => machine.bridge.duties) (fun entry => entry.2.due now topic entry.1)
    clients deliveries distinct ?_ ?_ ?_) ?_
  · rintro ⟨owner, client⟩ member
    rw [clientsEq]
    exact (listed owner client).mp member
  · rw [same]
    exact ⟨reach_log_grows reach, rfl, ⟨subscription, found⟩, fun _ _ => rfl⟩
  · rintro ⟨owner, client⟩ member taken before ⟨grown, kept, ⟨current, here⟩, others⟩ known
    have inside : current.clients.lookup owner = some client := by
      unfold Bridge.clientsOf at known
      rwa [here] at known
    refine wp_mono (popPending_settles here inside taken) ?_
    rintro outcome after ⟨returned, grown', kept', ⟨changed, there, rest⟩, others', settled⟩
    refine ⟨returned, ⟨grown.trans grown', kept'.trans kept, ⟨changed, there⟩,
      fun other apart => (others' other apart).trans (others other apart)⟩, settled,
      fun other apart => ?_⟩
    unfold Bridge.clientsOf
    rw [here, there]
    exact rest other apart
  · rintro outcome after ⟨returned, ⟨grown, kept, -, others⟩, settled, -⟩
    refine ⟨returned, ⟨grown, kept⟩, ?_, others⟩
    rw [same] at settled
    rw [← settled]
    exact congrArg (after.bridge.duties + ·)
      (AList.total_of_listed (ClientSubscription.due now topic) distinct listed).symm

/-- Messages keep the tables that timed work is in. -/
theorem tables_of_told {origin : Machine}
    (reach : Follows (Transition env) (fun move => ∃ message, move = .told message) origin m) :
    m.bridge.undelivered = origin.bridge.undelivered ∧
      m.bridge.subscriptions = origin.bridge.subscriptions := by
  constructor
  · refine Follows.keeps Bridge.undelivered (fun _ _ _ => rfl) ?_ reach
    rintro move ⟨message, rfl⟩ b
    rfl
  · refine Follows.keeps Bridge.subscriptions (fun _ _ _ => rfl) ?_ reach
    rintro move ⟨message, rfl⟩ b
    rfl

theorem deliverPending_settles :
    wp (deliverPending env now)
      (fun outcome after =>
        outcome = .ok () ∧
          (m.log <+: after.log ∧ after.bridge.undelivered = m.bridge.undelivered) ∧
          after.bridge.duties + m.bridge.dueSamples now = m.bridge.duties) m := by
  unfold deliverPending
  refine wp_bind_tables ?_
  have looked : Follows (Transition env) Move.Reading m m := .refl m
  refine wp_bind_visit env looked (fun _ => trivial) fun topics m₁ listed distinct same reach => ?_
  refine wp_bind_of (wp_settle (fun machine => machine.bridge.subscriptions)
    (fun after => m.log <+: after.log ∧ after.bridge.undelivered = m.bridge.undelivered)
    (fun machine => machine.bridge.duties) (fun entry => entry.2.due now entry.1)
    topics [] distinct ?_ ?_ ?_) ?_ ?_ ?_
  · rintro ⟨topic, subscription⟩ member
    rw [same]
    exact (listed topic subscription).mp member
  · rw [same]
    exact ⟨reach_log_grows reach, rfl⟩
  · rintro ⟨topic, subscription⟩ member taken before ⟨grown, kept⟩ known
    refine wp_mono (popTopic_settles known taken) ?_
    rintro outcome after ⟨returned, ⟨grown', kept'⟩, settled, others⟩
    exact ⟨returned, ⟨grown.trans grown', kept'.trans kept⟩, settled, others⟩
  · rintro deliveries m₂ ⟨-, ⟨grown, kept⟩, settled, -⟩
    have start : Follows (Transition env) (fun move => ∃ message, move = .told message) m₂ m₂ :=
      .refl m₂
    refine wp_mono (deliverAll_returns deliveries start fun message _ => ⟨message, rfl⟩) ?_
    rintro (value | cause | site) after told
    · obtain ⟨kept', samples⟩ := tables_of_told told
      refine ⟨rfl, ⟨grown.trans (reach_log_grows told), kept'.trans kept⟩, ?_⟩
      have unchanged : after.bridge.duties = m₂.bridge.duties := by
        rw [Bridge.duties_of_undelivered, kept', samples]
        rfl
      rw [same] at settled
      rw [unchanged, ← settled]
      exact congrArg (m₂.bridge.duties + ·)
        (AList.total_of_listed (Subscription.due now) distinct listed).symm
    · exact told.elim
    · exact told.elim
  · rintro cause after ⟨⟨value, ⟨⟩⟩, -⟩
  · rintro site after ⟨⟨value, ⟨⟩⟩, -⟩

/-- The timed part of a tick. -/
def settleDue (env : Environment) (now : Instant) : Step Unit := do
  expireGoals env now
  deliverPending env now
  expireCalls env now
  expireExternal env now

/-- What is due is settled, and nothing else. -/
theorem settleDue_spec (noted : .instant now ∈ m.log) :
    wp (settleDue env now)
      (fun outcome after =>
        outcome = .ok () ∧ after.bridge.duties + m.bridge.due now = m.bridge.duties) m := by
  unfold settleDue
  refine wp_bind_returns expireGoals_settles fun m₁ spec₁ => ?_
  obtain ⟨⟨calls₁, external₁, subscriptions₁, grown₁⟩, goals⟩ := spec₁
  refine wp_bind_returns deliverPending_settles fun m₂ spec₂ => ?_
  obtain ⟨⟨grown₂, kept⟩, samples⟩ := spec₂
  simp only [Bridge.undelivered, Prod.mk.injEq] at kept
  obtain ⟨calls₂, external₂, -⟩ := kept
  refine wp_bind_returns (expireCalls_settles ((grown₁.trans grown₂).subset noted))
    fun m₃ spec₃ => ?_
  obtain ⟨external₃, calls⟩ := spec₃
  refine wp_mono expireExternal_settles ?_
  rintro outcome after ⟨rfl, requests⟩
  have samplesEq : m₁.bridge.dueSamples now = m.bridge.dueSamples now := by
    rw [Bridge.dueSamples, subscriptions₁]
    rfl
  have callsEq : m₂.bridge.dueCalls now = m.bridge.dueCalls now := by
    rw [Bridge.dueCalls, calls₂, calls₁]
    rfl
  have requestsEq : m₃.bridge.dueRequests now = m.bridge.dueRequests now := by
    rw [Bridge.dueRequests, external₃, external₂, external₁]
    rfl
  refine ⟨rfl, ?_⟩
  rw [← goals, ← samples, ← calls, ← requests, samplesEq, callsEq, requestsEq]
  unfold Bridge.due
  abel

end Phases

end Rosbridge
