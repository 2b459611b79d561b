import Rosbridge.Foundation.Sweep
import Rosbridge.Protocol.Ownership
import Rosbridge.Refine.Events

/-!
Disconnecting a connection.

Owns: that each release of `disconnect` clears its table of the connection, and
that `disconnect` as a whole only releases and always returns.
-/

set_option autoImplicit false

namespace Rosbridge

open Foundation Program

variable {env : Environment} {owner : Connection} {m origin : Machine}

/-- Visit the entries of a table that pass a test, and change each so that it fails
the test. -/
theorem wp_clear {κ ν : Type} [DecidableEq κ] {passes : Move → Prop}
    (table : Bridge → Table κ ν) (chosen : ν → Bool) (body : κ × ν → Step Unit)
    (reach : Follows (Transition env) passes origin m)
    (observes : ∀ entries, passes (.observed entries))
    (iterate : ∀ entry before, Follows (Transition env) passes origin before →
      (table before.bridge).lookup entry.1 = some entry.2 → chosen entry.2 = true →
      wp (body entry) (fun outcome after =>
        outcome = .ok () ∧ Follows (Transition env) passes origin after ∧
          (∀ value, (table after.bridge).lookup entry.1 = some value → chosen value = false) ∧
          ∀ other, other ≠ entry.1 →
            (table after.bridge).lookup other = (table before.bridge).lookup other) before) :
    wp (do
      let items ← visit env (table m.bridge)
      forEach (items.filter fun entry => chosen entry.2) body)
      (fun outcome after =>
        outcome = .ok () ∧ Follows (Transition env) passes origin after ∧
          ∀ key value, (table after.bridge).lookup key = some value → chosen value = false) m := by
  refine wp_bind_visit env reach observes fun items m₁ listed distinct same reach₁ => ?_
  refine wp_sweep (fun machine => table machine.bridge)
    (Follows (Transition env) passes origin)
    (fun left => ∀ value, left = some value → chosen value = false)
    (items.filter fun entry => chosen entry.2)
    (distinct.sublist (List.filter_sublist.map _)) ?_ reach₁ ?_ ?_
  · rintro ⟨key, value⟩ member
    rw [same]
    exact (listed key value).mp (List.mem_of_mem_filter member)
  · rintro entry member before reach found
    refine wp_mono (iterate entry before reach found (List.mem_filter.mp member).2) ?_
    rintro outcome after ⟨rfl, round⟩
    exact round
  · refine fun after reach cleared kept => ⟨rfl, reach, fun key value found => ?_⟩
    by_cases visited : key ∈ (items.filter fun entry => chosen entry.2).map Prod.fst
    · obtain ⟨entry, member, rfl⟩ := List.mem_map.mp visited
      exact cleared entry member value found
    · -- A chosen entry that is left over would have been visited.
      rw [kept key visited, same] at found
      have inItems := (listed key value).mpr found
      by_contra isChosen
      rw [Bool.not_eq_false] at isChosen
      exact visited (List.mem_map.mpr ⟨(key, value), List.mem_filter.mpr ⟨inItems, isChosen⟩, rfl⟩)

/-! ### The single releases -/

theorem releaseServices_spec :
    wp (releaseServices env owner)
      (fun outcome after =>
        outcome = .ok () ∧ Follows (Transition env) (Move.ReleasesService owner) m after ∧
          ∀ name service, after.bridge.services.lookup name = some service →
            service.owner ≠ owner) m := by
  unfold releaseServices
  refine wp_bind_tables ?_
  have start : Follows (Transition env) (Move.ReleasesService owner) m m := .refl m
  refine wp_mono (wp_clear Bridge.services (fun service => decide (service.owner = owner)) _
    start (fun _ => trivial) ?_) ?_
  · intro entry before reach found owned
    refine wp_attempt_drop (wp_mono (removeService_spec env) ?_)
    rintro (value | cause | site) after spec
    · obtain ⟨current, -, own, taken⟩ := spec
      obtain ⟨next, failed, tables⟩ := taken.bridge
      refine ⟨rfl, reach.trans (.single taken own), fun value left => ?_, fun other apart => ?_⟩
      · rw [tables, Move.effect, AList.lookup_erase] at left
        cases left
      · rw [tables]
        exact AList.lookup_erase_ne apart
    · exact absurd (of_decide_eq_true owned) (spec.2 _ found)
    · exact spec.elim
  · rintro outcome after ⟨rfl, reach, cleared⟩
    exact ⟨rfl, reach, fun name service found => of_decide_eq_false (cleared name service found)⟩

theorem releaseActions_spec :
    wp (releaseActions env owner)
      (fun outcome after =>
        outcome = .ok () ∧ Follows (Transition env) (Move.ReleasesAction owner) m after ∧
          ∀ action server, after.bridge.actionServers.lookup action = some server →
            server.owner ≠ owner) m := by
  unfold releaseActions
  refine wp_bind_tables ?_
  have start : Follows (Transition env) (Move.ReleasesAction owner) m m := .refl m
  refine wp_mono (wp_clear Bridge.actionServers (fun server => decide (server.owner = owner)) _
    start (fun _ => trivial) ?_) ?_
  · intro entry before reach found owned
    refine wp_attempt_drop (wp_mono removeAction_spec ?_)
    rintro (value | cause | site) after spec
    · obtain ⟨server, -, own, removes⟩ := spec
      refine ⟨rfl, reach.trans (removes.follows (fun _ => trivial) fun _ _ => own), ?_, ?_⟩
      all_goals
        obtain ⟨middle, closed, replies, -, same, taken⟩ := removes
        obtain ⟨next, failed, tables⟩ := taken.bridge
        rw [tables, same]
      · intro value left
        rw [Move.effect, AList.lookup_erase] at left
        cases left
      · exact fun other apart => AList.lookup_erase_ne apart
    · exact absurd (of_decide_eq_true owned) (spec.2 _ found)
    · exact spec.elim
  · rintro outcome after ⟨rfl, reach, cleared⟩
    exact ⟨rfl, reach, fun action server found =>
      of_decide_eq_false (cleared action server found)⟩

/-- An owner that drops everything is no owner any more. -/
theorem Publisher.not_mem_release (publisher : Publisher) :
    owner ∉ (publisher.release owner none).owners := by
  unfold Publisher.release
  cases found : publisher.owners.lookup owner with
  | none => exact AList.lookup_eq_none.mp found
  | some ids => exact AList.mem_erase.not.mpr fun held => held.1 rfl

theorem Subscription.not_mem_release (subscription : Subscription) :
    owner ∉ (subscription.release owner none).clients := by
  unfold Subscription.release
  cases found : subscription.clients.lookup owner with
  | none => exact AList.lookup_eq_none.mp found
  | some client => exact AList.mem_erase.not.mpr fun held => held.1 rfl

theorem releasePublishers_spec :
    wp (releasePublishers env owner)
      (fun outcome after =>
        outcome = .ok () ∧ Follows (Transition env) (Move.ReleasesPublisher owner) m after ∧
          ∀ topic publisher, after.bridge.publishers.lookup topic = some publisher →
            owner ∉ publisher.owners) m := by
  unfold releasePublishers
  refine wp_bind_tables ?_
  have start : Follows (Transition env) (Move.ReleasesPublisher owner) m m := .refl m
  refine wp_mono (wp_clear Bridge.publishers
    (fun publisher => decide (owner ∈ publisher.owners)) _ start (fun _ => trivial) ?_) ?_
  · intro entry before reach found owned
    refine wp_attempt_drop (wp_mono (unadvertise_spec env) ?_)
    rintro (value | cause | site) after spec
    · obtain ⟨publisher, found', taken | taken⟩ := spec
      · obtain ⟨next, failed, tables⟩ := taken.bridge
        refine ⟨rfl, reach.trans (.single taken rfl), fun value left => ?_, fun other apart => ?_⟩
        · rw [tables, Move.effect, AList.lookup_erase] at left
          cases left
        · rw [tables]
          exact AList.lookup_erase_ne apart
      · obtain ⟨next, failed, tables⟩ := taken.bridge
        refine ⟨rfl, reach.trans (.single taken rfl), fun value left => ?_, fun other apart => ?_⟩
        · rw [tables, Move.effect, AList.lookup_alter, if_pos rfl, found', Option.map_some] at left
          cases left
          exact decide_eq_false publisher.not_mem_release
        · rw [tables, Move.effect, AList.lookup_alter, if_neg apart]
    · have known := spec.2 _ found (of_decide_eq_true owned)
      cases known
    · exact spec.elim
  · rintro outcome after ⟨rfl, reach, cleared⟩
    exact ⟨rfl, reach, fun topic publisher found =>
      of_decide_eq_false (cleared topic publisher found)⟩

theorem releaseSubscriptions_spec :
    wp (releaseSubscriptions env owner)
      (fun outcome after =>
        outcome = .ok () ∧ Follows (Transition env) (Move.ReleasesSubscription owner) m after ∧
          ∀ topic subscription, after.bridge.subscriptions.lookup topic = some subscription →
            owner ∉ subscription.clients) m := by
  unfold releaseSubscriptions
  refine wp_bind_tables ?_
  have start : Follows (Transition env) (Move.ReleasesSubscription owner) m m := .refl m
  refine wp_mono (wp_clear Bridge.subscriptions
    (fun subscription => decide (owner ∈ subscription.clients)) _ start (fun _ => trivial) ?_) ?_
  · intro entry before reach found owned
    refine wp_attempt_drop (wp_mono (unsubscribe_spec env) ?_)
    rintro (value | cause | site) after spec
    · obtain ⟨subscription, found', taken | taken⟩ := spec
      · obtain ⟨next, failed, tables⟩ := taken.bridge
        refine ⟨rfl, reach.trans (.single taken rfl), fun value left => ?_, fun other apart => ?_⟩
        · rw [tables, Move.effect, AList.lookup_erase] at left
          cases left
        · rw [tables]
          exact AList.lookup_erase_ne apart
      · obtain ⟨next, failed, tables⟩ := taken.bridge
        refine ⟨rfl, reach.trans (.single taken rfl), fun value left => ?_, fun other apart => ?_⟩
        · rw [tables, Move.effect, AList.lookup_alter, if_pos rfl, found', Option.map_some] at left
          cases left
          exact decide_eq_false subscription.not_mem_release
        · rw [tables, Move.effect, AList.lookup_alter, if_neg apart]
    · have known := spec.2 _ found (of_decide_eq_true owned)
      cases known
    · exact spec.elim
  · rintro outcome after ⟨rfl, reach, cleared⟩
    exact ⟨rfl, reach, fun topic subscription found =>
      of_decide_eq_false (cleared topic subscription found)⟩

theorem cancelAbandoned_spec (owner : Connection) {key : String} {goal : ClientGoal}
    (found : m.bridge.goals.lookup key = some goal) :
    wp (cancelAbandoned env key)
      (fun outcome after =>
        outcome = .ok () ∧ Follows (Transition env) (Move.ReleasesGoal owner) m after ∧
          after.bridge = m.bridge) m := by
  unfold cancelAbandoned
  refine wp_bind_tables ?_
  have start : Follows (Transition env) (Move.ReleasesGoal owner) m m := .refl m
  rw [found]
  simp only [wp_ite]
  split
  · refine wp_attempt_drop (wp_call_last (fun cause _ => ?_) fun sequence _ => ?_)
    · exact ⟨rfl, Move.use start trivial (.cancel found), rfl⟩
    · exact ⟨rfl, Move.use start trivial (.cancel found), rfl⟩
  · exact ⟨rfl, start, rfl⟩

theorem releaseGoals_spec :
    wp (releaseGoals env owner)
      (fun outcome after =>
        outcome = .ok () ∧ Follows (Transition env) (Move.ReleasesGoal owner) m after ∧
          ∀ key goal, after.bridge.goals.lookup key = some goal → goal.owner ≠ owner) m := by
  unfold releaseGoals
  refine wp_bind_tables ?_
  have start : Follows (Transition env) (Move.ReleasesGoal owner) m m := .refl m
  refine wp_mono (wp_clear Bridge.goals (fun goal => decide (goal.owner = owner)) _
    start (fun _ => trivial) ?_) ?_
  · intro entry before reach found owned
    have own : entry.2.owner = owner := of_decide_eq_true owned
    refine wp_bind_returns (cancelAbandoned_spec owner found) ?_
    rintro middle ⟨asked, same⟩
    refine wp_mono finishGoal_spec ?_
    rintro outcome after ⟨rfl, ⟨absent, -⟩ | ⟨goal, found', taken⟩⟩
    · rw [same, found] at absent
      cases absent
    · rw [same, found] at found'
      cases found'
      obtain ⟨next, failed, tables⟩ := taken.bridge
      refine ⟨rfl, (reach.trans asked).trans (.single taken own),
        fun value left => ?_, fun other apart => ?_⟩
      · rw [tables, Move.effect, AList.lookup_erase] at left
        cases left
      · rw [tables, same]
        exact AList.lookup_erase_ne apart
  · rintro outcome after ⟨rfl, reach, cleared⟩
    exact ⟨rfl, reach, fun key goal found => of_decide_eq_false (cleared key goal found)⟩

theorem releaseCalls_spec (absent : owner ∉ m.bridge.outputs) :
    wp (releaseCalls env owner)
      (fun outcome after =>
        outcome = .ok () ∧ Follows (Transition env) (Move.ReleasesCall owner) m after ∧
          ∀ key call, after.bridge.calls.lookup key = some call → call.owner ≠ owner) m := by
  unfold releaseCalls
  refine wp_bind_tables ?_
  have start : Follows (Transition env) (Move.ReleasesCall owner) m m := .refl m
  refine wp_mono (wp_clear Bridge.calls (fun call => decide (call.owner = owner)) _
    start (fun _ => trivial) ?_) ?_
  · intro entry before reach found owned
    have own : entry.2.owner = owner := of_decide_eq_true owned
    have outputs : before.bridge.outputs = m.bridge.outputs := by
      refine Follows.keeps Bridge.outputs (fun _ _ _ => rfl) (fun move pass b => ?_) reach
      cases move <;> first | rfl | exact pass.elim
    have taken : Transition env (.abandoned entry.1 entry.2) before _ :=
      Move.transition (.abandoned entry.1 entry.2) rfl ⟨found, by rwa [own, outputs]⟩
    refine wp_bind_update ⟨rfl, reach.trans (.single taken own), fun value left => ?_,
      fun other apart => AList.lookup_erase_ne apart⟩
    have gone := (AList.lookup_erase entry.1 before.bridge.calls).symm.trans left
    cases gone
  · rintro outcome after ⟨rfl, reach, cleared⟩
    exact ⟨rfl, reach, fun key call found => of_decide_eq_false (cleared key call found)⟩

/-! ### Disconnecting -/

/-- A message to a connection without a queue marks nobody as failed. -/
theorem Sent.keeps_failed {message : Option Message} {before after : Machine}
    (absent : ∀ sent ∈ message, sent.owner ∉ before.bridge.outputs)
    (sent : Sent message before after) : after.bridge.failed = before.bridge.failed := by
  cases sent with
  | silent => rfl
  | muted _ => rfl
  | unrouted _ => rfl
  | queued _ _ _ _ _ => rfl
  | rejected found _ _ _ _ _ =>
      exact absurd ((AList.mem_iff_lookup _ _).mpr ⟨_, found⟩) (absent _ rfl)

theorem Move.Releasing.message {move : Move} (releasing : move.Releasing owner) :
    ∀ sent ∈ move.message, sent.owner = owner := by
  rcases releasing with pass | pass | pass | pass | pass | pass | rfl
  all_goals try (cases move <;> first | exact pass.elim | simp [Move.message])
  · exact pass
  · simp [Move.message]

theorem Move.Releasing.keeps_outputs {move : Move} (releasing : move.Releasing owner)
    (b : Bridge) : (move.effect b).outputs = b.outputs := by
  rcases releasing with pass | pass | pass | pass | pass | pass | rfl
  all_goals try (cases move <;> first | exact pass.elim | rfl)
  rfl

theorem Move.Releasing.keeps_failed {move : Move} (releasing : move.Releasing owner)
    (b : Bridge) : (move.effect b).failed = b.failed := by
  rcases releasing with pass | pass | pass | pass | pass | pass | rfl
  all_goals try (cases move <;> first | exact pass.elim | rfl)
  rfl

/-- What a gone connection releases marks nobody as failed. -/
theorem releasing_keeps_failed (absent : owner ∉ origin.bridge.outputs)
    (reach : Follows (Transition env) (Move.Releasing owner) origin m) :
    m.bridge.failed = origin.bridge.failed := by
  obtain ⟨labels, run, pass⟩ := reach
  induction run with
  | nil => rfl
  | @cons label labels start middle finish taken rest inductionHypothesis =>
      have releasing := pass label List.mem_cons_self
      have outputs : middle.bridge.outputs = start.bridge.outputs :=
        taken.keeps Bridge.outputs (fun _ _ _ => rfl) releasing.keeps_outputs
      rw [inductionHypothesis (by rwa [outputs])
        fun other member => pass other (List.mem_cons_of_mem _ member)]
      obtain ⟨sentTo, sent, -, rfl⟩ := taken
      rw [← sent.keeps_failed fun message handed => by rwa [releasing.message message handed]]
      exact releasing.keeps_failed _

/-- What disconnecting a connection does. That no goal of its action servers is
left over follows from who the servers belong to. -/
def Dropped (env : Environment) (owner : Connection) (origin after : Machine) : Prop :=
  ∃ gone, Transition env (.left owner) origin gone ∧
    Follows (Transition env) (Move.Releasing owner) gone after ∧
    (∀ action server, after.bridge.actionServers.lookup action = some server →
      server.owner ≠ owner) ∧
    (after.bridge.Mentions owner →
      ∃ key goal, after.bridge.serverGoals.lookup key = some goal ∧ goal.owner = owner)

theorem disconnect_spec :
    wp (disconnect env owner)
      (fun outcome after => outcome = .ok () ∧ Dropped env owner m after) m := by
  unfold disconnect
  refine wp_bind_update ?_
  have left : Transition env (.left owner) m
      { m with bridge := { m.bridge with outputs := m.bridge.outputs.erase owner } } :=
    Move.transition_change (.left owner) rfl trivial rfl
  generalize goneEq : ({ m with bridge := { m.bridge with outputs := m.bridge.outputs.erase owner } } :
    Machine) = gone at left ⊢
  have absent : owner ∉ gone.bridge.outputs := by
    rw [← goneEq]
    exact AList.mem_erase.not.mpr fun held => held.1 rfl
  refine wp_bind_returns releasePublishers_spec fun m₁ spec₁ => ?_
  obtain ⟨reach₁, publishers⟩ := spec₁
  refine wp_bind_returns releaseSubscriptions_spec fun m₂ spec₂ => ?_
  obtain ⟨reach₂, subscriptions⟩ := spec₂
  refine wp_bind_returns releaseServices_spec fun m₃ spec₃ => ?_
  obtain ⟨reach₃, services⟩ := spec₃
  refine wp_bind_returns releaseActions_spec fun m₄ spec₄ => ?_
  obtain ⟨reach₄, actions⟩ := spec₄
  refine wp_bind_returns releaseGoals_spec fun m₅ spec₅ => ?_
  obtain ⟨reach₅, goals⟩ := spec₅
  -- Each release leaves the tables that were cleared before it as they are.
  have kept₂ : m₂.bridge.publishers = m₁.bridge.publishers := by
    refine Follows.keeps Bridge.publishers (fun _ _ _ => rfl) (fun move pass b => ?_) reach₂
    cases move <;> first | rfl | exact pass.elim
  have kept₃ : (m₃.bridge.publishers, m₃.bridge.subscriptions) =
      (m₂.bridge.publishers, m₂.bridge.subscriptions) := by
    refine Follows.keeps (fun b => (b.publishers, b.subscriptions)) (fun _ _ _ => rfl)
      (fun move pass b => ?_) reach₃
    cases move <;> first | rfl | exact pass.elim
  have kept₄ : (m₄.bridge.publishers, m₄.bridge.subscriptions, m₄.bridge.services) =
      (m₃.bridge.publishers, m₃.bridge.subscriptions, m₃.bridge.services) := by
    refine Follows.keeps (fun b => (b.publishers, b.subscriptions, b.services))
      (fun _ _ _ => rfl) (fun move pass b => ?_) reach₄
    cases move <;> first | rfl | exact pass.elim
  have kept₅ : (m₅.bridge.publishers, m₅.bridge.subscriptions, m₅.bridge.services,
      m₅.bridge.actionServers) =
      (m₄.bridge.publishers, m₄.bridge.subscriptions, m₄.bridge.services,
        m₄.bridge.actionServers) := by
    refine Follows.keeps (fun b => (b.publishers, b.subscriptions, b.services, b.actionServers))
      (fun _ _ _ => rfl) (fun move pass b => ?_) reach₅
    cases move <;> first | rfl | exact pass.elim
  have reached₅ : Follows (Transition env) (Move.Releasing owner) gone m₅ :=
    ((((reach₁.mono fun _ => .inl).trans (reach₂.mono fun _ pass => .inr (.inl pass))).trans
      (reach₃.mono fun _ pass => .inr (.inr (.inl pass)))).trans
      (reach₄.mono fun _ pass => .inr (.inr (.inr (.inl pass))))).trans
      (reach₅.mono fun _ pass => .inr (.inr (.inr (.inr (.inl pass)))))
  have outputs : m₅.bridge.outputs = gone.bridge.outputs :=
    Follows.keeps Bridge.outputs (fun _ _ _ => rfl)
      (fun _ releasing => releasing.keeps_outputs) reached₅
  refine wp_bind_returns (releaseCalls_spec (by rwa [outputs])) fun m₆ spec₆ => ?_
  obtain ⟨reach₆, calls⟩ := spec₆
  have kept₆ : (m₆.bridge.publishers, m₆.bridge.subscriptions, m₆.bridge.services,
      m₆.bridge.actionServers, m₆.bridge.goals) =
      (m₅.bridge.publishers, m₅.bridge.subscriptions, m₅.bridge.services,
        m₅.bridge.actionServers, m₅.bridge.goals) := by
    refine Follows.keeps
      (fun b => (b.publishers, b.subscriptions, b.services, b.actionServers, b.goals))
      (fun _ _ _ => rfl) (fun move pass b => ?_) reach₆
    cases move <;> first | rfl | exact pass.elim
  simp only [Prod.mk.injEq] at kept₃ kept₄ kept₅ kept₆
  obtain ⟨samePublishers, sameSubscriptions, sameServices, sameActions, sameGoals⟩ := kept₆
  rw [kept₅.1, kept₄.1, kept₃.1, kept₂] at samePublishers
  rw [kept₅.2.1, kept₄.2.1, kept₃.2] at sameSubscriptions
  rw [kept₅.2.2.1, kept₄.2.2] at sameServices
  rw [kept₅.2.2.2] at sameActions
  have reached₆ := reached₅.trans (reach₆.mono fun _ pass => .inr (.inr (.inr (.inr (.inr (.inl pass))))))
  have unserved : ∀ name service, m₆.bridge.services.lookup name = some service →
      service.owner ≠ owner := by
    rw [sameServices]
    exact services
  have unrun : ∀ action server, m₆.bridge.actionServers.lookup action = some server →
      server.owner ≠ owner := by
    rw [sameActions]
    exact actions
  refine ⟨rfl, gone, left,
    Move.change (.requestsDropped owner) reached₆
      (.inr (.inr (.inr (.inr (.inr (.inr rfl)))))) rfl unserved rfl, unrun, fun mention => ?_⟩
  cases mention with
  | publisher found owns => exact absurd owns (publishers _ _ (samePublishers ▸ found))
  | subscription found owns => exact absurd owns (subscriptions _ _ (sameSubscriptions ▸ found))
  | service found owns => exact absurd owns (unserved _ _ found)
  | call found owns => exact absurd owns (calls _ _ found)
  | @external id request found owns =>
      have kept := (AList.lookup_retain _ _ _).symm.trans found
      exact absurd owns (of_decide_eq_true (Option.filter_eq_some_iff.mp kept).2)
  | goal found owns => exact absurd owns (goals _ _ (sameGoals ▸ found))
  | server found owns => exact absurd owns (unrun _ _ found)
  | serverGoal found owns => exact ⟨_, _, found, owns⟩

end Rosbridge
